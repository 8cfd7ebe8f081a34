set_option autoImplicit false

/-! # Lines of a text -/

namespace Candlestick.Text

/-- A text whose lines end with line feeds, whatever they ended with. -/
def unifyBreaks : List Char → List Char
  | [] => []
  | '\r' :: '\n' :: rest => '\n' :: unifyBreaks rest
  | '\r' :: rest => '\n' :: unifyBreaks rest
  | c :: rest => c :: unifyBreaks rest

/-- Cut at every character that is equal to a given one. -/
def splitAt (mark : Char) : List Char → List (List Char)
  | [] => [[]]
  | c :: rest =>
    if c = mark then [] :: splitAt mark rest
    else match splitAt mark rest with
      | part :: parts => (c :: part) :: parts
      | [] => [[c]]

/-- The lines of a text; after the last line feed there is one more, which is empty. -/
def lines (text : String) : List String := (splitAt '\n' text.toList).map String.ofList

end Candlestick.Text
