import Candlestick.Json.Basic
import Candlestick.Number.Notation
import Candlestick.Text.Quoted

set_option autoImplicit false

/-! # Two texts of a JSON value

`Json.compact` is JSON text on one line without spaces. `Json.display` is the text shown to people
in messages and sent in query strings: `None`, `True` and `False`, texts bare at the top and quoted
inside containers. -/

namespace Candlestick.Json

/-- A text between the double quotes of JSON; controls, the quote and the backslash are escaped. -/
def jsonString (s : String) : String :=
  let body := s.toList.flatMap fun c =>
    if c = '\"' || c = '\\' then ['\\', c]
    else if c = '\n' then ['\\', 'n']
    else if c.toNat < 0x20 then '\\' :: 'u' :: Text.hexDigits 4 c.toNat
    else [c]
  String.ofList ('\"' :: body ++ ['\"'])

/-- Texts between brackets, separated by a given text. -/
def enclosed (opening separator closing : String) (parts : List String) : String :=
  opening ++ separator.intercalate parts ++ closing

mutual

/-- The JSON text of a value, without spaces. -/
def compact : Json → String
  | null => "null"
  | bool b => if b then "true" else "false"
  | int n => toString n
  | double x => x.text
  | str s => jsonString s
  | arr items => enclosed "[" "," "]" (compactItems items)
  | obj members => enclosed "\x7b" "," "\x7d" (compactMembers members)

/-- The JSON texts of an array's items. -/
def compactItems : List Json → List String
  | [] => []
  | item :: rest => compact item :: compactItems rest

/-- The JSON texts of an object's members. -/
def compactMembers : List (String × Json) → List String
  | [] => []
  | (key, value) :: rest => (jsonString key ++ ":" ++ compact value) :: compactMembers rest

end

mutual

/-- The text of a value inside a container. -/
def inner : Json → String
  | null => "None"
  | bool b => if b then "True" else "False"
  | int n => toString n
  | double x => x.text
  | str s => Text.quoted s
  | arr items => enclosed "[" ", " "]" (innerItems items)
  | obj members => enclosed "\x7b" ", " "\x7d" (innerMembers members)

/-- The texts of an array's items. -/
def innerItems : List Json → List String
  | [] => []
  | item :: rest => inner item :: innerItems rest

/-- The texts of an object's members. -/
def innerMembers : List (String × Json) → List String
  | [] => []
  | (key, value) :: rest => (Text.quoted key ++ ": " ++ inner value) :: innerMembers rest

end

/-- The text of a value: a text is itself, everything else is as inside a container. -/
def display : Json → String
  | str s => s
  | value => inner value

end Candlestick.Json
