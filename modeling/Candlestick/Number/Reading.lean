import Candlestick.Number.Double
import Candlestick.Text.Blank
import Candlestick.Text.Digit

set_option autoImplicit false

/-! # How numbers are read

A number in a text is a decimal with an optional sign, fraction and exponent, or the name of an
infinity or of not-a-number in any case. Blanks around it are dropped, the digits may come from any
script, and an underscore may stand between two digits. The value is the nearest binary64 number. -/

namespace Candlestick

namespace Double

/-- The number nearest to `± digits * 10 ^ exponent`. Powers of ten far outside the format's range
    are decided before they are formed. -/
def ofDecimal (negative : Bool) (digits : Nat) (exponent : Int) : Double :=
  if digits = 0 then ofRatio negative 0 1
  else
    let size := ((toString digits).length : Int) + exponent
    if size < -400 then ofRatio negative 0 1
    else if 400 < size then infinity negative
    else if 0 ≤ exponent then ofRatio negative (digits * Nat.pow 10 exponent.toNat) 1
    else ofRatio negative digits (Nat.pow 10 (-exponent).toNat)

end Double

namespace NumberText

/-- The value of a run of ASCII digits after `start`. -/
def digitsValue (start : Nat) (cs : List Char) : Nat :=
  cs.foldl (fun n c => 10 * n + (c.toNat - 48)) start

/-- Cut a run of ASCII digits off the front. -/
def spanDigits (cs : List Char) : List Char × List Char :=
  (cs.takeWhile Char.isDigit, cs.dropWhile Char.isDigit)

/-- Cut a sign off the front: whether it is a minus, and the rest. -/
def spanSign : List Char → Bool × List Char
  | '-' :: rest => (true, rest)
  | '+' :: rest => (false, rest)
  | cs => (false, cs)

/-- Drop the underscores, each of which has to stand between two digits. -/
def dropUnderscores? (afterDigit : Bool) : List Char → Option (List Char)
  | [] => some []
  | '_' :: d :: rest =>
    if afterDigit && d.isDigit then (dropUnderscores? true rest).map (d :: ·) else none
  | ['_'] => none
  | c :: rest => (dropUnderscores? c.isDigit rest).map (c :: ·)

/-- Blanks and digits outside ASCII as their ASCII partners. The information separators of ASCII do
    not count as blanks here. -/
def toAscii (cs : List Char) : List Char :=
  cs.map fun c =>
    if c.toNat < 0x80 then c
    else if Text.isBlank c then ' '
    else match Text.digitValue? c with
      | some value => Text.asciiDigit value
      | none => c

/-- An exponent after the digits of a decimal; the text must end with it. -/
def exponent? : List Char → Option Int
  | [] => some 0
  | e :: rest =>
    if e = 'e' || e = 'E' then
      let (negative, digits) := spanSign rest
      match spanDigits digits with
      | (d :: ds, []) =>
        let value := digitsValue 0 (d :: ds)
        some (if negative then -(value : Int) else value)
      | _ => none
    else none

/-- A decimal without its sign. -/
def decimal? (negative : Bool) (cs : List Char) : Option Double :=
  let (whole, rest) := spanDigits cs
  let (fraction, rest) := match rest with
    | '.' :: rest => spanDigits rest
    | rest => ([], rest)
  if whole.isEmpty && fraction.isEmpty then none
  else (exponent? rest).map fun exponent =>
    Double.ofDecimal negative (digitsValue (digitsValue 0 whole) fraction)
      (exponent - fraction.length)

/-- A number without its sign: a name or a decimal. -/
def unsigned? (negative : Bool) (cs : List Char) : Option Double :=
  let name := String.ofList (cs.map Char.toLower)
  if name = "inf" || name = "infinity" then some (.infinity negative)
  else if name = "nan" then some .nan
  else decimal? negative cs

end NumberText

/-- The number that a text denotes, if it denotes one. -/
def Double.ofText? (s : String) : Option Double := do
  let cs := Text.trimBy Text.isAsciiSpace (NumberText.toAscii s.toList)
  let cs ← NumberText.dropUnderscores? false cs
  let (negative, rest) := NumberText.spanSign cs
  NumberText.unsigned? negative rest

end Candlestick
