import Candlestick.Number.Shortest

set_option autoImplicit false

/-! # How numbers are written

A number is written with the fewest digits that read back. Exponents of ten from `-4` to `15` are
written out with a point, and `.0` follows when there is no fraction; all others are written with
an `e`, the exponent's sign and at least two of its digits. -/

namespace Candlestick

/-- The decisions of a notation for numbers. -/
structure NumberNotation where
  /-- The least exponent of ten that is written out in places. -/
  leastPlain : Int
  /-- The first exponent of ten that is no longer written out in places. -/
  firstScientific : Int
  /-- The text after a whole number. -/
  wholeMark : String
  /-- The least number of digits of a written exponent. -/
  exponentWidth : Nat
  infinityName : String
  nanName : String

/-- The notation of every number in this program's output. -/
def NumberNotation.standard : NumberNotation := ⟨-4, 16, ".0", 2, "inf", "nan"⟩

namespace NumberNotation

/-- The digits with the point in its place. -/
def plain (style : NumberNotation) (digits : String) (exponent : Int) : String :=
  if exponent < 0 then
    "0." ++ String.ofList (List.replicate (-exponent - 1).toNat '0') ++ digits
  else
    let whole := exponent.toNat + 1
    if digits.length ≤ whole then
      digits ++ String.ofList (List.replicate (whole - digits.length) '0') ++ style.wholeMark
    else
      String.ofList (digits.toList.take whole) ++ "." ++ String.ofList (digits.toList.drop whole)

/-- The digits with one before the point, and the exponent. -/
def scientific (style : NumberNotation) (digits : String) (exponent : Int) : String :=
  let mantissa := match digits.toList with
    | [] => ""
    | [d] => d.toString
    | d :: rest => d.toString ++ "." ++ String.ofList rest
  let power := toString exponent.natAbs
  let padding := String.ofList (List.replicate (style.exponentWidth - power.length) '0')
  mantissa ++ "e" ++ (if exponent < 0 then "-" else "+") ++ padding ++ power

/-- The text of a number. -/
def write (style : NumberNotation) : Double → String
  | .nan => style.nanName
  | .signed negative bits _ =>
    let sign := if negative then "-" else ""
    if bits = Double.infinityBits then sign ++ style.infinityName
    else if bits = 0 then sign ++ style.plain "0" 0
    else
      let ⟨digits, exponent⟩ := Double.shortest bits
      let written := toString digits
      if style.leastPlain ≤ exponent ∧ exponent < style.firstScientific then
        sign ++ style.plain written exponent
      else sign ++ style.scientific written exponent

end NumberNotation

/-- A number's text in the standard notation. -/
def Double.text (x : Double) : String := NumberNotation.standard.write x

end Candlestick
