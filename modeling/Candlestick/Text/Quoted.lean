import Candlestick.Text.Printable

set_option autoImplicit false

/-! # Quoted text

A text between quotes: single ones, unless it holds a single quote and no double one. The chosen
quote and the backslash are escaped, the controls for line feed, carriage return and tab have short
escapes, and every other character without a shape is written by its code point in two, four or
eight hexadecimal digits. -/

namespace Candlestick.Text

/-- The last `width` hexadecimal digits of a number, in lower case. -/
def hexDigits : Nat → Nat → List Char
  | 0, _ => []
  | width + 1, n => hexDigits width (n / 16) ++ [Nat.digitChar (n % 16)]

/-- One character between the given quotes. -/
def quotedChar (quote c : Char) : List Char :=
  if c = quote || c = '\\' then ['\\', c]
  else if c = '\n' then ['\\', 'n']
  else if c = '\r' then ['\\', 'r']
  else if c = '\t' then ['\\', 't']
  else if isPrintable c then [c]
  else if c.toNat < 0x100 then '\\' :: 'x' :: hexDigits 2 c.toNat
  else if c.toNat < 0x10000 then '\\' :: 'u' :: hexDigits 4 c.toNat
  else '\\' :: 'U' :: hexDigits 8 c.toNat

/-- A text in quotes. -/
def quoted (s : String) : String :=
  let cs := s.toList
  let quote := if cs.contains '\'' && !cs.contains '\"' then '\"' else '\''
  String.ofList (quote :: cs.flatMap (quotedChar quote) ++ [quote])

end Candlestick.Text
