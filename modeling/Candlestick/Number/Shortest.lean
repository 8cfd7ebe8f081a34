import Candlestick.Number.Double

set_option autoImplicit false

/-! # The fewest decimal digits that read back

A finite magnitude is the nearest one to every real number of an interval around it; the ends,
half way to its neighbours, belong to the interval exactly when its pattern is even. Of the
decimal numbers inside that interval, `Double.shortest` takes one with the fewest digits and,
among those, the nearest. Only the two multiples of a power of ten next to the magnitude have to
be looked at: if any multiple lies in the interval, one of these does. -/

namespace Candlestick

/-- A positive decimal number `0.d₁d₂… * 10 ^ (exponent + 1)`, that is `d₁.d₂… * 10 ^ exponent`. -/
structure DecimalDigits where
  /-- The digits as one number, the first of them not zero. -/
  digits : Nat
  /-- The power of ten of the first digit. -/
  exponent : Int
  deriving DecidableEq

namespace Double

/-- The greatest `e` with `10 ^ e` at most this many units: one less than the number of digits
    before the point, counted after moving the point 340 places, where no magnitude is below one. -/
def decimalExponent (count : Nat) : Int :=
  ((toString (count * Nat.pow 10 340 / unitsPerOne)).length : Int) - 341

/-- Whether the decimal number `d * 10 ^ place` is read as the magnitude of pattern `bits`. -/
def readsBack (bits d : Nat) (place : Int) : Bool :=
  let low := units (bits - 1) + units bits
  let high := units bits + units (bits + 1)
  let scale := if 0 ≤ place then 1 else Nat.pow 10 (-place).toNat
  let value := 2 * unitsPerOne * (if 0 ≤ place then d * Nat.pow 10 place.toNat else d)
  if bits % 2 = 0 then low * scale ≤ value && value ≤ high * scale
  else low * scale < value && value < high * scale

/-- The digits of a given count that are read as the magnitude, if there are any: of the two
    neighbours on that grid the nearer one, of two equally near the even one. -/
def digitsOfCount? (bits : Nat) (exponent : Int) (count : Nat) : Option Nat :=
  let place := exponent - count + 1
  let num := if 0 ≤ place then units bits else units bits * Nat.pow 10 (-place).toNat
  let den := if 0 ≤ place then unitsPerOne * Nat.pow 10 place.toNat else unitsPerOne
  let below := num / den
  match readsBack bits below place, readsBack bits (below + 1) place with
  -- Both neighbours read back, and the rounded quotient is the nearer one.
  | true, true => some (roundQuotient num den)
  | true, false => some below
  | false, true => some (below + 1)
  | false, false => none

/-- The digits without the zeros at their end. -/
def trimZeros (fuel digits : Nat) : Nat :=
  match fuel with
  | 0 => digits
  | fuel + 1 => if digits % 10 = 0 then trimZeros fuel (digits / 10) else digits

/-- The shortest digits of a finite magnitude that is not zero; seventeen are always enough. -/
def shortest (bits : Nat) : DecimalDigits :=
  let exponent := decimalExponent (units bits)
  let tried := (List.range 17).findSome? fun n => (digitsOfCount? bits exponent (n + 1)).map (n + 1, ·)
  match tried with
  | none => ⟨0, 0⟩
  | some (count, digits) =>
    -- The upper neighbour may be the next power of ten, which has one digit more.
    if digits = Nat.pow 10 count then ⟨1, exponent + 1⟩ else ⟨trimZeros count digits, exponent⟩

end Double

end Candlestick
