set_option autoImplicit false

/-! # Binary floating-point numbers of 64 bits

Prices, volumes and provider timestamps are numbers of the IEEE 754 binary64 format. A number is
kept as its sign and the bit pattern of its magnitude, with the bound of the pattern in the type,
so that every operation is integer arithmetic that a proof can follow.

A finite magnitude is a whole number of `2 ^ -1074`, its count of *units*. Every operation forms
the exact result as a quotient of natural numbers and rounds it once, by `Double.nearestBits`, to
the nearest magnitude; a half goes to the even pattern. -/

namespace Candlestick

/-- The bit pattern of infinity; each smaller pattern is a finite magnitude. -/
def Double.infinityBits : Nat := 0x7FF0000000000000

/-- A binary64 number: not a number, or a sign with the bit pattern of a magnitude. -/
inductive Double where
  | nan
  | signed (negative : Bool) (bits : Nat) (bits_le : bits ≤ Double.infinityBits)
  deriving DecidableEq

namespace Double

/-- Zero without a minus sign. -/
def zero : Double := .signed false 0 (Nat.zero_le _)

instance : Inhabited Double := ⟨zero⟩

/-- The infinity of a sign. -/
def infinity (negative : Bool) : Double := .signed negative infinityBits (Nat.le_refl _)

/-! ## Magnitudes as whole numbers of units -/

/-- The leading bit of a significand of 53 bits: `2 ^ 52`. -/
def leadingBit : Nat := 0x10000000000000

/-- How many units of `2 ^ -1074` a magnitude pattern stands for. -/
def units (bits : Nat) : Nat :=
  if bits < leadingBit then bits
  else (leadingBit + bits % leadingBit) <<< (bits / leadingBit - 1)

/-- The unit's reciprocal: one is this many units. -/
def unitsPerOne : Nat := 1 <<< 1074

/-- The natural number nearest to `num / den`; a half goes to the even neighbour. -/
def roundQuotient (num den : Nat) : Nat :=
  let quotient := num / den
  let twice := 2 * (num % den)
  if twice < den then quotient
  else if den < twice then quotient + 1
  else quotient + quotient % 2

theorem roundQuotient_mul (q : Nat) {den : Nat} (h : 0 < den) : roundQuotient (q * den) den = q := by
  simp [roundQuotient, Nat.mul_div_cancel q h, h]

/-- The greatest exponent `e` with `2 ^ e ≤ num / den`. -/
def binaryExponent (num den : Nat) : Int :=
  let estimate : Int := (num.log2 : Int) - (den.log2 : Int)
  let reached : Bool :=
    if 0 ≤ estimate then den <<< estimate.toNat ≤ num else den ≤ num <<< (-estimate).toNat
  if reached then estimate else estimate - 1

/-- The pattern of the magnitude nearest to `num / den`, infinity beyond the finite ones: 53
    significant bits, fewer below `2 ^ -1022`, where the last place stays at one unit. -/
def nearestBits (num den : Nat) : Nat :=
  if num = 0 then 0
  else
    let place := max (binaryExponent num den - 52) (-1074)
    let significand :=
      if 0 ≤ place then roundQuotient num (den <<< place.toNat)
      else roundQuotient (num <<< (-place).toNat) den
    -- The leading bit of a full significand adds one to the exponent field, and so does a significand
    -- that rounding has carried to the next power of two.
    min (significand + (place + 1074).toNat * leadingBit) infinityBits

theorem nearestBits_le (num den : Nat) : nearestBits num den ≤ infinityBits := by
  unfold nearestBits
  split
  · exact Nat.zero_le _
  · exact Nat.min_le_right _ _

/-- The number of a sign nearest to `num / den`. -/
def ofRatio (negative : Bool) (num den : Nat) : Double :=
  .signed negative (nearestBits num den) (nearestBits_le num den)

/-- The number nearest to an integer, an infinity beyond the finite numbers. -/
def ofInt (n : Int) : Double := ofRatio (n < 0) n.natAbs 1

/-- The number nearest to a quotient of integers; the divisor is not zero. -/
def ofQuotient (a b : Int) : Double := ofRatio ((a < 0) != (b < 0)) a.natAbs b.natAbs

/-! ## Kinds of number -/

def isNaN : Double → Bool
  | nan => true
  | signed .. => false

/-- Neither infinite nor not a number. -/
def isFinite : Double → Bool
  | nan => false
  | signed _ bits _ => bits < infinityBits

/-- Zero of either sign. -/
def isZero : Double → Bool
  | nan => false
  | signed _ bits _ => bits = 0

/-! ## Order

Magnitude patterns are ordered as their magnitudes, and both zeros have the key `0`. -/

/-- The place of a number in the order; not a number has none. -/
def orderKey? : Double → Option Int
  | nan => none
  | signed negative bits _ => some (if negative then -(bits : Int) else bits)

/-- Strictly less; false as soon as one side is not a number. -/
def lt (x y : Double) : Bool :=
  match x.orderKey?, y.orderKey? with
  | some a, some b => a < b
  | _, _ => false

/-- At most; false as soon as one side is not a number. -/
def le (x y : Double) : Bool :=
  match x.orderKey?, y.orderKey? with
  | some a, some b => a ≤ b
  | _, _ => false

/-- Numerically equal: the two zeros are, and not a number is equal to nothing. -/
def equal (x y : Double) : Bool :=
  match x.orderKey?, y.orderKey? with
  | some a, some b => a = b
  | _, _ => false

/-- The first of two numbers, unless the second is greater. -/
def max (x y : Double) : Double := if x.lt y then y else x

/-- The first of two numbers, unless the second is less. -/
def min (x y : Double) : Double := if y.lt x then y else x

/-! ## Arithmetic -/

/-- A finite number as an integer count of units. -/
def toUnits? : Double → Option Int
  | nan => none
  | signed negative bits _ =>
    if bits < infinityBits then some (if negative then -(units bits : Int) else units bits)
    else none

/-- The rounded sum. Two zeros add to a negative zero only if both are negative. -/
def add (x y : Double) : Double :=
  match x, y with
  | nan, _ => nan
  | _, nan => nan
  | signed s a _, signed t b _ =>
    match x.toUnits?, y.toUnits? with
    | some u, some v =>
      let sum := u + v
      if sum = 0 then ofRatio (s && t) 0 1 else ofRatio (sum < 0) sum.natAbs unitsPerOne
    -- Only an infinity has no units here.
    | some _, none => y
    | none, some _ => x
    | none, none => if s = t ∧ a = b then x else nan

/-- The rounded product. -/
def mul (x y : Double) : Double :=
  match x, y with
  | nan, _ => nan
  | _, nan => nan
  | signed s a _, signed t b _ =>
    if a < infinityBits ∧ b < infinityBits then
      ofRatio (s != t) (units a * units b) (unitsPerOne * unitsPerOne)
    else if a = 0 ∨ b = 0 then nan
    else infinity (s != t)

/-- The rounded quotient by a number that is not zero. -/
def div (x y : Double) : Double :=
  match x, y with
  | nan, _ => nan
  | _, nan => nan
  | signed s a _, signed t b _ =>
    if a = infinityBits then (if b = infinityBits then nan else infinity (s != t))
    else if b = infinityBits then ofRatio (s != t) 0 1
    else ofRatio (s != t) (units a) (units b)

def neg : Double → Double
  | nan => nan
  | signed s bits h => signed (!s) bits h

instance : Add Double := ⟨add⟩
instance : Mul Double := ⟨mul⟩
instance : Neg Double := ⟨neg⟩

/-! ## Integers of a number -/

/-- A finite number without its fraction. -/
def truncate? (x : Double) : Option Int := x.toUnits?.map (·.tdiv unitsPerOne)

/-- The least integer that is not below a finite number. -/
def ceil? (x : Double) : Option Int := x.toUnits?.map fun u => -((-u).fdiv unitsPerOne)

/-- The integer nearest to a finite number; a half goes to the even neighbour. -/
def round? (x : Double) : Option Int :=
  x.toUnits?.map fun u =>
    let magnitude := roundQuotient u.natAbs unitsPerOne
    if u < 0 then -(magnitude : Int) else magnitude

/-- A finite number's fraction, with the number's sign. -/
def fraction? : Double → Option Double
  | nan => none
  | signed s bits _ =>
    if bits < infinityBits then some (ofRatio s (units bits % unitsPerOne) unitsPerOne) else none

theorem ofInt_isNaN (n : Int) : (ofInt n).isNaN = false := rfl

theorem le_refl_of_not_nan {x : Double} (h : x.isNaN = false) : x.le x = true := by
  cases x with
  | nan => simp [isNaN] at h
  | signed s bits hb => simp [le, orderKey?]

theorem lt_irrefl (x : Double) : x.lt x = false := by
  cases x <;> simp [lt, orderKey?]

end Double

end Candlestick
