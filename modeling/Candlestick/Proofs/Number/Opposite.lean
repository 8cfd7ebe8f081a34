import Candlestick.Proofs.Number.Rounding

set_option autoImplicit false

/-! # Opposite numbers

Each operation keeps the sign beside the magnitude, and rounds the magnitude alone. So what is true of a
number is true of its opposite with the sign turned round. -/

namespace Candlestick.Double

theorem neg_signed (negative : Bool) (bits : Nat) (h : bits ≤ infinityBits) :
    -(signed negative bits h) = signed (!negative) bits h := rfl

theorem neg_mul (x y : Double) : -x * y = -(x * y) := by
  cases x with
  | nan => rfl
  | signed s a ha =>
    cases y with
    | nan => rfl
    | signed t b hb =>
      have hsign : ((!s) != t) = !(s != t) := by cases s <;> cases t <;> rfl
      show mul (signed (!s) a ha) (signed t b hb) = -(mul (signed s a ha) (signed t b hb))
      simp only [mul, hsign]
      split
      · rfl
      · split <;> rfl

theorem neg_div (x y : Double) : (-x).div y = -(x.div y) := by
  cases x with
  | nan => rfl
  | signed s a ha =>
    cases y with
    | nan => rfl
    | signed t b hb =>
      have hsign : ((!s) != t) = !(s != t) := by cases s <;> cases t <;> rfl
      show div (signed (!s) a ha) (signed t b hb) = -(div (signed s a ha) (signed t b hb))
      simp only [div, hsign]
      split
      · split <;> rfl
      · split <;> rfl

theorem toUnits?_neg (x : Double) : (-x).toUnits? = x.toUnits?.map (- ·) := by
  cases x with
  | nan => rfl
  | signed s a ha =>
    simp only [neg_signed, toUnits?]
    split
    · cases s <;> simp
    · rfl

theorem truncate?_neg (x : Double) : (-x).truncate? = x.truncate?.map (- ·) := by
  rw [truncate?, toUnits?_neg, truncate?, Option.map_map, Option.map_map]
  congr 1
  funext u
  exact Int.neg_tdiv u unitsPerOne

theorem round?_neg (x : Double) : (-x).round? = x.round?.map (- ·) := by
  rw [round?, toUnits?_neg, round?, Option.map_map, Option.map_map]
  congr 1
  funext u
  simp only [Function.comp_apply, Int.natAbs_neg]
  rcases Int.lt_trichotomy u 0 with hneg | rfl | hpos
  · rw [if_neg (by omega), if_pos hneg, Int.neg_neg]
  · have hzero : roundQuotient 0 unitsPerOne = 0 := Nat.le_zero.1 (roundQuotient_le (by simp))
    simp [hzero]
  · rw [if_pos (by omega), if_neg (by omega)]

theorem fraction?_neg (x : Double) : (-x).fraction? = x.fraction?.map (- ·) := by
  cases x with
  | nan => rfl
  | signed s a ha =>
    simp only [neg_signed, fraction?]
    split <;> rfl

theorem ofInt_neg {n : Nat} (hpos : 0 < n) : ofInt (-(n : Int)) = -(ofInt n) := by
  have hneg : decide (-(n : Int) < 0) = true := decide_eq_true (by omega)
  have hnonneg : decide ((n : Int) < 0) = false := decide_eq_false (by omega)
  rw [ofInt, ofInt, hneg, hnonneg, Int.natAbs_neg]
  rfl

end Candlestick.Double
