import Candlestick.Proofs.Number.Decimal
import Candlestick.Proofs.Number.Rounding
import Candlestick.Provider.Reading

set_option autoImplicit false

/-! # Times are read exactly

A provider's time is read as a binary64 number, scaled to milliseconds, and cut off. Up to 53 bits of
whole milliseconds nothing is lost on the way, whether the time is given as a number or as a text. -/

namespace Candlestick

namespace Double

/-- A pattern does not change where both sides are scaled by the units of one, twice. -/
theorem nearestBits_scale (n m : Nat) :
    nearestBits (n * unitsPerOne * (m * unitsPerOne)) (unitsPerOne * unitsPerOne) =
      nearestBits (n * m) 1 := by
  have hpos := unitsPerOne_pos
  generalize unitsPerOne = d at *
  have hnum : n * d * (m * d) = n * m * d * d := by ring
  rw [hnum, nearestBits_mul_right _ hpos hpos]
  exact (congrArg (nearestBits (n * m * d)) (Nat.one_mul d).symm).trans
    (nearestBits_mul_right (n * m) Nat.one_pos hpos)

/-- The product of two whole numbers of 53 bits is rounded once. -/
theorem ofInt_mul {n m : Int} (hn : n.natAbs ≤ 2 ^ 53) (hm : m.natAbs ≤ 2 ^ 53) (hpos : 0 < m) :
    ofInt n * ofInt m = ofInt (n * m) := by
  have hfinite := nearestBits_lt_infinityBits Nat.one_pos hn (by decide)
  have hfinite' := nearestBits_lt_infinityBits Nat.one_pos hm (by decide)
  have hproduct : ofInt n * ofInt m = ofRatio (decide (n < 0) != decide (m < 0))
      (units (nearestBits n.natAbs 1) * units (nearestBits m.natAbs 1))
      (unitsPerOne * unitsPerOne) := if_pos ⟨hfinite, hfinite'⟩
  have hsign : (decide (n < 0) != decide (m < 0)) = decide (n * m < 0) := by
    rw [decide_eq_false (by omega : ¬ m < 0), Bool.bne_false, decide_eq_decide]
    exact ⟨fun hneg => Int.mul_neg_of_neg_of_pos hneg hpos, fun hneg => neg_of_mul_neg_left hneg (Int.le_of_lt hpos)⟩
  have hbits : nearestBits (units (nearestBits n.natAbs 1) * units (nearestBits m.natAbs 1))
      (unitsPerOne * unitsPerOne) = nearestBits (n * m).natAbs 1 := by
    rw [units_nearestBits_one hn, units_nearestBits_one hm, nearestBits_scale, Int.natAbs_mul]
  rw [hproduct, hsign]
  simp only [ofInt, ofRatio, hbits]

/-- A whole number of 53 bits has no fraction to be cut off. -/
theorem truncate?_ofInt {n : Int} (hn : n.natAbs ≤ 2 ^ 53) : (ofInt n).truncate? = some n := by
  have hfinite := nearestBits_lt_infinityBits Nat.one_pos hn (by decide)
  have hunits : (ofInt n).toUnits? = some (n * unitsPerOne) := by
    rw [ofInt, ofRatio, toUnits?, if_pos hfinite, units_nearestBits_one hn, Int.natCast_mul]
    by_cases hneg : n < 0
    · rw [decide_eq_true hneg, if_pos rfl, ← Int.neg_mul, show -(n.natAbs : Int) = n by omega]
    · rw [decide_eq_false hneg, if_neg (by simp), show (n.natAbs : Int) = n by omega]
  have hpos : (unitsPerOne : Int) ≠ 0 := by
    have := unitsPerOne_pos
    omega
  rw [truncate?, hunits, Option.map_some, Int.mul_tdiv_cancel _ hpos]

theorem isFinite_ofInt {n : Int} (hn : n.natAbs ≤ 2 ^ 53) : (ofInt n).isFinite = true :=
  decide_eq_true (nearestBits_lt_infinityBits Nat.one_pos hn (by decide))

end Double

theorem Reading.number_int {n : Int} (hn : n.natAbs ≤ 2 ^ 53) :
    Reading.number (.int n) = .ok (Double.ofInt n) :=
  if_pos (Double.isFinite_ofInt hn)

/-- A value spells an integer: as a number, or as its decimal text. -/
def Reading.Spells (value : Json) (n : Int) : Prop := value = .int n ∨ value = .str (toString n)

theorem Reading.number_of_spells {value : Json} {n : Int} (h : Spells value n) (hn : n.natAbs ≤ 2 ^ 53) :
    number value = .ok (Double.ofInt n) := by
  rcases h with rfl | rfl
  · exact number_int hn
  · rw [number, Double.ofText?_toString (by omega), Option.getD_some]

/-- A value whose number is whole is read exactly, as long as it has no more than 53 bits in milliseconds. -/
theorem Reading.time_of_whole {value : Json} {n scale : Int}
    (hnumber : n.natAbs ≤ 2 ^ 53 → number value = .ok (Double.ofInt n)) (hscale : 0 < scale)
    (hn : (n * scale).natAbs ≤ 2 ^ 53) (hscale' : scale ≤ 2 ^ 53) :
    time value scale = .ok (some (n * scale)) := by
  have hsmall : n.natAbs ≤ 2 ^ 53 := by
    refine Nat.le_trans (Nat.le_mul_of_pos_right _ (?_ : 0 < scale.natAbs)) (Int.natAbs_mul n scale ▸ hn)
    omega
  have hfactor : scale.natAbs ≤ 2 ^ 53 := by omega
  simp only [time, hnumber hsmall, Double.isFinite_ofInt hsmall, if_true, bind, Except.bind,
    Double.isFinite_ofInt hfactor, Double.ofInt_mul hsmall hfactor hscale, Double.truncate?_ofInt hn]

/-- A time in whole units is read exactly, as long as it has no more than 53 bits in milliseconds. -/
theorem Reading.time_of_spells {value : Json} {n scale : Int} (h : Spells value n) (hscale : 0 < scale)
    (hn : (n * scale).natAbs ≤ 2 ^ 53) (hscale' : scale ≤ 2 ^ 53) :
    time value scale = .ok (some (n * scale)) :=
  time_of_whole (number_of_spells h) hscale hn hscale'

/-- Whole milliseconds of 53 bits are read as they stand. -/
theorem Reading.time_int {n : Int} (hn : n.natAbs ≤ 2 ^ 53) : Reading.time (.int n) = .ok (some n) := by
  have htime := time_of_spells (Or.inl rfl : Spells (.int n) n) Int.one_pos (by rwa [Int.mul_one])
    (by decide)
  rwa [Int.mul_one] at htime

end Candlestick
