import Mathlib.Algebra.BigOperators.Group.List.Basic
import Mathlib.Order.Monotone.Basic
import Mathlib.Tactic.Ring
import Candlestick.Proofs.Number.Range

set_option autoImplicit false

/-! # Exact sums

A number that is finite is known by its exact value, and where that is zero by whether it is the negative
zero. Rounding makes a sum differ from the exact one, but it never makes a zero of it: a sum is the
negative zero exactly if all its terms are. So of two ways to add some numbers up that both give the
exact sum (`Double.IsSum`), each gives the same number, bit for bit. -/

namespace Candlestick.Double

/-! ## Numbers and their exact values -/

/-- The next pattern is a greater magnitude, also where the exponent changes. -/
theorem units_lt_units_succ (bits : Nat) : units bits < units (bits + 1) := by
  simp only [units_eq]
  by_cases hsmall : bits + 1 < 2 ^ 52
  · rw [if_pos (by omega), if_pos hsmall]
    omega
  rw [if_neg hsmall]
  by_cases hborder : bits < 2 ^ 52
  · have hdiv : (bits + 1) / 2 ^ 52 - 1 = 0 := by omega
    rw [if_pos hborder, hdiv]
    omega
  rw [if_neg hborder]
  by_cases hcarry : bits % 2 ^ 52 + 1 < 2 ^ 52
  · have hdiv : (bits + 1) / 2 ^ 52 = bits / 2 ^ 52 := by omega
    have hmod : (bits + 1) % 2 ^ 52 = bits % 2 ^ 52 + 1 := by omega
    rw [hdiv, hmod]
    exact Nat.mul_lt_mul_of_pos_right (by omega) (Nat.two_pow_pos _)
  · -- The significand is full, and the next one begins a binary order higher.
    have hdiv : (bits + 1) / 2 ^ 52 - 1 = bits / 2 ^ 52 - 1 + 1 := by omega
    have hmod : (bits + 1) % 2 ^ 52 = 0 := by omega
    rw [hdiv, hmod, Nat.add_zero]
    calc (2 ^ 52 + bits % 2 ^ 52) * 2 ^ (bits / 2 ^ 52 - 1)
        < 2 ^ 53 * 2 ^ (bits / 2 ^ 52 - 1) :=
          Nat.mul_lt_mul_of_pos_right (by omega) (Nat.two_pow_pos _)
      _ = 2 ^ 52 * 2 ^ (bits / 2 ^ 52 - 1 + 1) := by ring

/-- Magnitude patterns are ordered as their magnitudes. -/
theorem strictMono_units : StrictMono units := strictMono_nat_of_lt_succ units_lt_units_succ

/-- The exact value of a finite number in units. -/
def exactUnits (x : Double) : Int := x.toUnits?.getD 0

/-- Zero with a minus sign. -/
def minusZero : Double := .signed true 0 (Nat.zero_le _)

theorem toUnits?_eq {x : Double} (h : x.isFinite = true) : x.toUnits? = some x.exactUnits := by
  obtain ⟨u, hu⟩ := isFinite_iff_toUnits?.1 h
  rw [exactUnits, hu, Option.getD_some]

theorem exactUnits_signed {negative : Bool} {bits : Nat} {hbits : bits ≤ infinityBits}
    (h : bits < infinityBits) :
    (signed negative bits hbits).exactUnits = if negative then -(units bits : Int) else units bits := by
  rw [exactUnits, toUnits?, if_pos h, Option.getD_some]

theorem units_eq_zero {bits : Nat} : units bits = 0 ↔ bits = 0 :=
  strictMono_units.injective.eq_iff (b := 0)

/-- Finite numbers of one exact value are equal, unless one is the negative zero and the other is not. -/
theorem eq_of_exactUnits {x y : Double} (hx : x.isFinite = true) (hy : y.isFinite = true)
    (h : x.exactUnits = y.exactUnits) (hzero : x = minusZero ↔ y = minusZero) : x = y := by
  obtain ⟨s, a, ha, rfl, hafin, -⟩ := exists_of_toUnits? (toUnits?_eq hx)
  obtain ⟨t, b, hb, rfl, hbfin, -⟩ := exists_of_toUnits? (toUnits?_eq hy)
  rw [exactUnits_signed hafin, exactUnits_signed hbfin] at h
  have hab : units a = units b := by
    cases s <;> cases t <;> simp only [Bool.false_eq_true, if_true, if_false] at h <;> omega
  obtain rfl := strictMono_units.injective hab
  by_cases hst : s = t
  · rw [hst]
  · -- Of two signs one is the minus sign, and then both numbers are zero.
    have hunits : units a = 0 := by
      cases s <;> cases t <;> simp at h hst <;> omega
    obtain rfl := units_eq_zero.1 hunits
    cases s <;> cases t <;> simp [minusZero] at hzero hst

/-! ## The sign of a sum -/

/-- Rounding makes no zero of a number that is not. -/
theorem nearestBits_unitsPerOne_ne_zero {n : Nat} (hn : 0 < n) : nearestBits n unitsPerOne ≠ 0 := by
  have hpos : 0 < infinityBits := by decide
  rw [nearestBits_of_pos hn rfl]
  generalize hplace : Max.max (binaryExponent n unitsPerOne - 52) (-1074) = place
  by_cases hleast : place = -1074
  · have hunit : (-place).toNat = 1074 := by omega
    have hround : roundQuotient (n * 2 ^ (-place).toNat) unitsPerOne = n := by
      rw [hunit, ← unitsPerOne_eq, roundQuotient_mul n unitsPerOne_pos]
    rw [if_neg (by omega), hround]
    omega
  · have hfield : 2 ^ 52 ≤ (place + 1074).toNat * 2 ^ 52 := Nat.le_mul_of_pos_left _ (by omega)
    omega

theorem ofRatio_ne_minusZero (negative : Bool) {n : Nat} (hn : 0 < n) :
    ofRatio negative n unitsPerOne ≠ minusZero := by
  intro h
  exact nearestBits_unitsPerOne_ne_zero hn (Double.signed.inj h).2

theorem infinite_ne_minusZero {negative : Bool} {bits : Nat} {hbits : bits ≤ infinityBits}
    (h : ¬ bits < infinityBits) : signed negative bits hbits ≠ minusZero := by
  intro heq
  obtain ⟨-, rfl⟩ := Double.signed.inj heq
  exact h (by decide)

/-- A sum of finite numbers is the exact sum rounded, and a zero is negative if both terms are. -/
theorem signed_add_signed {s t : Bool} {a b : Nat} {ha : a ≤ infinityBits} {hb : b ≤ infinityBits}
    (hafin : a < infinityBits) (hbfin : b < infinityBits) :
    signed s a ha + signed t b hb =
      if (signed s a ha).exactUnits + (signed t b hb).exactUnits = 0 then ofRatio (s && t) 0 1
      else ofRatio ((signed s a ha).exactUnits + (signed t b hb).exactUnits < 0)
        ((signed s a ha).exactUnits + (signed t b hb).exactUnits).natAbs unitsPerOne := by
  rw [exactUnits_signed hafin, exactUnits_signed hbfin]
  change add (signed s a ha) (signed t b hb) = _
  simp only [add, toUnits?, if_pos hafin, if_pos hbfin]

/-- A sum is the negative zero exactly if both terms are. -/
theorem add_eq_minusZero_iff {x y : Double} :
    x + y = minusZero ↔ x = minusZero ∧ y = minusZero := by
  refine ⟨fun h => ?_, ?_⟩
  · cases x with
    | nan => cases h
    | signed s a ha =>
      cases y with
      | nan => cases h
      | signed t b hb =>
        by_cases hafin : a < infinityBits <;> by_cases hbfin : b < infinityBits
        · rw [signed_add_signed hafin hbfin] at h
          split at h
          · -- With both signs negative the exact sum can be zero only if both terms are.
            rename_i hsum
            rw [exactUnits_signed hafin, exactUnits_signed hbfin] at hsum
            obtain ⟨rfl, rfl⟩ : s = true ∧ t = true := by simpa using (Double.signed.inj h).1
            simp only [if_true] at hsum
            obtain rfl := units_eq_zero.1 (show units a = 0 by omega)
            obtain rfl := units_eq_zero.1 (show units b = 0 by omega)
            exact ⟨rfl, rfl⟩
          · exact absurd h (ofRatio_ne_minusZero _ (by omega))
        all_goals
          change add (signed s a ha) (signed t b hb) = _ at h
          simp only [add, toUnits?, hafin, hbfin, if_true, if_false] at h
        · exact absurd h (infinite_ne_minusZero hbfin)
        · exact absurd h (infinite_ne_minusZero hafin)
        · split at h
          · exact absurd h (infinite_ne_minusZero hafin)
          · cases h
  · rintro ⟨rfl, rfl⟩
    decide

theorem foldl_add_eq_minusZero_iff {α : Type} (f : α → Double) (cs : List α) (x : Double) :
    cs.foldl (fun sum c => sum + f c) x = minusZero ↔
      x = minusZero ∧ ∀ c ∈ cs, f c = minusZero := by
  induction cs generalizing x with
  | nil => simp
  | cons c cs ih =>
    rw [List.foldl_cons, ih, add_eq_minusZero_iff, and_assoc, List.forall_mem_cons]

/-! ## Sums of what is not negative -/

/-- What is below zero has a minus sign and a magnitude. -/
theorem signed_lt_zero (negative : Bool) {bits : Nat} (hbits : bits ≤ infinityBits) :
    (signed negative bits hbits).lt zero = (negative && decide (0 < bits)) := by
  cases negative with
  | false => simp [lt, orderKey?, zero]
  | true => simp [lt, orderKey?, zero]

theorem exactUnits_nonneg {x : Double} (h : x.lt zero = false) : 0 ≤ x.exactUnits := by
  cases hunits : x.toUnits? with
  | none => simp [exactUnits, hunits]
  | some u =>
    obtain ⟨negative, bits, hbits, rfl, hfin, -⟩ := exists_of_toUnits? hunits
    rw [signed_lt_zero] at h
    rw [exactUnits_signed hfin]
    cases negative with
    | false => simp
    | true =>
      -- The only such number with a minus sign is the negative zero.
      obtain rfl : bits = 0 := by simpa using h
      simp [units_eq_zero]

/-- However a sum is rounded, it is not below zero if its terms are not. -/
theorem add_lt_zero {x y : Double} (hx : x.lt zero = false) (hy : y.lt zero = false) :
    (x + y).lt zero = false := by
  cases x with
  | nan => rfl
  | signed s a ha =>
    cases y with
    | nan => rfl
    | signed t b hb =>
      by_cases hafin : a < infinityBits <;> by_cases hbfin : b < infinityBits
      · have hsum := Int.add_nonneg (exactUnits_nonneg hx) (exactUnits_nonneg hy)
        rw [signed_add_signed hafin hbfin]
        split
        · rw [ofRatio, signed_lt_zero, nearestBits_zero]
          simp
        · rw [ofRatio, signed_lt_zero, decide_eq_false (Int.not_lt.2 hsum), Bool.false_and]
      -- An infinite term is the sum, unless it meets the other infinity.
      all_goals
        change (add (signed s a ha) (signed t b hb)).lt zero = false
        simp only [add, toUnits?, hafin, hbfin, if_true, if_false]
      · exact hy
      · exact hx
      · split
        · exact hx
        · rfl

theorem foldl_add_lt_zero {α : Type} {f : α → Double} {cs : List α}
    (hcs : ∀ c ∈ cs, (f c).lt zero = false) {x : Double} (hx : x.lt zero = false) :
    (cs.foldl (fun sum c => sum + f c) x).lt zero = false := by
  induction cs generalizing x with
  | nil => exact hx
  | cons c cs ih =>
    obtain ⟨hc, hcs⟩ := List.forall_mem_cons.1 hcs
    exact ih hcs (add_lt_zero hx hc)

/-! ## Exact sums of lists -/

/-- Whether a number is the infinity of a sign. What is not a number counts as the infinity of either. -/
def runsOff (negative : Bool) : Double → Bool
  | nan => true
  | signed sign bits _ => sign == negative && bits == infinityBits

theorem isFinite_iff_runsOff {x : Double} :
    x.isFinite = true ↔ ∀ negative, x.runsOff negative = false := by
  cases x with
  | nan => simp [isFinite, runsOff]
  | signed sign bits hbits =>
    have hbelow : bits < infinityBits ↔ bits ≠ infinityBits := by omega
    simp only [isFinite, runsOff, decide_eq_true_eq, hbelow, Bool.and_eq_false_iff,
      beq_eq_false_iff_ne]
    constructor
    · exact fun h _ => Or.inr h
    · exact fun h => (h sign).resolve_left (not_not_intro rfl)

/-- What is not finite is known by the infinities that it counts as. -/
theorem eq_of_runsOff {x y : Double} (hx : x.isFinite = false)
    (h : ∀ negative, x.runsOff negative = y.runsOff negative) : x = y := by
  cases x with
  | nan =>
    cases y with
    | nan => rfl
    | signed t b hb => exact absurd (h (!t)) (by cases t <;> simp [runsOff])
  | signed s a ha =>
    have ha : a = infinityBits := by
      simp only [isFinite, decide_eq_false_iff_not] at hx
      omega
    cases y with
    | nan => exact absurd (h (!s)) (by cases s <;> simp [runsOff])
    | signed t b hb =>
      have hboth := h s
      simp only [runsOff, ha, beq_self_eq_true, Bool.and_self, eq_comm (a := true),
        Bool.and_eq_true, beq_iff_eq] at hboth
      obtain ⟨rfl, rfl⟩ := hboth
      simp only [ha]

/-- A number is the exact sum of some numbers. Infinite numbers add up to the infinity of their sign, or
    to no number where they are of both. -/
structure IsSum (x : Double) (ys : List Double) : Prop where
  runsOff : ∀ negative, x.runsOff negative = ys.any (runsOff negative)
  units : x.isFinite = true → x.exactUnits = (ys.map exactUnits).sum

instance (x : Double) (ys : List Double) : Decidable (x.IsSum ys) :=
  decidable_of_iff ((∀ negative, x.runsOff negative = ys.any (runsOff negative)) ∧
      (x.isFinite = true → x.exactUnits = (ys.map exactUnits).sum))
    ⟨fun ⟨hoff, hunits⟩ => ⟨hoff, hunits⟩, fun h => ⟨h.runsOff, h.units⟩⟩

theorem IsSum.perm {x : Double} {ys zs : List Double} (h : x.IsSum ys) (hperm : ys.Perm zs) :
    x.IsSum zs where
  runsOff negative := (h.runsOff negative).trans hperm.any_eq
  units hx := (h.units hx).trans (hperm.map _).sum_eq

/-- Where a sum is finite, its terms are. -/
theorem IsSum.finite {x : Double} {ys : List Double} (h : x.IsSum ys) (hx : x.isFinite = true)
    {y : Double} (hy : y ∈ ys) : y.isFinite = true := by
  rw [isFinite_iff_runsOff] at hx ⊢
  intro negative
  have hnone := (h.runsOff negative).symm.trans (hx negative)
  exact Bool.eq_false_iff.2 (List.any_eq_false.1 hnone y hy)

/-- An exact sum of exact sums is the exact sum of all their terms. -/
theorem IsSum.flatMap {α : Type} {x : Double} {cs : List α} {f : α → Double} {terms : α → List Double}
    (h : x.IsSum (cs.map f)) (hterms : ∀ c ∈ cs, (f c).IsSum (terms c)) :
    x.IsSum (cs.flatMap terms) where
  runsOff negative := by
    rw [h.runsOff, List.any_map, List.any_flatMap, Bool.eq_iff_iff, List.any_eq_true, List.any_eq_true]
    refine exists_congr fun c => and_congr_right fun hc => ?_
    rw [Function.comp, (hterms c hc).runsOff]
  units hx := by
    rw [h.units hx, List.map_map, List.map_flatMap, List.flatMap_def, List.sum_flatten, List.map_map]
    refine congrArg List.sum (List.map_congr_left fun c hc => ?_)
    exact (hterms c hc).units (h.finite hx (List.mem_map_of_mem hc))

/-- There is one exact sum, and one negative zero. -/
theorem IsSum.unique {x y : Double} {zs : List Double} (hx : x.IsSum zs) (hy : y.IsSum zs)
    (hzero : x = minusZero ↔ y = minusZero) : x = y := by
  have hoff : ∀ negative, x.runsOff negative = y.runsOff negative := fun negative =>
    (hx.runsOff negative).trans (hy.runsOff negative).symm
  cases hfinite : x.isFinite with
  | false => exact eq_of_runsOff hfinite hoff
  | true =>
    have hfinite' : y.isFinite = true :=
      isFinite_iff_runsOff.2 fun negative => hoff negative ▸ isFinite_iff_runsOff.1 hfinite negative
    exact eq_of_exactUnits hfinite hfinite' ((hx.units hfinite).trans (hy.units hfinite').symm) hzero

end Candlestick.Double
