import Candlestick.Proofs.Number.Rounding

set_option autoImplicit false

/-! # The range of the finite numbers

The greatest finite number is `2 ^ 1024 - 2 ^ 971`. What is less than half a place above it is rounded to
it, and everything from there on to infinity. -/

namespace Candlestick.Double

/-- Half of the last place of the greatest finite numbers. -/
def halfPlace : Nat := 2 ^ 970

/-- The least magnitude that is rounded to infinity, `2 ^ 1024 - 2 ^ 970`. -/
def limit : Nat := (2 * 2 ^ 53 - 1) * halfPlace

/-- The greatest finite magnitude, `2 ^ 1024 - 2 ^ 971`. -/
def greatest : Nat := (2 ^ 53 - 1) * (2 * halfPlace)

theorem two_pow_le_halfPlace {k : Nat} (h : k ≤ 970) : 2 ^ k ≤ halfPlace := by
  unfold halfPlace
  generalize 970 = n at *
  exact Nat.pow_le_pow_right (by decide) h

theorem halfPlace_le_two_pow {k : Nat} (h : 970 ≤ k) : halfPlace ≤ 2 ^ k := by
  unfold halfPlace
  generalize 970 = n at *
  exact Nat.pow_le_pow_right (by decide) h

theorem two_mul_halfPlace : 2 * halfPlace = 2 ^ (970 + 1) := by
  unfold halfPlace
  generalize 970 = n
  rw [Nat.pow_succ, Nat.mul_comm]

theorem greatest_add_one_lt : greatest + 1 < limit := by
  have hplace : 2 ^ 1 ≤ halfPlace := two_pow_le_halfPlace (by decide)
  unfold greatest limit
  generalize halfPlace = p at *
  omega

theorem greatest_lt : greatest < limit := by
  have h := greatest_add_one_lt
  generalize greatest = g at *
  generalize limit = l at *
  omega

/-- An even whole number is reached by what is half a unit below it. -/
theorem roundQuotient_lt_iff {num den n : Nat} (hden : 0 < den) (hn : 0 < n) (heven : n % 2 = 0) :
    roundQuotient num den < n ↔ 2 * num < (2 * n - 1) * den := by
  obtain ⟨m, rfl⟩ : ∃ m, n = m + 1 := ⟨n - 1, by omega⟩
  have hodd : (2 * (m + 1) - 1) * den = 2 * (m * den) + den := by
    rw [show 2 * (m + 1) - 1 = 2 * m + 1 by omega]
    ring
  have hsplit := Nat.div_add_mod num den
  have hmod := Nat.mod_lt num hden
  rw [Nat.mul_comm den] at hsplit
  rw [hodd]
  -- The quotient without its fraction is less than `m`, or it is `m` and the fraction decides.
  rcases Nat.lt_trichotomy (num / den) m with hlt | heq | hgt
  · have hmul : (num / den + 1) * den ≤ m * den := Nat.mul_le_mul_right den hlt
    have hround : roundQuotient num den ≤ m := roundQuotient_le (by rw [Nat.add_mul] at hmul; omega)
    rw [Nat.add_mul] at hmul
    omega
  · rw [heq] at hsplit
    unfold roundQuotient
    simp only [heq]
    split
    · omega
    · split <;> omega
  · have hmul : (m + 1) * den ≤ num / den * den := Nat.mul_le_mul_right den hgt
    have hround : m + 1 ≤ roundQuotient num den := le_roundQuotient hden (by omega)
    rw [Nat.add_mul] at hmul
    omega

/-- A significand is rounded up to an even one from half a place below it. -/
theorem roundQuotient_lt_iff_half {num den n p : Nat} (hden : 0 < den) (hp : 0 < p) (hn : 0 < n)
    (heven : n % 2 = 0) : roundQuotient num (den * (2 * p)) < n ↔ num < (2 * n - 1) * p * den := by
  rw [roundQuotient_lt_iff (Nat.mul_pos hden (by omega)) hn heven]
  generalize 2 * n - 1 = c
  have hhalf : c * (den * (2 * p)) = 2 * (c * p * den) := by ring
  rw [hhalf]
  exact Nat.mul_lt_mul_left (by decide)

theorem two_pow_le_limit {k : Nat} (h : k ≤ 1023) : 2 ^ k ≤ limit := by
  have hpow : 2 ^ k ≤ 2 ^ 53 * 2 ^ (k - 53) := by
    rw [← Nat.pow_add]
    exact Nat.pow_le_pow_right (by decide) (by omega)
  have hplace : 2 ^ (k - 53) ≤ halfPlace := two_pow_le_halfPlace (by omega)
  unfold limit
  generalize halfPlace = p at *
  omega

theorem limit_le_two_pow {k : Nat} (h : 1024 ≤ k) : limit ≤ 2 ^ k := by
  obtain ⟨m, rfl⟩ : ∃ m, k = 54 + m := ⟨k - 54, by omega⟩
  have hplace : halfPlace ≤ 2 ^ m := halfPlace_le_two_pow (by omega)
  rw [Nat.pow_add, limit]
  exact Nat.mul_le_mul (by decide) hplace

/-- A quotient is rounded to a finite number if it is below the limit, and to infinity from there on. -/
theorem nearestBits_lt_infinityBits_iff {num den : Nat} (hden : 0 < den) :
    nearestBits num den < infinityBits ↔ num < limit * den := by
  rcases Nat.eq_zero_or_pos num with rfl | hnum
  · have hpos : 0 < limit * den := Nat.mul_pos (two_pow_le_limit (Nat.zero_le 1023)) hden
    exact iff_of_true (by rw [nearestBits_zero]; decide) hpos
  obtain ⟨hlo, hhi⟩ := binaryExponent_spec hnum hden
  obtain ⟨hsiglo, hsighi⟩ := significand_bounds hnum hden
  have hinfinity : infinityBits = 2047 * 2 ^ 52 := by decide
  rcases (by omega : binaryExponent num den ≤ 1022 ∨ binaryExponent num den = 1023 ∨
    1024 ≤ binaryExponent num den) with he | he | he
  · refine iff_of_true ?_ ?_
    · rcases Int.lt_or_le (binaryExponent num den) (-1022) with hsmall | hnormal
      · have hbits := nearestBits_le_two_pow hnum hden hsmall
        omega
      · have hfield : (binaryExponent num den + 1022).toNat ≤ 2044 := by omega
        rw [nearestBits_eq hnum hden hnormal he]
        omega
    · have hpow : 2 ^ ((binaryExponent num den).toNat + 1) ≤ limit := two_pow_le_limit (by omega)
      calc num ≤ num * 2 ^ (-binaryExponent num den).toNat :=
            Nat.le_mul_of_pos_right num (Nat.two_pow_pos _)
        _ < 2 * (den * 2 ^ (binaryExponent num den).toNat) := hhi
        _ = 2 ^ ((binaryExponent num den).toNat + 1) * den := by ring
        _ ≤ limit * den := Nat.mul_le_mul_right den hpow
  · have hbits : nearestBits num den < infinityBits ↔ significand num den < 2 ^ 53 := by
      have hfield : (1023 + 1022 : Int).toNat = 2045 := by decide
      rw [nearestBits_eq_min hnum (by omega), he, hfield]
      omega
    have hplace : ((1023 : Int) - 52).toNat = 970 + 1 := by decide
    have hpos : 0 < halfPlace := two_pow_le_halfPlace (Nat.zero_le 970)
    rw [hbits, significand, he, if_pos (by decide), hplace, ← two_mul_halfPlace]
    exact roundQuotient_lt_iff_half hden hpos (by decide) (by decide)
  · refine iff_of_false ?_ ?_
    · have hfield : 2046 ≤ (binaryExponent num den + 1022).toNat := by omega
      rw [nearestBits_eq_min hnum (by omega)]
      omega
    · have hneg : (-binaryExponent num den).toNat = 0 := by omega
      have hpow : limit ≤ 2 ^ (binaryExponent num den).toNat := limit_le_two_pow (by omega)
      rw [hneg, Nat.pow_zero, Nat.mul_one] at hlo
      refine Nat.not_lt.2 (Nat.le_trans ?_ hlo)
      rw [Nat.mul_comm den]
      exact Nat.mul_le_mul_right den hpow

/-! ## Finite numbers -/

theorem isFinite_ofRatio_iff {negative : Bool} {num den : Nat} (hden : 0 < den) :
    (ofRatio negative num den).isFinite = true ↔ num < limit * den := by
  rw [← nearestBits_lt_infinityBits_iff hden]
  exact decide_eq_true_iff

theorem isFinite_ofInt_iff {n : Int} : (ofInt n).isFinite = true ↔ n.natAbs < limit := by
  rw [ofInt, isFinite_ofRatio_iff Nat.one_pos, Nat.mul_one]

theorem units_le {bits n : Nat} (h : bits / 2 ^ 52 ≤ n + 1075) :
    units bits ≤ (2 ^ 53 - 1) * 2 ^ n * unitsPerOne := by
  rw [← mul_two_pow_add_unit, units_eq]
  split
  · have hpow := Nat.two_pow_pos (n + 1074)
    omega
  · exact Nat.mul_le_mul (by omega) (Nat.pow_le_pow_right (by decide) (by omega))

theorem units_le_of_finite {bits : Nat} (h : bits < infinityBits) :
    units bits ≤ greatest * unitsPerOne := by
  have hfield : bits / 2 ^ 52 ≤ 970 + 1 + 1075 := by
    unfold infinityBits at h
    omega
  rw [greatest, two_mul_halfPlace]
  exact units_le hfield

section Kinds

variable {x : Double} {u n : Int}

theorem isFinite_iff_toUnits? : x.isFinite = true ↔ ∃ u, x.toUnits? = some u := by
  cases x with
  | nan => simp [isFinite, toUnits?]
  | signed negative bits hbits => simp [isFinite, toUnits?]

theorem exists_of_toUnits? (h : x.toUnits? = some u) :
    ∃ negative bits hbits, x = signed negative bits hbits ∧ bits < infinityBits ∧
      u.natAbs = units bits := by
  cases x with
  | nan => cases h
  | signed negative bits hbits =>
    by_cases hfinite : bits < infinityBits
    · refine ⟨negative, bits, hbits, rfl, hfinite, ?_⟩
      rw [toUnits?, if_pos hfinite] at h
      cases negative <;> cases h <;> simp
    · rw [toUnits?, if_neg hfinite] at h
      cases h

theorem natAbs_le_of_toUnits? (h : x.toUnits? = some u) : u.natAbs ≤ greatest * unitsPerOne := by
  obtain ⟨negative, bits, hbits, -, hfinite, habs⟩ := exists_of_toUnits? h
  rw [habs]
  exact units_le_of_finite hfinite

theorem isFinite_iff_truncate? : x.isFinite = true ↔ ∃ n, x.truncate? = some n := by
  rw [isFinite_iff_toUnits?, truncate?]
  cases x.toUnits? with
  | none => simp
  | some u => simp

/-- The whole part of a finite number is no greater than the greatest one. -/
theorem natAbs_le_of_truncate? (h : x.truncate? = some n) : n.natAbs ≤ greatest := by
  obtain ⟨u, hu, rfl⟩ := Option.map_eq_some_iff.1 h
  rw [Int.natAbs_tdiv]
  refine Nat.div_le_of_le_mul ?_
  rw [Int.natAbs_natCast, Nat.mul_comm]
  exact natAbs_le_of_toUnits? hu

/-- The integer after the whole part of a finite number still has a finite number next to it. -/
theorem isFinite_ofInt_succ (h : x.truncate? = some n) : (ofInt (n + 1)).isFinite = true := by
  have hle := natAbs_le_of_truncate? h
  have hlt := greatest_add_one_lt
  rw [isFinite_ofInt_iff]
  generalize greatest = g at *
  generalize limit = l at *
  omega

/-- A finite number times a whole one is finite as long as the product is below the limit. -/
theorem isFinite_mul_ofInt_iff (h : x.toUnits? = some u) {m : Int} (hm : m.natAbs ≤ 2 ^ 53) :
    (x * ofInt m).isFinite = true ↔ u.natAbs * m.natAbs < limit * unitsPerOne := by
  obtain ⟨negative, bits, hbits, rfl, hfinite, habs⟩ := exists_of_toUnits? h
  have hfactor := nearestBits_lt_infinityBits Nat.one_pos hm (by decide)
  have hproduct : signed negative bits hbits * ofInt m =
      ofRatio (negative != decide (m < 0)) (units bits * units (nearestBits m.natAbs 1))
        (unitsPerOne * unitsPerOne) := if_pos ⟨hfinite, hfactor⟩
  have hpos := unitsPerOne_pos
  rw [hproduct, isFinite_ofRatio_iff (Nat.mul_pos hpos hpos), units_nearestBits_one hm, habs]
  generalize unitsPerOne = d at *
  rw [← Nat.mul_assoc, ← Nat.mul_assoc]
  exact Nat.mul_lt_mul_right hpos

end Kinds

end Candlestick.Double
