import Mathlib.Tactic.Ring
import Mathlib.Tactic.Linarith
import Candlestick.Number.Double

set_option autoImplicit false

/-! # Rounding to 53 significant bits

What `Double.nearestBits` makes of a quotient in the normal range: its binary exponent puts the
quotient between two powers of two, the significand is the quotient rounded at that place, and the
units of the pattern are the significand shifted back. -/

namespace Candlestick.Double

/-! ## Rounding a quotient to a whole number -/

/-- Rounding never passes a whole number from above, -/
theorem roundQuotient_le {num den n : Nat} (h : num ≤ n * den) : roundQuotient num den ≤ n := by
  rcases Nat.eq_zero_or_pos den with rfl | hden
  · obtain rfl : num = 0 := by omega
    simp [roundQuotient]
  have hsplit := Nat.div_add_mod num den
  have hmod := Nat.mod_lt num hden
  have hquot : num / den ≤ n := Nat.div_le_of_le_mul (by rwa [Nat.mul_comm])
  unfold roundQuotient
  rcases Nat.eq_or_lt_of_le hquot with heq | hlt
  · -- Nothing is left over beside the full quotient.
    have hzero : num % den = 0 := by
      rw [heq, Nat.mul_comm] at hsplit
      omega
    simp only [hzero, Nat.mul_zero, if_pos hden]
    exact hquot
  · simp only
    split
    · exact hquot
    · split
      · exact hlt
      · omega

/-- nor from below. -/
theorem le_roundQuotient {num den n : Nat} (hden : 0 < den) (h : n * den ≤ num) :
    n ≤ roundQuotient num den := by
  have hquot : n ≤ num / den := (Nat.le_div_iff_mul_le hden).2 h
  unfold roundQuotient
  simp only
  split
  · exact hquot
  · split <;> omega

/-- More than a half is rounded up. -/
theorem lt_roundQuotient {num den n : Nat} (hden : 0 < den) (h : (2 * n + 1) * den < 2 * num) :
    n < roundQuotient num den := by
  have hle : n * den ≤ num := by
    have : (2 * n + 1) * den = 2 * (n * den) + den := by ring
    omega
  have hquot : n ≤ num / den := (Nat.le_div_iff_mul_le hden).2 hle
  rcases Nat.eq_or_lt_of_le hquot with heq | hlt
  · have hsplit := Nat.div_add_mod num den
    have htwice : den < 2 * (num % den) := by
      have : (2 * n + 1) * den = 2 * (den * n) + den := by ring
      rw [← heq] at hsplit
      omega
    unfold roundQuotient
    simp only
    rw [if_neg (by omega), if_pos htwice]
    omega
  · exact Nat.lt_of_lt_of_le hlt
      (le_roundQuotient hden ((Nat.le_div_iff_mul_le hden).1 (Nat.le_refl _)))

/-- What is rounded off is a half at most, -/
theorem two_mul_roundQuotient_le (num den : Nat) :
    2 * (roundQuotient num den * den) ≤ 2 * num + den := by
  have hsplit := Nat.div_add_mod num den
  have hup : (num / den + 1) * den = den * (num / den) + den := by ring
  rw [Nat.mul_comm den] at hsplit hup
  unfold roundQuotient
  simp only
  split
  · omega
  · split
    · omega
    · rcases Nat.mod_two_eq_zero_or_one (num / den) with heven | hodd
      · rw [heven, Nat.add_zero]
        omega
      · rw [hodd]
        omega

/-- and so is what is added. -/
theorem two_mul_le_roundQuotient (num : Nat) {den : Nat} (hden : 0 < den) :
    2 * num ≤ 2 * (roundQuotient num den * den) + den := by
  have hsplit := Nat.div_add_mod num den
  have hmod := Nat.mod_lt num hden
  have hup : (num / den + 1) * den = num / den * den + den := by ring
  have heven : num / den * den ≤ (num / den + num / den % 2) * den := Nat.mul_le_mul_right den (by omega)
  rw [Nat.mul_comm den] at hsplit
  unfold roundQuotient
  simp only
  split
  · omega
  · split <;> omega

/-! ## The binary exponent -/

/-- The exponent is the difference of the lengths, or one less where that is not reached. A negative
    power stands on the other side of the comparison. -/
theorem binaryExponent_eq (num den : Nat) :
    binaryExponent num den =
      if den * 2 ^ ((num.log2 : Int) - den.log2).toNat ≤ num * 2 ^ (-((num.log2 : Int) - den.log2)).toNat
      then (num.log2 : Int) - den.log2 else (num.log2 : Int) - den.log2 - 1 := by
  unfold binaryExponent
  generalize (num.log2 : Int) - den.log2 = e
  by_cases he : 0 ≤ e
  · have hneg : (-e).toNat = 0 := by omega
    simp [he, hneg, Nat.shiftLeft_eq]
  · have hpos : e.toNat = 0 := by omega
    simp [he, hpos, Nat.shiftLeft_eq]

theorem nearestBits_of_pos {num den : Nat} (hnum : 0 < num) {place : Int}
    (hplace : Max.max (binaryExponent num den - 52) (-1074) = place) :
    nearestBits num den =
      Min.min ((if 0 ≤ place then roundQuotient num (den * 2 ^ place.toNat)
        else roundQuotient (num * 2 ^ (-place).toNat) den) + (place + 1074).toNat * 2 ^ 52)
        infinityBits := by
  have hleading : leadingBit = 2 ^ 52 := by decide
  unfold nearestBits
  rw [if_neg (Nat.ne_of_gt hnum)]
  simp only [hplace, hleading, Nat.shiftLeft_eq]

/-- A quotient lies between the power of two of its exponent and the next one. -/
theorem binaryExponent_spec {num den : Nat} (hnum : 0 < num) (hden : 0 < den) :
    den * 2 ^ (binaryExponent num den).toNat ≤ num * 2 ^ (-binaryExponent num den).toNat ∧
      num * 2 ^ (-binaryExponent num den).toNat <
        2 * (den * 2 ^ (binaryExponent num den).toNat) := by
  have hnumlo : 2 ^ num.log2 ≤ num := Nat.log2_self_le (by omega)
  have hnumhi : num < 2 ^ (num.log2 + 1) := Nat.lt_log2_self
  have hdenlo : 2 ^ den.log2 ≤ den := Nat.log2_self_le (by omega)
  have hdenhi : den < 2 ^ (den.log2 + 1) := Nat.lt_log2_self
  rw [binaryExponent_eq]
  generalize num.log2 = a at *
  generalize den.log2 = b at *
  rcases Nat.lt_or_ge b a with hba | hab
  · -- The numerator is longer by `k + 1` places.
    obtain ⟨k, rfl⟩ : ∃ k, a = b + (k + 1) := ⟨a - b - 1, by omega⟩
    have hp : (((b + (k + 1) : Nat) : Int) - b).toNat = k + 1 := by omega
    have hn : (-(((b + (k + 1) : Nat) : Int) - b)).toNat = 0 := by omega
    have hp' : (((b + (k + 1) : Nat) : Int) - b - 1).toNat = k := by omega
    have hn' : (-(((b + (k + 1) : Nat) : Int) - b - 1)).toNat = 0 := by omega
    have hupper : num < 2 * (den * 2 ^ (k + 1)) := by
      calc num < 2 ^ (b + (k + 1) + 1) := hnumhi
        _ = 2 * (2 ^ b * 2 ^ (k + 1)) := by ring
        _ ≤ 2 * (den * 2 ^ (k + 1)) := by gcongr
    have hlower : den * 2 ^ k ≤ num := by
      calc den * 2 ^ k ≤ 2 ^ (b + 1) * 2 ^ k := Nat.mul_le_mul_right _ (Nat.le_of_lt hdenhi)
        _ = 2 ^ (b + (k + 1)) := by ring
        _ ≤ num := hnumlo
    have hshift : 2 * (den * 2 ^ k) = den * 2 ^ (k + 1) := by ring
    rw [hp, hn, Nat.pow_zero, Nat.mul_one]
    split
    · rw [hp, hn, Nat.pow_zero, Nat.mul_one]
      exact ⟨‹_›, hupper⟩
    · rw [hp', hn', Nat.pow_zero, Nat.mul_one]
      omega
  · -- The denominator is longer by `k` places, or both are equally long.
    obtain ⟨k, rfl⟩ : ∃ k, b = a + k := ⟨b - a, by omega⟩
    have hp : ((a : Int) - ((a + k : Nat) : Int)).toNat = 0 := by omega
    have hn : (-((a : Int) - ((a + k : Nat) : Int))).toNat = k := by omega
    have hp' : ((a : Int) - ((a + k : Nat) : Int) - 1).toNat = 0 := by omega
    have hn' : (-((a : Int) - ((a + k : Nat) : Int) - 1)).toNat = k + 1 := by omega
    have hupper : num * 2 ^ k < 2 * den := by
      calc num * 2 ^ k < 2 ^ (a + 1) * 2 ^ k := Nat.mul_lt_mul_of_pos_right hnumhi (Nat.two_pow_pos k)
        _ = 2 * 2 ^ (a + k) := by ring
        _ ≤ 2 * den := by gcongr
    have hlower : den ≤ num * 2 ^ (k + 1) := by
      calc den ≤ 2 ^ (a + k + 1) := Nat.le_of_lt hdenhi
        _ = 2 ^ a * 2 ^ (k + 1) := by ring
        _ ≤ num * 2 ^ (k + 1) := by gcongr
    have hshift : num * 2 ^ (k + 1) = 2 * (num * 2 ^ k) := by ring
    rw [hp, hn, Nat.pow_zero, Nat.mul_one]
    split
    · rw [hp, hn, Nat.pow_zero, Nat.mul_one]
      exact ⟨‹_›, hupper⟩
    · rw [hp', hn', Nat.pow_zero, Nat.mul_one]
      omega

/-! ## Patterns in the normal range -/

theorem units_eq (bits : Nat) :
    units bits = if bits < 2 ^ 52 then bits else (2 ^ 52 + bits % 2 ^ 52) * 2 ^ (bits / 2 ^ 52 - 1) := by
  rw [← Nat.shiftLeft_eq]
  rfl

/-- The units of a pattern that is put together from a significand of 53 bits and an exponent. A
    significand that rounding has carried to the next power of two counts as well. -/
theorem units_add_mul {significand : Nat} (hlo : 2 ^ 52 ≤ significand) (hhi : significand ≤ 2 ^ 53)
    (exponent : Nat) : units (significand + exponent * 2 ^ 52) = significand * 2 ^ exponent := by
  have hbig : ¬ significand + exponent * 2 ^ 52 < 2 ^ 52 := by omega
  rw [units_eq, if_neg hbig]
  rcases Nat.lt_or_eq_of_le hhi with hlt | rfl
  · have hdiv : (significand + exponent * 2 ^ 52) / 2 ^ 52 = exponent + 1 := by omega
    have hmod : (significand + exponent * 2 ^ 52) % 2 ^ 52 = significand - 2 ^ 52 := by omega
    rw [hdiv, hmod, Nat.add_sub_cancel, Nat.add_sub_cancel' hlo]
  · have hdiv : (2 ^ 53 + exponent * 2 ^ 52) / 2 ^ 52 = exponent + 2 := by omega
    have hmod : (2 ^ 53 + exponent * 2 ^ 52) % 2 ^ 52 = 0 := by omega
    rw [hdiv, hmod, show exponent + 2 - 1 = exponent + 1 by omega]
    ring

/-- The significand of a quotient with an exponent that keeps 53 bits. -/
def significand (num den : Nat) : Nat :=
  if 52 ≤ binaryExponent num den then
    roundQuotient num (den * 2 ^ (binaryExponent num den - 52).toNat)
  else roundQuotient (num * 2 ^ (52 - binaryExponent num den).toNat) den

/-- A significand has 53 bits, or has been carried to the next power of two. -/
theorem significand_bounds {num den : Nat} (hnum : 0 < num) (hden : 0 < den) :
    2 ^ 52 ≤ significand num den ∧ significand num den ≤ 2 ^ 53 := by
  obtain ⟨hlo, hhi⟩ := binaryExponent_spec hnum hden
  unfold significand
  generalize binaryExponent num den = e at *
  split
  · obtain ⟨k, rfl⟩ : ∃ k : Nat, e = 52 + k := ⟨(e - 52).toNat, by omega⟩
    have hp : ((52 : Int) + k).toNat = 52 + k := by omega
    have hn : (-((52 : Int) + k)).toNat = 0 := by omega
    have hk : ((52 : Int) + k - 52).toNat = k := by omega
    rw [hp, hn, Nat.pow_zero, Nat.mul_one] at hlo hhi
    rw [hk]
    refine ⟨le_roundQuotient (Nat.mul_pos hden (Nat.two_pow_pos k)) ?_, roundQuotient_le ?_⟩
    · calc 2 ^ 52 * (den * 2 ^ k) = den * 2 ^ (52 + k) := by ring
        _ ≤ num := hlo
    · calc num ≤ 2 * (den * 2 ^ (52 + k)) := Nat.le_of_lt hhi
        _ = 2 ^ 53 * (den * 2 ^ k) := by ring
  · have hscale : 2 ^ 52 * den ≤ num * 2 ^ (52 - e).toNat ∧ num * 2 ^ (52 - e).toNat < 2 ^ 53 * den := by
      rcases Int.le_total 0 e with he | he
      · obtain ⟨n, rfl⟩ := Int.eq_ofNat_of_zero_le he
        have hn : (-(n : Int)).toNat = 0 := by omega
        have hk : ((52 : Int) - n).toNat = 52 - n := by omega
        rw [Int.toNat_natCast, hn, Nat.pow_zero, Nat.mul_one] at hlo hhi
        have hpow : 2 ^ n * 2 ^ (52 - n) = 2 ^ 52 := by
          rw [← Nat.pow_add]
          congr 1
          omega
        rw [hk]
        refine ⟨?_, ?_⟩
        · calc 2 ^ 52 * den = den * 2 ^ n * 2 ^ (52 - n) := by rw [← hpow]; ring
            _ ≤ num * 2 ^ (52 - n) := Nat.mul_le_mul_right _ hlo
        · calc num * 2 ^ (52 - n) < 2 * (den * 2 ^ n) * 2 ^ (52 - n) :=
                Nat.mul_lt_mul_of_pos_right hhi (Nat.two_pow_pos _)
            _ = 2 * den * (2 ^ n * 2 ^ (52 - n)) := by ring
            _ = 2 ^ 53 * den := by rw [hpow]; ring
      · obtain ⟨n, hn⟩ : ∃ n : Nat, e = -(n : Int) := ⟨(-e).toNat, by omega⟩
        have hp : e.toNat = 0 := by omega
        have hm : (-e).toNat = n := by omega
        have hk : (52 - e).toNat = n + 52 := by omega
        rw [hp, hm, Nat.pow_zero, Nat.mul_one] at hlo hhi
        rw [hk, Nat.pow_add, ← Nat.mul_assoc, Nat.mul_comm _ (2 ^ 52)]
        omega
    exact ⟨le_roundQuotient hden hscale.1, roundQuotient_le (Nat.le_of_lt hscale.2)⟩

/-- From the normal range on, a quotient's pattern is its significand at its exponent, or infinity. -/
theorem nearestBits_eq_min {num den : Nat} (hnum : 0 < num) (hlo : -1022 ≤ binaryExponent num den) :
    nearestBits num den =
      Min.min (significand num den + (binaryExponent num den + 1022).toNat * 2 ^ 52) infinityBits := by
  have hplace : Max.max (binaryExponent num den - 52) (-1074) = binaryExponent num den - 52 := by
    omega
  have hexp : (binaryExponent num den - 52 + 1074).toNat = (binaryExponent num den + 1022).toNat := by
    omega
  have hsame : (if 0 ≤ binaryExponent num den - 52 then
        roundQuotient num (den * 2 ^ (binaryExponent num den - 52).toNat)
      else roundQuotient (num * 2 ^ (-(binaryExponent num den - 52)).toNat) den) =
      significand num den := by
    unfold significand
    rw [show -(binaryExponent num den - 52) = 52 - binaryExponent num den by omega]
    split <;> split <;> first | rfl | omega
  rw [nearestBits_of_pos hnum hplace, hexp, hsame]

/-- In the normal range it is finite. -/
theorem nearestBits_eq {num den : Nat} (hnum : 0 < num) (hden : 0 < den)
    (hlo : -1022 ≤ binaryExponent num den) (hhi : binaryExponent num den ≤ 1022) :
    nearestBits num den =
      significand num den + (binaryExponent num den + 1022).toNat * 2 ^ 52 := by
  have hbounds := significand_bounds hnum hden
  have hfinite : significand num den + (binaryExponent num den + 1022).toNat * 2 ^ 52 ≤
      infinityBits := by
    have hfield : (binaryExponent num den + 1022).toNat ≤ 2044 := by omega
    have hscaled : (binaryExponent num den + 1022).toNat * 2 ^ 52 ≤ 2044 * 2 ^ 52 :=
      Nat.mul_le_mul_right _ hfield
    unfold infinityBits
    omega
  rw [nearestBits_eq_min hnum hlo]
  exact Nat.min_eq_left hfinite

theorem nearestBits_zero (den : Nat) : nearestBits 0 den = 0 := rfl

/-! ## The least whole number above a quotient

The numerator and the denominator have no more than 53 bits. Then a quotient above a whole number is
so far above it that rounding does not bring it down to it. -/

/-- The exponent of a quotient of numbers of 53 bits. -/
theorem binaryExponent_bounds {num den : Nat} (hnum : 0 < num) (hden : 0 < den)
    (hnum' : num ≤ 2 ^ 53) (hden' : den ≤ 2 ^ 53) :
    -53 ≤ binaryExponent num den ∧ binaryExponent num den ≤ 53 := by
  obtain ⟨hlo, hhi⟩ := binaryExponent_spec hnum hden
  generalize binaryExponent num den = e at *
  refine ⟨?_, ?_⟩
  · by_contra hlow
    have hpow : 2 ^ 54 ≤ 2 ^ (-e).toNat := Nat.pow_le_pow_right (by omega) (by omega)
    have hscaled : 1 * 2 ^ 54 ≤ num * 2 ^ (-e).toNat := Nat.mul_le_mul hnum hpow
    have hzero : e.toNat = 0 := by omega
    rw [hzero] at hhi
    omega
  · by_contra hhigh
    have hpow : 2 ^ 54 ≤ 2 ^ e.toNat := Nat.pow_le_pow_right (by omega) (by omega)
    have hscaled : 1 * 2 ^ 54 ≤ den * 2 ^ e.toNat := Nat.mul_le_mul hden hpow
    have hzero : (-e).toNat = 0 := by omega
    rw [hzero] at hlo
    omega

/-- A quotient above a whole number stays above it when it is rounded at the place `2 ^ -j`. -/
theorem lt_roundQuotient_shifted {num den m j : Nat} (hden : 0 < den) (hlt : m * den < num)
    (hroom : den < 2 ^ (j + 1) * (num - m * den)) :
    m * 2 ^ j < roundQuotient (num * 2 ^ j) den := by
  refine lt_roundQuotient hden ?_
  obtain ⟨d, rfl⟩ : ∃ d, num = m * den + d := ⟨num - m * den, by omega⟩
  rw [Nat.add_sub_cancel_left] at hroom
  calc (2 * (m * 2 ^ j) + 1) * den = 2 * (m * den) * 2 ^ j + den := by ring
    _ < 2 * (m * den) * 2 ^ j + 2 ^ (j + 1) * d := by omega
    _ = 2 * ((m * den + d) * 2 ^ j) := by ring

/-- How far a quotient with the exponent `52 - j` is above a smaller whole number `m`. The denominator
    is less than `2 ^ (j + 1)`, but for one quotient that is whole itself. -/
theorem lt_two_pow_mul_excess {num den m j : Nat} (hnum' : num ≤ 2 ^ 53) (hden' : den ≤ 2 ^ 53)
    (hlt : m * den < num)
    (hlo : den * 2 ^ ((52 : Int) - j).toNat ≤ num * 2 ^ (-((52 : Int) - j)).toNat) :
    den < 2 ^ (j + 1) * (num - m * den) := by
  have hexcess : 2 ^ (j + 1) * 1 ≤ 2 ^ (j + 1) * (num - m * den) :=
    Nat.mul_le_mul_left _ (by omega)
  by_cases hsmall : den < 2 ^ (j + 1)
  · omega
  have hj : j ≤ 52 := by
    by_contra hlarge
    have : 2 ^ 54 ≤ 2 ^ (j + 1) := Nat.pow_le_pow_right (by omega) (by omega)
    omega
  have hp : ((52 : Int) - j).toNat = 52 - j := by omega
  have hn : (-((52 : Int) - j)).toNat = 0 := by omega
  have hpow : 2 ^ (j + 1) * 2 ^ (52 - j) = 2 ^ 53 := by
    rw [← Nat.pow_add]
    congr 1
    omega
  rw [hp, hn, Nat.pow_zero, Nat.mul_one] at hlo
  have hden : den = 2 ^ (j + 1) := by
    refine Nat.le_antisymm ?_ (by omega)
    refine Nat.le_of_mul_le_mul_right (c := 2 ^ (52 - j)) ?_ (Nat.two_pow_pos _)
    omega
  have hnum : num = 2 ^ (52 - j) * den := by
    rw [Nat.mul_comm, hden, hpow]
    rw [hden, hpow] at hlo
    omega
  have hm : m + 1 ≤ 2 ^ (52 - j) := by
    rw [hnum] at hlt
    exact Nat.lt_of_mul_lt_mul_right hlt
  have hmul : (m + 1) * den ≤ num := by
    rw [hnum]
    exact Nat.mul_le_mul_right _ hm
  have hwhole : den ≤ num - m * den := by
    rw [Nat.add_mul, Nat.one_mul] at hmul
    omega
  have htwo : 2 ≤ 2 ^ (j + 1) := by
    rw [Nat.pow_succ]
    have := Nat.two_pow_pos j
    omega
  have hpos : 0 < den := by
    rw [hden]
    exact Nat.two_pow_pos _
  calc den < 2 * den := by omega
    _ ≤ 2 ^ (j + 1) * (num - m * den) := Nat.mul_le_mul htwo hwhole

theorem unitsPerOne_eq : unitsPerOne = 2 ^ 1074 := by
  unfold unitsPerOne
  generalize 1074 = n
  rw [Nat.one_shiftLeft]

theorem unitsPerOne_pos : 0 < unitsPerOne := by
  rw [unitsPerOne_eq]
  generalize 1074 = n
  exact Nat.two_pow_pos n

theorem mul_two_pow_add_unit (q k : Nat) : q * 2 ^ (k + 1074) = q * 2 ^ k * unitsPerOne := by
  rw [unitsPerOne_eq]
  generalize 1074 = n
  rw [Nat.pow_add, Nat.mul_assoc]

theorem unitsPerOne_split {j : Nat} (h : j ≤ 1074) : unitsPerOne = 2 ^ j * 2 ^ (1074 - j) := by
  rw [← Nat.pow_add, Nat.add_sub_cancel' h, unitsPerOne_eq]

/-- A quotient whose last place is `2 ^ -j` is rounded at that place. -/
theorem units_nearestBits_of_fraction {num den j : Nat} (hnum : 0 < num) (hden : 0 < den)
    (he : binaryExponent num den = 52 - j) (hj : j ≤ 1074) :
    units (nearestBits num den) = roundQuotient (num * 2 ^ j) den * 2 ^ (1074 - j) := by
  obtain ⟨hsiglo, hsighi⟩ := significand_bounds hnum hden
  have hshift : ((52 : Int) - (52 - j)).toNat = j := by omega
  have hfield : ((52 : Int) - j + 1022).toNat = 1074 - j := by omega
  rw [nearestBits_eq hnum hden (by omega) (by omega), units_add_mul hsiglo hsighi, significand, he, hshift,
    hfield]
  split
  · obtain rfl : j = 0 := by omega
    have hplace : ((52 : Int) - (0 : Nat) - 52).toNat = 0 := by omega
    rw [hplace, Nat.pow_zero, Nat.mul_one, Nat.mul_one]
  · rfl

/-- A quotient whose last place is `2 ^ k` is rounded at that place. -/
theorem units_nearestBits_of_whole {num den k : Nat} (hnum : 0 < num) (hden : 0 < den)
    (he : binaryExponent num den = 52 + k) (hk : k ≤ 970) :
    units (nearestBits num den) = roundQuotient num (den * 2 ^ k) * 2 ^ k * unitsPerOne := by
  obtain ⟨hsiglo, hsighi⟩ := significand_bounds hnum hden
  have hshift : ((52 : Int) + k - 52).toNat = k := by omega
  have hfield : ((52 : Int) + k + 1022).toNat = k + 1074 := by omega
  rw [nearestBits_eq hnum hden (by omega) (by omega), units_add_mul hsiglo hsighi, significand, he, hshift,
    hfield, if_pos (by omega), mul_two_pow_add_unit]

/-- At the place `2 ^ -j`, rounding does not move a quotient past a whole number from above. -/
theorem roundQuotient_shifted_le {num den m : Nat} (j : Nat) (h : num ≤ m * den) :
    roundQuotient (num * 2 ^ j) den ≤ m * 2 ^ j := by
  refine roundQuotient_le ?_
  calc num * 2 ^ j ≤ m * den * 2 ^ j := Nat.mul_le_mul_right _ h
    _ = m * 2 ^ j * den := by ring

/-- Rounding a quotient of numbers of 53 bits does not move it past a whole number. -/
theorem units_nearestBits_le_iff {num den : Nat} (hden : 0 < den) (hnum' : num ≤ 2 ^ 53)
    (hden' : den ≤ 2 ^ 53) (m : Nat) :
    units (nearestBits num den) ≤ m * unitsPerOne ↔ num ≤ m * den := by
  rcases Nat.eq_zero_or_pos num with rfl | hnum
  · have hzero : units 0 = 0 := rfl
    simp [nearestBits_zero, hzero]
  obtain ⟨hlow, hhigh⟩ := binaryExponent_bounds hnum hden hnum' hden'
  obtain ⟨hlo, -⟩ := binaryExponent_spec hnum hden
  rcases Int.lt_or_le (binaryExponent num den) 52 with hfraction | hwhole
  · -- The last place is `2 ^ -j`.
    obtain ⟨j, he⟩ : ∃ j : Nat, binaryExponent num den = 52 - j :=
      ⟨(52 - binaryExponent num den).toNat, by omega⟩
    rw [he] at hlo
    rw [units_nearestBits_of_fraction hnum hden he (by omega), unitsPerOne_split (by omega : j ≤ 1074),
      ← Nat.mul_assoc, Nat.mul_le_mul_right_iff (Nat.two_pow_pos _)]
    refine ⟨fun hle => ?_, roundQuotient_shifted_le j⟩
    by_contra hgt
    have hlt : m * den < num := by omega
    exact absurd (lt_roundQuotient_shifted hden hlt
      (lt_two_pow_mul_excess hnum' hden' hlt hlo)) (by omega)
  · -- The last place is a whole number, and the quotient is exact.
    obtain ⟨k, he⟩ : ∃ k : Nat, binaryExponent num den = 52 + k :=
      ⟨(binaryExponent num den - 52).toNat, by omega⟩
    have hp : ((52 : Int) + k).toNat = 52 + k := by omega
    have hn : (-((52 : Int) + k)).toNat = 0 := by omega
    rw [he, hp, hn, Nat.pow_zero, Nat.mul_one, Nat.pow_add, Nat.mul_left_comm] at hlo
    have hplace : 0 < den * 2 ^ k := Nat.mul_pos hden (Nat.two_pow_pos k)
    have hdvd : den * 2 ^ k ∣ num := by
      rcases (by omega : den * 2 ^ k = 1 ∨ den * 2 ^ k = 2) with h | h
      · rw [h]
        exact Nat.one_dvd num
      · rw [h]
        omega
    rw [units_nearestBits_of_whole hnum hden he (by omega)]
    obtain ⟨q, hq⟩ := hdvd
    rw [show num = q * (den * 2 ^ k) by rw [hq, Nat.mul_comm], roundQuotient_mul q hplace,
      Nat.mul_le_mul_right_iff unitsPerOne_pos, show q * (den * 2 ^ k) = q * 2 ^ k * den by ring,
      Nat.mul_le_mul_right_iff hden]

/-- A quotient of numbers of 53 bits is finite. -/
theorem nearestBits_lt_infinityBits {num den : Nat} (hden : 0 < den) (hnum' : num ≤ 2 ^ 53)
    (hden' : den ≤ 2 ^ 53) : nearestBits num den < infinityBits := by
  rcases Nat.eq_zero_or_pos num with rfl | hnum
  · rw [nearestBits_zero]
    decide
  obtain ⟨hlow, hhigh⟩ := binaryExponent_bounds hnum hden hnum' hden'
  obtain ⟨-, hsig⟩ := significand_bounds hnum hden
  rw [nearestBits_eq hnum hden (by omega) (by omega)]
  have hfield : (binaryExponent num den + 1022).toNat ≤ 1075 := by omega
  have hscaled := Nat.mul_le_mul_right (2 ^ 52) hfield
  unfold infinityBits
  omega

/-- A natural number is the ceiling of a quotient where the multiples of the divisor reach the
    dividend from it on. -/
theorem neg_neg_fdiv_eq {u d n : Nat} (hd : 0 < d) (h : ∀ m : Nat, u ≤ m * d ↔ n ≤ m) :
    -((-(u : Int)).fdiv d) = n := by
  have hd' : (0 : Int) < d := by omega
  rw [Int.fdiv_eq_ediv_of_nonneg _ (Int.le_of_lt hd')]
  have hceil : ∀ m : Nat, -((-(u : Int)) / d) ≤ m ↔ u ≤ m * d := by
    intro m
    have hle : -((-(u : Int)) / d) ≤ m ↔ -(m : Int) ≤ -(u : Int) / d := by omega
    rw [hle, Int.le_ediv_iff_mul_le hd', Int.neg_mul, Int.neg_le_neg_iff]
    exact_mod_cast Iff.rfl
  have hnonneg : 0 ≤ -((-(u : Int)) / d) := by
    have := Int.ediv_le_ediv hd' (by omega : -(u : Int) ≤ 0)
    rw [Int.zero_ediv] at this
    omega
  obtain ⟨c, hc⟩ := Int.eq_ofNat_of_zero_le hnonneg
  simp only [hc, Int.ofNat_le] at hceil ⊢
  have hle := (h c).1 ((hceil c).1 (Nat.le_refl c))
  have hge := (hceil n).2 ((h n).2 (Nat.le_refl n))
  omega

/-- A quotient is rounded before its ceiling is taken, and still it is the exact one. -/
theorem ceil?_ofQuotient {a b : Int} (ha : 0 ≤ a) (ha' : a ≤ 2 ^ 53) (hb : 0 < b) (hb' : b ≤ 2 ^ 53) :
    (ofQuotient a b).ceil? = some (-((-a).fdiv b)) := by
  obtain ⟨num, rfl⟩ := Int.eq_ofNat_of_zero_le ha
  obtain ⟨den, rfl⟩ := Int.eq_ofNat_of_zero_le (Int.le_of_lt hb)
  have hden : 0 < den := by omega
  have hnum' : num ≤ 2 ^ 53 := by omega
  have hden' : den ≤ 2 ^ 53 := by omega
  have hfinite := nearestBits_lt_infinityBits hden hnum' hden'
  have hunits : (ofQuotient num den).toUnits? = some (units (nearestBits num den) : Int) := by
    have hsign : (((num : Int) < 0) != ((den : Int) < 0) : Bool) = false := by
      simp [Int.not_lt.2 ha, Int.not_lt.2 (Int.le_of_lt hb)]
    rw [ofQuotient, hsign, Int.natAbs_natCast, Int.natAbs_natCast, ofRatio, toUnits?, if_pos hfinite]
    rfl
  -- Both ceilings are the least `m` with `num ≤ m * den`.
  obtain ⟨n, hn⟩ : ∃ n : Nat, ∀ m : Nat, num ≤ m * den ↔ n ≤ m := by
    refine ⟨(num + den - 1) / den, fun m => ?_⟩
    rw [Nat.div_le_iff_le_mul_add_pred hden, Nat.mul_comm den m]
    omega
  have hrounded := neg_neg_fdiv_eq (u := units (nearestBits num den)) (d := unitsPerOne)
    unitsPerOne_pos fun m => (units_nearestBits_le_iff hden hnum' hden' m).trans (hn m)
  have hexact := neg_neg_fdiv_eq hden hn
  rw [ceil?, hunits, Option.map_some, hrounded, hexact]

/-! ## Exact quotients -/

/-- A whole number of 53 bits is kept exactly. -/
theorem units_nearestBits_one {n : Nat} (hn : n ≤ 2 ^ 53) :
    units (nearestBits n 1) = n * unitsPerOne := by
  rcases Nat.eq_zero_or_pos n with rfl | hpos
  · rw [Nat.zero_mul]
    rfl
  obtain ⟨-, hhigh⟩ := binaryExponent_bounds hpos Nat.one_pos hn (by decide)
  obtain ⟨hlo, hhi⟩ := binaryExponent_spec hpos Nat.one_pos
  have hnonneg : 0 ≤ binaryExponent n 1 := by
    generalize binaryExponent n 1 = e at *
    by_contra hneg
    have hpow : 2 ^ 1 ≤ 2 ^ (-e).toNat := Nat.pow_le_pow_right (by omega) (by omega)
    have hscaled : 1 * 2 ^ 1 ≤ n * 2 ^ (-e).toNat := Nat.mul_le_mul hpos hpow
    have hzero : e.toNat = 0 := by omega
    rw [hzero] at hhi
    omega
  rcases Int.lt_or_le (binaryExponent n 1) 52 with hfraction | hwhole
  · obtain ⟨j, he⟩ : ∃ j : Nat, binaryExponent n 1 = 52 - j :=
      ⟨(52 - binaryExponent n 1).toNat, by omega⟩
    have hround := roundQuotient_mul (n * 2 ^ j) Nat.one_pos
    rw [Nat.mul_one] at hround
    rw [units_nearestBits_of_fraction hpos Nat.one_pos he (by omega), hround,
      unitsPerOne_split (by omega : j ≤ 1074), Nat.mul_assoc]
  · -- The quotient is so long that its last place may be two: then it is the power of two itself.
    obtain ⟨k, he⟩ : ∃ k : Nat, binaryExponent n 1 = 52 + k :=
      ⟨(binaryExponent n 1 - 52).toNat, by omega⟩
    have hp : ((52 : Int) + k).toNat = 52 + k := by omega
    have hn' : (-((52 : Int) + k)).toNat = 0 := by omega
    rw [he, hp, hn', Nat.pow_zero, Nat.mul_one, Nat.one_mul, Nat.pow_add] at hlo
    have hdvd : 2 ^ k ∣ n := by
      rcases (by omega : k = 0 ∨ k = 1) with rfl | rfl
      · exact Nat.one_dvd n
      · omega
    rw [units_nearestBits_of_whole hpos Nat.one_pos he (by omega)]
    obtain ⟨q, rfl⟩ := hdvd
    rw [Nat.one_mul, Nat.mul_comm (2 ^ k), roundQuotient_mul q (Nat.two_pow_pos k)]

theorem roundQuotient_mul_right (num den : Nat) {c : Nat} (hc : 0 < c) :
    roundQuotient (num * c) (den * c) = roundQuotient num den := by
  have hless : ∀ r, 2 * (r * c) < den * c ↔ 2 * r < den := fun r => by
    rw [← Nat.mul_assoc, Nat.mul_lt_mul_right hc]
  have hmore : ∀ r, den * c < 2 * (r * c) ↔ den < 2 * r := fun r => by
    rw [← Nat.mul_assoc, Nat.mul_lt_mul_right hc]
  simp only [roundQuotient, Nat.mul_div_mul_right _ _ hc, Nat.mul_mod_mul_right, hless, hmore]

/-- An exponent whose power of two a quotient reaches is not above one whose next power it stays below. -/
theorem exponent_le {num den : Nat} {e e' : Int} (hhi : num * 2 ^ (-e).toNat < 2 * (den * 2 ^ e.toNat))
    (hlo : den * 2 ^ e'.toNat ≤ num * 2 ^ (-e').toNat) : e' ≤ e := by
  have hpow : den * 2 ^ (e'.toNat + (-e).toNat) < den * 2 ^ (e.toNat + (-e').toNat + 1) := by
    calc den * 2 ^ (e'.toNat + (-e).toNat) = den * 2 ^ e'.toNat * 2 ^ (-e).toNat := by ring
      _ ≤ num * 2 ^ (-e').toNat * 2 ^ (-e).toNat := Nat.mul_le_mul_right _ hlo
      _ = num * 2 ^ (-e).toNat * 2 ^ (-e').toNat := by ring
      _ < 2 * (den * 2 ^ e.toNat) * 2 ^ (-e').toNat :=
        Nat.mul_lt_mul_of_pos_right hhi (Nat.two_pow_pos _)
      _ = den * 2 ^ (e.toNat + (-e').toNat + 1) := by ring
  have := (Nat.pow_lt_pow_iff_right (by omega)).1 (Nat.lt_of_mul_lt_mul_left hpow)
  omega

/-- Only one exponent puts a quotient between its power of two and the next one. -/
theorem eq_binaryExponent {num den : Nat} (hnum : 0 < num) (hden : 0 < den) {e : Int}
    (hlo : den * 2 ^ e.toNat ≤ num * 2 ^ (-e).toNat)
    (hhi : num * 2 ^ (-e).toNat < 2 * (den * 2 ^ e.toNat)) : e = binaryExponent num den := by
  obtain ⟨hlo', hhi'⟩ := binaryExponent_spec hnum hden
  exact Int.le_antisymm (exponent_le hhi' hlo) (exponent_le hhi hlo')

theorem binaryExponent_mul_right {num den c : Nat} (hnum : 0 < num) (hden : 0 < den) (hc : 0 < c) :
    binaryExponent (num * c) (den * c) = binaryExponent num den := by
  obtain ⟨hlo, hhi⟩ := binaryExponent_spec hnum hden
  refine (eq_binaryExponent (Nat.mul_pos hnum hc) (Nat.mul_pos hden hc) ?_ ?_).symm
  · rw [Nat.mul_right_comm den, Nat.mul_right_comm num]
    exact Nat.mul_le_mul_right c hlo
  · rw [Nat.mul_right_comm den, Nat.mul_right_comm num, ← Nat.mul_assoc 2]
    exact Nat.mul_lt_mul_of_pos_right hhi hc

/-- A quotient's pattern stays the same where both sides are multiplied. -/
theorem nearestBits_mul_right (num : Nat) {den c : Nat} (hden : 0 < den) (hc : 0 < c) :
    nearestBits (num * c) (den * c) = nearestBits num den := by
  rcases Nat.eq_zero_or_pos num with rfl | hnum
  · rw [Nat.zero_mul, nearestBits_zero, nearestBits_zero]
  have hround : ∀ place : Int,
      (if 0 ≤ place then roundQuotient (num * c) (den * c * 2 ^ place.toNat)
        else roundQuotient (num * c * 2 ^ (-place).toNat) (den * c)) =
      if 0 ≤ place then roundQuotient num (den * 2 ^ place.toNat)
        else roundQuotient (num * 2 ^ (-place).toNat) den := fun place => by
    rw [Nat.mul_right_comm den, Nat.mul_right_comm num, roundQuotient_mul_right _ _ hc,
      roundQuotient_mul_right _ _ hc]
  rw [nearestBits_of_pos (Nat.mul_pos hnum hc) rfl, nearestBits_of_pos hnum rfl,
    binaryExponent_mul_right hnum hden hc, hround]

/-! ## Quotients below a whole number

A quotient is not rounded past a whole number of 52 bits that it does not exceed. Its numerator and its
denominator may be of any size, and it may be so small that its last place is a single unit. -/

/-- A pattern of 52 bits is its own count of units. -/
theorem units_le_two_pow {bits : Nat} (h : bits ≤ 2 ^ 52) : units bits ≤ 2 ^ 52 := by
  rcases Nat.lt_or_eq_of_le h with hlt | rfl
  · rw [units_eq, if_pos hlt]
    exact h
  · decide

theorem mul_two_pow_le {num den n : Nat} (a b : Nat) (h : num * 2 ^ n < 2 * den) (ha : a ≤ n) :
    num * 2 ^ (a + b) ≤ 2 ^ (b + 1) * den := by
  have hpow : num * 2 ^ a ≤ 2 * den :=
    Nat.le_trans (Nat.mul_le_mul_left num (Nat.pow_le_pow_right (by omega) ha)) (Nat.le_of_lt h)
  calc num * 2 ^ (a + b) = num * 2 ^ a * 2 ^ b := by rw [Nat.pow_add, Nat.mul_assoc]
    _ ≤ 2 * den * 2 ^ b := Nat.mul_le_mul_right _ hpow
    _ = 2 ^ (b + 1) * den := by ring

/-- Below the normal range the last place is a unit, and a quotient has less than 53 bits of them. -/
theorem nearestBits_le_two_pow {num den : Nat} (hnum : 0 < num) (hden : 0 < den)
    (hsmall : binaryExponent num den < -1022) : nearestBits num den ≤ 2 ^ 52 := by
  obtain ⟨-, hhi⟩ := binaryExponent_spec hnum hden
  have hplace : Max.max (binaryExponent num den - 52) (-1074) = -1074 := by omega
  have hzero : (binaryExponent num den).toNat = 0 := by omega
  have hfield : (-1074 + 1074 : Int).toNat * 2 ^ 52 = 0 := by decide
  have hplaces : (-(-1074 : Int)).toNat = 1023 + 51 := by decide
  rw [hzero, Nat.pow_zero, Nat.mul_one] at hhi
  rw [nearestBits_of_pos hnum hplace, if_neg (by decide), hfield, Nat.add_zero, hplaces]
  exact Nat.le_trans (Nat.min_le_left _ _) (roundQuotient_le (mul_two_pow_le 1023 51 hhi (by omega)))

theorem two_pow_le_unitsPerOne : 2 ^ 52 ≤ unitsPerOne := by
  have hplaces : 52 ≤ 1074 := by omega
  rw [unitsPerOne_eq]
  generalize 1074 = n at *
  exact Nat.pow_le_pow_right (by omega) hplaces

theorem units_nearestBits_le {num den m : Nat} (hden : 0 < den) (hm : m ≤ 2 ^ 52)
    (h : num ≤ m * den) : units (nearestBits num den) ≤ m * unitsPerOne := by
  rcases Nat.eq_zero_or_pos num with rfl | hnum
  · have hzero : units 0 = 0 := rfl
    simp [nearestBits_zero, hzero]
  obtain ⟨hlo, -⟩ := binaryExponent_spec hnum hden
  have hexp : binaryExponent num den ≤ 52 := by
    by_contra hlarge
    have hpow : 2 ^ 53 ≤ 2 ^ (binaryExponent num den).toNat :=
      Nat.pow_le_pow_right (by omega) (by omega)
    have hzero : (-binaryExponent num den).toNat = 0 := by omega
    rw [hzero, Nat.pow_zero, Nat.mul_one] at hlo
    have hscaled := Nat.mul_le_mul_left den hpow
    have hbound : m * den ≤ 2 ^ 52 * den := Nat.mul_le_mul_right den hm
    rw [Nat.mul_comm den] at hscaled
    omega
  by_cases hnormal : -1022 ≤ binaryExponent num den
  · obtain ⟨j, he⟩ : ∃ j : Nat, binaryExponent num den = 52 - j :=
      ⟨(52 - binaryExponent num den).toNat, by omega⟩
    rw [units_nearestBits_of_fraction hnum hden he (by omega), unitsPerOne_split (by omega : j ≤ 1074),
      ← Nat.mul_assoc]
    exact Nat.mul_le_mul_right _ (roundQuotient_shifted_le j h)
  · have hbits := nearestBits_le_two_pow hnum hden (Int.not_le.1 hnormal)
    have hone : 1 ≤ m := Nat.pos_of_mul_pos_right (Nat.lt_of_lt_of_le hnum h)
    calc units (nearestBits num den) ≤ 2 ^ 52 := units_le_two_pow hbits
      _ ≤ unitsPerOne := two_pow_le_unitsPerOne
      _ ≤ m * unitsPerOne := Nat.le_mul_of_pos_left _ hone

/-- Nor is such a quotient rounded to infinity. -/
theorem nearestBits_lt_of_le {num den m : Nat} (hden : 0 < den) (hm : m ≤ 2 ^ 52)
    (h : num ≤ m * den) : nearestBits num den < infinityBits := by
  refine Nat.lt_of_le_of_ne (nearestBits_le num den) fun hinfinite => ?_
  have hbits : infinityBits = 2 ^ 52 + 2046 * 2 ^ 52 := by decide
  have hunits := units_nearestBits_le hden hm h
  rw [hinfinite, hbits, units_add_mul (by decide) (by decide), unitsPerOne_eq] at hunits
  have hplaces : 1074 < 2046 := by omega
  generalize 2046 = long at *
  generalize 1074 = short at *
  have hpow : 2 ^ short < 2 ^ long := Nat.pow_lt_pow_right (by omega) hplaces
  have hlt : 2 ^ 52 * 2 ^ short < 2 ^ 52 * 2 ^ long := Nat.mul_lt_mul_of_pos_left hpow (Nat.two_pow_pos 52)
  have hle : m * 2 ^ short ≤ 2 ^ 52 * 2 ^ short := Nat.mul_le_mul_right _ hm
  omega

/-! ## How far a quotient is moved -/

/-- Below `2 ^ (b + 1)` the last place is at most `2 ^ (b - 52)`, and rounding moves a quotient by half of
    that at most. -/
theorem units_nearestBits_near {num den b : Nat} (hden : 0 < den) (hb : b ≤ 52)
    (hlo : den ≤ num * 2 ^ 53) (hhi : num < 2 * (den * 2 ^ b)) :
    units (nearestBits num den) * den * 2 ^ (53 - b) ≤ (num * 2 ^ (53 - b) + den) * unitsPerOne ∧
      num * 2 ^ (53 - b) * unitsPerOne ≤ (units (nearestBits num den) * 2 ^ (53 - b) + unitsPerOne) * den := by
  have hnum : 0 < num := Nat.pos_of_ne_zero fun hzero => by
    rw [hzero] at hlo
    omega
  obtain ⟨hreached, hbelow⟩ := binaryExponent_spec hnum hden
  have hlow : -53 ≤ binaryExponent num den := exponent_le hbelow (by simpa using hlo)
  have hhigh : binaryExponent num den ≤ b := exponent_le (by simpa using hhi) hreached
  obtain ⟨j, he⟩ : ∃ j : Nat, binaryExponent num den = 52 - j :=
    ⟨(52 - binaryExponent num den).toNat, by omega⟩
  have hplace : 2 ^ (53 - b) ≤ 2 * 2 ^ j := by
    rw [← Nat.pow_succ']
    exact Nat.pow_le_pow_right (by omega) (by omega)
  have hdown := two_mul_roundQuotient_le (num * 2 ^ j) den
  have hup := two_mul_le_roundQuotient (num * 2 ^ j) hden
  rw [units_nearestBits_of_fraction hnum hden he (by omega), unitsPerOne_split (by omega : j ≤ 1074)]
  generalize roundQuotient (num * 2 ^ j) den = q at *
  generalize 2 ^ (1074 - j) = p at *
  generalize 2 ^ (53 - b) = s at *
  generalize 2 ^ j = r at *
  constructor
  · refine Nat.le_of_mul_le_mul_left (c := 2) ?_ (by omega)
    calc 2 * (q * p * den * s) = 2 * (q * den) * (s * p) := by ring
      _ ≤ (2 * (num * r) + den) * (s * p) := Nat.mul_le_mul_right _ hdown
      _ = 2 * (num * s * (r * p)) + den * p * s := by ring
      _ ≤ 2 * (num * s * (r * p)) + den * p * (2 * r) := by gcongr
      _ = 2 * ((num * s + den) * (r * p)) := by ring
  · refine Nat.le_of_mul_le_mul_left (c := 2) ?_ (by omega)
    calc 2 * (num * s * (r * p)) = 2 * (num * r) * (s * p) := by ring
      _ ≤ (2 * (q * den) + den) * (s * p) := Nat.mul_le_mul_right _ hup
      _ = 2 * (q * p * s * den) + den * p * s := by ring
      _ ≤ 2 * (q * p * s * den) + den * p * (2 * r) := by gcongr
      _ = 2 * ((q * p * s + r * p) * den) := by ring

end Candlestick.Double
