import Candlestick.Calendar.Moment
import Candlestick.Market.TimeFrame
import Candlestick.Proofs.Calendar.Date
import Candlestick.Proofs.Number.Opposite
import Candlestick.Proofs.Number.Reading

set_option autoImplicit false

/-! # Milliseconds are moments

Milliseconds become binary64 seconds, which are split into whole seconds and a part of one. Each of these
steps is rounded, and none of them leads out of the calendar: every millisecond of it up to its last second
has a moment, and a whole second has its own. Back from a moment the milliseconds may be one too few, but
no whole second lies between. -/

namespace Candlestick

namespace Double

/-- A quotient of whole numbers is rounded once. -/
theorem div_ofInt {n d : Nat} (hn : n ≤ 2 ^ 53) (hd : 0 < d) (hd' : d ≤ 2 ^ 53) :
    (ofInt n).div (ofInt d) = ofRatio false n d := by
  have hfinite := nearestBits_lt_infinityBits Nat.one_pos hn (by decide)
  have hfinite' := nearestBits_lt_infinityBits Nat.one_pos hd' (by decide)
  have hsign : ∀ k : Nat, decide ((k : Int) < 0) = false := fun k => decide_eq_false (by omega)
  simp only [div, ofInt, ofRatio, Int.natAbs_natCast, hsign, Bool.bne_false,
    if_neg (Nat.ne_of_lt hfinite), if_neg (Nat.ne_of_lt hfinite'), units_nearestBits_one hn,
    units_nearestBits_one hd', nearestBits_mul_right n hd unitsPerOne_pos]

theorem toUnits?_ofRatio {num den m : Nat} (hden : 0 < den) (hm : m ≤ 2 ^ 52) (h : num ≤ m * den) :
    (ofRatio false num den).toUnits? = some (units (nearestBits num den) : Int) := by
  simp only [ofRatio, toUnits?, if_pos (nearestBits_lt_of_le hden hm h), Bool.false_eq_true, if_false]

/-- A quotient up to a whole number of 52 bits is cut off. -/
theorem truncate?_ofRatio {num den m : Nat} (hden : 0 < den) (hm : m ≤ 2 ^ 52) (h : num ≤ m * den) :
    (ofRatio false num den).truncate? = some ((units (nearestBits num den) / unitsPerOne : Nat) : Int) := by
  rw [truncate?, toUnits?_ofRatio hden hm h, Option.map_some, Int.ofNat_tdiv]

/-- The product of a quotient and a whole number is rounded once more. -/
theorem ofRatio_mul_ofInt {num den k m : Nat} (hden : 0 < den) (hk : k ≤ 2 ^ 52) (h : num ≤ k * den)
    (hm : m ≤ 2 ^ 53) : ofRatio false num den * ofInt m =
      ofRatio false (units (nearestBits num den) * m) unitsPerOne := by
  have hfinite := nearestBits_lt_of_le hden hk h
  have hfinite' := nearestBits_lt_infinityBits Nat.one_pos hm (by decide)
  have hproduct : ofRatio false num den * ofInt m =
      ofRatio (false != decide ((m : Int) < 0))
        (units (nearestBits num den) * units (nearestBits m 1)) (unitsPerOne * unitsPerOne) :=
    if_pos ⟨hfinite, hfinite'⟩
  have hsign : decide ((m : Int) < 0) = false := decide_eq_false (by omega)
  have hbits := nearestBits_mul_right (units (nearestBits num den) * m) unitsPerOne_pos unitsPerOne_pos
  rw [hproduct, hsign, Bool.bne_false, units_nearestBits_one hm, ← Nat.mul_assoc]
  simp only [ofRatio, hbits]

/-- A share of a whole number of 52 bits is rounded to one up to the whole. -/
theorem exists_round?_mul {num k m : Nat} (hk : k ≤ 1) (hnum : num ≤ k * unitsPerOne) (hm : m ≤ 2 ^ 52) :
    ∃ part : Nat, (ofRatio false num unitsPerOne * ofInt m).round? = some (part : Int) ∧ part ≤ k * m := by
  have hpos := unitsPerOne_pos
  have hunits := units_nearestBits_le hpos (by omega) hnum
  have hle : units (nearestBits num unitsPerOne) * m ≤ k * m * unitsPerOne := by
    rw [Nat.mul_right_comm]
    exact Nat.mul_le_mul_right m hunits
  have hkm : k * m ≤ 2 ^ 52 := Nat.le_trans (Nat.mul_le_mul_right m hk) (by omega)
  rw [ofRatio_mul_ofInt hpos (by omega : k ≤ 2 ^ 52) hnum (by omega), round?, toUnits?_ofRatio hpos hkm hle]
  refine ⟨_, congrArg some (if_neg (by omega)), roundQuotient_le ?_⟩
  rw [Int.natAbs_natCast]
  exact units_nearestBits_le hpos hkm hle

end Double

namespace Calendar

namespace Moment

/-! ## Seconds and microseconds -/

/-- A count of seconds is cut off to whole seconds, and its fraction rounded to microseconds, both with the
    sign of the count. -/
structure Parts (seconds : Double) (whole micros : Int) : Prop where
  truncate?_eq : seconds.truncate? = some whole
  round?_eq : (seconds.fraction?.bind fun part => (part * Double.ofInt microsPerSecond).round?) = some micros

theorem Parts.neg {seconds : Double} {whole micros : Int} (h : Parts seconds whole micros) :
    Parts (-seconds) (-whole) (-micros) where
  truncate?_eq := by rw [Double.truncate?_neg, h.truncate?_eq, Option.map_some]
  round?_eq := by
    have hneg : ∀ part : Double, (-part * Double.ofInt microsPerSecond).round? =
        (part * Double.ofInt microsPerSecond).round?.map (- ·) := by
      intro part
      rw [Double.neg_mul, Double.round?_neg]
    have hround := congrArg (Option.map (- ·)) h.round?_eq
    rw [Option.map_bind, Option.map_some] at hround
    rw [Double.fraction?_neg, Option.bind_map, ← hround]
    exact congrArg seconds.fraction?.bind (funext hneg)

/-- A count of seconds up to a whole number has parts up to it, and a whole number no microseconds more. -/
theorem exists_parts {num den m : Nat} (hden : 0 < den) (hm : m ≤ 2 ^ 52) (h : num ≤ m * den) :
    ∃ whole micros : Nat, Parts (Double.ofRatio false num den) whole micros ∧
      micros ≤ 1000000 ∧ whole * 1000000 + micros ≤ m * 1000000 ∧
      (num = m * den → whole * 1000000 + micros = m * 1000000) := by
  have hone := Double.unitsPerOne_pos
  have hfinite := Double.nearestBits_lt_of_le hden hm h
  have hunits := Double.units_nearestBits_le hden hm h
  have hexact : num = m * den → Double.units (Double.nearestBits num den) = m * Double.unitsPerOne := by
    intro hnum
    have hscaled := Double.nearestBits_mul_right m Nat.one_pos hden
    rw [Nat.one_mul] at hscaled
    rw [hnum, hscaled, Double.units_nearestBits_one (by omega)]
  have htruncate := Double.truncate?_ofRatio hden hm h
  have hfraction : (Double.ofRatio false num den).fraction? = some (Double.ofRatio false
      (Double.units (Double.nearestBits num den) % Double.unitsPerOne) Double.unitsPerOne) := if_pos hfinite
  generalize Double.units (Double.nearestBits num den) = u at *
  -- Below the whole number a second at most is added to the whole ones, and none at the number itself.
  have hwhole : u / Double.unitsPerOne < m ∨ u = m * Double.unitsPerOne := by
    rcases Nat.lt_or_ge u (m * Double.unitsPerOne) with hlt | hge
    · exact .inl ((Nat.div_lt_iff_lt_mul hone).2 hlt)
    · exact .inr (by omega)
  rcases hwhole with hbelow | hfull
  · have hrest : u % Double.unitsPerOne ≤ 1 * Double.unitsPerOne := by
      rw [Nat.one_mul]
      exact Nat.le_of_lt (Nat.mod_lt u hone)
    obtain ⟨micros, hround, hmicros⟩ := Double.exists_round?_mul (Nat.le_refl 1) hrest
      (by omega : 1000000 ≤ 2 ^ 52)
    refine ⟨_, micros, ⟨htruncate, ?_⟩, by omega, by omega, fun hnum => ?_⟩
    · rw [hfraction]
      exact hround
    · rw [hexact hnum, Nat.mul_div_cancel m hone] at hbelow
      omega
  · have hrest : u % Double.unitsPerOne ≤ 0 * Double.unitsPerOne := by
      rw [hfull, Nat.mul_mod_left, Nat.zero_mul]
    have hdiv : u / Double.unitsPerOne = m := by rw [hfull, Nat.mul_div_cancel m hone]
    obtain ⟨micros, hround, hmicros⟩ := Double.exists_round?_mul (Nat.zero_le 1) hrest
      (by omega : 1000000 ≤ 2 ^ 52)
    refine ⟨_, micros, ⟨htruncate, ?_⟩, by omega, by omega, fun _ => by omega⟩
    rw [hfraction]
    exact hround

/-- The parts are joined to whole seconds and microseconds that are not negative. -/
theorem Parts.splitSeconds? {seconds : Double} {whole micros : Int} (h : Parts seconds whole micros)
    (hmicros : micros.natAbs ≤ 1000000) : ∃ second rest, splitSeconds? seconds = some (second, rest) ∧
      second * 1000000 + rest = whole * 1000000 + micros ∧ 0 ≤ rest ∧ rest < 1000000 := by
  obtain ⟨htruncate, hround⟩ := h
  obtain ⟨part, hfraction, hround⟩ := Option.bind_eq_some_iff.1 hround
  simp only [Moment.splitSeconds?, htruncate, hfraction, bind, Option.bind, hround]
  unfold microsPerSecond
  rcases Int.lt_or_le micros 0 with hneg | hnonneg
  · exact ⟨whole - 1, micros + 1000000, by rw [if_neg (by omega), if_pos hneg], by omega, by omega, by omega⟩
  rcases Int.lt_or_le micros 1000000 with hshort | hfull
  · exact ⟨whole, micros, by rw [if_neg (by omega), if_neg (by omega)], rfl, hnonneg, hshort⟩
  · exact ⟨whole + 1, micros - 1000000, if_pos hfull, by omega, by omega, by omega⟩

/-- Parts that lie in the years 1 to 9999 make a moment. -/
theorem Parts.ofMs {ms whole micros : Int}
    (h : Parts ((Double.ofInt ms).div (Double.ofInt 1000)) whole micros) (hmicros : micros.natAbs ≤ 1000000)
    (hstart : -62135596800 * 1000000 ≤ whole * 1000000 + micros)
    (hstop : whole * 1000000 + micros ≤ 253402300799 * 1000000) :
    ofMs ms = .ok ⟨whole * 1000000 + micros⟩ := by
  obtain ⟨second, rest, hsplit, hsum, hrest, hrest'⟩ := h.splitSeconds? hmicros
  have hdate : (Moment.mk (whole * 1000000 + micros)).date =
      Date.ofOrdinal (second / secondsPerDay + epochOrdinal) := by
    rw [Moment.date, ← hsum, show (second * 1000000 + rest) / microsPerSecond = second by
      unfold microsPerSecond
      omega]
  have hday : 1 ≤ second / secondsPerDay + epochOrdinal ∧
      second / secondsPerDay + epochOrdinal ≤ 3652059 := by
    unfold secondsPerDay epochOrdinal
    omega
  have hyear := year_ofOrdinal_bounds hday.1 hday.2
  have hjoined : second * microsPerSecond + rest = whole * 1000000 + micros := hsum
  simp only [Moment.ofMs, hsplit, hjoined, hdate]
  rw [if_neg (by omega), if_neg (by omega), if_neg (by omega)]

end Moment

/-- The first millisecond of a year. -/
def yearStart (year : Int) : Int := (daysBeforeYear year + 1 - epochOrdinal) * dayMs

/-- Milliseconds of the years 1 to 9999, as far as the last second of them. -/
def Writable (ms : Int) : Prop := yearStart 1 ≤ ms ∧ ms ≤ yearStart 10000 - 1000

/-- They have a moment, and a whole second has its own. -/
theorem exists_moment {ms : Int} (h : Writable ms) :
    ∃ m, Moment.ofMs ms = .ok m ∧ (1000 ∣ ms → m.micros = ms * 1000) := by
  obtain ⟨hstart, hstop⟩ := h
  have hlo : yearStart 1 = -62135596800000 := by decide
  have hhi : yearStart 10000 = 253402300800000 := by decide
  -- The sign is taken off, since the parts of an opposite count are the opposite parts.
  obtain ⟨n, hn⟩ : ∃ n : Nat, n = ms.natAbs := ⟨_, rfl⟩
  have hdiv : (Double.ofInt n).div (Double.ofInt 1000) = Double.ofRatio false n 1000 :=
    Double.div_ofInt (by omega) (by decide) (by decide)
  obtain ⟨whole, micros, hparts, hmicros, hle, hexact⟩ := Moment.exists_parts (by decide)
    (by omega : (n + 999) / 1000 ≤ 2 ^ 52) (by omega : n ≤ (n + 999) / 1000 * 1000)
  rw [← hdiv] at hparts
  rcases Int.lt_or_le ms 0 with hneg | hnonneg
  · obtain rfl : ms = -(n : Int) := by omega
    have hopposite := hparts.neg
    rw [← Double.neg_div, ← Double.ofInt_neg (by omega)] at hopposite
    refine ⟨_, hopposite.ofMs (by omega) (by omega) (by omega), fun hdvd => ?_⟩
    have hwhole := hexact (by omega)
    simp only
    omega
  · obtain rfl : ms = (n : Int) := by omega
    refine ⟨_, hparts.ofMs (by omega) (by omega) (by omega), fun hdvd => ?_⟩
    have hwhole := hexact (by omega)
    simp only
    omega

/-- The moment of a whole second is turned back into its milliseconds. -/
theorem Moment.toMs_of_second {m : Moment} {s : Int} (hmicros : m.micros = s * microsPerSecond)
    (hs : (s * 1000).natAbs ≤ 2 ^ 53) : m.toMs = s * 1000 := by
  have hquotient : Double.ofQuotient m.micros microsPerSecond = Double.ofInt s := by
    have hsign : (decide (s * microsPerSecond < 0) != decide (microsPerSecond < 0)) = decide (s < 0) := by
      have hpos : decide (microsPerSecond < 0) = false := by decide
      have hiff : s * microsPerSecond < 0 ↔ s < 0 := by
        unfold microsPerSecond
        omega
      rw [hpos, Bool.bne_false, decide_eq_decide, hiff]
    have hbits : Double.nearestBits (s * microsPerSecond).natAbs microsPerSecond.natAbs =
        Double.nearestBits s.natAbs 1 := by
      have hscaled := Double.nearestBits_mul_right s.natAbs Nat.one_pos (by decide : 0 < microsPerSecond.natAbs)
      rwa [Nat.one_mul, ← Int.natAbs_mul] at hscaled
    rw [hmicros, Double.ofQuotient, hsign]
    simp only [Double.ofRatio, Double.ofInt, hbits]
  have hsmall : s.natAbs ≤ 2 ^ 53 := by omega
  rw [Moment.toMs, hquotient, Double.ofInt_mul hsmall (by decide) (by decide), Double.truncate?_ofInt hs,
    Option.getD_some]

/-- A count of milliseconds that is divided by a thousand and multiplied with it, rounded both times, is
    moved by less than one. -/
theorem units_nearestBits_thousand {n : Nat} (hpos : 0 < n) (hn : n < 2 ^ 48) :
    let units := Double.units (Double.nearestBits (Double.units (Double.nearestBits n 1000) * 1000)
      Double.unitsPerOne)
    n * Double.unitsPerOne < units + Double.unitsPerOne ∧
      units < n * Double.unitsPerOne + Double.unitsPerOne := by
  intro units
  have hone := Double.unitsPerOne_pos
  obtain ⟨hup, hdown⟩ := @Double.units_nearestBits_near n 1000 38 (by omega) (by omega) (by omega)
    (by omega)
  have hleast : 1 * Double.unitsPerOne ≤ n * Double.unitsPerOne := Nat.mul_le_mul_right _ hpos
  have hmost : n * Double.unitsPerOne ≤ 2 ^ 48 * Double.unitsPerOne :=
    Nat.mul_le_mul_right _ (Nat.le_of_lt hn)
  -- The seconds are moved by less than a thirtieth of a millisecond, and so is their product.
  rw [Nat.add_mul, Nat.mul_right_comm n] at hup
  rw [Nat.add_mul, Nat.mul_right_comm n, Nat.mul_right_comm (Double.units _)] at hdown
  obtain ⟨hup', hdown'⟩ := Double.units_nearestBits_near (b := 48) hone (by omega)
    (by omega : Double.unitsPerOne ≤ Double.units (Double.nearestBits n 1000) * 1000 * 2 ^ 53) (by omega)
  rw [Nat.mul_right_comm] at hup'
  have hup' := Nat.le_of_mul_le_mul_right hup' hone
  have hdown' := Nat.le_of_mul_le_mul_right hdown' hone
  omega

/-- The moment of a whole millisecond is turned back into it, or into the one before where the count of
    seconds has been rounded down. -/
theorem Moment.toMs_near {m : Moment} {s : Int} (hmicros : m.micros = s * 1000) (hpos : 0 < s)
    (hs : s < 2 ^ 48) : s - 1 ≤ m.toMs ∧ m.toMs ≤ s := by
  obtain ⟨n, rfl⟩ := Int.eq_ofNat_of_zero_le (Int.le_of_lt hpos)
  have hone := Double.unitsPerOne_pos
  have hquotient : Double.ofQuotient m.micros microsPerSecond = Double.ofRatio false n 1000 := by
    have hbits : Double.nearestBits (n * 1000) (1000 * 1000) = Double.nearestBits n 1000 :=
      Double.nearestBits_mul_right n (by decide) (by decide)
    have hsign : decide ((n : Int) * 1000 < 0) = false := decide_eq_false (by omega)
    have habs : ((n : Int) * 1000).natAbs = n * 1000 := by omega
    rw [hmicros, Double.ofQuotient, hsign, habs]
    simp only [Double.ofRatio, ← hbits]
    rfl
  obtain ⟨hlow, hhigh⟩ := units_nearestBits_thousand (n := n) (by omega) (by omega)
  have hseconds : n ≤ (n / 1000 + 1) * 1000 := by omega
  have hsmall : (n / 1000 + 1) * 1000 ≤ 2 ^ 52 := by omega
  have hproduct : Double.ofRatio false n 1000 * Double.ofInt (1000 : Nat) =
      Double.ofRatio false (Double.units (Double.nearestBits n 1000) * 1000) Double.unitsPerOne :=
    Double.ofRatio_mul_ofInt (by decide) (by omega) hseconds (by omega)
  have hbound : Double.units (Double.nearestBits n 1000) * 1000 ≤
      (n / 1000 + 1) * 1000 * Double.unitsPerOne := by
    rw [Nat.mul_right_comm]
    exact Nat.mul_le_mul_right _ (Double.units_nearestBits_le (by decide) (by omega) hseconds)
  have htruncate := Double.truncate?_ofRatio hone hsmall hbound
  rw [← hproduct, ← hquotient] at htruncate
  have htoMs := congrArg (Option.getD · 0) htruncate
  generalize Double.units (Double.nearestBits (Double.units _ * 1000) _) = units at *
  have hfrom : n - 1 ≤ units / Double.unitsPerOne := by
    rw [Nat.le_div_iff_mul_le hone, Nat.sub_mul]
    omega
  have hto : units / Double.unitsPerOne < n + 1 := by
    rw [Nat.div_lt_iff_lt_mul hone, Nat.add_mul]
    omega
  rw [show m.toMs = ((units / Double.unitsPerOne : Nat) : Int) from htoMs]
  omega

/-- So a whole second is after the one exactly if it is after the other. -/
theorem Moment.toMs_lt_iff {m : Moment} {s t : Int} (hmicros : m.micros = s * 1000) (hpos : 0 < s)
    (hs : s < 2 ^ 48) (ht : 1000 ∣ t) : m.toMs < t ↔ s < t := by
  obtain ⟨hlow, hhigh⟩ := Moment.toMs_near hmicros hpos hs
  refine ⟨fun hlt => Int.not_le.1 fun hle => ?_, Int.lt_of_le_of_lt hhigh⟩
  obtain rfl : s = t := by omega
  obtain ⟨k, rfl⟩ := ht
  have hexact : m.toMs = k * 1000 :=
    Moment.toMs_of_second (by rw [hmicros, microsPerSecond]; omega) (by omega)
  omega

end Calendar

end Candlestick
