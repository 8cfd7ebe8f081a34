import Mathlib.Algebra.BigOperators.Group.List.Basic
import Mathlib.Algebra.Ring.Nat
import Candlestick.Calendar.Date

set_option autoImplicit false

/-! # Days and dates are one to one

The number of a day is split into rounds of four hundred years, centuries, rounds of four years, years and
days, and the day of the year into months and days. Each split leaves a remainder that is short enough for
the next one, so that the date is one of the calendar and has the number that it was made of. -/

namespace Candlestick.Calendar

/-! ## Months -/

/-- The month and the day of a day of the year: so many months are over before it, and it lies in the next. -/
theorem monthDay_spec (lengths : List Nat) (month rest : Nat) (h : rest < lengths.sum) :
    ∃ passed, ∃ hpassed : passed < lengths.length,
      monthDay month rest lengths = (month + passed, rest - (lengths.take passed).sum + 1) ∧
      (lengths.take passed).sum ≤ rest ∧ rest < (lengths.take passed).sum + lengths[passed] := by
  induction lengths generalizing month rest with
  | nil => exact absurd h (Nat.not_lt_zero rest)
  | cons length later ih =>
    rw [List.sum_cons] at h
    by_cases hin : rest < length
    · refine ⟨0, by simp, ?_, by simp, by simpa using hin⟩
      rw [monthDay, if_pos hin]
      simp
    · obtain ⟨passed, hpassed, heq, hle, hlt⟩ := ih (month + 1) (rest - length) (by omega)
      refine ⟨passed + 1, by simpa using hpassed, ?_, ?_, ?_⟩
      · rw [monthDay, if_neg hin, heq, List.take_succ_cons, List.sum_cons]
        simp only [Prod.mk.injEq]
        omega
      · rw [List.take_succ_cons, List.sum_cons]
        omega
      · rw [List.take_succ_cons, List.sum_cons, List.getElem_cons_succ]
        omega

theorem sum_monthLengths (leap : Bool) : (monthLengths leap).sum = if leap then 366 else 365 := by
  cases leap <;> decide

theorem daysBeforeMonth_eq (year : Int) (passed : Nat) :
    daysBeforeMonth year (passed + 1) = ((monthLengths (isLeap year)).take passed).sum := by
  rw [daysBeforeMonth, List.sum_eq_foldl, Nat.add_sub_cancel]

theorem daysInMonth_eq (year : Int) {passed : Nat} (hpassed : passed < (monthLengths (isLeap year)).length) :
    daysInMonth year (passed + 1) = (monthLengths (isLeap year))[passed] := by
  rw [daysInMonth, if_neg (Nat.succ_ne_zero passed), Nat.add_sub_cancel, List.getElem?_eq_getElem hpassed,
    Option.getD_some]

theorem daysInMonth_le (year : Int) (month : Nat) : daysInMonth year month ≤ 31 := by
  have hlengths : ∀ leap, ∀ length ∈ monthLengths leap, length ≤ 31 := by decide
  unfold daysInMonth
  split
  · exact Nat.zero_le 31
  · cases hlength : (monthLengths (isLeap year))[month - 1]? with
    | none => exact Nat.zero_le 31
    | some length => exact hlengths _ length (List.mem_of_getElem? hlength)

/-! ## Years -/

theorem isLeap_iff (year : Int) : isLeap year = true ↔ year % 4 = 0 ∧ (year % 100 ≠ 0 ∨ year % 400 = 0) := by
  simp [isLeap]

/-- The year in which a day lies and how many days of it are over: rounds of four hundred years, centuries,
    rounds of four years and years that are over, and the days of the year. Only the last year of a round of
    four may have one day more, and of these not the last one of a century, except in the last century. -/
structure YearDay where
  rounds : Int
  centuries : Nat
  fours : Nat
  years : Nat
  days : Nat

namespace YearDay

def year (y : YearDay) : Int := y.rounds * 400 + (y.centuries * 100 + y.fours * 4 + y.years : Nat) + 1

structure Proper (y : YearDay) : Prop where
  centuries_le : y.centuries ≤ 3
  fours_le : y.fours ≤ 24
  years_le : y.years ≤ 3
  days_lt : y.days < 365 ∨ y.days = 365 ∧ y.years = 3 ∧ (y.fours = 24 → y.centuries = 3)

variable {y : YearDay}

theorem Proper.daysBeforeYear_eq (h : y.Proper) :
    daysBeforeYear y.year =
      y.rounds * 146097 + (y.centuries * 36524 + y.fours * 1461 + y.years * 365 : Nat) := by
  obtain ⟨hcenturies, hfours, hyears, -⟩ := h
  simp only [daysBeforeYear, year]
  omega

theorem Proper.isLeap_iff (h : y.Proper) :
    isLeap y.year = true ↔ y.years = 3 ∧ (y.fours = 24 → y.centuries = 3) := by
  obtain ⟨hcenturies, hfours, hyears, -⟩ := h
  rw [Calendar.isLeap_iff, year]
  omega

theorem Proper.days_lt_sum (h : y.Proper) : y.days < (monthLengths (isLeap y.year)).sum := by
  rw [sum_monthLengths]
  rcases h.days_lt with hshort | ⟨hlast, hleap⟩
  · split <;> omega
  · rw [if_pos (h.isLeap_iff.2 hleap)]
    omega

end YearDay

/-- The year and the days before a day of a number. -/
theorem exists_yearDay (n : Int) : ∃ y : YearDay, y.Proper ∧ n = daysBeforeYear y.year + y.days + 1 ∧
    Date.ofOrdinal n = ⟨y.year, (monthDay 1 y.days (monthLengths (isLeap y.year))).1,
      (monthDay 1 y.days (monthLengths (isLeap y.year))).2⟩ := by
  have hround : 0 ≤ (n - 1) % 146097 ∧ (n - 1) % 146097 < 146097 := by omega
  obtain ⟨inRound, hinRound⟩ := Int.eq_ofNat_of_zero_le hround.1
  have hsplit : n - 1 = (n - 1) / 146097 * 146097 + inRound := by omega
  let centuries := min (inRound / 36524) 3
  let inCentury := inRound - centuries * 36524
  let years := min (inCentury % 1461 / 365) 3
  let y : YearDay :=
    ⟨(n - 1) / 146097, centuries, inCentury / 1461, years, inCentury % 1461 - years * 365⟩
  have hproper : y.Proper := by
    refine ⟨?_, ?_, ?_, ?_⟩ <;> simp only [y, years, inCentury, centuries] <;> omega
  refine ⟨y, hproper, ?_, ?_⟩
  · rw [hproper.daysBeforeYear_eq]
    simp only [y, years, inCentury, centuries]
    omega
  · simp only [Date.ofOrdinal, hinRound, Int.toNat_natCast]
    rfl

/-! ## Dates -/

/-- The dates of the calendar. -/
structure Date.Valid (d : Date) : Prop where
  month_pos : 1 ≤ d.month
  month_le : d.month ≤ 12
  day_pos : 1 ≤ d.day
  day_le : d.day ≤ daysInMonth d.year d.month

/-- The day of a number is a date of the calendar, and that number is its own. -/
theorem ofOrdinal_spec (n : Int) : (Date.ofOrdinal n).Valid ∧ (Date.ofOrdinal n).ordinal = n := by
  obtain ⟨y, hproper, hn, hdate⟩ := exists_yearDay n
  obtain ⟨passed, hpassed, hmonthDay, hle, hlt⟩ := monthDay_spec _ 1 _ hproper.days_lt_sum
  have htwelve : passed < 12 := hpassed
  rw [hdate, hmonthDay]
  refine ⟨⟨?_, ?_, ?_, ?_⟩, ?_⟩
  · show 1 ≤ 1 + passed
    omega
  · show 1 + passed ≤ 12
    omega
  · exact Nat.le_add_left 1 _
  · show y.days - ((monthLengths (isLeap y.year)).take passed).sum + 1 ≤ daysInMonth y.year (1 + passed)
    rw [Nat.add_comm 1 passed, daysInMonth_eq _ hpassed]
    omega
  · simp only [Date.ordinal]
    rw [Nat.add_comm 1 passed, daysBeforeMonth_eq, hn]
    omega

/-- The days of the years from 1 to 9999. -/
theorem year_ofOrdinal_bounds {n : Int} (hpos : 1 ≤ n) (hn : n ≤ 3652059) :
    1 ≤ (Date.ofOrdinal n).year ∧ (Date.ofOrdinal n).year ≤ 9999 := by
  simp only [Date.ofOrdinal]
  omega

end Candlestick.Calendar
