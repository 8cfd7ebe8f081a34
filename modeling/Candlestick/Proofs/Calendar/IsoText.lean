import Candlestick.Calendar.IsoText
import Candlestick.Proofs.Calendar.Date
import Candlestick.Proofs.Number.Decimal
import Candlestick.Proofs.Text.Lower

set_option autoImplicit false

/-! # Dates and times are read back

A moment is written as six numerals of fixed width with separators between them. The reader accepts many
more spellings. It decides on this one by the dash after the year, takes each numeral for the number that
it was written for, and finds date and time in their ranges: `Stamp.ofText_isoText` says that a whole second
of the years 1 to 9999 is read as the moment that was written. -/

namespace Candlestick

open NumberText

/-! ## The bytes of a text -/

namespace Text

theorem toList_loop (bytes : ByteArray) (i : Nat) (done : List UInt8) :
    ByteArray.toList.loop bytes i done = done.reverse ++ bytes.data.toList.drop i := by
  fun_induction ByteArray.toList.loop bytes i done with
  | case1 i done hlt ih =>
    have hi : i < bytes.data.toList.length := by simpa using hlt
    rw [ih, List.drop_eq_getElem_cons hi]
    simp [ByteArray.get!, hlt]
  | case2 i done hge =>
    rw [List.drop_eq_nil_of_le (by simpa using Nat.le_of_not_lt hge), List.append_nil]

/-- The bytes of an ASCII text are its characters. -/
theorem bytes_of_ascii {s : String} (h : IsAscii s) :
    (s.toUTF8.toList.map fun byte => Char.ofNat byte.toNat) = s.toList := by
  have hbytes : s.toUTF8.toList = s.toList.flatMap String.utf8EncodeChar := by
    rw [String.toUTF8_eq_toByteArray, ← String.utf8Encode_toList, ByteArray.toList, toList_loop]
    simp [List.utf8Encode]
  rw [hbytes, List.map_flatMap]
  have hchar : ∀ c ∈ s.toList, ((String.utf8EncodeChar c).map fun byte => Char.ofNat byte.toNat) = [c] := by
    intro c hc
    have hascii := h c hc
    rw [String.utf8EncodeChar_eq_singleton (Char.utf8Size_eq_one_iff.2 (UInt32.le_iff_toNat_le.2 (by
      change c.toNat ≤ 127
      omega)))]
    have hbyte : c.val.toUInt8.toNat = c.toNat := by
      rw [UInt32.toNat_toUInt8]
      exact Nat.mod_eq_of_lt (by change c.toNat < 256; omega)
    rw [List.map_singleton, hbyte, Char.ofNat_toNat]
  rw [List.flatMap_congr hchar]
  simp

end Text

namespace Calendar

/-! ## Numerals -/

/-- ASCII digits, so many of them, that stand for a number. -/
structure Numeral (width n : Nat) (cs : List Char) : Prop where
  length_eq : cs.length = width
  isDigit : ∀ c ∈ cs, c.isDigit = true
  value_eq : digitsValue 0 cs = n

/-- A number is written in its width as a numeral. -/
theorem numeral_padded {width : Nat} {n : Int} (hwidth : 0 < width) (hnonneg : 0 ≤ n) (hn : n < 10 ^ width) :
    Numeral width n.toNat (padded width n).toList := by
  obtain ⟨n, rfl⟩ := Int.eq_ofNat_of_zero_le hnonneg
  have hlength : (Nat.toDigits 10 n).length ≤ width :=
    (Nat.length_toDigits_le_iff (by decide) hwidth).2 (by exact_mod_cast hn)
  have hchars : (padded width n).toList =
      List.replicate (width - (Nat.toDigits 10 n).length) '0' ++ Nat.toDigits 10 n := by
    have hempty : ("" : String).length = 0 := rfl
    rw [padded, Int.natAbs_natCast, if_neg (by omega : ¬ (n : Int) < 0), Nat.toString_eq_ofList_toDigits]
    simp only [String.toList_append, String.toList_ofList, String.length_ofList, hempty, Nat.sub_zero]
    rfl
  rw [hchars, Int.toNat_natCast]
  refine ⟨?_, ?_, ?_⟩
  · rw [List.length_append, List.length_replicate]
    omega
  · intro c hc
    rcases List.mem_append.1 hc with hzero | hdigit
    · rw [List.eq_of_mem_replicate hzero]
      decide
    · exact isDigit_of_mem_toDigits c hdigit
  · change Nat.ofDigitChars 10 _ 0 = n
    rw [Nat.ofDigitChars_append, Nat.ofDigitChars_replicate_zero, Nat.mul_zero, Nat.ofDigitChars_ten_toDigits]

namespace Numeral

variable {width n : Nat} {cs : List Char} (h : Numeral width n cs)
include h

/-- A numeral at the front is read as its number. -/
theorem digits?_append (rest : List Char) : Stamp.digits? width (cs ++ rest) = some (n, rest) := by
  have htake : (cs ++ rest).take width = cs := List.take_left' h.length_eq
  have hdrop : (cs ++ rest).drop width = rest := List.drop_left' h.length_eq
  have hall : cs.all Char.isDigit = true := List.all_eq_true.2 h.isDigit
  have hvalue : cs.foldl (fun n c => 10 * n + (c.toNat - 48)) 0 = n := h.value_eq
  simp only [Stamp.digits?, htake, hdrop, h.length_eq, decide_true, hall, Bool.and_self, if_true, hvalue]

/-- It begins with a digit. -/
theorem exists_cons (hwidth : 0 < width) : ∃ c rest, cs = c :: rest ∧ c.isDigit = true := by
  cases cs with
  | nil =>
    have hlength := h.length_eq
    rw [List.length_nil] at hlength
    omega
  | cons c rest => exact ⟨c, rest, rfl, h.isDigit c List.mem_cons_self⟩

end Numeral

theorem ne_of_isDigit {c d : Char} (hc : c.isDigit = true) (hd : d.isDigit = false) : c ≠ d := by
  rintro rfl
  rw [hd] at hc
  exact absurd hc (by simp)

/-! ## Dates -/

/-- The characters of a date. -/
def dateChars (year month day : List Char) : List Char := year ++ '-' :: (month ++ '-' :: day)

/-- The characters of a time of the day. -/
def timeChars (hour minute second : List Char) : List Char := hour ++ ':' :: (minute ++ ':' :: second)

section Numerals

variable {y m d : Nat} {year month day : List Char} (hyear : Numeral 4 y year) (hmonth : Numeral 2 m month)
  (hday : Numeral 2 d day)

include hyear hmonth hday

theorem length_dateChars : (dateChars year month day).length = 10 := by
  simp only [dateChars, List.length_append, List.length_cons, hyear.length_eq, hmonth.length_eq,
    hday.length_eq]

/-- A dash after four characters puts the separator after the tenth, unless a week follows. -/
theorem separatorPlace_dateChars (rest : List Char) :
    Stamp.separatorPlace (dateChars year month day ++ rest) = some 10 := by
  obtain ⟨c, others, rfl, hc⟩ := hmonth.exists_cons (by decide)
  have hlength : (dateChars year (c :: others) day ++ rest).length ≠ 7 := by
    rw [List.length_append, length_dateChars hyear hmonth hday]
    omega
  have hdash : (dateChars year (c :: others) day ++ rest)[4]? = some '-' := by
    simp [dateChars, hyear.length_eq]
  have hnext : (dateChars year (c :: others) day ++ rest)[5]? ≠ some 'W' := by
    have hfifth : (dateChars year (c :: others) day ++ rest)[5]? = some c := by
      simp [dateChars, List.getElem?_append_right, hyear.length_eq]
    rw [hfifth]
    exact fun heq => ne_of_isDigit hc (by decide) (Option.some.inj heq)
  simp only [Stamp.separatorPlace]
  rw [if_neg hlength, if_pos hdash, if_neg hnext]

/-- The numerals of a date are read as its numbers. -/
theorem readDate?_dateChars (rest : List Char) :
    Stamp.readDate? 10 (dateChars year month day ++ rest) = some ⟨y, m, d⟩ := by
  have hchars : dateChars year month day ++ rest = year ++ '-' :: (month ++ '-' :: (day ++ rest)) := by
    simp [dateChars]
  have hweek : Stamp.front (month ++ '-' :: (day ++ rest)) ≠ 'W' := by
    obtain ⟨c, others, rfl, hc⟩ := hmonth.exists_cons (by decide)
    exact ne_of_isDigit hc (by decide)
  have hfront : ∀ c cs, Stamp.front (c :: cs) = c := fun _ _ => rfl
  rw [hchars]
  simp only [Stamp.readDate?, hyear.digits?_append, hfront, decide_true, if_true, List.drop_succ_cons,
    List.drop_zero, if_neg hweek, hmonth.digits?_append, bind, Option.bind, hday.digits?_append]
  rfl

end Numerals

/-! ## Times -/

section Clock

variable {h m s : Nat} {hour minute second : List Char} (hhour : Numeral 2 h hour)
  (hminute : Numeral 2 m minute) (hsecond : Numeral 2 s second)

include hhour hminute hsecond

theorem length_timeChars : (timeChars hour minute second).length = 8 := by
  simp only [timeChars, List.length_append, List.length_cons, hhour.length_eq, hminute.length_eq,
    hsecond.length_eq]

/-- The numerals of a time are read as its numbers, and what follows them is seen. -/
theorem readClock?_timeChars (rest : List Char) :
    Stamp.readClock? (timeChars hour minute second ++ rest) 8 =
      some ((⟨h, m, s, 0⟩ : Stamp.Clock), decide (Stamp.front rest ≠ '\x00')) := by
  have hchars : timeChars hour minute second ++ rest =
      hour ++ ':' :: (minute ++ ':' :: (second ++ rest)) := by
    simp [timeChars]
  have hfront : ∀ c cs, Stamp.front (c :: cs) = c := fun _ _ => rfl
  rw [hchars]
  simp [Stamp.readClock?, Stamp.readFields?, hhour.digits?_append, hminute.digits?_append,
    hsecond.digits?_append, hfront, Stamp.Clock.set]

/-- A time at the offset zero. -/
theorem readTime?_timeChars :
    Stamp.readTime? (timeChars hour minute second ++ "+00:00".toList) =
      some ((⟨h, m, s, 0⟩ : Stamp.Clock), some 0) := by
  have hclock : ∀ c ∈ timeChars hour minute second, (!(c = '+' || c = '-' || c = 'Z')) = true := by
    intro c hc
    have hcases : c.isDigit = true ∨ c = ':' := by
      simp only [timeChars, List.mem_append, List.mem_cons] at hc
      rcases hc with hc | hc | hc | hc | hc
      · exact .inl (hhour.isDigit c hc)
      · exact .inr hc
      · exact .inl (hminute.isDigit c hc)
      · exact .inr hc
      · exact .inl (hsecond.isDigit c hc)
    rcases hcases with hdigit | rfl
    · have hplus : c ≠ '+' := ne_of_isDigit hdigit (by decide)
      have hminus : c ≠ '-' := ne_of_isDigit hdigit (by decide)
      have hzulu : c ≠ 'Z' := ne_of_isDigit hdigit (by decide)
      simp [hplus, hminus, hzulu]
    · decide
  have hlength := length_timeChars hhour hminute hsecond
  have htake : ((timeChars hour minute second ++ "+00:00".toList).takeWhile
      (!(fun c : Char => c = '+' || c = '-' || c = 'Z') ·)).length = 8 := by
    rw [List.takeWhile_append_of_pos hclock]
    simp [hlength]
  have hdrop : (timeChars hour minute second ++ "+00:00".toList).drop 8 = '+' :: "00:00".toList :=
    List.drop_left' hlength
  have hzone : Stamp.readClock? "00:00".toList "00:00".toList.length = some ({}, false) := rfl
  simp only [Stamp.readTime?, htake, readClock?_timeChars hhour hminute hsecond, hdrop, hzone, bind,
    Option.bind]
  rfl

end Clock

/-! ## Moments -/

namespace Moment

variable {m : Moment}

/-- The years that can be written. -/
def InCalendar (m : Moment) : Prop := 1 ≤ m.date.year ∧ m.date.year ≤ 9999

theorem valid_date (m : Moment) : m.date.Valid := (ofOrdinal_spec _).1

theorem inCalendar_of_ofMs {ms : Int} (h : ofMs ms = .ok m) : m.InCalendar := by
  simp only [ofMs] at h
  split at h
  · exact absurd h (by simp)
  split at h
  · exact absurd h (by simp)
  split at h
  · exact absurd h (by simp)
  split at h
  · exact absurd h (by simp)
  rename_i hyear
  obtain rfl := Except.ok.inj h
  unfold InCalendar
  omega

/-- The characters of a moment's date, -/
def dayChars (m : Moment) : List Char :=
  dateChars (padded 4 m.date.year).toList (padded 2 m.date.month).toList (padded 2 m.date.day).toList

/-- and of its time of the day. -/
def clockChars (m : Moment) : List Char :=
  timeChars (padded 2 (m.secondOfDay / 3600)).toList (padded 2 (m.secondOfDay / 60 % 60)).toList
    (padded 2 (m.secondOfDay % 60)).toList

theorem toList_isoLocal (hwhole : m.fraction = 0) :
    m.isoLocal.toList = m.dayChars ++ 'T' :: m.clockChars := by
  simp [isoLocal, hwhole, Date.text, clockText, dayChars, clockChars, dateChars, timeChars]

theorem secondOfDay_bounds (m : Moment) : 0 ≤ m.secondOfDay ∧ m.secondOfDay < 86400 := by
  unfold secondOfDay secondsPerDay
  omega

/-! ### The numerals of a moment -/

theorem numeral_year (h : m.InCalendar) : Numeral 4 m.date.year.toNat (padded 4 m.date.year).toList := by
  obtain ⟨hpos, hle⟩ := h
  exact numeral_padded (by decide) (by omega) (by omega)

theorem numeral_month (m : Moment) : Numeral 2 m.date.month (padded 2 m.date.month).toList := by
  have hle := m.valid_date.month_le
  exact numeral_padded (by decide) (Int.natCast_nonneg _) (by omega)

theorem numeral_day (m : Moment) : Numeral 2 m.date.day (padded 2 m.date.day).toList := by
  have hle := Nat.le_trans m.valid_date.day_le (daysInMonth_le _ _)
  exact numeral_padded (by decide) (Int.natCast_nonneg _) (by omega)

theorem numeral_hour (m : Moment) :
    Numeral 2 (m.secondOfDay / 3600).toNat (padded 2 (m.secondOfDay / 3600)).toList := by
  have hbounds := m.secondOfDay_bounds
  exact numeral_padded (by decide) (by omega) (by omega)

theorem numeral_minute (m : Moment) :
    Numeral 2 (m.secondOfDay / 60 % 60).toNat (padded 2 (m.secondOfDay / 60 % 60)).toList :=
  numeral_padded (by decide) (by omega) (by omega)

theorem numeral_second (m : Moment) :
    Numeral 2 (m.secondOfDay % 60).toNat (padded 2 (m.secondOfDay % 60)).toList :=
  numeral_padded (by decide) (by omega) (by omega)

/-- The text of a moment has digits and the three separators. -/
theorem mem_isoLocal (h : m.InCalendar) (hwhole : m.fraction = 0) {c : Char} (hc : c ∈ m.isoLocal.toList) :
    c.isDigit = true ∨ c = '-' ∨ c = 'T' ∨ c = ':' := by
  rw [toList_isoLocal hwhole] at hc
  simp only [dayChars, dateChars, clockChars, timeChars, List.mem_append, List.mem_cons] at hc
  rcases hc with (hc | hc | hc | hc | hc) | hc | hc | hc | hc | hc | hc
  · exact .inl (numeral_year h |>.isDigit c hc)
  · simp [hc]
  · exact .inl (m.numeral_month.isDigit c hc)
  · simp [hc]
  · exact .inl (m.numeral_day.isDigit c hc)
  · simp [hc]
  · exact .inl (m.numeral_hour.isDigit c hc)
  · simp [hc]
  · exact .inl (m.numeral_minute.isDigit c hc)
  · simp [hc]
  · exact .inl (m.numeral_second.isDigit c hc)

theorem isPlain_isoLocal (h : m.InCalendar) (hwhole : m.fraction = 0) :
    ∀ c ∈ m.isoLocal.toList, IsPlain c := by
  intro c hc
  rcases mem_isoLocal h hwhole hc with hdigit | rfl | rfl | rfl
  · exact isPlain_of_isDigit hdigit
  all_goals
    unfold IsPlain
    decide

/-! ### Reading a moment -/

theorem toList_isoText (hwhole : m.fraction = 0) :
    m.isoText.toList = m.dayChars ++ 'T' :: (m.clockChars ++ "+00:00".toList) := by
  rw [isoText, String.toList_append, toList_isoLocal hwhole, List.append_assoc, List.cons_append]

theorem isAscii_isoText (h : m.InCalendar) (hwhole : m.fraction = 0) : Text.IsAscii m.isoText := by
  intro c hc
  rw [isoText, String.toList_append, List.mem_append] at hc
  rcases hc with hc | hc
  · exact (isPlain_isoLocal h hwhole c hc).1
  · exact (by decide : Text.IsAscii "+00:00") c hc

/-- The date and the time of a moment are found in its text. -/
theorem parts?_isoText (h : m.InCalendar) (hwhole : m.fraction = 0) :
    Stamp.parts? m.isoText.toList = some (m.date, (⟨(m.secondOfDay / 3600).toNat,
      (m.secondOfDay / 60 % 60).toNat, (m.secondOfDay % 60).toNat, 0⟩ : Stamp.Clock), some 0) := by
  have hlength : m.dayChars.length = 10 := length_dateChars (numeral_year h) m.numeral_month m.numeral_day
  have hplace : Stamp.separatorPlace m.isoText.toList = some 10 := by
    rw [toList_isoText hwhole]
    exact separatorPlace_dateChars (numeral_year h) m.numeral_month m.numeral_day _
  have hdate : Stamp.readDate? 10 m.isoText.toList = some m.date := by
    have hyear : (m.date.year.toNat : Int) = m.date.year := Int.toNat_of_nonneg (by unfold InCalendar at h; omega)
    rw [toList_isoText hwhole, dayChars,
      readDate?_dateChars (numeral_year h) m.numeral_month m.numeral_day, hyear]
  have hdrop : m.isoText.toList.drop 10 = 'T' :: (m.clockChars ++ "+00:00".toList) := by
    rw [toList_isoText hwhole]
    exact List.drop_left' hlength
  have htime := readTime?_timeChars m.numeral_hour m.numeral_minute m.numeral_second
  have hlong : ¬ m.isoText.toList.length < 7 := by
    rw [toList_isoText hwhole, List.length_append]
    omega
  have hrest : Stamp.afterSeparator ('T' :: (m.clockChars ++ "+00:00".toList)) =
      some (m.clockChars ++ "+00:00".toList) := rfl
  rw [← clockChars] at htime
  simp only [Stamp.parts?, if_neg hlong, hplace, hdate, hdrop, hrest, htime, bind, Option.bind]

/-- A whole second of the calendar is read back from its text. -/
theorem ofText_isoText (h : m.InCalendar) (hwhole : m.fraction = 0) :
    Stamp.ofText m.isoText = .ok ⟨m.date, m.secondOfDay * microsPerSecond, some 0⟩ := by
  obtain ⟨hmonth, hmonth', hday, hday'⟩ := m.valid_date
  obtain ⟨hyear, hyear'⟩ := h
  have hbounds := m.secondOfDay_bounds
  have hoffset : ((some 0 : Option Int).any fun o =>
      o ≤ -(secondsPerDay * microsPerSecond) || secondsPerDay * microsPerSecond ≤ o) = false := by decide
  have hclock : ((m.secondOfDay / 3600).toNat : Int) * 3600 + (m.secondOfDay / 60 % 60).toNat * 60 +
      (m.secondOfDay % 60).toNat = m.secondOfDay := by omega
  rw [Stamp.ofText, Text.bytes_of_ascii (isAscii_isoText ⟨hyear, hyear'⟩ hwhole),
    parts?_isoText ⟨hyear, hyear'⟩ hwhole]
  simp only [Stamp.check, hoffset, Bool.false_eq_true, if_false, hclock]
  rw [if_neg (by omega), if_neg (by omega), if_neg (by omega), if_neg (by omega), if_neg (by omega),
    if_neg (by omega)]
  simp

/-- Date and time make up the moment. -/
theorem moment_eq (hwhole : m.fraction = 0) :
    (Stamp.mk m.date (m.secondOfDay * microsPerSecond) (some 0)).moment = m := by
  have hordinal : m.date.ordinal = m.micros / microsPerSecond / secondsPerDay + epochOrdinal :=
    (ofOrdinal_spec _).2
  obtain ⟨micros⟩ := m
  simp only [Stamp.moment, hordinal, secondOfDay, Option.getD_some, Moment.mk.injEq]
  simp only [fraction] at hwhole
  unfold microsPerSecond secondsPerDay at *
  omega

end Moment

end Calendar

end Candlestick
