import Candlestick.Proofs.Calendar.IsoText
import Candlestick.Proofs.Calendar.Moment
import Candlestick.Proofs.Network.Dialogue
import Candlestick.Proofs.Number.Reading
import Candlestick.Provider.Coinbase

set_option autoImplicit false

/-! # What is sent as a date and time is read back

The ends of a range are sent as dates and times of whole seconds, and starts come back in the same form. On
the way out the milliseconds are rounded to a moment; on the way back the text is tried as a number first,
and the seconds are rounded to milliseconds again. `Reading.startTime_zulu` says that nothing is lost. -/

namespace Candlestick

open NumberText

namespace Calendar.Moment

variable {m : Moment}

theorem toList_zuluText (hwhole : m.fraction = 0) :
    m.zuluText.toList = (padded 4 m.date.year).toList ++ '-' :: ((padded 2 m.date.month).toList ++
      '-' :: (padded 2 m.date.day).toList ++ 'T' :: m.clockChars ++ ['Z']) := by
  rw [zuluText, String.toList_append, toList_isoLocal hwhole, dayChars, dateChars]
  simp

/-- A date and time is no number. -/
theorem ofText?_zuluText (h : m.InCalendar) (hwhole : m.fraction = 0) : Double.ofText? m.zuluText = none := by
  have hplain : ∀ c ∈ m.zuluText.toList, IsPlain c := by
    intro c hc
    rw [zuluText, String.toList_append, List.mem_append] at hc
    rcases hc with hc | hc
    · exact isPlain_isoLocal h hwhole c hc
    · obtain rfl : c = 'Z' := List.mem_singleton.1 hc
      unfold IsPlain
      decide
  have hyear := numeral_year h
  have hhead : ∃ c ∈ m.zuluText.toList.head?, c.isDigit = true := by
    obtain ⟨c, rest, hchars, hc⟩ := hyear.exists_cons (by decide)
    rw [toList_zuluText hwhole, hchars]
    exact ⟨c, rfl, hc⟩
  rw [Double.ofText?_of_plain hplain, spanSign_of_head hhead, unsigned?_of_head hhead, toList_zuluText hwhole,
    decimal?_of_dash hyear.isDigit]

/-- Only the last letter stands for universal time. -/
theorem spellOutZulu_zuluText (h : m.InCalendar) (hwhole : m.fraction = 0) :
    Reading.spellOutZulu m.zuluText = m.isoText := by
  have hkept : ∀ c ∈ m.isoLocal.toList, (if c = 'Z' then "+00:00".toList else [c]) = [c] := by
    intro c hc
    rcases mem_isoLocal h hwhole hc with hdigit | rfl | rfl | rfl
    · exact if_neg (ne_of_isDigit hdigit (by decide))
    all_goals rfl
  have hlast : ("Z".toList.flatMap fun c => if c = 'Z' then "+00:00".toList else [c]) = "+00:00".toList := by
    decide
  rw [Reading.spellOutZulu, zuluText, String.toList_append, List.flatMap_append, List.flatMap_congr hkept, hlast,
    isoText, ← String.toList_inj, String.toList_ofList, String.toList_append]
  simp

end Calendar.Moment

/-- The milliseconds of a whole second in the years 1 to 9999. -/
def Calendar.WholeSecond (ms : Int) : Prop :=
  1000 ∣ ms ∧ -62135596800000 ≤ ms ∧ ms ≤ 253402300799000

namespace Reading

open Calendar

/-- A whole second is written, and its text is read as the same milliseconds. -/
theorem exists_zulu {ms : Int} (h : WholeSecond ms) :
    ∃ text, zuluOfMs ms = .ok text ∧ startTime (.str text) = .ok (some ms) := by
  obtain ⟨hdvd, hstart, hstop⟩ := h
  have hlo : yearStart 1 = -62135596800000 := by decide
  have hhi : yearStart 10000 = 253402300800000 := by decide
  have hwritable : Writable ms := by
    unfold Writable
    omega
  obtain ⟨m, hm, hmicros⟩ := exists_moment hwritable
  have hmicros := hmicros hdvd
  have hcalendar := Moment.inCalendar_of_ofMs hm
  obtain ⟨s, rfl⟩ := hdvd
  have hwhole : m.fraction = 0 := by
    rw [Moment.fraction, hmicros]
    unfold microsPerSecond
    omega
  have hseconds : m.micros = s * microsPerSecond := by
    rw [hmicros]
    unfold microsPerSecond
    omega
  have htoMs := Moment.toMs_of_second hseconds (by omega)
  have hnumber : number (.str m.zuluText) = .ok .nan := by
    rw [number, Moment.ofText?_zuluText hcalendar hwhole, Option.getD_none]
  have htime : time (.str m.zuluText) 1000 = .ok none := by
    simp only [time, hnumber, bind, Except.bind]
    rfl
  refine ⟨m.zuluText, by rw [zuluOfMs, hm]; rfl, ?_⟩
  simp only [startTime, htime, bind, Except.bind, Moment.spellOutZulu_zuluText hcalendar hwhole,
    Moment.ofText_isoText hcalendar hwhole, Moment.moment_eq hwhole, htoMs]
  rw [Int.mul_comm]

/-- Every whole second of the years 1 to 9999 is written as a date and time that is read as the same
    milliseconds, and as one that no other whole second is written as. -/
theorem startTime_zulu {ms : Int} (h : WholeSecond ms) :
    ∃ text, zuluOfMs ms = .ok text ∧ startTime (.str text) = .ok (some ms) ∧
      ∀ other, WholeSecond other → zuluOfMs other = .ok text → other = ms := by
  obtain ⟨text, hwritten, hread⟩ := exists_zulu h
  refine ⟨text, hwritten, hread, ?_⟩
  intro other hother hsame
  obtain ⟨text', hwritten', hread'⟩ := exists_zulu hother
  rw [hsame] at hwritten'
  cases hwritten'
  rw [hread] at hread'
  cases hread'
  rfl

/-- The last second of a leap day before 1970. -/
theorem startTime_zulu_leapDay : WholeSecond (-57974401000) ∧
    zuluOfMs (-57974401000) = .ok "1968-02-29T23:59:59Z" ∧
    startTime (.str "1968-02-29T23:59:59Z") = .ok (some (-57974401000)) := by
  have hsecond : WholeSecond (-57974401000) := by
    unfold WholeSecond
    decide
  have htext : zuluOfMs (-57974401000) = .ok "1968-02-29T23:59:59Z" :=
    eq_ok_of_toOption (by decide +kernel)
  obtain ⟨text, hwritten, hread, -⟩ := startTime_zulu hsecond
  rw [htext] at hwritten
  cases hwritten
  exact ⟨hsecond, htext, hread⟩

end Reading

/-- Coinbase is asked for a range whose ends are read back from the question. -/
theorem Coinbase.exists_call {r : FetchRequest} (hstart : Calendar.WholeSecond r.start)
    (hstop : Calendar.WholeSecond r.stop) : ∃ call start stop, Coinbase.call r = .ok call ∧
      call.params = [("granularity", .str r.interval), ("start", .str start), ("end", .str stop)] ∧
      Reading.startTime (.str start) = .ok (some r.start) ∧
      Reading.startTime (.str stop) = .ok (some r.stop) := by
  obtain ⟨start, hwritten, hread⟩ := Reading.exists_zulu hstart
  obtain ⟨stop, hwritten', hread'⟩ := Reading.exists_zulu hstop
  refine ⟨⟨Coinbase.name, Coinbase.productsUrl ++ "/" ++ Symbol.join r.asset r.quote "-" ++ "/candles", _⟩,
    start, stop, ?_, rfl, hread, hread'⟩
  simp only [Coinbase.call, hwritten, hwritten']
  rfl

end Candlestick
