import Candlestick.Calendar.Date
import Candlestick.Failure

set_option autoImplicit false

/-! # Moments

A moment is a whole number of microseconds since the first of January 1970, in universal time.
Milliseconds become a moment by way of a binary64 count of seconds: the count is split into whole
seconds and a fraction, and the fraction is rounded to microseconds, a half to the even neighbour.
Only the years 1 to 9999 have moments that can be written. -/

namespace Candlestick.Calendar

/-- Microseconds since the beginning of 1970, in universal time. -/
structure Moment where
  micros : Int
  deriving DecidableEq

def microsPerSecond : Int := 1000000

def secondsPerDay : Int := 86400

namespace Moment

/-- The day of a moment. -/
def date (m : Moment) : Date :=
  Date.ofOrdinal ((m.micros / microsPerSecond) / secondsPerDay + epochOrdinal)

/-- The second of the day, from `0` to `86399`. -/
def secondOfDay (m : Moment) : Int := (m.micros / microsPerSecond) % secondsPerDay

/-- The microseconds of the second. -/
def fraction (m : Moment) : Int := m.micros % microsPerSecond

/-- Whole seconds and microseconds of a binary64 count of seconds, the fraction rounded. -/
def splitSeconds? (seconds : Double) : Option (Int × Int) := do
  let whole ← seconds.truncate?
  let micros ← ((← seconds.fraction?) * Double.ofInt microsPerSecond).round?
  if microsPerSecond ≤ micros then some (whole + 1, micros - microsPerSecond)
  else if micros < 0 then some (whole - 1, micros + microsPerSecond)
  else some (whole, micros)

/-- A year as a 32-bit word, which far years overflow. -/
def yearWord (year : Int) : Int := Int.bmod year 0x100000000

/-- The moment of a number of milliseconds, if it lies in the years 1 to 9999. A count of seconds
    beyond 64 bits is too large, and a year beyond 32 bits, counted from 1900, is not known. -/
def ofMs (ms : Int) : Except Failure Moment :=
  let seconds := (Double.ofInt ms).div (Double.ofInt 1000)
  match splitSeconds? seconds with
  | none => .error .tooLarge
  | some (whole, micros) =>
    if whole < -0x8000000000000000 ∨ 0x8000000000000000 ≤ whole then .error .tooLarge
    else
      let moment : Moment := ⟨whole * microsPerSecond + micros⟩
      let year := moment.date.year
      if year - 1900 < -0x80000000 ∨ 0x80000000 ≤ year - 1900 then .error .instantUnknown
      else if year < 1 ∨ 9999 < year then .error (.yearOutOfRange (yearWord year))
      else .ok moment

/-- Milliseconds since 1970: the microseconds divided into binary64 seconds, times a thousand,
    without the fraction. -/
def toMs (m : Moment) : Int :=
  ((Double.ofQuotient m.micros microsPerSecond * Double.ofInt 1000).truncate?).getD 0

/-- Hours, minutes and seconds of the day, such as `09:30:00`. -/
def clockText (m : Moment) : String :=
  let s := m.secondOfDay
  padded 2 (s / 3600) ++ ":" ++ padded 2 (s / 60 % 60) ++ ":" ++ padded 2 (s % 60)

/-- Date and time with `T` between them, and six places of the second unless they are zero. -/
def isoLocal (m : Moment) : String :=
  m.date.text ++ "T" ++ m.clockText ++
    (if m.fraction = 0 then "" else "." ++ padded 6 m.fraction)

/-- Date and time with the offset of universal time. -/
def isoText (m : Moment) : String := m.isoLocal ++ "+00:00"

/-- Date and time with the letter of universal time. -/
def zuluText (m : Moment) : String := m.isoLocal ++ "Z"

/-- Date and time to the minute, for summaries; the year without leading zeros. -/
def minuteText (m : Moment) : String :=
  let s := m.secondOfDay
  let d := m.date
  toString d.year ++ "-" ++ padded 2 d.month ++ "-" ++ padded 2 d.day ++ " " ++
    padded 2 (s / 3600) ++ ":" ++ padded 2 (s / 60 % 60)

end Moment

/-- Milliseconds as date and time with the letter of universal time. -/
def zuluOfMs (ms : Int) : Except Failure String := (Moment.ofMs ms).map Moment.zuluText

/-- Milliseconds as date and time to the minute. -/
def minuteOfMs (ms : Int) : Except Failure String := (Moment.ofMs ms).map Moment.minuteText

end Candlestick.Calendar
