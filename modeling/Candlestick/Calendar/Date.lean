set_option autoImplicit false

/-! # Dates

The proleptic Gregorian calendar: every fourth year is a leap year, except the centuries that four
does not divide. Days are counted from the first of January of the year 1, which is day 1. -/

namespace Candlestick.Calendar

/-- A day of the calendar. -/
structure Date where
  year : Int
  month : Nat
  day : Nat
  deriving DecidableEq

def isLeap (year : Int) : Bool := year % 4 = 0 && (year % 100 ≠ 0 || year % 400 = 0)

/-- The lengths of a year's months. -/
def monthLengths (leap : Bool) : List Nat :=
  [31, if leap then 29 else 28, 31, 30, 31, 30, 31, 31, 30, 31, 30, 31]

/-- The length of a month that is one of the twelve, zero otherwise. -/
def daysInMonth (year : Int) (month : Nat) : Nat :=
  if month = 0 then 0 else ((monthLengths (isLeap year))[month - 1]?).getD 0

/-- Days before the first of January of a year. -/
def daysBeforeYear (year : Int) : Int :=
  let y := year - 1
  y * 365 + y / 4 - y / 100 + y / 400

/-- Days of a year before the first of a month. -/
def daysBeforeMonth (year : Int) (month : Nat) : Nat :=
  ((monthLengths (isLeap year)).take (month - 1)).foldl (· + ·) 0

/-- The number of a day; the first of January of the year 1 has the number 1. -/
def Date.ordinal (d : Date) : Int := daysBeforeYear d.year + daysBeforeMonth d.year d.month + d.day

/-- The month and the day of a day of the year, counted from zero, given the months' lengths. -/
def monthDay (month rest : Nat) : List Nat → Nat × Nat
  | [] => (month, rest + 1)
  | length :: later => if rest < length then (month, rest + 1) else monthDay (month + 1) (rest - length) later

/-- The day of a number. Four hundred years have 146097 days, a century 36524, four years 1461 and
    a year 365; the last century and the last year of a round may be one day longer. -/
def Date.ofOrdinal (n : Int) : Date :=
  let n := n - 1
  let rounds := n / 146097
  let inRound := (n % 146097).toNat
  let centuries := min (inRound / 36524) 3
  let inCentury := inRound - centuries * 36524
  let fours := inCentury / 1461
  let inFour := inCentury % 1461
  let years := min (inFour / 365) 3
  let dayOfYear := inFour - years * 365
  let year := rounds * 400 + (centuries * 100 + fours * 4 + years : Nat) + 1
  let (month, day) := monthDay 1 dayOfYear (monthLengths (isLeap year))
  ⟨year, month, day⟩

/-- The number of the first of January 1970. -/
def epochOrdinal : Int := 719163

/-- The day of the week of a day's number: Monday is zero. -/
def weekday (ordinal : Int) : Int := (ordinal + 6) % 7

/-- A number in decimal with zeros before it up to a width. -/
def padded (width : Nat) (n : Int) : String :=
  let digits := toString n.natAbs
  let sign := if n < 0 then "-" else ""
  sign ++ String.ofList (List.replicate (width - digits.length - sign.length) '0') ++ digits

/-- A date's text, such as `2024-02-29`. -/
def Date.text (d : Date) : String := padded 4 d.year ++ "-" ++ padded 2 d.month ++ "-" ++ padded 2 d.day

end Candlestick.Calendar
