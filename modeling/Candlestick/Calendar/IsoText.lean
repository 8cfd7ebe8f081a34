import Candlestick.Calendar.Moment
import Candlestick.Text.Quoted

set_option autoImplicit false

/-! # Dates and times from text

`Stamp.ofText` reads dates and times in the spellings of ISO 8601: `2024-01-31`, `20240131`, the
week dates `2024-W05-3` and `2024W05`, then any separator character and a time with or without
colons, a fraction after a point or a comma, and `Z` or an offset. Where the separator stands is
decided by the date's form alone. Fractions beyond six places are cut.

The reader works on the text's UTF-8 bytes, since the length that decides the date's form is
counted in them. -/

namespace Candlestick.Calendar

/-- Why a text is no date and time. -/
inductive StampError where
  /-- The text has none of the forms. -/
  | malformed (text : String)
  | yearOutOfRange (year : Int)
  | monthOutOfRange
  | dayOutOfRange
  | hourOutOfRange
  | minuteOutOfRange
  | secondOutOfRange
  /-- The offset from universal time, in microseconds, is a day or longer. -/
  | offsetOutOfRange (offset : Int)
  deriving DecidableEq

/-- A length of time by its parts that are not zero: days, which carry the sign, seconds and
    microseconds. -/
def durationText (micros : Int) : String :=
  let days := micros / (secondsPerDay * microsPerSecond)
  let seconds := micros / microsPerSecond % secondsPerDay
  let parts := [("days", days), ("seconds", seconds), ("microseconds", micros % microsPerSecond)]
  let shown := (parts.filter (·.2 ≠ 0)).map fun (unit, n) => unit ++ "=" ++ toString n
  "datetime.timedelta(" ++ (if shown.isEmpty then "0" else ", ".intercalate shown) ++ ")"

/-- The message of each cause. -/
def StampError.message : StampError → String
  | malformed text => "Invalid isoformat string: " ++ Text.quoted text
  | yearOutOfRange year => "year " ++ toString year ++ " is out of range"
  | monthOutOfRange => "month must be in 1..12"
  | dayOutOfRange => "day is out of range for month"
  | hourOutOfRange => "hour must be in 0..23"
  | minuteOutOfRange => "minute must be in 0..59"
  | secondOutOfRange => "second must be in 0..59"
  | offsetOutOfRange offset =>
    "offset must be a timedelta strictly between -timedelta(hours=24) and timedelta(hours=24), not " ++
      durationText offset ++ "."

/-- A date and time, with the offset from universal time in microseconds where one is known. -/
structure Stamp where
  date : Date
  /-- Microseconds since midnight. -/
  time : Int
  offset : Option Int
  deriving DecidableEq

namespace Stamp

/-- The moment of a stamp; one without an offset is in universal time. -/
def moment (s : Stamp) : Moment :=
  ⟨(s.date.ordinal - epochOrdinal) * (secondsPerDay * microsPerSecond) + s.time - s.offset.getD 0⟩

/-- A number of exactly `count` digits at the front. -/
def digits? : Nat → List Char → Option (Nat × List Char)
  | count, cs =>
    let front := cs.take count
    if front.length = count && front.all Char.isDigit then
      some (front.foldl (fun n c => 10 * n + (c.toNat - 48)) 0, cs.drop count)
    else none

/-- The first character, NUL where there is none. -/
def front (cs : List Char) : Char := cs.headD '\x00'

/-! ## The date -/

/-- Where the date ends and the separator stands. -/
def separatorPlace (cs : List Char) : Option Nat :=
  let length := cs.length
  let isDigitAt (i : Nat) : Bool := cs[i]?.any Char.isDigit
  if length = 7 then some 7
  else if cs[4]? = some '-' then
    if cs[5]? = some 'W' then
      if length < 8 then none
      else if cs[8]? = some '-' then
        if length = 9 then none else if isDigitAt 10 then some 8 else some 10
      else some 8
    else some 10
  else if cs[4]? = some 'W' then
    let digitsEnd := 7 + ((cs.drop 7).takeWhile Char.isDigit).length
    if digitsEnd < 9 then some digitsEnd else if digitsEnd % 2 = 0 then some 7 else some 8
  else some 8

/-- The number of the Monday of a year's first week, the one with the year's first Thursday. -/
def firstMonday (year : Int) : Int :=
  let newYear := (Date.mk year 1 1).ordinal
  let day := weekday newYear
  if 3 < day then newYear - day + 7 else newYear - day

/-- Whether a year has a week of this number. -/
def hasWeek (year : Int) (week : Nat) : Bool :=
  let day := weekday (Date.mk year 1 1).ordinal
  (1 ≤ week && week ≤ 52) || (week = 53 && (day = 3 || (day = 2 && isLeap year)))

/-- The date of a day of a week. The year 0 has no dates, not even by their weeks. -/
def weekDate? (year week day : Nat) : Option Date :=
  if year = 0 then (if 1 ≤ week ∧ week ≤ 52 ∧ 1 ≤ day ∧ day ≤ 7 then some ⟨1, 0, 1⟩ else none)
  else if hasWeek year week && 1 ≤ day && day ≤ 7 then
    some (Date.ofOrdinal (firstMonday year + (week - 1 : Nat) * 7 + (day - 1 : Nat)))
  else none

/-- The date at the front, whose separator stands at `place`. -/
def readDate? (place : Nat) (cs : List Char) : Option Date := do
  let (year, rest) ← digits? 4 cs
  let dashed := front rest = '-'
  let rest := if dashed then rest.drop 1 else rest
  if front rest = 'W' then
    let (week, rest) ← digits? 2 (rest.drop 1)
    if (if dashed then 8 else 7) < place then
      if dashed && front rest ≠ '-' then none
      else
        let (day, _) ← digits? 1 (if dashed then rest.drop 1 else rest)
        weekDate? year week day
    else weekDate? year week 1
  else
    let (month, rest) ← digits? 2 rest
    if dashed && front rest ≠ '-' then none
    else
      let (day, _) ← digits? 2 (if dashed then rest.drop 1 else rest)
      some ⟨year, month, day⟩

/-! ## The time -/

/-- Hours, minutes, seconds and microseconds as read, before their ranges are checked. -/
structure Clock where
  hour : Nat := 0
  minute : Nat := 0
  second : Nat := 0
  micro : Nat := 0

/-- Set the hour, the minute or the second. -/
def Clock.set (clock : Clock) (field value : Nat) : Clock :=
  match field with
  | 0 => { clock with hour := value }
  | 1 => { clock with minute := value }
  | _ => { clock with second := value }

/-- The fraction of a second: at most six digits count, and more are skipped. The flag tells whether
    something follows. -/
def readFraction? (clock : Clock) (cs : List Char) (length : Nat) : Option (Clock × Bool) := do
  let count := min length 6
  let (value, rest) ← digits? count cs
  let after := front (rest.dropWhile Char.isDigit)
  return ({ clock with micro := value * Nat.pow 10 (6 - count) }, after ≠ '\x00')

/-- Hours, minutes and seconds, with or without colons, in a stretch of `length` characters; what
    follows the stretch may be looked at. The flag tells whether something follows the time. -/
def readFields? (clock : Clock) (field : Nat) (colons : Bool) (cs : List Char) (length : Nat) :
    Nat → Option (Clock × Bool)
  | 0 => readFraction? clock cs length
  | left + 1 => do
    let (value, rest) ← digits? 2 cs
    let clock := clock.set field value
    let next := front rest
    let colons := if field = 0 then next = ':' else colons
    -- The stretch holds no further field: two digits and one more character at most.
    if length ≤ 3 then return (clock, next ≠ '\x00')
    else if colons && next = ':' then readFields? clock (field + 1) colons (rest.drop 1) (length - 3) left
    else if next = '.' || next = ',' then readFraction? clock (rest.drop 1) (length - 3)
    else if !colons then readFields? clock (field + 1) colons rest (length - 2) left
    else none

/-- A whole clock reading in a stretch of `length` characters. -/
def readClock? (cs : List Char) (length : Nat) : Option (Clock × Bool) :=
  readFields? {} 0 true cs length 3

/-- The time after the separator, and the offset where one is given. -/
def readTime? (cs : List Char) : Option (Clock × Option Int) := do
  let isZoneMark (c : Char) : Bool := c = '+' || c = '-' || c = 'Z'
  let length := (cs.takeWhile (!isZoneMark ·)).length
  let (clock, more) ← readClock? cs length
  match cs.drop length with
  | [] => if more then none else some (clock, none)
  | mark :: zone =>
    if mark = 'Z' then (if front zone = '\x00' then some (clock, some 0) else none)
    else
      let (shift, more) ← readClock? zone zone.length
      let seconds : Int := shift.hour * 3600 + shift.minute * 60 + shift.second
      let micros := if seconds = 0 then 0 else seconds * microsPerSecond + shift.micro
      if more then none else some (clock, some (if mark = '-' then -micros else micros))

/-! ## The whole -/

/-- Check the ranges, the offset's first and then from the year to the second. -/
def check (date : Date) (clock : Clock) (offset : Option Int) : Except StampError Stamp :=
  let day := secondsPerDay * microsPerSecond
  -- An offset is checked when it is read, before the date is put together.
  if offset.any fun o => o ≤ -day || day ≤ o then .error (.offsetOutOfRange (offset.getD 0))
  else if date.year < 1 ∨ 9999 < date.year then .error (.yearOutOfRange date.year)
  else if date.month < 1 ∨ 12 < date.month then .error .monthOutOfRange
  else if date.day < 1 ∨ daysInMonth date.year date.month < date.day then .error .dayOutOfRange
  else if 23 < clock.hour then .error .hourOutOfRange
  else if 59 < clock.minute then .error .minuteOutOfRange
  else if 59 < clock.second then .error .secondOutOfRange
  else
    let seconds : Int := clock.hour * 3600 + clock.minute * 60 + clock.second
    .ok ⟨date, seconds * microsPerSecond + clock.micro, offset⟩

/-- The rest after the separator, which is one character of one to four bytes; nothing where the text
    ends with the date. -/
def afterSeparator (cs : List Char) : Option (List Char) :=
  match cs with
  | [] => none
  | c :: rest =>
    if c.toNat < 0x80 then some rest
    else if c.toNat / 16 = 14 then some (rest.drop 2)
    else if c.toNat / 16 = 15 then some (rest.drop 3)
    else some (rest.drop 1)

/-- The parts of a date and time, before their ranges are checked. -/
def parts? (bytes : List Char) : Option (Date × Clock × Option Int) := do
  if bytes.length < 7 then none
  else
    let place ← separatorPlace bytes
    let date ← readDate? place bytes
    match afterSeparator (bytes.drop place) with
    | none => some (date, {}, none)
    | some rest =>
      let (clock, offset) ← readTime? rest
      some (date, clock, offset)

/-- The date and time that a text denotes. -/
def ofText (text : String) : Except StampError Stamp :=
  match parts? (text.toUTF8.toList.map fun byte => Char.ofNat byte.toNat) with
  | none => .error (.malformed text)
  | some (date, clock, offset) => check date clock offset

end Stamp

end Candlestick.Calendar
