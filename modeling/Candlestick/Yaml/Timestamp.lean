import Candlestick.Yaml.Value

set_option autoImplicit false

/-! # Dates and times of a document

A date is `2024-01-31`; with a time it is followed by `T` or blanks and `10:30:00`, a fraction after
a point, and `Z` or an offset. -/

namespace Candlestick.Yaml

/-- The parts of a date and time, before their ranges are checked. -/
structure Timestamp where
  date : Calendar.Date
  /-- Whether month and day have two digits each. -/
  wide : Bool
  /-- The time, and the offset in microseconds where one is given. -/
  time : Option (Calendar.Stamp.Clock × Option Int)

namespace Timestamp

/-- A number of one or two digits: its value, whether it has two, and the rest. -/
def oneOrTwo : List Char → Option (Nat × Bool × List Char)
  | a :: b :: rest =>
    if a.isDigit && b.isDigit then some (10 * (a.toNat - 48) + (b.toNat - 48), true, rest)
    else if a.isDigit then some (a.toNat - 48, false, b :: rest)
    else none
  | [a] => if a.isDigit then some (a.toNat - 48, false, []) else none
  | [] => none

/-- Cut off one given character. -/
def mark? (c : Char) : List Char → Option (List Char)
  | d :: rest => if d = c then some rest else none
  | [] => none

/-- Whether a character is a space or a tab. -/
def isGap (c : Char) : Bool := c = ' ' || c = '\t'

/-- The offset at the end of a time: none, `Z`, or hours with a sign, and minutes after a colon. -/
def offset? (cs : List Char) : Option (Option Int) :=
  match cs.dropWhile isGap with
  | [] => if cs.isEmpty then some none else none
  | ['Z'] => some (some 0)
  | sign :: rest =>
    if sign = '+' || sign = '-' then do
      let (hours, _, rest) ← oneOrTwo rest
      let minutes ← match rest with
        | [] => some 0
        | rest => do
          let (minutes, rest) ← Calendar.Stamp.digits? 2 (← mark? ':' rest)
          if rest.isEmpty then some minutes else none
      let micros := ((hours * 60 + minutes : Nat) : Int) * 60 * Calendar.microsPerSecond
      return some (if sign = '-' then -micros else micros)
    else none

/-- The first six digits of a fraction as microseconds. -/
def micros (digits : List Char) : Nat :=
  let shown := digits.take 6
  shown.foldl (fun n d => 10 * n + (d.toNat - 48)) 0 * Nat.pow 10 (6 - shown.length)

/-- The time after a date. -/
def time? (cs : List Char) : Option (Calendar.Stamp.Clock × Option Int) := do
  let rest ← match cs with
    | [] => none
    | c :: rest =>
      if c = 'T' || c = 't' then some rest
      else if isGap c then some (rest.dropWhile isGap)
      else none
  let (hour, _, rest) ← oneOrTwo rest
  let (minute, rest) ← Calendar.Stamp.digits? 2 (← mark? ':' rest)
  let (second, rest) ← Calendar.Stamp.digits? 2 (← mark? ':' rest)
  let (fraction, rest) := match rest with
    | '.' :: rest => (rest.takeWhile Char.isDigit, rest.dropWhile Char.isDigit)
    | rest => ([], rest)
  let offset ← offset? rest
  return (⟨hour, minute, second, micros fraction⟩, offset)

/-- The parts of a text that is written as a date or as a date and time. -/
def ofText? (text : String) : Option Timestamp := do
  let (year, rest) ← Calendar.Stamp.digits? 4 text.toList
  let (month, wideMonth, rest) ← oneOrTwo (← mark? '-' rest)
  let (day, wideDay, rest) ← oneOrTwo (← mark? '-' rest)
  let time ← if rest.isEmpty then some none else (time? rest).map some
  return ⟨⟨year, month, day⟩, wideMonth && wideDay, time⟩

/-- Whether a plain scalar of this form is a timestamp: a date alone has to have all its digits. -/
def isImplicit (t : Timestamp) : Bool := t.wide || t.time.isSome

/-- The date, or the date and time, if it is in the calendar. -/
def value (t : Timestamp) : Except Calendar.StampError Value :=
  match t.time with
  | none => (Calendar.Stamp.check t.date {} none).map fun s => .date s.date
  | some (clock, offset) => (Calendar.Stamp.check t.date clock offset).map .stamp

end Timestamp

end Candlestick.Yaml
