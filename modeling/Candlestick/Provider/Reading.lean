import Candlestick.Calendar.IsoText
import Candlestick.Number.Reading

set_option autoImplicit false

/-! # Lenient reading of provider values

Providers send numbers as numbers or as texts, and now and then something else. A value that is no
number becomes not-a-number, a volume or a count of zero, or no time at all. Only an integer beyond
the binary64 range is refused. -/

namespace Candlestick.Reading

/-- The number of a value; not-a-number where it has none. -/
def number : Json → Except Failure Double
  | .bool b => .ok (Double.ofInt (if b then 1 else 0))
  | .int n =>
    let x := Double.ofInt n
    if x.isFinite then .ok x else .error .tooLarge
  | .double x => .ok x
  | .str s => .ok ((Double.ofText? s).getD .nan)
  | .null | .arr _ | .obj _ => .ok .nan

/-- The volume of a value; zero where it is not a finite number. -/
def volume (value : Json) : Except Failure Double :=
  (number value).map fun x => if x.isFinite then x else .zero

/-- The count of a value, its fraction cut off; zero where it is not a finite number. -/
def count (value : Json) : Except Failure Int :=
  (number value).map fun x => (x.truncate?).getD 0

/-- The time of a value given in units of `scale` milliseconds, its fraction cut off. -/
def time (value : Json) (scale : Int := 1) : Except Failure (Option Int) := do
  let x ← number value
  if x.isFinite then
    let factor := Double.ofInt scale
    match (if factor.isFinite then x * factor else .nan).truncate? with
    | some ms => .ok (some ms)
    | none => .error .tooLarge
  else .ok none

/-- The item of a row, counted from its end for a negative place; null where the row is short or no
    row at all. -/
def cell (row : Json) (place : Int) : Except Failure Json :=
  match row with
  | .arr items =>
    if place < items.length then
      let place := if place < 0 then place + items.length else place
      if place < 0 then .error .noSuchPlace else .ok ((items[place.toNat]?).getD .null)
    else .ok .null
  | _ => .ok .null

/-- The item of a row at a place counted from its beginning; null where there is none. -/
def item (row : Json) (place : Nat) : Json :=
  match row with
  | .arr items => (items[place]?).getD .null
  | _ => .null

theorem cell_eq_item (row : Json) (place : Nat) : cell row place = .ok (item row place) := by
  cases row with
  | arr items =>
    by_cases h : place < items.length
    · have h' : (place : Int) < items.length := by omega
      have h'' : ¬ (place : Int) < 0 := by omega
      simp [cell, item, h', h'']
    · have h' : ¬ (place : Int) < items.length := by omega
      simp [cell, item, h', List.getElem?_eq_none (Nat.le_of_not_lt h)]
  | _ => rfl

/-- The items of a value that can be walked through: of an array its items, of an object its keys,
    of a text its characters. -/
def items : Json → Except Failure (List Json)
  | .arr items => .ok items
  | .obj members => .ok (members.map fun member => .str member.1)
  | .str s => .ok (s.toList.map fun c => .str c.toString)
  | _ => .error .notCollection

/-- The items of a value, none where it is absent. -/
def itemsIfPresent (value : Json) : Except Failure (List Json) :=
  if value.isPresent then items value else .ok []

/-- Replace the letter of universal time by its offset. -/
def spellOutZulu (s : String) : String :=
  String.ofList (s.toList.flatMap fun c => if c = 'Z' then "+00:00".toList else [c])

/-- A time as seconds since 1970 or, in a text, as date and time. -/
def startTime (value : Json) : Except Failure (Option Int) := do
  match value with
  | .str s =>
    match ← time value 1000 with
    | some ms => .ok (some ms)
    | none =>
      match Calendar.Stamp.ofText (spellOutZulu s) with
      | .ok stamp => .ok (some stamp.moment.toMs)
      | .error _ => .ok none
  | value => time value 1000

end Candlestick.Reading
