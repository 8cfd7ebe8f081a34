import Candlestick.Calendar.IsoText
import Candlestick.Json.Basic

set_option autoImplicit false

/-! # Values of a document

What the nodes of a document mean: the scalars of YAML 1.1, lists, and maps with any scalars for
keys. A JSON value is one of them. -/

namespace Candlestick.Yaml

/-- The meaning of a node. -/
inductive Value where
  | null
  | bool (value : Bool)
  | int (value : Int)
  | double (value : Double)
  | str (value : String)
  | bytes (value : List Nat)
  | date (value : Calendar.Date)
  | stamp (value : Calendar.Stamp)
  | list (items : List Value)
  /-- An entry of an ordered list of pairs. -/
  | pair (first second : Value)
  | set (members : List Value)
  | map (members : List (Value × Value))
  /-- A list or map that stands inside itself. -/
  | ring (isMap : Bool)

namespace Value

instance : Inhabited Value := ⟨null⟩

mutual

/-- A JSON value as a document's value. -/
def ofJson : Json → Value
  | .null => null
  | .bool b => bool b
  | .int n => int n
  | .double x => double x
  | .str s => str s
  | .arr items => list (ofItems items)
  | .obj members => map (ofMembers members)

/-- The items of a JSON array. -/
def ofItems : List Json → List Value
  | [] => []
  | item :: rest => ofJson item :: ofItems rest

/-- The members of a JSON object. -/
def ofMembers : List (String × Json) → List (Value × Value)
  | [] => []
  | (key, value) :: rest => (str key, ofJson value) :: ofMembers rest

end

/-- Null, false, zero and whatever is empty do not count as present. -/
def isPresent : Value → Bool
  | null => false
  | bool b => b
  | int n => n ≠ 0
  | double x => !x.isZero
  | str s => s ≠ ""
  | bytes value => !value.isEmpty
  | list items => !items.isEmpty
  | set members => !members.isEmpty
  | map members => !members.isEmpty
  | date _ | stamp _ | pair .. | ring _ => true

/-- The value under a key that is a text. -/
def lookup (key : String) : List (Value × Value) → Option Value
  | [] => none
  | (str k, value) :: rest => if k = key then some value else lookup key rest
  | _ :: rest => lookup key rest

/-! ## Keys -/

/-- Scalars and pairs can be keys. -/
def isKey : Value → Bool
  | list _ | set _ | map _ | ring _ => false
  | _ => true

/-- A finite number as a count of units; true and false are one and zero. -/
def units? : Value → Option Int
  | bool b => some ((if b then 1 else 0) * Double.unitsPerOne)
  | int n => some (n * Double.unitsPerOne)
  | double x => x.toUnits?
  | _ => none

/-- Whether two values are the same key. Numbers are compared as numbers, whatever their kind, and a
    time with an offset is never a time without one. -/
def sameKey : Value → Value → Bool
  | null, null => true
  | str a, str b => a = b
  | bytes a, bytes b => a = b
  | date a, date b => a = b
  | stamp a, stamp b => a.offset.isSome = b.offset.isSome && a.moment = b.moment
  | double a, double b => a.equal b
  | a, b =>
    match a.units?, b.units? with
    | some m, some n => m = n
    | _, _ => false

/-- Put an entry into a map: in place where the key exists, else at the end. -/
def put (key value : Value) : List (Value × Value) → List (Value × Value)
  | [] => [(key, value)]
  | (k, v) :: rest => if k.sameKey key then (k, value) :: rest else (k, v) :: put key value rest

theorem sameKey_double_str (x : Double) (key : String) : (double x).sameKey (str key) = false := by
  show (match x.toUnits?, (none : Option Int) with
    | some m, some n => decide (m = n)
    | _, _ => false) = false
  cases x.toUnits? <;> rfl

theorem lookup_put (key : String) (value : Value) (members : List (Value × Value)) :
    lookup key (put (str key) value members) = some value := by
  induction members with
  | nil => exact if_pos rfl
  | cons member rest ih =>
    obtain ⟨k, v⟩ := member
    cases k with
    | str k =>
      by_cases h : k = key
      · simp [put, sameKey, lookup, h]
      · simp [put, sameKey, lookup, h, ih]
    | double x => rw [put, sameKey_double_str]; exact ih
    | _ => exact ih

/-- The map of entries: of several under one key the last one counts, in the first one's place. -/
def ofEntries (entries : List (Value × Value)) : List (Value × Value) :=
  entries.foldl (fun members (key, value) => put key value members) []

end Value

end Candlestick.Yaml
