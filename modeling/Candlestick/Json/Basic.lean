import Candlestick.Number.Double

set_option autoImplicit false

/-! # JSON values

The values that providers answer with. Integers have any size and are kept apart from numbers with
a fraction or an exponent, which are binary64. The members of an object stand in the order of their
first appearance. -/

namespace Candlestick

/-- A JSON value. -/
inductive Json where
  | null
  | bool (value : Bool)
  | int (value : Int)
  | double (value : Double)
  | str (value : String)
  | arr (items : List Json)
  | obj (members : List (String × Json))

namespace Json

instance : Inhabited Json := ⟨null⟩

/-- The value under a key of an object; nothing for other values. -/
def member? (key : String) : Json → Option Json
  | obj members => members.lookup key
  | _ => none

/-- The value under a key of an object, null where there is none. -/
def member (key : String) (value : Json) : Json := (value.member? key).getD null

/-- Null, false, zero and whatever is empty do not count as present. -/
def isPresent : Json → Bool
  | null => false
  | bool b => b
  | int n => n ≠ 0
  | double x => !x.isZero
  | str s => s ≠ ""
  | arr items => !items.isEmpty
  | obj members => !members.isEmpty

/-- Put a member into an object's members: in place where the key exists, else at the end. -/
def putMember (key : String) (value : Json) : List (String × Json) → List (String × Json)
  | [] => [(key, value)]
  | (k, v) :: rest => if k = key then (k, value) :: rest else (k, v) :: putMember key value rest

theorem lookup_putMember (key : String) (value : Json) (members : List (String × Json)) :
    (putMember key value members).lookup key = some value := by
  induction members with
  | nil => simp [putMember]
  | cons member rest ih =>
    obtain ⟨k, v⟩ := member
    by_cases h : k = key
    · simp [putMember, h]
    · have h' : (key == k) = false := by simpa using fun e : key = k => h e.symm
      simp [putMember, h, List.lookup_cons, h', ih]

/-- The number that a boolean or numeric value stands for, as an integer if it is one. -/
def integral? : Json → Option Int
  | bool b => some (if b then 1 else 0)
  | int n => some n
  | double x => x.truncate?.bind fun n => if (Double.ofInt n).equal x then some n else none
  | _ => none

/-- Equal to an integer as a number: `1`, `1.0` and true are all equal to one. -/
def equalsInt (n : Int) (value : Json) : Bool := value.integral? = some n

end Json

end Candlestick
