import Candlestick.Config.Fault
import Candlestick.Number.Reading
import Candlestick.Yaml.Value

set_option autoImplicit false

/-! # Lenient reading of values

A field takes values of other kinds than its own where they leave no doubt: a text that writes a
number, a number without a fraction, one or zero for true or false. -/

namespace Candlestick.Config

/-- The blanks that are dropped around a number's text: the information separators do not belong to
    them. -/
def isPad (c : Char) : Bool := Text.isBlank c && !(0x1C ≤ c.toNat && c.toNat ≤ 0x1F)

/-- Drop the underscores of a text, of which no two stand together and none at an end; `none` where
    there are none to drop or they may not be dropped. -/
def withoutUnderscores? (cs : List Char) : Option (List Char) :=
  let doubled := (cs.zip (cs.drop 1)).any fun (a, b) => a = '_' && b = '_'
  if cs.contains '_' && cs.head? ≠ some '_' && cs.getLast? ≠ some '_' && !doubled then
    some (cs.filter (· ≠ '_'))
  else none

/-! ## Integers -/

/-- Integers whose text is longer than this, with its sign, are not read. -/
def maxLength : Nat := 4300

/-- The value of a decimal integer without leading zeros. Too many digits are an error of their own;
    `none` is any other text. -/
def plainInteger? (cs : List Char) : Except Cause (Option Int) :=
  let (negative, body) := match cs with
    | '-' :: rest => (true, rest)
    | cs => (false, cs)
  let (digits, rest) := NumberText.spanDigits body
  let length := digits.length + (if negative then 1 else 0)
  if maxLength < length && digits.head? ≠ some '0' then .error .integerTooLarge
  else if digits.isEmpty || !rest.isEmpty || (digits.head? = some '0' && 1 < digits.length) then .ok none
  else
    let n := NumberText.digitsValue 0 digits
    .ok (some (if negative then -(n : Int) else n))

/-- What follows leading zeros, among which underscores do not count. The last zero stays before a
    point and at the end. -/
def afterZeros? (last : Char) : List Char → Option (List Char)
  | [] => some [last]
  | c :: rest =>
    if c = '0' || c = '_' then afterZeros? c rest
    else if c.isDigit then some (c :: rest)
    else if c = '.' then some (last :: '.' :: rest)
    else none

/-- Drop leading zeros of a number that is not negative. -/
def dropZeros? : List Char → Option (List Char)
  | [] => none
  | c :: rest =>
    if c = '0' then afterZeros? c rest
    else if c.isDigit || c = '-' then some (c :: rest)
    else none

/-- Drop a point with zeros, one at least, and nothing else after it. -/
def dropFraction (cs : List Char) : List Char :=
  let whole := cs.takeWhile (· ≠ '.')
  let fraction := cs.drop (whole.length + 1)
  if !fraction.isEmpty && fraction.all (· = '0') then whole else cs

/-- A number's text without a plus sign, leading zeros, a fraction of zeros and underscores. -/
def cleaned? (cs : List Char) : Option (List Char) := do
  let cs ← match cs with
    | '+' :: '+' :: _ => none
    | '+' :: '-' :: _ => none
    | '+' :: rest => some rest
    | cs => some cs
  let cs := dropFraction (← dropZeros? cs)
  return (withoutUnderscores? cs).getD cs

/-- The integer that a text writes. -/
def integerOfText (text : List Char) : Except Cause Int := do
  let cs := Text.trimBy isPad text
  if let some n ← plainInteger? cs then return n
  let some cs := cleaned? cs | throw .unreadableInteger
  let some n ← plainInteger? cs | throw .unreadableInteger
  return n

/-- The bound of 64-bit integers. -/
def wordBound : Int := 0x8000000000000000

/-- The integer that a number is. -/
def integerOfDouble (x : Double) : Except Cause Int :=
  match x.truncate? with
  | none => .error .notFinite
  | some n =>
    if !(Double.ofInt n).equal x then .error .fractional
    else if n ≤ -wordBound ∨ wordBound ≤ n then .error .integerTooLarge
    else .ok n

/-! ## Numbers -/

/-- A decimal, an infinity or not a number, with an optional sign. -/
def plainNumber? (cs : List Char) : Option Double :=
  let (negative, rest) := NumberText.spanSign cs
  NumberText.unsigned? negative rest

/-- The number that a text writes. -/
def numberOfText (text : List Char) : Except Cause Double :=
  match plainNumber? (Text.trimBy isPad text) with
  | some x => .ok x
  | none =>
    match (withoutUnderscores? text).bind plainNumber? with
    | some x => .ok x
    | none => .error .unreadableNumber

/-! ## Booleans -/

def trueWords : List String := ["1", "t", "true", "y", "yes", "on"]

def falseWords : List String := ["0", "f", "false", "n", "no", "off"]

/-- The boolean that a text writes, in any case. -/
def boolOfText (text : String) : Except Cause Bool :=
  let word := String.ofList (text.toList.map Char.toLower)
  if trueWords.contains word then .ok true
  else if falseWords.contains word then .ok false
  else .error .unreadableBoolean

/-- One and zero are booleans; a number beyond 64 bits is of no kind that could be one. -/
def boolOfInt (n : Int) : Except Cause Bool :=
  if n = 0 then .ok false
  else if n = 1 then .ok true
  else if n < -wordBound ∨ wordBound ≤ n then .error .notBoolean
  else .error .unreadableBoolean

end Config

namespace Yaml.Value

open Config

/-- The text that bytes encode. -/
def textOfBytes? (bytes : List Nat) : Option String :=
  String.fromUTF8? (ByteArray.mk (bytes.map Nat.toUInt8).toArray)

/-- The value of a text field. -/
def asText : Value → Except Cause String
  | str s => .ok s
  | bytes b => match textOfBytes? b with
    | some s => .ok s
    | none => .error .garbledText
  | _ => .error .notText

/-- The value of an integer field. -/
def asInt : Value → Except Cause Int
  | bool b => .ok (if b then 1 else 0)
  | int n => .ok n
  | double x => integerOfDouble x
  | str s => integerOfText s.toList
  | bytes b => match textOfBytes? b with
    | some s => integerOfText s.toList
    | none => .error .unreadableInteger
  | _ => .error .notInteger

/-- The value of a number field. -/
def asDouble : Value → Except Cause Double
  | bool b => .ok (Double.ofInt (if b then 1 else 0))
  | int n =>
    let x := Double.ofInt n
    if x.isFinite then .ok x else .error .notNumber
  | double x => .ok x
  | str s => numberOfText s.toList
  | bytes b => match textOfBytes? b with
    | some s => numberOfText s.toList
    | none => .error .unreadableNumber
  | _ => .error .notNumber

/-- The value of a boolean field. -/
def asBool : Value → Except Cause Bool
  | bool b => .ok b
  | int n => boolOfInt n
  | double x =>
    match integerOfDouble x with
    | .ok n => boolOfInt n
    | .error _ => .error .notBoolean
  | str s => boolOfText s
  | bytes b => match textOfBytes? b with
    | some s => boolOfText s
    | none => .error .unreadableBoolean
  | _ => .error .notBoolean

end Yaml.Value

end Candlestick
