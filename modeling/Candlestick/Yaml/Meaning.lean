import Candlestick.Number.Reading
import Candlestick.Text.Case
import Candlestick.Text.Lines
import Candlestick.Yaml.Base64
import Candlestick.Yaml.Node

set_option autoImplicit false

/-! # The meaning of nodes

A node's tag says what kind of value it has. Collections are filled one level after the other, so of
several faults in a document the one at the least depth counts, and among those the first. -/

namespace Candlestick.Yaml

/-! ## Scalars -/

/-- Integers in decimal with more digits than this are refused. -/
def maxDigits : Nat := 4300

/-- The mark that digits in a base may have before them. -/
def baseMark (base : Nat) : List Char :=
  if base = 2 then ['b', 'B'] else if base = 8 then ['o', 'O'] else if base = 16 then ['x', 'X'] else []

/-- Drop the mark of a base. -/
def dropMark (base : Nat) : List Char → List Char
  | '0' :: mark :: rest => if (baseMark base).contains mark then rest else '0' :: mark :: rest
  | cs => cs

/-- The digits of a text in a base, if it has nothing else. -/
def digitsIn? (base : Nat) (cs : List Char) : Option (List Nat) :=
  if cs.isEmpty then none
  else cs.mapM fun c => (Text.hexValue? c).filter (· < base)

/-- The integer that a text writes in a base, with blanks around it and an optional sign. -/
def integer (base : Nat) (cs : List Char) : Except Fault Int :=
  let (negative, body) :=
    NumberText.spanSign (Text.trimBy Text.isAsciiSpace (NumberText.toAscii cs))
  match digitsIn? base (dropMark base body) with
  | none => .error (.notInteger base (String.ofList cs))
  | some digits =>
    if base = 10 && maxDigits < digits.length then .error (.tooManyDigits digits.length)
    else
      let n : Nat := digits.foldl (fun n d => base * n + d) 0
      .ok (if negative then -(n : Int) else n)

/-- A text without underscores; a text without characters is no number. -/
def numberBody (cs : List Char) : Except Fault (Bool × List Char) :=
  match cs.filter (· ≠ '_') with
  | [] => .error .emptyNumber
  | c :: rest => .ok (c = '-', Tag.dropSign (c :: rest))

/-- The value of an integer's text. -/
def intOfText (text : String) : Except Fault Int := do
  let (negative, body) ← numberBody text.toList
  let n ← match body with
    | [] => throw .emptyNumber
    | ['0'] => pure 0
    | '0' :: 'b' :: rest => integer 2 rest
    | '0' :: 'x' :: rest => integer 16 rest
    | '0' :: _ => integer 8 body
    | _ => do
      let parts ← (Text.splitAt ':' body).mapM (integer 10)
      pure (parts.foldl (fun n part => 60 * n + part) 0)
  return if negative then -n else n

/-- The value of a number's text. -/
def number (cs : List Char) : Except Fault Double :=
  let text := String.ofList cs
  match Double.ofText? text with
  | some x => .ok x
  | none => .error (.notNumber text)

/-- The sum of the parts of a sexagesimal number, the last one first. -/
def sexagesimal (base : Int) (sum : Double) : List Double → Except Fault Double
  | [] => .ok sum
  | part :: parts =>
    let factor := Double.ofInt base
    if factor.isFinite then sexagesimal (base * 60) (sum + part * factor) parts else .error .tooLarge

/-- The value of a number's text with a fraction. -/
def doubleOfText (text : String) : Except Fault Double := do
  let (negative, body) ← numberBody (Text.lower text).toList
  let x ←
    if body = ".inf".toList then pure (Double.infinity false)
    else if body = ".nan".toList then pure Double.nan
    else if body.contains ':' then do
      let parts ← (Text.splitAt ':' body).mapM number
      sexagesimal 1 .zero parts.reverse
    else number body
  return if negative then -x else x

/-- The words for true and false, in any case. -/
def boolOfText (text : String) : Except Fault Bool :=
  let word := Text.lower text
  if ["yes", "true", "on"].contains word then .ok true
  else if ["no", "false", "off"].contains word then .ok false
  else .error .notBoolean

/-- The value of a timestamp's text. -/
def timestampOfText (text : String) : Except Fault Value :=
  match Timestamp.ofText? text with
  | none => .error .notTimestamp
  | some t => t.value.mapError .notInCalendar

/-- The bytes of a text in base 64. -/
def bytesOfText (text : String) : Except Fault Value :=
  match if text.toList.all (·.toNat < 0x80) then Base64.decode? text else none with
  | some bytes => .ok (.bytes bytes)
  | none => .error .badTag

/-- Whether a tag is one of scalars. -/
def Tag.isScalar : Tag → Bool
  | .null | .bool | .int | .double | .bytes | .timestamp | .str => true
  | _ => false

/-- The value of a scalar's text under a tag of scalars. -/
def scalarValue (tag : Tag) (text : String) : Except Fault Value :=
  match tag with
  | .null => .ok .null
  | .bool => (boolOfText text).map .bool
  | .int => (intOfText text).map .int
  | .double => (doubleOfText text).map .double
  | .bytes => bytesOfText text
  | .timestamp => timestampOfText text
  | .str => .ok (.str text)
  | _ => .error .badTag

/-! ## Collections -/

namespace Node

mutual

/-- The text of a node under a tag of scalars: its own, or that of a map's default. -/
def text? : Node → Option String
  | scalar _ text => some text
  | map _ members => defaultText? members
  | list .. | ring _ => none

/-- The text of a map's default. -/
def defaultText? : List (Node × Node) → Option String
  | [] => none
  | (key, value) :: rest =>
    match key with
    | scalar .default _ => text? value
    | _ => defaultText? rest

end

end Node

/-- A value, or a fault with the depth at which it counts. -/
abbrev Built (α : Type) := Except (Nat × Fault) α

namespace Built

/-- A fault at a depth. -/
def fail {α : Type} (depth : Nat) (fault : Fault) : Built α := .error (depth, fault)

/-- A value whose fault counts at a depth. -/
def atDepth {α : Type} (depth : Nat) (x : Except Fault α) : Built α := x.mapError fun fault => (depth, fault)

/-- Two values; of two faults the one at the lesser depth counts, else the first. -/
def both {α β γ : Type} (f : α → β → γ) (a : Built α) (b : Built β) : Built γ :=
  match a, b with
  | .ok a, .ok b => .ok (f a b)
  | .error e, .ok _ => .error e
  | .ok _, .error e => .error e
  | .error e, .error e' => if e'.1 < e.1 then .error e' else .error e

end Built

namespace Node

/-- Whether a node is the key of a merge. -/
def isMerge : Node → Bool
  | scalar .merge _ => true
  | _ => false

/-- A key, which has to be one that a map can have. A collection is none, and that counts before the
    faults inside it, which lie deeper. -/
def checkKey (depth : Nat) (key : Built Value) : Built Value :=
  match key with
  | .ok key => if key.isKey then .ok key else Built.fail depth .badTag
  | .error (level, fault) => if depth < level then Built.fail depth .badTag else .error (level, fault)

mutual

/-- The value of a node. A scalar is read at the depth of the collection it stands in, a collection is
    filled one level below. -/
def value (depth : Nat) : Node → Built Value
  | scalar tag text =>
    if tag.isScalar then Built.atDepth depth (scalarValue tag text)
    else Built.fail (if tag = .list ∨ tag = .map ∨ tag = .set ∨ tag = .pairs then depth + 1 else depth)
      .badTag
  | list tag items =>
    match tag with
    | .list => (listValues (depth + 1) items).map .list
    | .pairs => (pairValues (depth + 1) items).map .list
    | .map | .set => Built.fail (depth + 1) .badTag
    | _ => Built.fail depth .badTag
  | map tag members =>
    match tag with
    | .map =>
      (Built.both (· ++ ·) (merged (depth + 1) members) (own (depth + 1) members)).map fun entries =>
        .map (Value.ofEntries entries)
    | .set =>
      (Built.both (· ++ ·) (merged (depth + 1) members) (own (depth + 1) members)).map fun entries =>
        .set ((Value.ofEntries entries).map (·.1))
    | .list | .pairs => Built.fail (depth + 1) .badTag
    | tag =>
      if tag.isScalar then
        match defaultText? members with
        | some text => Built.atDepth depth (scalarValue tag text)
        | none => Built.fail depth .badTag
      else Built.fail depth .badTag
  | ring isMap => .ok (.ring isMap)

/-- The values of a list's items. -/
def listValues (depth : Nat) : List Node → Built (List Value)
  | [] => .ok []
  | item :: rest => Built.both (· :: ·) (value depth item) (listValues depth rest)

/-- The pairs of an ordered list of maps with one member each. -/
def pairValues (depth : Nat) : List Node → Built (List Value)
  | [] => .ok []
  | map _ [(first, second)] :: rest =>
    Built.both (· :: ·) (Built.both Value.pair (value depth first) (value depth second))
      (pairValues depth rest)
  | _ :: _ => Built.fail depth .badTag

/-- The entries of a map itself, without what it merges. -/
def own (depth : Nat) : List (Node × Node) → Built (List (Value × Value))
  | [] => .ok []
  | (key, second) :: rest =>
    if key.isMerge then own depth rest
    else
      let first := match key with
        | scalar .default text => .ok (.str text)
        | key => checkKey depth (value depth key)
      Built.both (· :: ·) (Built.both Prod.mk first (value depth second)) (own depth rest)

/-- The entries that a map merges, in the order in which they are overridden. -/
def merged (depth : Nat) : List (Node × Node) → Built (List (Value × Value))
  | [] => .ok []
  | (key, second) :: rest =>
    if key.isMerge then Built.both (· ++ ·) (source depth second) (merged depth rest)
    else merged depth rest

/-- The entries of a map that is merged, or of a list of maps, of which the first overrides the
    others. -/
def source (depth : Nat) : Node → Built (List (Value × Value))
  | map _ members => Built.both (· ++ ·) (merged depth members) (own depth members)
  | list _ items => sources depth items
  | scalar .. => Built.fail depth .badTag
  | ring isMap => if isMap then .ok [] else Built.fail depth .badTag

/-- The entries of a list of maps that are merged. -/
def sources (depth : Nat) : List Node → Built (List (Value × Value))
  | [] => .ok []
  | map _ members :: rest =>
    Built.both (fun first others => others ++ first)
      (Built.both (· ++ ·) (merged depth members) (own depth members)) (sources depth rest)
  | ring true :: rest => sources depth rest
  | _ :: _ => Built.fail depth .badTag

end

end Node

/-! ## Documents -/

/-- Whether a document may hold a character. -/
def isPrintable (c : Char) : Bool :=
  let n := c.toNat
  n = 9 || n = 10 || n = 13 || (0x20 ≤ n && n ≤ 0x7E) || n = 0x85 ||
    (0xA0 ≤ n && n ≤ 0xD7FF) || (0xE000 ≤ n && n ≤ 0xFFFD) || 0x10000 ≤ n

/-- The value of a document's text; an empty one has none, which is null. -/
def Value.ofText (text : String) : Except Fault Value := do
  let cs := Text.unifyBreaks text.toList
  if !cs.all isPrintable then throw .unprintable
  match ← Node.ofText cs with
  | none => return .null
  | some node => (node.value 0).mapError (·.2)

end Candlestick.Yaml
