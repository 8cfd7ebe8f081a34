import Candlestick.Text.CaseTable

set_option autoImplicit false

/-! # Upper and lower case of texts

The full case mappings: one character may become several (`ß` is `SS` in upper case), and a sigma
becomes the final form `ς` at the end of a word, which is decided by its nearest neighbours that
are not passed over. -/

namespace Candlestick.Text

private def inRuns (runs : Array (Nat × Nat)) (c : Char) : Bool :=
  runs.any fun run => run.1 ≤ c.toNat && c.toNat ≤ run.2

/-- Whether the search for a cased neighbour passes over a character. -/
def isCaseIgnorable (c : Char) : Bool := inRuns caseIgnorableRuns c

/-- Whether a character that is not passed over has a case. -/
def isCased (c : Char) : Bool := inRuns casedRuns c

def partner? (runs : Array CaseRun) (c : Char) : Option Char :=
  (runs.findSome? fun run => run.partner? c.toNat).map Char.ofNat

/-- The upper case of one character. -/
def upperChar (c : Char) : List Char :=
  if c.toNat < 0x80 then [c.toUpper]
  else match longUppers.lookup c.toNat with
    | some codes => codes.map Char.ofNat
    | none => [(partner? upperRuns c).getD c]

/-- The lower case of one character outside the context rule for sigma. -/
def lowerChar (c : Char) : List Char :=
  if c.toNat < 0x80 then [c.toLower]
  else if c.toNat = 0x130 then ['i', Char.ofNat 0x307]
  else [(partner? lowerRuns c).getD c]

/-- A text in upper case. -/
def upper (s : String) : String := String.ofList (s.toList.flatMap upperChar)

/-- Whether the first character that is not passed over is cased. -/
def facesCased (cs : List Char) : Bool :=
  match cs.dropWhile isCaseIgnorable with
  | [] => false
  | c :: _ => isCased c

/-- Lower case of the characters after `before`, which is in reverse order: a sigma is final when
    a cased character comes before it and none after it. -/
def lowerAfter (before : List Char) : List Char → List Char
  | [] => []
  | c :: rest =>
    let mapped :=
      if c.toNat = 0x3A3 then
        if facesCased before && !facesCased rest then [Char.ofNat 0x3C2] else [Char.ofNat 0x3C3]
      else lowerChar c
    mapped ++ lowerAfter (c :: before) rest

/-- A text in lower case. -/
def lower (s : String) : String := String.ofList (lowerAfter [] s.toList)

end Candlestick.Text
