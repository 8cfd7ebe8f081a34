import Candlestick.Yaml.Fault

set_option autoImplicit false

/-! # A place in a document's text

Lines end with a line feed, a next-line control, or one of the two Unicode separators; the latter
are kept as they are, the others become a line feed. NUL, which no document holds, stands for the
end of the text. -/

namespace Candlestick.Yaml

/-- What is seen at the end of the text. -/
def endMark : Char := '\x00'

/-- Whether a character ends a line. -/
def isBreak (c : Char) : Bool := c = '\n' || c.toNat = 0x85 || c.toNat = 0x2028 || c.toNat = 0x2029

/-- A space or a tab. -/
def isGap (c : Char) : Bool := c = ' ' || c = '\t'

/-- The end of a line or of the text. -/
def isLineEnd (c : Char) : Bool := c = endMark || isBreak c

/-- A space, or the end of a line or of the text. -/
def isSpaceOrEnd (c : Char) : Bool := c = ' ' || isLineEnd c

/-- A space, a tab, or the end of a line or of the text. -/
def isGapOrEnd (c : Char) : Bool := isGap c || isLineEnd c

/-- A character of a name: an ASCII letter or digit, a hyphen or an underscore. -/
def isNameChar (c : Char) : Bool := c.isAlphanum || c = '-' || c = '_'

/-- A place in a text: what follows it, and how far it is from the start. -/
structure Cursor where
  rest : List Char
  /-- Characters before it. -/
  index : Nat := 0
  /-- Lines before it. -/
  line : Nat := 0
  /-- Characters before it in its line. -/
  column : Nat := 0

namespace Cursor

/-- The character a number of places ahead. -/
def peek (c : Cursor) (ahead : Nat := 0) : Char := c.rest.getD ahead endMark

/-- One character further. A byte order mark takes no column. -/
def next (c : Cursor) : Cursor :=
  match c.rest with
  | [] => c
  | ch :: rest =>
    { rest := rest
      index := c.index + 1
      line := if isBreak ch then c.line + 1 else c.line
      column := if isBreak ch then 0 else if ch = '\uFEFF' then c.column else c.column + 1 }

/-- Several characters further. -/
def skip : Nat → Cursor → Cursor
  | 0, c => c
  | n + 1, c => skip n c.next

/-- Cut off the characters of a class. -/
def span (p : Char → Bool) (c : Cursor) : List Char × Cursor :=
  let run := c.rest.takeWhile p
  (run, c.skip run.length)

/-- Pass over the characters of a class. -/
def skipWhile (p : Char → Bool) (c : Cursor) : Cursor := (c.span p).2

/-- Cut off a line's end, if there is one. -/
def takeBreak (c : Cursor) : List Char × Cursor :=
  let ch := c.peek
  if ch = '\n' || ch.toNat = 0x85 then (['\n'], c.next)
  else if isBreak ch then ([ch], c.next)
  else ([], c)

/-- Pass over the rest of a line. -/
def skipLine (c : Cursor) : Cursor := c.skipWhile (!isBreak ·)

/-- Pass over blanks and a comment up to the end of the line; anything else is no token. -/
def endLine (c : Cursor) : Except Fault Cursor :=
  let c := c.skipWhile (· = ' ')
  let c := if c.peek = '#' then c.skipLine else c
  if isLineEnd c.peek then .ok c.takeBreak.2 else .error .badToken

/-- Whether one of the two document marks stands here, with a gap after it. -/
def atMark (c : Cursor) (mark : Char) : Bool :=
  c.peek = mark && c.peek 1 = mark && c.peek 2 = mark && isGapOrEnd (c.peek 3)

/-- Whether a document begins or ends here. -/
def atSeparator (c : Cursor) : Bool := c.atMark '-' || c.atMark '.'

theorem rest_next_length (c : Cursor) : c.next.rest.length = c.rest.length - 1 := by
  cases h : c.rest <;> simp [next, h]

theorem rest_skip_length (n : Nat) (c : Cursor) : (c.skip n).rest.length = c.rest.length - n := by
  induction n generalizing c with
  | zero => simp [skip]
  | succ n ih => rw [skip, ih, rest_next_length]; omega

end Cursor

end Candlestick.Yaml
