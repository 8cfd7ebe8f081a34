import Candlestick.Yaml.Scalar

set_option autoImplicit false

/-! # Cutting a document into tokens

Whether a scalar or a flow collection is the key of a block map shows only at a colon after it. So
wherever a key may begin an open slot is left among the tokens: the colon fills it with the mark of
a key, and where the key is given up the slot is closed with nothing in it. A possible key has to
end on its line and within 1024 characters. Tokens after an open slot are not released yet, and
those before it count even if an error follows. -/

namespace Candlestick.Yaml

/-- A place where a key may have begun. -/
structure PossibleKey where
  /-- The place of its open slot. -/
  slot : Nat
  /-- Whether nothing but a key can stand there. -/
  required : Bool
  start : Cursor

/-- The state of the walk through a text. -/
structure Lexer where
  cursor : Cursor
  /-- How many flow collections are open; one that was never opened may have been closed. -/
  depth : Int := 0
  /-- The column of the block collection, `-1` outside all of them. -/
  indent : Int := -1
  /-- The columns of the collections around it, the innermost first. -/
  outer : List Int := []
  /-- Whether a key may begin here. -/
  keyAllowed : Bool := true
  /-- The possible keys, each with the depth at which it began. -/
  keys : List (Int × PossibleKey) := []
  /-- The tokens so far, in pieces; `none` is an open slot. -/
  pieces : Array (Option (List Token)) := #[]
  /-- Whether the end has been reached. -/
  ended : Bool := false

namespace Lexer

/-- Whether some flow collection is open. -/
def inFlow (s : Lexer) : Bool := s.depth ≠ 0

/-- Append a token. -/
def emit (s : Lexer) (t : Token) : Lexer := { s with pieces := s.pieces.push (some [t]) }

/-- Append a token and go on after a number of characters. -/
def emitSkip (s : Lexer) (t : Token) (n : Nat) : Lexer :=
  { s.emit t with cursor := s.cursor.skip n }

/-- Fill an open slot. -/
def fill (s : Lexer) (slot : Nat) (tokens : List Token) : Lexer :=
  { s with pieces := s.pieces.setIfInBounds slot (some tokens) }

/-! ## Possible keys -/

/-- Give up some of the possible keys; one that is required may not be given up. -/
def giveUp (s : Lexer) (lost : Int × PossibleKey → Bool) : Except Fault Lexer :=
  if s.keys.any fun k => lost k && k.2.required then .error .badToken
  else
    let cleared := (s.keys.filter lost).foldl (fun (s : Lexer) k => s.fill k.2.slot []) s
    .ok { cleared with keys := s.keys.filter (!lost ·) }

/-- Give up the possible keys that began on another line or too far before. -/
def dropStale (s : Lexer) : Except Fault Lexer :=
  s.giveUp fun (_, k) => k.start.line ≠ s.cursor.line || k.start.index + 1024 < s.cursor.index

/-- Give up the possible key of the present depth. -/
def dropKey (s : Lexer) : Except Fault Lexer := s.giveUp fun (depth, _) => depth = s.depth

/-- Note that a key may begin here. -/
def openKey (s : Lexer) : Except Fault Lexer :=
  if s.keyAllowed then do
    let required := !s.inFlow && s.indent = s.cursor.column
    let s ← s.dropKey
    return { s with
      keys := (s.depth, ⟨s.pieces.size, required, s.cursor⟩) :: s.keys
      pieces := s.pieces.push none }
  else .ok s

/-! ## Indentation -/

/-- Close the block collections that are indented further than a column. -/
def unwindTo (column : Int) (s : Lexer) : List Int → Lexer
  | [] => s
  | outer :: rest =>
    if s.indent ≤ column then s
    else unwindTo column { s.emit .blockEnd with indent := outer, outer := rest } rest

/-- Close the block collections that are indented further than a column. Indentation does not count
    in flow collections. -/
def unwind (s : Lexer) (column : Int) : Lexer := if s.inFlow then s else s.unwindTo column s.outer

/-- Open a block collection at a column if it is indented further; the flag tells whether it is. -/
def indentTo (s : Lexer) (column : Int) : Bool × Lexer :=
  if s.indent < column then (true, { s with indent := column, outer := s.indent :: s.outer })
  else (false, s)

/-- Open a block collection here if it is indented further than the present one. A new entry or key
    can only stand where a key is allowed. -/
def openBlock (s : Lexer) (start : Token) : Except Fault Lexer :=
  if s.inFlow then .ok s
  else if !s.keyAllowed then .error .badToken
  else
    let (opened, s) := s.indentTo s.cursor.column
    .ok (if opened then s.emit start else s)

/-! ## Between the tokens -/

/-- Pass over blanks, comments and line ends. A key may begin on a new line outside of flow
    collections. -/
def skipGaps : Nat → Lexer → Lexer
  | 0, s => s
  | fuel + 1, s =>
    let c := s.cursor.skipWhile (· = ' ')
    let c := if c.peek = '#' then c.skipLine else c
    -- A line end in a flow collection says nothing about keys.
    if isBreak c.peek then
      skipGaps fuel { s with cursor := c.takeBreak.2, keyAllowed := s.keyAllowed || !s.inFlow }
    else { s with cursor := c }

/-- As `skipGaps`; a byte order mark at the very start is passed over too. -/
def toNextToken (s : Lexer) : Lexer :=
  let c := s.cursor
  let c := if c.index = 0 && c.peek = '\uFEFF' then c.next else c
  skipGaps (c.rest.length + 1) { s with cursor := c }

/-! ## The tokens -/

/-- The end of the text. All collections are closed and all possible keys are given up. -/
def fetchEnd (s : Lexer) : Except Fault Lexer := do
  let s ← (s.unwind (-1)).dropKey
  return { s.emit .streamEnd with keyAllowed := false, keys := [], ended := true }

def fetchDirective (s : Lexer) : Except Fault Lexer := do
  let s ← (s.unwind (-1)).dropKey
  let (token, c) ← s.cursor.directive
  return { s.emit token with cursor := c, keyAllowed := false }

def fetchSeparator (s : Lexer) (token : Token) : Except Fault Lexer := do
  let s ← (s.unwind (-1)).dropKey
  return { s.emitSkip token 3 with keyAllowed := false }

/-- A flow collection begins, which may be a key itself. -/
def fetchFlowStart (s : Lexer) (token : Token) : Except Fault Lexer := do
  let s ← s.openKey
  return { s.emitSkip token 1 with depth := s.depth + 1, keyAllowed := true }

def fetchFlowEnd (s : Lexer) (token : Token) : Except Fault Lexer := do
  let s ← s.dropKey
  return { s.emitSkip token 1 with depth := s.depth - 1, keyAllowed := false }

def fetchFlowEntry (s : Lexer) : Except Fault Lexer := do
  let s ← s.dropKey
  return { s.emitSkip .flowEntry 1 with keyAllowed := true }

def fetchBlockEntry (s : Lexer) : Except Fault Lexer := do
  let s ← (← s.openBlock .blockList).dropKey
  return { s.emitSkip .blockEntry 1 with keyAllowed := true }

/-- The mark of a key. -/
def fetchKey (s : Lexer) : Except Fault Lexer := do
  let s ← (← s.openBlock .blockMap).dropKey
  return { s.emitSkip .key 1 with keyAllowed := !s.inFlow }

/-- The colon after a key. A possible key becomes a key, which may open a block map. -/
def fetchValue (s : Lexer) : Except Fault Lexer :=
  match s.keys.lookup s.depth with
  | some k =>
    -- The map begins where its first key began, which may be some tokens back.
    let (opened, s) := if s.inFlow then (false, s) else s.indentTo k.start.column
    let s := s.fill k.slot (if opened then [.blockMap, .key] else [.key])
    .ok { s.emitSkip .value 1 with
      keys := s.keys.filter (·.1 ≠ s.depth), keyAllowed := false }
  | none => do
    let s ← (← s.openBlock .blockMap).dropKey
    return { s.emitSkip .value 1 with keyAllowed := !s.inFlow }

/-- An alias, an anchor, a tag or a quoted scalar, before which a key may begin. -/
def fetchProperty (s : Lexer) (read : Cursor → Except Fault (Token × Cursor)) :
    Except Fault Lexer := do
  let s ← s.openKey
  let (token, c) ← read s.cursor
  return { s.emit token with cursor := c, keyAllowed := false }

def fetchBlockScalar (s : Lexer) (fold : Bool) : Except Fault Lexer := do
  let s ← s.dropKey
  let (text, c) ← s.cursor.block fold s.indent
  return { s.emit (.scalar text false) with cursor := c, keyAllowed := true }

def fetchPlain (s : Lexer) : Except Fault Lexer := do
  let s ← s.openKey
  let run := s.cursor.plain s.inFlow (s.indent + 1)
  return { s.emit (.scalar (String.ofList run.text) true) with
    cursor := run.cursor, keyAllowed := run.endsLine }

/-- Whether a plain scalar begins here. -/
def startsPlain (s : Lexer) : Bool :=
  let ch := s.cursor.peek
  !(isGapOrEnd ch || "-?:,[]\x7b\x7d#&*!|>'\"%@\x60".toList.contains ch) ||
    (!isGapOrEnd (s.cursor.peek 1) && (ch = '-' || (!s.inFlow && (ch = '?' || ch = ':'))))

/-- The token that begins here. -/
def fetch (s : Lexer) : Except Fault Lexer :=
  let c := s.cursor
  let marked := isGapOrEnd (c.peek 1)
  let named (token : String → Token) (c : Cursor) : Except Fault (Token × Cursor) :=
    c.anchorName.map fun (name, c) => (token name, c)
  let scalar (double : Bool) (c : Cursor) : Except Fault (Token × Cursor) :=
    (c.quoted double).map fun (text, c) => (.scalar text false, c)
  if c.peek = endMark then s.fetchEnd
  else if c.peek = '%' && c.column = 0 then s.fetchDirective
  else if c.column = 0 && c.atMark '-' then s.fetchSeparator .documentStart
  else if c.column = 0 && c.atMark '.' then s.fetchSeparator .documentEnd
  else if c.peek = '[' then s.fetchFlowStart .flowListStart
  else if c.peek = '\x7b' then s.fetchFlowStart .flowMapStart
  else if c.peek = ']' then s.fetchFlowEnd .flowListEnd
  else if c.peek = '\x7d' then s.fetchFlowEnd .flowMapEnd
  else if c.peek = ',' then s.fetchFlowEntry
  else if c.peek = '-' && marked then s.fetchBlockEntry
  else if c.peek = '?' && (s.inFlow || marked) then s.fetchKey
  else if c.peek = ':' && (s.inFlow || marked) then s.fetchValue
  else if c.peek = '*' then s.fetchProperty (named .alias)
  else if c.peek = '&' then s.fetchProperty (named .anchor)
  else if c.peek = '!' then s.fetchProperty Cursor.tag
  else if c.peek = '|' && !s.inFlow then s.fetchBlockScalar false
  else if c.peek = '>' && !s.inFlow then s.fetchBlockScalar true
  else if c.peek = '\'' then s.fetchProperty (scalar false)
  else if c.peek = '\"' then s.fetchProperty (scalar true)
  else if s.startsPlain then s.fetchPlain
  else .error .badToken

/-- One token further. -/
def step (s : Lexer) : Except Fault Lexer := do
  let s ← s.toNextToken.dropStale
  let s ← (s.unwind s.cursor.column).fetch
  if s.ended then return s else s.dropStale

/-- The tokens before the first open slot; after the end no slot counts as open. -/
def released (s : Lexer) : List Token :=
  let pieces := if s.ended then s.pieces.toList else s.pieces.toList.takeWhile (·.isSome)
  pieces.flatMap (·.getD [])

/-- The tokens of the text, and the error that ends them early. -/
def run : Nat → Lexer → List Token × Option Fault
  | 0, s => (s.released, some .badToken)
  | fuel + 1, s =>
    if s.ended then (s.released, none)
    else match s.step with
      | .ok s => run fuel s
      | .error fault => (s.released, some fault)

end Lexer

/-- The tokens of a text, and the error that ends them early. Every token but the last takes at least
    one character. -/
def tokens (text : List Char) : List Token × Option Fault :=
  Lexer.run (text.length + 2) { cursor := { rest := text } }

end Candlestick.Yaml
