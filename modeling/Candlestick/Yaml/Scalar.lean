import Candlestick.Yaml.Token

set_option autoImplicit false

/-! # The texts of scalars

A scalar is plain, quoted, or a block of lines. In plain and quoted scalars one line end becomes a
space and further ones are kept; a literal block keeps all of them, and a folded block folds those
between lines that do not begin with a blank. -/

namespace Candlestick.Yaml.Cursor

/-- The text of a line end and the empty lines after it: a lone line feed becomes a space, and is
    dropped where empty lines follow. -/
def folded (lineEnd emptyLines : List Char) : List Char :=
  (if lineEnd = ['\n'] then (if emptyLines.isEmpty then [' '] else []) else lineEnd) ++ emptyLines

/-! ## Plain scalars -/

/-- Whether a colon is no part of a plain scalar before this character. -/
def endsKey (inFlow : Bool) (c : Char) : Bool :=
  isGapOrEnd c || (inFlow && ",[]\x7b\x7d".toList.contains c)

/-- The plain characters up to the next gap or mark. -/
def plainRun (inFlow : Bool) : List Char → List Char
  | [] => []
  | c :: rest =>
    if isGapOrEnd c || (c = ':' && endsKey inFlow (rest.headD endMark)) ||
        (inFlow && ",?[]\x7b\x7d".toList.contains c) then []
    else c :: plainRun inFlow rest

/-- What follows a run of plain characters: the text of the gap, the place after it, and whether the
    gap ends a line. -/
structure Pause where
  text : List Char
  cursor : Cursor
  endsLine : Bool

/-- The empty lines and the indentation after a line's end; `none` where a document begins or ends
    after one of them. -/
def plainEmptyLines : Nat → Cursor → Option (List Char) × Cursor
  | 0, c => (some [], c)
  | fuel + 1, c =>
    if c.peek = ' ' then plainEmptyLines fuel c.next
    else if isBreak c.peek then
      let (lineEnd, c) := c.takeBreak
      if c.atSeparator then (none, c)
      else
        let (others, c) := plainEmptyLines fuel c
        (others.map (lineEnd ++ ·), c)
    else (some [], c)

/-- The gap after a run of plain characters. -/
def plainPause (c : Cursor) : Pause :=
  let (spaces, c) := c.span (· = ' ')
  if isBreak c.peek then
    let (lineEnd, c) := c.takeBreak
    if c.atSeparator then ⟨[], c, true⟩
    else match plainEmptyLines c.rest.length c with
      | (some emptyLines, c) => ⟨folded lineEnd emptyLines, c, true⟩
      | (none, c) => ⟨[], c, true⟩
  else ⟨spaces, c, false⟩

/-- The runs of a plain scalar after a gap. A continued line is indented by `indent` at least,
    except in a flow collection. -/
def plainRuns (inFlow : Bool) (indent : Int) : Nat → Pause → Pause
  | 0, before => { before with text := [] }
  | fuel + 1, before =>
    let run := plainRun inFlow before.cursor.rest
    if before.cursor.peek = '#' || run.isEmpty then { before with text := [] }
    else
      let after := (before.cursor.skip run.length).plainPause
      let start := before.text ++ run
      if after.text.isEmpty || after.cursor.peek = '#' ||
          (!inFlow && decide ((after.cursor.column : Int) < indent)) then
        { after with text := start }
      else
        let rest := plainRuns inFlow indent fuel after
        { rest with text := start ++ rest.text }

/-- A plain scalar, and whether the gap after it ends a line. -/
def plain (inFlow : Bool) (indent : Int) (c : Cursor) : Pause :=
  plainRuns inFlow indent (c.rest.length + 1) ⟨[], c, false⟩

/-! ## Quoted scalars -/

/-- The empty lines after a line's end, with the gaps before the next text. -/
def quotedEmptyLines : Nat → Cursor → Except Fault (List Char × Cursor)
  | 0, c => .ok ([], c)
  | fuel + 1, c =>
    if c.atSeparator then .error .badToken
    else
      let c := c.skipWhile isGap
      if isBreak c.peek then do
        let (lineEnd, c) := c.takeBreak
        let (others, c) ← quotedEmptyLines fuel c
        return (lineEnd ++ others, c)
      else .ok ([], c)

/-- A gap, with the line end that may be in it. -/
def quotedGap (c : Cursor) : Except Fault (List Char × Cursor) := do
  let (gap, c) := c.span isGap
  if c.peek = endMark then throw .badToken
  else if isBreak c.peek then
    let (lineEnd, c) := c.takeBreak
    let (emptyLines, c) ← quotedEmptyLines (c.rest.length + 1) c
    return (folded lineEnd emptyLines, c)
  else return (gap, c)

/-- The characters that one letter after a backslash stands for. -/
def escapes : List (Char × Nat) := [
  ('0', 0), ('a', 7), ('b', 8), ('t', 9), ('\t', 9), ('n', 10), ('v', 11), ('f', 12), ('r', 13),
  ('e', 27), (' ', 32), ('\"', 34), ('\\', 92), ('/', 47), ('N', 0x85), ('_', 0xA0), ('L', 0x2028),
  ('P', 0x2029)]

/-- How many hexadecimal digits follow a letter after a backslash. -/
def escapeWidths : List (Char × Nat) := [('x', 2), ('u', 4), ('U', 8)]

/-- The character of a number; half of a surrogate pair is replaced. -/
def character (code : Nat) : Except Fault Char :=
  if 0x80000000 ≤ code then .error .noCharacterAtAll
  else if 0x110000 ≤ code then .error .noCharacter
  else if 0xD800 ≤ code ∧ code < 0xE000 then .ok '\uFFFD'
  else .ok (Char.ofNat code)

/-- What a backslash and the characters after it stand for. A line's end after it is dropped. -/
def escape (c : Cursor) : Except Fault (List Char × Cursor) := do
  let c := c.next
  match escapes.lookup c.peek, escapeWidths.lookup c.peek with
  | some code, _ => return ([Char.ofNat code], c.next)
  | none, some width =>
    let (code, c) ← c.next.hexNumber width
    return ([← character code], c)
  | none, none =>
    if isBreak c.peek then quotedEmptyLines (c.rest.length + 1) c.takeBreak.2 else throw .badToken

/-- The text up to the closing quote, and the place after the quote. Between single quotes a quote
    is written twice, between double quotes a backslash escapes. -/
def quotedText (double : Bool) : Nat → Cursor → Except Fault (List Char × Cursor)
  | 0, _ => .error .badToken
  | fuel + 1, c => do
    let quote := if double then '\"' else '\''
    if c.peek = quote then
      if !double && c.peek 1 = quote then
        let (rest, c) ← quotedText double fuel (c.skip 2)
        return (quote :: rest, c)
      else return ([], c.next)
    else
      let (text, c) ←
        if isGapOrEnd c.peek then c.quotedGap
        else if double && c.peek = '\\' then c.escape
        else pure ([c.peek], c.next)
      let (rest, c) ← quotedText double fuel c
      return (text ++ rest, c)

/-- A quoted scalar, from its opening quote on. -/
def quoted (double : Bool) (c : Cursor) : Except Fault (String × Cursor) := do
  let (text, c) ← quotedText double (c.rest.length + 1) c.next
  return (String.ofList text, c)

/-! ## Block scalars -/

/-- What the line of a block's mark says: whether the line ends at the block's end are all kept or
    all dropped, and how far the block is indented. -/
structure BlockHeader where
  keep : Option Bool := none
  indentation : Option Nat := none

/-- A sign for the line ends at the block's end. -/
def BlockHeader.takeSign (h : BlockHeader) (c : Cursor) : BlockHeader × Cursor :=
  if c.peek = '+' || c.peek = '-' then ({ h with keep := some (c.peek = '+') }, c.next) else (h, c)

/-- A digit for the block's indentation; zero is refused. -/
def BlockHeader.takeDigit (h : BlockHeader) (c : Cursor) : Except Fault (BlockHeader × Cursor) :=
  if c.peek = '0' then .error .badToken
  else if c.peek.isDigit then .ok ({ h with indentation := some (c.peek.toNat - 48) }, c.next)
  else .ok (h, c)

/-- The line of a block's mark: a sign and a digit in any order. -/
def blockHeader (c : Cursor) : Except Fault (BlockHeader × Cursor) := do
  let (h, c) := BlockHeader.takeSign {} c
  let (h, c) ← h.takeDigit c
  let (h, c) := if h.keep.isNone && h.indentation.isSome then h.takeSign c else (h, c)
  if isSpaceOrEnd c.peek then return (h, ← c.endLine) else throw .badToken

/-- The empty lines at a block's start, and the column of the furthest of their blanks and of the
    first text. -/
def blockStart : Nat → Cursor → List Char × Nat × Cursor
  | 0, c => ([], 0, c)
  | fuel + 1, c =>
    if c.peek = ' ' then
      let (emptyLines, furthest, c') := blockStart fuel c.next
      (emptyLines, max c.next.column furthest, c')
    else if isBreak c.peek then
      let (lineEnd, c) := c.takeBreak
      let (emptyLines, furthest, c) := blockStart fuel c
      (lineEnd ++ emptyLines, furthest, c)
    else ([], 0, c)

/-- Pass over blanks up to the block's column. -/
def toColumn (indent : Nat) (c : Cursor) : Cursor :=
  c.skip (min (c.rest.takeWhile (· = ' ')).length (indent - c.column))

/-- The empty lines before the next line of a block. -/
def blockEmptyLines (indent : Nat) : Nat → Cursor → List Char × Cursor
  | 0, c => ([], c)
  | fuel + 1, c =>
    let c := c.toColumn indent
    if isBreak c.peek then
      let (lineEnd, c) := c.takeBreak
      let (others, c) := blockEmptyLines indent fuel c
      (lineEnd ++ others, c)
    else ([], c)

/-- The lines of a block. -/
structure BlockLines where
  text : List Char
  /-- The end of the last line. -/
  lineEnd : List Char
  /-- The empty lines after it. -/
  emptyLines : List Char
  cursor : Cursor

/-- Whether a line of the block begins here. -/
def inBlock (indent : Nat) (c : Cursor) : Bool := c.column = indent && c.peek ≠ endMark

/-- The lines of a block that begin here, after the given empty lines. -/
def blockLines (fold : Bool) (indent : Nat) : Nat → List Char → Cursor → BlockLines
  | 0, emptyLines, c => ⟨[], [], emptyLines, c⟩
  | fuel + 1, emptyLines, c =>
    if !c.inBlock indent then ⟨[], [], emptyLines, c⟩
    else
      -- Lines that begin with a blank are not folded, neither with the line before nor after.
      let flush := !isGap c.peek
      let (line, c) := c.span (!isBreak ·)
      let (lineEnd, c) := c.takeBreak
      let (nextEmpty, c) := blockEmptyLines indent (c.rest.length + 1) c
      if c.inBlock indent then
        let joint :=
          if fold && lineEnd = ['\n'] && flush && !isGap c.peek then
            if nextEmpty.isEmpty then [' '] else []
          else lineEnd
        let rest := blockLines fold indent fuel nextEmpty c
        { rest with text := emptyLines ++ line ++ joint ++ rest.text }
      else ⟨emptyLines ++ line, lineEnd, nextEmpty, c⟩

/-- A block scalar, from its mark on, inside a collection that is indented by `outer`. -/
def block (fold : Bool) (outer : Int) (c : Cursor) : Except Fault (String × Cursor) := do
  let (header, c) ← c.next.blockHeader
  let least := (max 1 (outer + 1)).toNat
  let (emptyLines, indent, c) := match header.indentation with
    | some digit =>
      let indent := least + digit - 1
      let (emptyLines, c) := blockEmptyLines indent (c.rest.length + 1) c
      (emptyLines, indent, c)
    | none =>
      let (emptyLines, furthest, c) := blockStart (c.rest.length + 1) c
      (emptyLines, max least furthest, c)
  let lines := blockLines fold indent (c.rest.length + 1) emptyLines c
  let lastEnd := if header.keep = some false then [] else lines.lineEnd
  let trailing := if header.keep = some true then lines.emptyLines else []
  return (String.ofList (lines.text ++ lastEnd ++ trailing), lines.cursor)

end Candlestick.Yaml.Cursor
