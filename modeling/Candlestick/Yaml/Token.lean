import Candlestick.Text.Digit
import Candlestick.Yaml.Cursor

set_option autoImplicit false

/-! # Tokens of a document

The words of a document's text. Indentation has become tokens of its own, which open and close block
collections. Directives, anchors, aliases and tags are cut here; scalars have a module of their
own. -/

namespace Candlestick.Yaml

/-- What a line before a document declares. -/
inductive Directive where
  | version (major minor : Nat)
  /-- What the handle of a tag stands for. -/
  | handle (handle expansion : String)
  | other

/-- A word of a document. -/
inductive Token where
  | directive (d : Directive)
  | documentStart
  | documentEnd
  | streamEnd
  | blockList
  | blockMap
  | blockEnd
  | flowListStart
  | flowListEnd
  | flowMapStart
  | flowMapEnd
  | blockEntry
  | flowEntry
  | key
  | value
  | alias (name : String)
  | anchor (name : String)
  | tag (handle : Option String) (suffix : String)
  /-- The text of a scalar; a plain one stands without quotes. -/
  | scalar (text : String) (plain : Bool)

namespace Cursor

/-! ## Names -/

/-- Cut off a name, which has at least one character. -/
def name (c : Cursor) : Except Fault (String × Cursor) :=
  let (run, c) := c.span isNameChar
  if run.isEmpty then .error .badToken else .ok (String.ofList run, c)

/-- Whether a character may follow the name of an anchor. -/
def endsAnchor (c : Char) : Bool := isGapOrEnd c || "?:,]\x7d%@\x60".toList.contains c

/-- The name after the mark of an anchor or alias. -/
def anchorName (c : Cursor) : Except Fault (String × Cursor) := do
  let (name, c) ← c.next.name
  if endsAnchor c.peek then return (name, c) else throw .badToken

/-! ## Tags -/

/-- The number that exactly `count` hexadecimal digits write. -/
def hexNumber (count : Nat) (c : Cursor) : Except Fault (Nat × Cursor) :=
  match (List.range count).mapM fun i => Text.hexValue? (c.peek i) with
  | some digits => .ok (digits.foldl (fun n d => 16 * n + d) 0, c.skip count)
  | none => .error .badToken

/-- The bytes of escapes that stand one after the other. -/
def escapedBytes : Nat → Cursor → Except Fault (List Nat × Cursor)
  | 0, c => .ok ([], c)
  | fuel + 1, c =>
    if c.peek = '%' then do
      let (byte, c) ← c.next.hexNumber 2
      let (others, c) ← escapedBytes fuel c
      return (byte :: others, c)
    else .ok ([], c)

/-- Whether a character may stand in a tag as it is. -/
def isTagChar (c : Char) : Bool := isNameChar c || ";/?:@&=+$,.!~*'()[]".toList.contains c

/-- The characters of a tag up to the first that cannot stand in one. -/
def tagChars : Nat → Cursor → Except Fault (List Char × Cursor)
  | 0, c => .ok ([], c)
  | fuel + 1, c =>
    if isTagChar c.peek then do
      let (others, c') ← tagChars fuel c.next
      return (c.peek :: others, c')
    else if c.peek = '%' then do
      let (bytes, c) ← escapedBytes c.rest.length c
      match String.fromUTF8? (ByteArray.mk (bytes.map Nat.toUInt8).toArray) with
      | some text =>
        let (others, c) ← tagChars fuel c
        return (text.toList ++ others, c)
      | none => throw .badToken
    else .ok ([], c)

/-- Cut off the text of a tag, which has at least one character. -/
def tagText (c : Cursor) : Except Fault (String × Cursor) :=
  if isTagChar c.peek || c.peek = '%' then do
    let (text, c) ← tagChars c.rest.length c
    return (String.ofList text, c)
  else .error .badToken

/-- The handle of a tag: an exclamation mark, or a name between two of them. -/
def tagHandle (c : Cursor) : Except Fault (String × Cursor) :=
  if c.peek ≠ '!' then .error .badToken
  else if c.peek 1 = ' ' then .ok ("!", c.next)
  else
    let (run, c) := c.next.span isNameChar
    if c.peek = '!' then .ok ("!" ++ String.ofList run ++ "!", c.next) else .error .badToken

/-- Whether a second exclamation mark follows before the next blank. -/
def hasHandle (c : Cursor) : Bool :=
  (c.rest.drop 1).find? (fun ch => ch = '!' || isSpaceOrEnd ch) = some '!'

/-- A tag: verbatim between angle brackets, a lone exclamation mark, or a handle with a suffix. -/
def tag (c : Cursor) : Except Fault (Token × Cursor) := do
  let (token, c) ←
    if c.peek 1 = '<' then do
      let (text, c) ← (c.skip 2).tagText
      if c.peek = '>' then pure (Token.tag none text, c.next) else throw .badToken
    else if isGapOrEnd (c.peek 1) then pure (Token.tag none "!", c.next)
    else do
      let (handle, c) ← if c.hasHandle then c.tagHandle else pure ("!", c.next)
      let (suffix, c) ← c.tagText
      pure (Token.tag (some handle) suffix, c)
  if isSpaceOrEnd c.peek then return (token, c) else throw .badToken

/-! ## Directives -/

/-- A number in decimal. -/
def number (c : Cursor) : Except Fault (Nat × Cursor) :=
  let (run, c) := c.span Char.isDigit
  if run.isEmpty then .error .badToken
  else .ok (run.foldl (fun n d => 10 * n + (d.toNat - 48)) 0, c)

/-- The version of the language. -/
def versionDirective (c : Cursor) : Except Fault (Directive × Cursor) := do
  let (major, c) ← (c.skipWhile (· = ' ')).number
  if c.peek ≠ '.' then throw .badToken
  let (minor, c) ← c.next.number
  if isSpaceOrEnd c.peek then return (.version major minor, c) else throw .badToken

/-- The handle of tags and what it stands for. -/
def handleDirective (c : Cursor) : Except Fault (Directive × Cursor) := do
  let (handle, c) ← (c.skipWhile (· = ' ')).tagHandle
  if c.peek ≠ ' ' then throw .badToken
  let (expansion, c) ← (c.skipWhile (· = ' ')).tagText
  if isSpaceOrEnd c.peek then return (.handle handle expansion, c) else throw .badToken

/-- A directive with its whole line. -/
def directive (c : Cursor) : Except Fault (Token × Cursor) := do
  let (name, c) ← c.next.name
  if !isSpaceOrEnd c.peek then throw .badToken
  let (d, c) ←
    if name = "YAML" then c.versionDirective
    else if name = "TAG" then c.handleDirective
    else pure (.other, c.skipLine)
  return (.directive d, ← c.endLine)

end Cursor

end Candlestick.Yaml
