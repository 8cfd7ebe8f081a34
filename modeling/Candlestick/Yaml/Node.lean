import Candlestick.Yaml.Lexer
import Candlestick.Yaml.Tag

set_option autoImplicit false

/-! # The nodes of a document

Tokens form a tree of scalars, lists and maps, each with its tag. An alias stands for the node of
its anchor. The reader asks for tokens one at a time, so an error among the tokens counts only when
it is reached. -/

namespace Candlestick.Yaml

/-- A node of a document. -/
inductive Node where
  | scalar (tag : Tag) (text : String)
  | list (tag : Tag) (items : List Node)
  | map (tag : Tag) (members : List (Node × Node))
  /-- An alias of a collection that it stands in. -/
  | ring (isMap : Bool)

namespace Node

instance : Inhabited Node := ⟨ring false⟩

/-- An empty node. -/
def empty : Node := scalar .null ""

/-- The state of the reader. -/
structure Reader where
  tokens : List Token
  /-- What follows the tokens. -/
  fault : Option Fault
  /-- The anchored nodes; a collection that is still open is a ring. -/
  anchors : List (String × Node) := []
  /-- What the handles of tags stand for. -/
  handles : List (String × String) := []

/-- A step of reading. -/
abbrev Reading (α : Type) := StateT Reader (Except Fault) α

/-- The next token, which is not taken. -/
def peek : Reading Token := do
  let r ← get
  match r.tokens with
  | token :: _ => return token
  | [] => throw (r.fault.getD .badToken)

/-- Take the next token. -/
def advance : Reading Unit := modify fun r => { r with tokens := r.tokens.drop 1 }

/-- What stands before a node. -/
structure Properties where
  anchor : Option String := none
  /-- The full name of the tag. -/
  tag : Option String := none

/-- The tag of a scalar. An exclamation mark alone makes the text count as plain. -/
def Properties.scalarTag (p : Properties) (text : String) (plain : Bool) : Tag :=
  match p.tag with
  | none => if plain then Tag.ofPlain text else .str
  | some "!" => Tag.ofPlain text
  | some name => Tag.ofName name

/-- The tag of a collection. -/
def Properties.collectionTag (p : Properties) (dflt : Tag) : Tag :=
  match p.tag with
  | none | some "!" => dflt
  | some name => Tag.ofName name

/-- The anchor that comes next, if one does. -/
def takeAnchor : Reading (Option String) := do
  match ← peek with
  | .anchor name => advance; return some name
  | _ => return none

/-- The tag that comes next, if one does: its handle and suffix. -/
def takeTag : Reading (Option (Option String × String)) := do
  match ← peek with
  | .tag handle suffix => advance; return some (handle, suffix)
  | _ => return none

/-- The full name of a tag. -/
def fullName (handle : Option String) (suffix : String) : Reading String := do
  match handle with
  | none => return suffix
  | some handle =>
    match (← get).handles.lookup handle with
    | some expansion => return expansion ++ suffix
    | none => throw .badStructure

/-- An anchor and a tag in any order. -/
def properties : Reading Properties := do
  let (anchor, tag) ← match ← takeAnchor with
    | some name => do pure (some name, ← takeTag)
    | none => do
      match ← takeTag with
      | some tag => do pure (← takeAnchor, some tag)
      | none => pure (none, none)
  match tag with
  | none => return { anchor }
  | some (handle, suffix) => return { anchor, tag := some (← fullName handle suffix) }

/-- Set the node of an anchor. -/
def setAnchor (anchor : Option String) (node : Node) : Reading Unit :=
  match anchor with
  | none => pure ()
  | some name => modify fun r => { r with anchors := (name, node) :: r.anchors }

/-- Set the node of an anchor that has none yet. -/
def claim (anchor : Option String) (node : Node) : Reading Unit := do
  match anchor with
  | none => pure ()
  | some name =>
    if ((← get).anchors.lookup name).isSome then throw .badReference
    setAnchor anchor node

/-- A scalar with its properties. -/
def finishScalar (p : Properties) (text : String) (plain : Bool) : Reading Node := do
  let node := scalar (p.scalarTag text plain) text
  claim p.anchor node
  return node

/-- Whether no node follows a mark in a block map. -/
def endsBlockPair : Token → Bool
  | .key | .value | .blockEnd => true
  | _ => false

/-- Whether no node follows a mark in a flow list. -/
def endsFlowItem : Token → Bool
  | .flowEntry | .flowListEnd => true
  | _ => false

/-- Whether no node follows a mark in a flow map. -/
def endsFlowPair : Token → Bool
  | .flowEntry | .flowMapEnd => true
  | _ => false

/-- A list with its properties. -/
def readList (p : Properties) (items : Reading (List Node)) : Reading Node := do
  claim p.anchor (ring false)
  let node := list (p.collectionTag .list) (← items)
  setAnchor p.anchor node
  return node

/-- A map with its properties. -/
def readMap (p : Properties) (members : Reading (List (Node × Node))) : Reading Node := do
  claim p.anchor (ring true)
  let node := map (p.collectionTag .map) (← members)
  setAnchor p.anchor node
  return node

mutual

/-- A node. In a block it may be a block collection, and as a part of a block map a list whose
    entries are not indented further. -/
def read : Nat → (inBlock inPair : Bool) → Reading Node
  | 0, _, _ => throw .badStructure
  | fuel + 1, inBlock, inPair => do
    if let .alias name ← peek then
      advance
      match (← get).anchors.lookup name with
      | some node => return node
      | none => throw .badReference
    let p ← properties
    let token ← peek
    match token, inBlock, inPair with
    -- A hyphen in the column of the map's keys begins the value's list.
    | .blockEntry, _, true => readList p (entries fuel)
    | .scalar text plain, _, _ => advance; finishScalar p text plain
    | .flowListStart, _, _ => advance; readList p (flowItems fuel true)
    | .flowMapStart, _, _ => advance; readMap p (flowPairs fuel true)
    | .blockList, true, _ => advance; readList p (blockItems fuel)
    | .blockMap, true, _ => advance; readMap p (blockPairs fuel)
    | _, _, _ =>
      if p.anchor.isSome || p.tag.isSome then finishScalar p "" p.tag.isNone
      else throw .badStructure

/-- The entries of a list that is not indented further than its map. -/
def entries : Nat → Reading (List Node)
  | 0 => throw .badStructure
  | fuel + 1 => do
    match ← peek with
    | .blockEntry =>
      advance
      let next ← peek
      let isEmpty := endsBlockPair next || next matches .blockEntry
      let item ← if isEmpty then pure empty else read fuel true false
      return item :: (← entries fuel)
    | _ => return []

/-- The items of a block list. -/
def blockItems : Nat → Reading (List Node)
  | 0 => throw .badStructure
  | fuel + 1 => do
    match ← peek with
    | .blockEntry =>
      advance
      let isEmpty := (← peek) matches .blockEntry | .blockEnd
      let item ← if isEmpty then pure empty else read fuel true false
      return item :: (← blockItems fuel)
    | .blockEnd => advance; return []
    | _ => throw .badStructure

/-- What follows a mark in a block map. -/
def blockPart : Nat → Reading Node
  | 0 => throw .badStructure
  | fuel + 1 => do if endsBlockPair (← peek) then return empty else read fuel true true

/-- The value of a block map's key. -/
def blockValue : Nat → Reading Node
  | 0 => throw .badStructure
  | fuel + 1 => do
    match ← peek with
    | .value => advance; blockPart fuel
    | _ => return empty

/-- The pairs of a block map. A value without a key before it is none. -/
def blockPairs : Nat → Reading (List (Node × Node))
  | 0 => throw .badStructure
  | fuel + 1 => do
    match ← peek with
    | .key =>
      advance
      let key ← blockPart fuel
      let value ← blockValue fuel
      return (key, value) :: (← blockPairs fuel)
    | .blockEnd => advance; return []
    | _ => throw .badStructure

/-- What follows a mark in a flow collection, if it does not end there. -/
def flowPart : Nat → (Token → Bool) → Reading Node
  | 0, _ => throw .badStructure
  | fuel + 1, ends => do if ends (← peek) then return empty else read fuel false false

/-- The value of a key in a flow collection. -/
def flowValue : Nat → (Token → Bool) → Reading Node
  | 0, _ => throw .badStructure
  | fuel + 1, ends => do
    match ← peek with
    | .value => advance; flowPart fuel ends
    | _ => return empty

/-- One item of a flow list: a node, or a single pair. -/
def flowItem : Nat → Reading Node
  | 0 => throw .badStructure
  | fuel + 1 => do
    match ← peek with
    | .key =>
      advance
      let key ← flowPart fuel fun t => endsFlowItem t || t matches .value
      let value ← flowValue fuel endsFlowItem
      return map .map [(key, value)]
    | _ => read fuel false false

/-- The items of a flow list. -/
def flowItems : Nat → (isFirst : Bool) → Reading (List Node)
  | 0, _ => throw .badStructure
  | fuel + 1, isFirst => do
    match ← peek with
    | .flowListEnd => advance; return []
    | token =>
      if !isFirst then
        match token with
        | .flowEntry => advance
        | _ => throw .badStructure
      match ← peek with
      | .flowListEnd => advance; return []
      | _ =>
        let item ← flowItem fuel
        return item :: (← flowItems fuel false)

/-- One pair of a flow map; a node without the mark of a key has no value. -/
def flowPair : Nat → Reading (Node × Node)
  | 0 => throw .badStructure
  | fuel + 1 => do
    match ← peek with
    | .key =>
      advance
      let key ← flowPart fuel fun t => endsFlowPair t || t matches .value
      let value ← flowValue fuel endsFlowPair
      return (key, value)
    | _ => return (← read fuel false false, empty)

/-- The pairs of a flow map. -/
def flowPairs : Nat → (isFirst : Bool) → Reading (List (Node × Node))
  | 0, _ => throw .badStructure
  | fuel + 1, isFirst => do
    match ← peek with
    | .flowMapEnd => advance; return []
    | token =>
      if !isFirst then
        match token with
        | .flowEntry => advance
        | _ => throw .badStructure
      match ← peek with
      | .flowMapEnd => advance; return []
      | _ =>
        let member ← flowPair fuel
        return member :: (← flowPairs fuel false)

end

/-! ## Documents -/

/-- The handles that every document knows. -/
def commonHandles : List (String × String) := [("!", "!"), ("!!", Tag.root)]

/-- What the directives before a document have declared. -/
structure Declared where
  hasVersion : Bool := false
  handles : List (String × String) := []

/-- Take one directive. A second version, a foreign one and a repeated handle are refused. -/
def Declared.add (d : Declared) : Directive → Except Fault Declared
  | .version major _ =>
    if d.hasVersion || major ≠ 1 then .error .badStructure else .ok { d with hasVersion := true }
  | .handle handle expansion =>
    if (d.handles.lookup handle).isSome then .error .badStructure
    else .ok { d with handles := d.handles ++ [(handle, expansion)] }
  | .other => .ok d

/-- The directives before a document. -/
def directives : Nat → Declared → Reading Declared
  | 0, d => return d
  | fuel + 1, d => do
    match ← peek with
    | .directive directive => advance; directives fuel (← d.add directive)
    | _ => return d

/-- Pass over the ends of documents. -/
def skipEnds : Nat → Reading Unit
  | 0 => pure ()
  | fuel + 1 => do
    match ← peek with
    | .documentEnd => advance; skipEnds fuel
    | _ => pure ()

/-- The start of a document that is marked as one; false at the end of the text. -/
def openDocument (fuel : Nat) : Reading Bool := do
  skipEnds fuel
  match ← peek with
  | .streamEnd => return false
  | _ =>
    let declared ← directives fuel {}
    match ← peek with
    | .documentStart =>
      advance
      modify fun r => { r with handles := declared.handles ++ commonHandles }
      return true
    | _ => throw .badStructure

/-- The content of a document that is marked as one, which may be empty. -/
def content (fuel : Nat) : Reading Node := do
  match ← peek with
  | .directive _ | .documentStart | .documentEnd | .streamEnd => return empty
  | _ => read fuel true false

/-- The end of a document. -/
def closeDocument : Reading Unit := do
  if (← peek) matches .documentEnd then advance

/-- The only document of the text; none where the text is empty. -/
def document (fuel : Nat) : Reading (Option Node) := do
  match ← peek with
  | .directive _ | .documentStart | .streamEnd =>
    if ← openDocument fuel then
      let node ← content fuel
      finish node
    else return none
  | _ =>
    modify fun r => { r with handles := commonHandles }
    let node ← read fuel true false
    finish node
where
  finish (node : Node) : Reading (Option Node) := do
    closeDocument
    if ← openDocument fuel then throw .badReference else return some node

/-- The node of a text; none where it is empty. A nesting of nodes takes at most five calls for a
    token. -/
def ofText (text : List Char) : Except Fault (Option Node) :=
  let (tokens, fault) := Yaml.tokens text
  ((document (5 * tokens.length + 8)).run { tokens, fault }).map (·.1)

end Node

end Candlestick.Yaml
