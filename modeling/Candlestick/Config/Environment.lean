import Candlestick.Text.Blank
import Candlestick.Text.Case
import Candlestick.Text.Lines

set_option autoImplicit false

/-! # The environment and its file

An environment gives values to names. A file may add to it: a line `NAME=value`, with `export` before
it if so wanted. The value is bare up to a comment, between single quotes, or between double quotes
with escapes; quotes may span lines. In a value `${NAME}` and `${NAME:-default}` stand for the
values of other names. Lines of another form are passed over, and names that have a value already
keep it. The environment itself may forbid that a file is loaded. -/

namespace Candlestick

/-- The values of names. -/
abbrev Environment := List (String × String)

namespace EnvFile

/-- A blank that does not end a line. -/
def isInline (c : Char) : Bool := Text.isBlank c && c ≠ '\n' && c ≠ '\r'

/-- Whether a character is on the same line. -/
def sameLine (c : Char) : Bool := c ≠ '\n' && c ≠ '\r'

/-- What a line says: a name and its value, either of which may be missing. -/
structure Binding where
  name : Option String
  value : Option String

/-! ## Values -/

/-- The text up to a closing quote, and the rest. The character after a backslash is part of the
    text whatever it is. -/
def untilQuote (quote : Char) : List Char → Option (List Char × List Char)
  | [] => none
  | '\\' :: c :: rest => (untilQuote quote rest).map fun (text, after) => ('\\' :: c :: text, after)
  | c :: rest =>
    if c = quote then some ([], rest)
    else (untilQuote quote rest).map fun (text, after) => (c :: text, after)

/-- The characters that letters after a backslash stand for between double quotes. -/
def doubleEscapes : List (Char × Char) := [
  ('\\', '\\'), ('\'', '\''), ('\"', '\"'), ('a', '\x07'), ('b', '\x08'), ('f', '\x0C'),
  ('n', '\n'), ('r', '\r'), ('t', '\t'), ('v', '\x0B')]

/-- The characters that may be escaped between single quotes. -/
def singleEscapes : List (Char × Char) := [('\\', '\\'), ('\'', '\'')]

/-- Replace escapes; a backslash before any other character stays. -/
def unescape (escapes : List (Char × Char)) : List Char → List Char
  | '\\' :: c :: rest =>
    match escapes.lookup c with
    | some d => d :: unescape escapes rest
    | none => '\\' :: unescape escapes (c :: rest)
  | c :: rest => c :: unescape escapes rest
  | [] => []

/-- What stands before a comment, which begins with a hash after a blank. -/
def beforeComment (afterBlank : Bool) : List Char → List Char
  | [] => []
  | c :: rest =>
    if c = '#' && afterBlank then [] else c :: beforeComment (Text.isBlank c) rest

/-- A text without the blanks at its end. -/
def dropEndBlanks (cs : List Char) : List Char := (cs.reverse.dropWhile Text.isBlank).reverse

/-- The value at the front, and the rest; `none` where a quote is not closed. The flag tells whether a
    blank stands before it, so that it may be a comment. -/
def value? (afterBlank : Bool) (cs : List Char) : Option (List Char × List Char) :=
  match cs with
  | '\'' :: rest => (untilQuote '\'' rest).map fun (text, after) => (unescape singleEscapes text, after)
  | '\"' :: rest => (untilQuote '\"' rest).map fun (text, after) => (unescape doubleEscapes text, after)
  | cs =>
    some (dropEndBlanks (beforeComment afterBlank (cs.takeWhile sameLine)), cs.dropWhile sameLine)

/-! ## Lines -/

/-- Drop `export` and the blanks after it, if both are there. -/
def dropExport (cs : List Char) : List Char :=
  let word := "export".toList
  if word.isPrefixOf cs && ((cs.drop word.length).head?.any isInline) then
    (cs.drop word.length).dropWhile isInline
  else cs

/-- The name at the front, and the rest. A comment has no name. The error is the place of what is no
    name. -/
def name (cs : List Char) : Except (List Char) (Option String × List Char) :=
  match cs with
  | '#' :: _ => .ok (none, cs)
  | '\'' :: rest =>
    match rest.takeWhile (· ≠ '\''), rest.dropWhile (· ≠ '\'') with
    | c :: text, _ :: after => .ok (some (String.ofList (c :: text)), after)
    | _, _ => .error cs
  | cs =>
    let isPart (c : Char) : Bool := c ≠ '=' && c ≠ '#' && !Text.isBlank c
    match cs.takeWhile isPart with
    | [] => .error cs
    | text => .ok (some (String.ofList text), cs.dropWhile isPart)

/-- The end of a line after blanks and a comment; the error is the place of anything else. -/
def lineEnd (cs : List Char) : Except (List Char) (List Char) :=
  let afterComment :=
    match cs.dropWhile isInline with
    | '#' :: rest => rest.dropWhile sameLine
    | _ => cs
  match afterComment.dropWhile isInline with
  | [] => .ok []
  | '\n' :: rest => .ok rest
  | _ => .error afterComment

/-- The binding at the front, and the rest after its line. -/
def binding (cs : List Char) : Except (List Char) (Binding × List Char) := do
  let (name, rest) ← name (dropExport cs)
  match rest.dropWhile isInline with
  | '=' :: rest =>
    let start := rest.dropWhile isInline
    match value? (rest.head?.any isInline) start with
    | none => throw start
    | some (text, rest) => return (⟨name, some (String.ofList text)⟩, ← lineEnd rest)
  | rest => return (⟨name, none⟩, ← lineEnd rest)

/-- The names of a file with their values, in order. -/
def bindings : Nat → List Char → List (String × Option String)
  | 0, _ => []
  | fuel + 1, cs =>
    match cs.dropWhile Text.isBlank with
    | [] => []
    | cs =>
      match binding cs with
      | .ok (⟨some name, value⟩, rest) => (name, value) :: bindings fuel rest
      | .ok (⟨none, _⟩, rest) => bindings fuel rest
      | .error place => bindings fuel ((place.dropWhile sameLine).drop 1)

/-- Drop a byte order mark at the very start. -/
def dropMark : List Char → List Char
  | '\uFEFF' :: rest => rest
  | cs => cs

/-- The names of a file's text with their values, in order. -/
def ofText (text : String) : List (String × Option String) :=
  let cs := Text.unifyBreaks (dropMark text.toList)
  bindings (cs.length + 1) cs

/-! ## References -/

/-- The reference after its opening brace: the name, the default, and the rest. -/
def reference? (cs : List Char) : Option (String × String × List Char) :=
  let name := cs.takeWhile fun c => c ≠ '\x7d' && c ≠ ':'
  let isInner (c : Char) : Bool := c ≠ '\x7d'
  match cs.drop name.length with
  | '\x7d' :: rest => some (String.ofList name, "", rest)
  | ':' :: '-' :: rest =>
    match rest.dropWhile isInner with
    | _ :: after => some (String.ofList name, String.ofList (rest.takeWhile isInner), after)
    | [] => none
  | _ => none

/-- Replace the references of a text. -/
def resolve (look : String → Option String) : Nat → List Char → List Char
  | 0, cs => cs
  | fuel + 1, cs =>
    match cs with
    | [] => []
    | '$' :: '\x7b' :: rest =>
      match reference? rest with
      | some (name, dflt, rest) => ((look name).getD dflt).toList ++ resolve look fuel rest
      | none => '$' :: resolve look fuel ('\x7b' :: rest)
    | c :: rest => c :: resolve look fuel rest

/-- The value of a name for a reference: the environment's, else the file's so far, where a name
    without a value counts as empty. -/
def lookUp (env : Environment) (known : List (String × Option String)) (name : String) :
    Option String :=
  match env.lookup name with
  | some value => some value
  | none => (known.lookup name).map (·.getD "")

/-- Give a name a value: in place where the name is known, else at the end. -/
def assign (name : String) (value : Option String) :
    List (String × Option String) → List (String × Option String)
  | [] => [(name, value)]
  | (n, v) :: rest => if n = name then (n, value) :: rest else (n, v) :: assign name value rest

/-- Replace the references of all values, where `known` are the names so far. Of a name's values the
    last one counts, in the place of the first. -/
def resolveAll (env : Environment) (known : List (String × Option String)) :
    List (String × Option String) → List (String × Option String)
  | [] => known
  | (name, value) :: rest =>
    let value := value.map fun text =>
      String.ofList (resolve (lookUp env known) (text.length + 1) text.toList)
    resolveAll env (assign name value known) rest

/-- The names that the references of a text mention. -/
def mentions : List Char → List String
  | [] => []
  | '$' :: '\x7b' :: rest =>
    match reference? rest with
    | some (name, _, _) => name :: mentions rest
    | none => mentions rest
  | _ :: rest => mentions rest

/-- All names that a file gives values to or mentions. -/
def names (text : String) : List String :=
  (ofText text).flatMap fun (name, value) =>
    name :: ((value.map fun text => mentions text.toList).getD [])

/-- Why a name of a file cannot have its value. -/
inductive Fault where
  /-- The name holds an equals sign. -/
  | nameWithEquals
  /-- The name or the value holds a NUL. -/
  | nulInside
  deriving DecidableEq

/-- The message of a fault. -/
def Fault.message : Fault → String
  | nameWithEquals => "illegal environment variable name"
  | nulInside => "embedded null byte"

/-- What is wrong with a name and its value; a NUL counts before an equals sign. -/
def fault? (name value : String) : Option Fault :=
  if name.toList.contains '\x00' || value.toList.contains '\x00' then some .nulInside
  else if name.toList.contains '=' then some .nameWithEquals
  else none

/-- The name whose value tells whether files may be loaded. -/
def switchName : String := "PYTHON_DOTENV_DISABLED"

/-- The values that forbid it, in any case. -/
def switchWords : List String := ["1", "true", "t", "yes", "y"]

end EnvFile

namespace Environment

/-- Whether an environment forbids that a file is loaded. -/
def forbidsFile (env : Environment) : Bool :=
  -- Upper case comes first, since letters of different lower case may share it.
  (env.lookup EnvFile.switchName).any fun word =>
    EnvFile.switchWords.contains (Text.lower (Text.upper word))

/-- Add names that have no value yet; one without a value is not added. -/
def addAll (env : Environment) : List (String × Option String) → Except EnvFile.Fault Environment
  | [] => .ok env
  | (_, none) :: rest => env.addAll rest
  | (name, some value) :: rest =>
    if (env.lookup name).isSome then env.addAll rest
    else match EnvFile.fault? name value with
      | some fault => .error fault
      | none => addAll (env ++ [(name, value)]) rest

/-- Add the names of a file. The flag tells whether it has been loaded and has any. -/
def load (env : Environment) (text : String) : Except EnvFile.Fault (Bool × Environment) :=
  if env.forbidsFile then .ok (false, env)
  else
    let bound := EnvFile.resolveAll env [] (EnvFile.ofText text)
    (env.addAll bound).map fun env => (!bound.isEmpty, env)

end Environment

end Candlestick
