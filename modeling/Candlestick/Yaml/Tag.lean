import Candlestick.Text.Digit
import Candlestick.Text.Lines
import Candlestick.Yaml.Timestamp

set_option autoImplicit false

/-! # Tags

The kinds of nodes. A plain scalar without a tag has the kind that its text shows: `no` is a boolean,
`0x10`, `1_000` and `1:30` are integers, `1.5e+3` is a number and `1e3` a text. -/

namespace Candlestick.Yaml

/-- The kind of a node. -/
inductive Tag where
  | null | bool | int | double | bytes | timestamp | str
  | list | map | set | pairs
  /-- The key whose value is merged into a map. -/
  | merge
  /-- The key of a map's own value. -/
  | default
  | other
  deriving DecidableEq

namespace Tag

/-- What the names of all known tags begin with. -/
def root : String := "tag:yaml.org,2002:"

/-- The tags by the ends of their names. -/
def names : List (String × Tag) := [
  ("null", null), ("bool", bool), ("int", int), ("float", double), ("binary", bytes),
  ("timestamp", timestamp), ("str", str), ("seq", list), ("map", map), ("set", set),
  ("omap", pairs), ("pairs", pairs), ("merge", merge), ("value", default)]

/-- The tag of a full name. -/
def ofName (name : String) : Tag :=
  (names.find? fun (ending, _) => root ++ ending = name).elim other (·.2)

/-! ## What plain scalars show -/

def nullWords : List String := ["", "~", "null", "Null", "NULL"]

/-- A word in lower case, capitalised, and in upper case. -/
def cases (word : String) : List String := [word, word.capitalize, word.toUpper]

def boolWords : List String := ["yes", "no", "true", "false", "on", "off"].flatMap cases

def dropSign (cs : List Char) : List Char :=
  match cs with
  | '+' :: rest => rest
  | '-' :: rest => rest
  | cs => cs

/-- A digit or an underscore. -/
def isDigitOrLine (c : Char) : Bool := c.isDigit || c = '_'

/-- Not empty, and of one class. -/
def isRun (p : Char → Bool) (cs : List Char) : Bool := !cs.isEmpty && cs.all p

/-- A digit, then digits and underscores. -/
def isDecimalRun : List Char → Bool
  | c :: rest => c.isDigit && rest.all isDigitOrLine
  | [] => false

/-- A number of sixtieths: one digit, or two of which the first is less than six. -/
def isSixtieth : List Char → Bool
  | [a] => a.isDigit
  | [a, b] => '0' ≤ a && a ≤ '5' && b.isDigit
  | _ => false

/-- Digits, then at least one number of sixtieths after a colon. -/
def isSexagesimal (head : List Char → Bool) (cs : List Char) : Bool :=
  match Text.splitAt ':' cs with
  | first :: part :: parts => head first && (part :: parts).all isSixtieth
  | _ => false

/-- A decimal integer: zero, or digits that do not begin with zero. -/
def isPositive : List Char → Bool
  | '0' :: _ => false
  | cs => isDecimalRun cs

/-- A base's digits after its mark, or a decimal or sexagesimal integer, with an optional sign. -/
def isInt (cs : List Char) : Bool :=
  let body := dropSign cs
  (match body with
    | '0' :: 'b' :: rest => isRun (fun c => c = '0' || c = '1' || c = '_') rest
    | '0' :: 'x' :: rest =>
      isRun (fun c => (Text.hexValue? c).isSome || c = '_') rest
    | '0' :: rest => rest.all fun c => ('0' ≤ c && c ≤ '7') || c = '_'
    | body => isPositive body) ||
    isSexagesimal isPositive body

/-- An exponent, whose sign is not optional, or nothing. -/
def isExponent : List Char → Bool
  | [] => true
  | e :: sign :: rest => (e = 'e' || e = 'E') && (sign = '+' || sign = '-') && isRun Char.isDigit rest
  | _ => false

/-- A number with a point, sexagesimal or with an exponent, an infinity, or not a number. A number
    that begins with its point has no sign. -/
def isDouble (cs : List Char) : Bool :=
  let body := dropSign cs
  let whole := body.takeWhile (· ≠ '.')
  (match body.dropWhile (· ≠ '.') with
    | '.' :: rest =>
      let fraction := rest.takeWhile isDigitOrLine
      let exponent := rest.dropWhile isDigitOrLine
      if whole.isEmpty then body.length = cs.length && isDecimalRun fraction && isExponent exponent
      else
        (isDecimalRun whole && isExponent exponent) ||
          (isSexagesimal isDecimalRun whole && exponent.isEmpty)
    | _ => false) ||
    ([".inf", ".Inf", ".INF"].contains (String.ofList body)) ||
    ([".nan", ".NaN", ".NAN"].contains (String.ofList cs))

/-- The kind that a plain scalar shows. -/
def ofPlain (text : String) : Tag :=
  let cs := text.toList
  if nullWords.contains text then null
  else if boolWords.contains text then bool
  else if isDouble cs then double
  else if isInt cs then int
  else if text = "<<" then merge
  else if text = "=" then default
  else if (Timestamp.ofText? text).any Timestamp.isImplicit then timestamp
  else str

end Tag

end Candlestick.Yaml
