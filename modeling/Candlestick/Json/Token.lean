import Candlestick.Json.Basic
import Candlestick.Number.Reading

set_option autoImplicit false

/-! # Tokens of JSON text

`Token.scan` cuts a text into tokens. Beyond the standard it reads the names `NaN`, `Infinity` and
`-Infinity`, and it may refuse integers with more than a given number of digits. A string holds no
bare control character; an escaped pair of surrogates is one character. -/

namespace Candlestick.Json

/-- A token of JSON text. -/
inductive Token where
  | openArray
  | closeArray
  | openObject
  | closeObject
  | comma
  | colon
  | value (v : Json)

namespace Token

/-- Blanks of JSON: space, tab, line feed and carriage return. -/
def isSpace (c : Char) : Bool := c = ' ' || c = '\t' || c = '\n' || c = '\r'

/-- The value of four hexadecimal digits. -/
def hexUnit? (a b c d : Char) : Option Nat := do
  return ((← Text.hexValue? a) * 16 + (← Text.hexValue? b)) * 256 + ((← Text.hexValue? c) * 16 + (← Text.hexValue? d))

/-- The character of a one-letter escape. -/
def shortEscape? : Char → Option Char
  | '\"' => some '\"'
  | '\\' => some '\\'
  | '/' => some '/'
  | 'b' => some '\x08'
  | 'f' => some '\x0c'
  | 'n' => some '\n'
  | 'r' => some '\r'
  | 't' => some '\t'
  | _ => none

/-- The character of a code unit that is no surrogate; a lone surrogate is replaced. -/
def unitChar (unit : Nat) : Char := if 0xD800 ≤ unit ∧ unit ≤ 0xDFFF then '\uFFFD' else Char.ofNat unit

/-- Read the characters of a string after its opening quote: its contents, in reverse order before
    those already read, and the text after its closing quote. -/
def scanString (read : List Char) : List Char → Option (List Char × List Char)
  | [] => none
  | '\"' :: rest => some (read, rest)
  | '\\' :: 'u' :: a :: b :: c :: d :: '\\' :: 'u' :: a' :: b' :: c' :: d' :: rest =>
    match hexUnit? a b c d with
    | none => none
    | some high =>
      match hexUnit? a' b' c' d' with
      | some low =>
        if 0xD800 ≤ high ∧ high ≤ 0xDBFF ∧ 0xDC00 ≤ low ∧ low ≤ 0xDFFF then
          scanString (Char.ofNat (0x10000 + (high - 0xD800) * 0x400 + (low - 0xDC00)) :: read) rest
        else scanString (unitChar high :: read) ('\\' :: 'u' :: a' :: b' :: c' :: d' :: rest)
      | none => none
  | '\\' :: 'u' :: a :: b :: c :: d :: rest =>
    match hexUnit? a b c d with
    | some unit => scanString (unitChar unit :: read) rest
    | none => none
  | '\\' :: c :: rest =>
    match shortEscape? c with
    | some e => scanString (e :: read) rest
    | none => none
  | c :: rest => if c.toNat < 0x20 then none else scanString (c :: read) rest
termination_by cs => cs.length

/-- The whole part of a number: a zero alone, or digits that do not start with one. -/
def scanWhole? : List Char → Option (List Char × List Char)
  | '0' :: rest => some (['0'], rest)
  | cs =>
    match NumberText.spanDigits cs with
    | ([], _) => none
    | parts => some parts

/-- The digits of a fraction, if a point and a digit follow. -/
def scanFraction : List Char → List Char × List Char
  | '.' :: rest =>
    match NumberText.spanDigits rest with
    | ([], _) => ([], '.' :: rest)
    | parts => parts
  | cs => ([], cs)

/-- The exponent, if one follows. -/
def scanExponent : List Char → Option Int × List Char
  | [] => (none, [])
  | e :: rest =>
    if e = 'e' || e = 'E' then
      let (negative, digits) := NumberText.spanSign rest
      match NumberText.spanDigits digits with
      | ([], _) => (none, e :: rest)
      | (ds, rest) =>
        let power := NumberText.digitsValue 0 ds
        (some (if negative then -(power : Int) else power), rest)
    else (none, e :: rest)

/-- A number after its sign. A number with neither fraction nor exponent is an integer. -/
def scanNumber? (maxDigits : Option Nat) (negative : Bool) (cs : List Char) :
    Option (Json × List Char) := do
  let (whole, rest) ← scanWhole? cs
  let (fraction, rest) := scanFraction rest
  let (exponent, rest) := scanExponent rest
  if fraction.isEmpty && exponent.isNone then
    if maxDigits.any (· < whole.length) then none
    else
      let magnitude := NumberText.digitsValue 0 whole
      some (.int (if negative then -(magnitude : Int) else magnitude), rest)
  else
    let digits := NumberText.digitsValue (NumberText.digitsValue 0 whole) fraction
    some (.double (Double.ofDecimal negative digits (exponent.getD 0 - fraction.length)), rest)

/-- The names of values. -/
def names : List (List Char × Json) := [
  ("null".toList, .null), ("true".toList, .bool true), ("false".toList, .bool false),
  ("NaN".toList, .double .nan), ("Infinity".toList, .double (.infinity false)),
  ("-Infinity".toList, .double (.infinity true))]

/-- A name at the front of the text. -/
def scanName? (cs : List Char) : Option (Json × List Char) :=
  names.findSome? fun (name, meaning) =>
    if name.isPrefixOf cs then some (meaning, cs.drop name.length) else none

/-- A value that is no container, at the front of the text. -/
def scanScalar? (maxDigits : Option Nat) (cs : List Char) : Option (Json × List Char) :=
  match scanName? cs with
  | some found => some found
  | none =>
    match cs with
    | '\"' :: rest => (scanString [] rest).map fun (read, rest) => (.str (String.ofList read.reverse), rest)
    | '-' :: rest => scanNumber? maxDigits true rest
    | cs => scanNumber? maxDigits false cs

/-- The token of a bracket or separator. -/
def mark? : Char → Option Token
  | '[' => some openArray
  | ']' => some closeArray
  | '\x7b' => some openObject
  | '\x7d' => some closeObject
  | ',' => some comma
  | ':' => some colon
  | _ => none

/-- The tokens of a text, or nothing where a character starts none. A token takes at least one
    character. -/
def scan (maxDigits : Option Nat) (found : Array Token) (cs : List Char) : Option (List Token) :=
  match cs with
  | [] => some found.toList
  | c :: rest =>
    if isSpace c then scan maxDigits found rest
    else match mark? c with
      | some token => scan maxDigits (found.push token) rest
      | none =>
        match scanScalar? maxDigits (c :: rest) with
        | none => none
        | some (v, after) =>
          if after.length ≤ rest.length then scan maxDigits (found.push (value v)) after else none
termination_by cs.length
decreasing_by all_goals (simp only [List.length_cons]; omega)

end Token

end Candlestick.Json
