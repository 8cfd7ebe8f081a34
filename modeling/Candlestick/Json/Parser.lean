import Candlestick.Json.Token

set_option autoImplicit false

/-! # Reading JSON

The tokens are read one by one into a stack of open containers, so reading is a plain recursion on
the list of tokens. Of two members with one key the later value stays, in the place of the first. -/

namespace Candlestick.Json

/-- A container whose closing bracket has not been read. -/
inductive OpenContainer where
  /-- An array and its items so far, the last one first. -/
  | array (items : List Json)
  /-- An object, its members so far, and the key whose value is being read. -/
  | object (members : List (String × Json)) (key : String)

/-- What may come next. -/
inductive Expecting where
  /-- A value; in an array that has just been opened also its end. -/
  | value (orEnd : Bool)
  /-- The key of an object's member; right after the opening bracket also its end. -/
  | key (members : List (String × Json)) (orEnd : Bool)
  /-- The colon after a key. -/
  | colon (members : List (String × Json)) (key : String)
  /-- A comma or the end of the innermost container; nothing more at the top. -/
  | next (done : Json)

/-- Read the remaining tokens inside the open containers. -/
def readTokens (opened : List OpenContainer) : Expecting → List Token → Option Json
  | .value _, .value v :: rest => readTokens opened (.next v) rest
  | .value _, .openArray :: rest => readTokens (.array [] :: opened) (.value true) rest
  | .value _, .openObject :: rest => readTokens opened (.key [] true) rest
  | .value true, .closeArray :: rest =>
    match opened with
    | .array items :: outer => readTokens outer (.next (.arr items.reverse)) rest
    | _ => none
  | .key members _, .value (.str key) :: rest => readTokens opened (.colon members key) rest
  | .key members true, .closeObject :: rest => readTokens opened (.next (.obj members)) rest
  | .colon members key, .colon :: rest => readTokens (.object members key :: opened) (.value false) rest
  | .next done, .comma :: rest =>
    match opened with
    | .array items :: outer => readTokens (.array (done :: items) :: outer) (.value false) rest
    | .object members key :: outer => readTokens outer (.key (putMember key done members) false) rest
    | [] => none
  | .next done, .closeArray :: rest =>
    match opened with
    | .array items :: outer => readTokens outer (.next (.arr (done :: items).reverse)) rest
    | _ => none
  | .next done, .closeObject :: rest =>
    match opened with
    | .object members key :: outer => readTokens outer (.next (.obj (putMember key done members))) rest
    | _ => none
  | .next done, [] => if opened.isEmpty then some done else none
  | _, _ => none

/-- The value of a JSON text; integers may be limited to a number of digits. -/
def parse? (maxDigits : Option Nat) (text : String) : Option Json :=
  (Token.scan maxDigits #[] text.toList).bind (readTokens [] (.value false))

/-- The longest integer, in digits, that a provider's answer may hold. -/
def answerDigits : Nat := 4300

end Candlestick.Json
