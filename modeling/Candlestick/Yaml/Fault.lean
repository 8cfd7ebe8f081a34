import Candlestick.Calendar.IsoText

set_option autoImplicit false

/-! # What can be wrong with a document

The causes in the order of the layers: characters, tokens, structure, references between nodes, and
the meaning of a node under its tag. -/

namespace Candlestick.Yaml

/-- Why a text is no document. -/
inductive Fault where
  /-- A character that no document may hold. -/
  | unprintable
  /-- Characters that form no token. -/
  | badToken
  /-- An escape for a number that is no character. -/
  | noCharacter
  /-- An escape for a number that no character comes near. -/
  | noCharacterAtAll
  /-- Tokens that form no node. -/
  | badStructure
  /-- An anchor that is unknown or given twice, or a second document. -/
  | badReference
  /-- A node that its tag does not fit, an unknown tag, or a key that cannot be a key. -/
  | badTag
  /-- A text that is no integer in a base. -/
  | notInteger (base : Nat) (text : String)
  /-- An integer with more digits than are read. -/
  | tooManyDigits (count : Nat)
  | notNumber (text : String)
  /-- A number's text without a first character. -/
  | emptyNumber
  /-- Sixtieths that are too large for a binary64 number. -/
  | tooLarge
  | notBoolean
  /-- A text that is not written as a date or a date and time. -/
  | notTimestamp
  /-- A date or time that is not in the calendar. -/
  | notInCalendar (cause : Calendar.StampError)

/-- The message of a cause that concerns the value of a scalar; the others have none. -/
def Fault.message : Fault → String
  | notInteger base text =>
    "invalid literal for int() with base " ++ toString base ++ ": " ++ Text.quoted text
  | tooManyDigits count =>
    "Exceeds the limit (4300 digits) for integer string conversion: value has " ++ toString count ++
      " digits; use sys.set_int_max_str_digits() to increase the limit"
  | notNumber text => "could not convert string to float: " ++ Text.quoted text
  | noCharacter => "chr() arg not in range(0x110000)"
  | notInCalendar cause => cause.message
  | unprintable | badToken | noCharacterAtAll | badStructure | badReference | badTag | emptyNumber
  | tooLarge | notBoolean | notTimestamp => ""

end Candlestick.Yaml
