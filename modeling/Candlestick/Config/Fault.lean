import Candlestick.Calendar.IsoText
import Candlestick.Market.Source
import Candlestick.Yaml.Fault

set_option autoImplicit false

/-! # What can be wrong with a configuration

A fault says where a value stands and what is wrong with it; each cause has a code and a message. A
configuration is checked as a whole, and its faults are listed in the order of the fields. -/

namespace Candlestick.Config

/-- What is wrong with one value. -/
inductive Cause where
  | missing
  | notText
  /-- Bytes that are no text. -/
  | garbledText
  | notInteger
  | unreadableInteger
  | fractional
  | integerTooLarge
  | notFinite
  | notNumber
  | unreadableNumber
  | notBoolean
  | unreadableBoolean
  | unknownExchange
  | unknownMarket
  /-- A value that has no fields. -/
  | noFields (model : String)
  /-- A value of the right kind that is refused. -/
  | refused (reason : String)
  /-- A time that no year of the calendar holds in universal time. -/
  | outOfCalendar

namespace Cause

/-- Names between single quotes, with a word before the last one. -/
def alternatives : List String → String
  | [] => ""
  | [name] => "'" ++ name ++ "'"
  | [first, last] => "'" ++ first ++ "' or '" ++ last ++ "'"
  | name :: rest => "'" ++ name ++ "', " ++ alternatives rest

/-- The code of a cause. -/
def code : Cause → String
  | missing => "missing"
  | notText => "string_type"
  | garbledText => "string_unicode"
  | notInteger => "int_type"
  | unreadableInteger => "int_parsing"
  | fractional => "int_from_float"
  | integerTooLarge => "int_parsing_size"
  | notFinite => "finite_number"
  | notNumber => "float_type"
  | unreadableNumber => "float_parsing"
  | notBoolean => "bool_type"
  | unreadableBoolean => "bool_parsing"
  | unknownExchange | unknownMarket => "enum"
  | noFields _ => "model_type"
  | refused _ | outOfCalendar => "value_error"

/-- The message of a cause. -/
def message : Cause → String
  | missing => "Field required"
  | notText => "Input should be a valid string"
  | garbledText => "Input should be a valid string, unable to parse raw data as a unicode string"
  | notInteger => "Input should be a valid integer"
  | unreadableInteger => "Input should be a valid integer, unable to parse string as an integer"
  | fractional => "Input should be a valid integer, got a number with a fractional part"
  | integerTooLarge => "Unable to parse input string as an integer, exceeded maximum size"
  | notFinite => "Input should be a finite number"
  | notNumber => "Input should be a valid number"
  | unreadableNumber => "Input should be a valid number, unable to parse string as a number"
  | notBoolean => "Input should be a valid boolean"
  | unreadableBoolean => "Input should be a valid boolean, unable to interpret input"
  | unknownExchange => "Input should be " ++ alternatives (Exchange.all.map Exchange.name)
  | unknownMarket => "Input should be " ++ alternatives (Market.all.map Market.name)
  | noFields model => "Input should be a valid dictionary or instance of " ++ model
  | refused reason => "Value error, " ++ reason
  | outOfCalendar => "Value error, date value out of range"

end Cause

/-- A value that is wrong: the fields that lead to it, and the cause. -/
structure Fault where
  place : List String
  cause : Cause

end Config

/-- Why there is no configuration. -/
inductive ConfigError where
  | missingFile (path : String)
  /-- The file is no document. -/
  | unreadable (fault : Yaml.Fault)
  /-- Values of the named model are wrong. -/
  | invalid (model : String) (faults : List Config.Fault)
  /-- A number in the environment is none. -/
  | notNumber (text : String)
  /-- A time leaves the calendar when it is brought to universal time. -/
  | outOfCalendar

/-- The message of an error. -/
def ConfigError.message : ConfigError → String
  | missingFile path => "Config file " ++ path ++ " does not exist."
  | unreadable fault => fault.message
  | invalid model faults =>
    let count := toString faults.length ++ " validation error" ++ (if faults.length = 1 then "" else "s")
    let lines := faults.flatMap fun fault => [".".intercalate fault.place, "  " ++ fault.cause.message]
    "\n".intercalate ((count ++ " for " ++ model) :: lines)
  | notNumber text => "could not convert string to float: " ++ Text.quoted text
  | outOfCalendar => "date value out of range"

end Candlestick
