import Candlestick.Json.Printer
import Candlestick.Series.Issue

set_option autoImplicit false

/-! # Why candles could not be had

Every way in which a request can fail, as its cause with the facts that belong to it, and the
message of each. -/

namespace Candlestick

/-- The cause of a failure. -/
inductive Failure where
  /-- No exchange has this name. -/
  | unknownExchange (name : String)
  /-- No market has this name. -/
  | unknownMarket (name : String)
  /-- A text names no timeframe. -/
  | unknownTimeFrame (text : String)
  /-- No provider serves the exchange, or this market of it. -/
  | unsupportedSource (exchange : String) (market : Option String)
  /-- The source has no interval for the timeframe, and none that divides it. -/
  | unsupportedTimeFrame (exchange market timeFrame : String)
  /-- The provider refused, could not be reached, or answered with an error of its own. -/
  | provider (sender : String) (status detail : Json)
  /-- The caller has withdrawn the request. -/
  | cancelled (reason : String)
  /-- Candles failed the quality check. -/
  | poorQuality (issues : List Issue)
  /-- An instant lies in no year of the calendar. -/
  | yearOutOfRange (year : Int)
  /-- An instant is too far away to have a year at all. -/
  | instantUnknown
  /-- A candle's start has no place in a table of times. -/
  | startOutOfBounds
  /-- A number is too large for a binary64 number, or infinite where an integer is needed. -/
  | tooLarge
  | divisionByZero
  /-- A walk over a range with steps of length zero. -/
  | zeroStep
  /-- A row was asked for a place it does not have. -/
  | noSuchPlace
  /-- A value that is no collection was asked for its items. -/
  | notCollection
  /-- A value that is no object was asked for a member. -/
  | notObject
  /-- A text is no number. -/
  | notNumber (text : String)
  deriving Inhabited

namespace Failure

/-- The failure of a request that its caller has withdrawn. -/
def aborted : Failure := cancelled "Aborted"

/-- The message shown for a failure. Causes that only a malformed answer or an extreme number brings
    about have none. -/
def message : Failure → String
  | unknownExchange name => Text.quoted name ++ " is not a valid ExchangeId"
  | unknownMarket name => Text.quoted name ++ " is not a valid MarketType"
  | unknownTimeFrame text => "Unknown timeframe '" ++ text ++ "'"
  | unsupportedSource exchange none => "Source not supported: " ++ exchange
  | unsupportedSource exchange (some market) =>
    "Source not supported: " ++ exchange ++ " " ++ market
  | unsupportedTimeFrame exchange market timeFrame =>
    "Timeframe " ++ timeFrame ++ " not supported for " ++ exchange ++ " " ++ market
  | provider sender status detail =>
    let code := match status with
      | .null => ""
      | code => " " ++ code.display
    sender ++ " error" ++ code ++ (if detail.isPresent then ": " ++ detail.display else "")
  | cancelled reason => reason
  | poorQuality issues => Issue.describe issues
  | yearOutOfRange year => "year " ++ toString year ++ " is out of range"
  | zeroStep => "range() arg 3 must not be zero"
  | notNumber text => "could not convert string to float: " ++ Text.quoted text
  | instantUnknown | startOutOfBounds | tooLarge | divisionByZero | noSuchPlace | notCollection
  | notObject => ""

end Failure

end Candlestick
