set_option autoImplicit false

/-! # What can be wrong with candles -/

namespace Candlestick

/-- A fault of a list of candles. -/
inductive Issue where
  /-- So many candles lack a price. -/
  | missingPrices (count : Nat)
  | highTooLow
  | lowTooHigh
  | negativeVolume
  | repeatedStart
  | stopNotAfterStart
  deriving DecidableEq

/-- The description of a fault. -/
def Issue.text : Issue → String
  | missingPrices count => toString count ++ " candle(s) with unparseable prices"
  | highTooLow => "high price below max(open, close)"
  | lowTooHigh => "low price above min(open, close)"
  | negativeVolume => "negative volume"
  | repeatedStart => "duplicate timestamps"
  | stopNotAfterStart => "candle end not after start"

/-- The descriptions of several faults. -/
def Issue.describe (issues : List Issue) : String := "; ".intercalate (issues.map Issue.text)

end Candlestick
