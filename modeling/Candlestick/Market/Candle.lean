import Candlestick.Number.Double

set_option autoImplicit false

/-! # Candles -/

namespace Candlestick

/-- The quote asset where none is given. -/
def defaultQuote : String := "USDT"

/-- One bar of a chart, from `start` up to but without `stop`, both in milliseconds since 1970. -/
structure Candle where
  start : Int
  stop : Int
  opening : Double
  highest : Double
  lowest : Double
  closing : Double
  volume : Double
  /-- How many trades the bar sums up. -/
  trades : Int
  asset : String
  /-- The label of the granularity. -/
  label : String
  deriving DecidableEq

namespace Candle

/-- The same bar under another granularity's label. -/
def relabel (label : String) (c : Candle) : Candle := { c with label }

/-- Whether the bar has a moment in common with the range from `start` up to `stop`. -/
def overlaps (start stop : Int) (c : Candle) : Bool := start < c.stop && c.start < stop

end Candle

/-- A range of missing buckets, from `start` up to but without `stop`. -/
structure Gap where
  start : Int
  stop : Int
  deriving DecidableEq

end Candlestick
