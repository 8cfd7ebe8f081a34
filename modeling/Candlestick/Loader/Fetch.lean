import Candlestick.Market.Symbol
import Candlestick.Provider.Directory
import Candlestick.Series.RollUp

set_option autoImplicit false

/-! # Fetching a range

The timeframe is resolved to an interval of the source, its candles are fetched and normalised to the
range, and they are relabelled or rolled up. -/

namespace Candlestick

/-- A quote asset in upper case, the default one where none is given. -/
def quoteLeg (quote : String) : String :=
  let leg := Symbol.leg (if quote = "" then defaultQuote else quote)
  if leg = "" then defaultQuote else leg

/-- The provider's request for a range under a plan. -/
def IntervalPlan.request (plan : IntervalPlan) (source : Source) (asset quote : String)
    (start stop : Int) : FetchRequest where
  source := source
  asset := Symbol.leg asset
  quote := quoteLeg quote
  start := start
  stop := stop
  interval := plan.interval
  label := plan.base.label
  width := plan.base.ms

/-- The candles of a timeframe from those of its base interval. -/
def IntervalPlan.build (plan : IntervalPlan) (asset : String) (t : TimeFrame) (start stop : Int)
    (raw : List Candle) : List Candle :=
  let candles := Series.normalize start stop raw
  if plan.isDirect then candles.map (Candle.relabel t.label)
  else Series.rollUp t.ms (Symbol.leg asset) t.label candles

/-- The candles of a timeframe in the range from `start` up to `stop`. -/
def Registry.candles (registry : Registry) (source : Source) (asset quote : String)
    (start stop : Int) (t : TimeFrame) : Dialogue (List Candle) :=
  match registry.plan source t with
  | .error cause => .fail cause
  | .ok plan =>
    (registry.fetch (plan.request source asset quote start stop)).map
      (plan.build asset t start stop)

end Candlestick
