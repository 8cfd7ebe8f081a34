import Candlestick.Command.Invocation
import Candlestick.Market.Interval
import Candlestick.Market.Names

set_option autoImplicit false

/-! # The command `intervals` -/

namespace Candlestick.Command

/-- A text with blanks before it up to a width. -/
def padLeft (width : Nat) (text : String) : String :=
  String.ofList (List.replicate (width - text.length) ' ') ++ text

/-- How a timeframe is served: not at all, by the provider, or out of a base interval. -/
def planText : Option IntervalPlan → String
  | none => "unsupported"
  | some plan =>
    if plan.isDirect then plan.interval
    else plan.interval ++ " x" ++ toString plan.group ++ " (" ++ plan.base.label ++ ")"

/-- The line of a timeframe. -/
def intervalLine (registry : Registry) (source : Source) (t : TimeFrame) : String :=
  "   " ++ padLeft 4 t.label ++ "  " ++ planText (registry.resolve source t)

/-- The lines of a market. -/
def marketLines (registry : Registry) (exchange : Exchange) (market : Market) : List String :=
  ("\n" ++ exchange.label ++ " " ++ market.name) ::
    if (registry.markets exchange).contains market then
      TimeFrame.all.map (intervalLine registry ⟨exchange, market⟩)
    else ["   not supported"]

/-- The markets that are meant; all of them where none is named. -/
def marketsOf : Option String → Except Failure (List Market)
  | none | some "" => .ok Market.all
  | some name => (Market.ofText name).map ([·])

/-- The lines of `intervals`. -/
def IntervalOptions.lines (options : IntervalOptions) (registry : Registry) :
    Except Failure (List String) := do
  let exchange ← Exchange.ofText options.exchange
  let markets ← marketsOf options.market
  return markets.flatMap (marketLines registry exchange)

end Candlestick.Command
