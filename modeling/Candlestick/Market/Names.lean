import Candlestick.Failure
import Candlestick.Market.Source
import Candlestick.Market.TimeFrame

set_option autoImplicit false

/-! # Names in requests

Exchanges and markets are named in any case, timeframes by their label or their name. -/

namespace Candlestick

/-- The exchange that a text names, in any case. -/
def Exchange.ofText (text : String) : Except Failure Exchange :=
  let name := Text.lower text
  match ofName? name with
  | some exchange => .ok exchange
  | none => .error (.unknownExchange name)

/-- The market that a text names, in any case. -/
def Market.ofText (text : String) : Except Failure Market :=
  let name := Text.lower text
  match ofName? name with
  | some market => .ok market
  | none => .error (.unknownMarket name)

/-- The source that two texts name; the exchange is looked at first. -/
def Source.ofTexts (exchange market : String) : Except Failure Source := do
  let exchange ← Exchange.ofText exchange
  let market ← Market.ofText market
  return ⟨exchange, market⟩

/-- The timeframe that a text names. -/
def TimeFrame.ofText (text : String) : Except Failure TimeFrame :=
  match ofText? text with
  | some t => .ok t
  | none => .error (.unknownTimeFrame text)

end Candlestick
