import Candlestick.Market.Symbol
import Candlestick.Network.Dialogue
import Candlestick.Provider.Request

set_option autoImplicit false

/-! # Coinbase

Spot only, one answer for the whole range, whose ends are sent as dates and times. Rows are objects,
or lists of time, low, high, open, close and volume. -/

namespace Candlestick.Coinbase

def name : String := "Coinbase"

def productsUrl : String := "https://api.coinbase.com/api/v3/brokerage/products"

/-- The candle of a row of either form, unless its time is unusable. -/
def row (r : FetchRequest) (row : Json) : Except Failure (Option Candle) := do
  if row.isObject then
    match ← Reading.startTime (row.member "start") with
    | none => return none
    | some start =>
      some <$> r.candle start (row.member "open") (row.member "high") (row.member "low")
        (row.member "close") (row.member "volume")
  else r.rowCandle 1000 3 2 1 4 5 row

/-- The candles of an answer. -/
def read (r : FetchRequest) (answer : Json) : Except Failure (List Candle) := do
  if !answer.isObject then return []
  else if (answer.member "error").isPresent then
    .error (.provider name (answer.member "error") (answer.member "message"))
  else
    let rows ← Reading.itemsIfPresent (answer.member "candles")
    readRows (row r) rows

/-- The question of a request; its ends have to be moments of the calendar. -/
def call (r : FetchRequest) : Except Failure Call := do
  let start ← Calendar.zuluOfMs r.start
  let stop ← Calendar.zuluOfMs r.stop
  return ⟨name, productsUrl ++ "/" ++ Symbol.join r.asset r.quote "-" ++ "/candles", [
    ("granularity", .str r.interval), ("start", .str start), ("end", .str stop)]⟩

/-- The candles of a request. -/
def fetch (r : FetchRequest) : Dialogue (List Candle) :=
  if r.isSpot then
    .check <| match call r with
      | .error cause => .fail cause
      | .ok call => .ask call fun answer => .ofExcept (read r answer)
  else .fail (.unsupportedSource Exchange.coinbase.name (some r.source.market.name))

end Candlestick.Coinbase
