import Candlestick.Market.Candle
import Candlestick.Market.Source
import Candlestick.Provider.Reading

set_option autoImplicit false

/-! # Requests to providers, and the candles of their rows -/

namespace Candlestick

/-- What a provider needs to know to send one range of its candles. -/
structure FetchRequest where
  source : Source
  asset : String
  quote : String
  /-- The first millisecond of the range. -/
  start : Int
  /-- The first millisecond after the range. -/
  stop : Int
  /-- The provider's name of the interval. -/
  interval : String
  /-- The label that the candles carry. -/
  label : String
  /-- The length of a candle whose row gives no end. -/
  width : Int

namespace FetchRequest

def isSpot (r : FetchRequest) : Bool := r.source.market = .spot

/-- The second that holds the first millisecond. -/
def startSecond (r : FetchRequest) : Int := r.start.fdiv 1000

/-- The second that holds the first millisecond after the range. -/
def stopSecond (r : FetchRequest) : Int := r.stop.fdiv 1000

/-- The candle of a row's values. An end that is missing or zero is one width after the start. -/
def candle (r : FetchRequest) (start : Int) (opening highest lowest closing volume : Json)
    (trades : Json := .int 0) (stop : Option Int := none) : Except Failure Candle := do
  let stop ← match stop with
    | some ms => Reading.time (.int ms)
    | none => pure none
  let opening ← Reading.number opening
  let highest ← Reading.number highest
  let lowest ← Reading.number lowest
  let closing ← Reading.number closing
  let volume ← Reading.volume volume
  let trades ← Reading.count trades
  return {
    start, opening, highest, lowest, closing, volume, trades
    stop := match stop with
      | some ms => if ms = 0 then start + r.width else ms
      | none => start + r.width
    asset := r.asset
    label := r.label }

/-- The candle of a row whose values stand at the given places, unless its time is unusable. -/
def rowCandle (r : FetchRequest) (scale : Int) (opening highest lowest closing volume : Nat)
    (row : Json) : Except Failure (Option Candle) := do
  match ← Reading.time (Reading.item row 0) scale with
  | none => return none
  | some start =>
    let item := Reading.item row
    some <$> r.candle start (item opening) (item highest) (item lowest) (item closing) (item volume)

/-- The candle of an object row whose values stand under the given keys, unless its time is
    unusable. -/
def memberCandle (r : FetchRequest) (scale : Int)
    (time opening highest lowest closing volume : String) (row : Json) :
    Except Failure (Option Candle) := do
  match ← Reading.time (row.member time) scale with
  | none => return none
  | some start =>
    some <$> r.candle start (row.member opening) (row.member highest) (row.member lowest)
      (row.member closing) (row.member volume)

end FetchRequest

namespace Json

/-- Whether a value is an object. -/
def isObject : Json → Bool
  | obj _ => true
  | _ => false

end Json

/-- The candles of rows; rows without a usable time are passed over. -/
def readRows (read : Json → Except Failure (Option Candle)) :
    List Json → Except Failure (List Candle)
  | [] => .ok []
  | row :: rest => do
    let candle ← read row
    let others ← readRows read rest
    return candle.toList ++ others

end Candlestick
