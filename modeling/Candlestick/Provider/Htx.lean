import Candlestick.Market.Symbol
import Candlestick.Network.Dialogue
import Candlestick.Provider.Request

set_option autoImplicit false

/-! # HTX

The endpoint knows no range: it answers with the newest bars, as many as it is asked for. -/

namespace Candlestick.Htx

def name : String := "HTX"

def spotUrl : String := "https://api.huobi.pro/market/history/kline"

def futuresUrl : String := "https://api.hbdm.com/linear-swap-ex/market/history/kline"

/-- The most bars that can be asked for. -/
def maxSize : Int := 2000

/-- How many bars to ask for: those of the range and ten more. The quotient is a binary64 number. -/
def historySize (r : FetchRequest) : Except Failure Int :=
  if r.width = 0 then .error .divisionByZero
  else match (Double.ofQuotient (r.stop - r.start) r.width).ceil? with
    | none => .error .tooLarge
    | some span => .ok (min maxSize (max 1 (span + 10)))

/-- The candle of a row, unless its time is unusable. The volume may stand under either of two
    keys. -/
def row (r : FetchRequest) (row : Json) : Except Failure (Option Candle) := do
  match ← Reading.time (row.member "id") 1000 with
  | none => return none
  | some start =>
    let volume := match row.member "vol" with
      | .null => row.member "amount"
      | volume => volume
    some <$> r.candle start (row.member "open") (row.member "high") (row.member "low")
      (row.member "close") volume (row.member "count")

/-- Whether a status tells of an error. -/
def isError : Json → Bool
  | .str status => status = "error"
  | _ => false

/-- The candles of an answer. -/
def read (r : FetchRequest) (answer : Json) : Except Failure (List Candle) := do
  if !answer.isObject then return []
  else if isError (answer.member "status") then
    .error (.provider name (answer.member "err-code") (answer.member "err-msg"))
  else
    let rows ← Reading.itemsIfPresent (answer.member "data")
    readRows (row r) (rows.filter Json.isObject)

/-- The question of a request for a number of bars. -/
def call (r : FetchRequest) (size : Int) : Call :=
  if r.isSpot then
    ⟨name, spotUrl, [
      ("symbol", .str (Symbol.join r.asset r.quote "" "" true)), ("period", .str r.interval),
      ("size", .int size)]⟩
  else
    ⟨name, futuresUrl, [
      ("contract_code", .str (Symbol.join r.asset r.quote "-")), ("period", .str r.interval),
      ("size", .int size)]⟩

/-- The candles of a request. -/
def fetch (r : FetchRequest) : Dialogue (List Candle) :=
  match historySize r with
  | .error cause => .fail cause
  | .ok size => .request (call r size) (read r)

end Candlestick.Htx
