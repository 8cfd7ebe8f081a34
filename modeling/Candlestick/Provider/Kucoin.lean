import Candlestick.Market.Symbol
import Candlestick.Network.Paging
import Candlestick.Provider.Request

set_option autoImplicit false

/-! # KuCoin

Rows are in seconds, with the close before the high, and are read backward. -/

namespace Candlestick.Kucoin

def name : String := "KuCoin"

def spotUrl : String := "https://api.kucoin.com/api/v1/market/candles"

def futuresUrl : String := "https://api-futures.kucoin.com/api/v1/kline/query"

/-- Whether a code tells of success: it is absent, or its text is the code of success. -/
def isSuccess (code : Json) : Bool := !code.isPresent || code.display = "200000"

/-- The rows of an answer, which may be nested one level deeper. -/
def rows (answer : Json) : Json :=
  let data := answer.member "data"
  if data.isObject then data.member "data" else data

/-- The page of an answer. The next one ends before the earliest row. -/
def page (r : FetchRequest) (cursor : Int) (answer : Json) : Except Failure Page := do
  if !answer.isObject then return .last
  else if !isSuccess (answer.member "code") then
    .error (.provider name (answer.member "code") (answer.member "msg"))
  else
    match rows answer with
    | .arr (first :: others) =>
      let candles ← readRows (r.rowCandle 1000 1 3 4 2 5) (first :: others)
      let earliest := candles.foldl (fun least c => min least (c.start.fdiv 1000)) cursor
      return { candles, next := if cursor ≤ earliest then none else some (earliest - 1) }
    | _ => return .last

/-- The pages of a request. -/
def pager (r : FetchRequest) : Pager where
  call cursor :=
    if r.isSpot then
      ⟨name, spotUrl, [
        ("symbol", .str (Symbol.join r.asset r.quote "-")), ("type", .str r.interval),
        ("startAt", .int r.startSecond), ("endAt", .int cursor)]⟩
    else
      ⟨name, futuresUrl, [
        ("symbol", .str (Symbol.join r.asset r.quote "" "M")), ("granularity", .str r.interval),
        ("from", .int r.startSecond), ("to", .int cursor)]⟩
  read := page r

/-- The candles of a request. -/
def fetch (r : FetchRequest) : Dialogue (List Candle) :=
  (pager r).backward r.startSecond r.stopSecond

end Candlestick.Kucoin
