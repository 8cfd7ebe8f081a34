import Candlestick.Market.Symbol
import Candlestick.Network.Paging
import Candlestick.Provider.Request

set_option autoImplicit false

/-! # Bybit

The endpoint answers with the newest rows inside the range, newest first, so long ranges are read
backward from their end. -/

namespace Candlestick.Bybit

def name : String := "Bybit"

def url : String := "https://api.bybit.com/v5/market/kline"

/-- The most rows of a page. -/
def limit : Nat := 1000

def symbol (r : FetchRequest) : String := Symbol.join r.asset r.quote ""

/-- The rows of an answer's result. -/
def rows (answer : Json) : Except Failure Json :=
  let result := answer.member "result"
  if !result.isPresent then .ok .null
  else if result.isObject then .ok (result.member "list")
  else .error .notObject

/-- The remark on a page that does not reach below its cursor. -/
def stalled (r : FetchRequest) (cursor : Int) : Note :=
  ⟨.warning, name ++ " pagination stalled at " ++ toString cursor ++ " for " ++ symbol r ++ " " ++
    r.interval⟩

/-- The page of an answer. The next one ends before the earliest row, if this one is full and does
    not reach the start of the range. -/
def page (r : FetchRequest) (cursor : Int) (answer : Json) : Except Failure Page := do
  if !answer.isObject then return .last
  else if (answer.member "retCode").isPresent then
    .error (.provider name (answer.member "retCode") (answer.member "retMsg"))
  else
    match ← rows answer with
    | .arr (first :: others) =>
      let rows := first :: others
      let candles ← readRows (r.rowCandle 1 1 2 3 4 5) rows
      let earliest := candles.foldl (fun least c => min least c.start) cursor
      if cursor ≤ earliest then return { candles, notes := [stalled r cursor], next := none }
      else if earliest ≤ r.start ∨ rows.length < limit then return { candles, next := none }
      else return { candles, next := some (earliest - 1) }
    | _ => return .last

/-- The pages of a request. -/
def pager (r : FetchRequest) : Pager where
  call cursor := ⟨name, url, [
    ("category", .str (if r.isSpot then "spot" else "linear")), ("symbol", .str (symbol r)),
    ("interval", .str r.interval), ("start", .int r.start), ("end", .int cursor),
    ("limit", .int limit)]⟩
  read := page r

/-- The candles of a request. -/
def fetch (r : FetchRequest) : Dialogue (List Candle) := (pager r).backward r.start r.stop

end Candlestick.Bybit
