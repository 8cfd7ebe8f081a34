import Candlestick.Market.Symbol
import Candlestick.Network.Paging
import Candlestick.Provider.Request

set_option autoImplicit false

/-! # Gate.io

Rows are in seconds and are read backward. Spot rows are lists that begin with time, quote volume
and close; futures rows are objects with one-letter keys. -/

namespace Candlestick.Gateio

def name : String := "Gate.io"

def spotUrl : String := "https://api.gateio.ws/api/v4/spot/candlesticks"

def futuresUrl : String := "https://api.gateio.ws/api/v4/futures/usdt/candlesticks"

/-- The most rows of a page. -/
def limit : Nat := 1000

/-- The candle of a row of either form, unless its time is unusable. -/
def row (r : FetchRequest) (row : Json) : Except Failure (Option Candle) :=
  if row.isObject then r.memberCandle 1000 "t" "o" "h" "l" "c" "v" row
  else r.rowCandle 1000 5 3 4 2 1 row

/-- The page of an answer. The next one ends before the earliest row, if this one is full. -/
def page (r : FetchRequest) (cursor : Int) (answer : Json) : Except Failure Page := do
  match answer with
  | .arr (first :: others) =>
    let rows := first :: others
    let candles ← readRows (row r) rows
    let earliest := candles.foldl (fun least c => min least (c.start.fdiv 1000)) cursor
    if cursor ≤ earliest ∨ rows.length < limit then return { candles, next := none }
    else return { candles, next := some (earliest - 1) }
  | answer =>
    if (answer.member "label").isPresent then
      .error (.provider name (answer.member "label") (answer.member "message"))
    else return .last

/-- The pages of a request. -/
def pager (r : FetchRequest) : Pager where
  call cursor := ⟨name, if r.isSpot then spotUrl else futuresUrl, [
    (if r.isSpot then "currency_pair" else "contract", .str (Symbol.join r.asset r.quote "_")),
    ("interval", .str r.interval), ("from", .int r.startSecond), ("to", .int cursor),
    ("limit", .int limit)]⟩
  read := page r

/-- The candles of a request. -/
def fetch (r : FetchRequest) : Dialogue (List Candle) :=
  (pager r).backward r.startSecond r.stopSecond

end Candlestick.Gateio
