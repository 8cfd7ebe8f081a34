import Candlestick.Market.Symbol
import Candlestick.Network.Paging
import Candlestick.Provider.Request

set_option autoImplicit false

/-! # OKX

The endpoint answers with rows older than a given time, newest first. -/

namespace Candlestick.Okx

def name : String := "OKX"

def url : String := "https://www.okx.com/api/v5/market/candles"

/-- The most rows of a page. -/
def limit : Nat := 100

/-- The instrument of a request; swaps carry a mark. -/
def instrument (r : FetchRequest) : String :=
  let symbol := Symbol.join r.asset r.quote "-"
  if r.isSpot then symbol else symbol ++ "-SWAP"

/-- Whether a code tells of success: it is absent, or its text is a zero. -/
def isSuccess (code : Json) : Bool := !code.isPresent || code.display = "0"

/-- The page of an answer. The next one ends before the earliest row, if this one is full. -/
def page (r : FetchRequest) (cursor : Int) (answer : Json) : Except Failure Page := do
  if !answer.isObject then return .last
  else if !isSuccess (answer.member "code") then
    .error (.provider name (answer.member "code") (answer.member "msg"))
  else
    match answer.member "data" with
    | .arr (first :: others) =>
      let rows := first :: others
      let candles ← readRows (r.rowCandle 1 1 2 3 4 5) rows
      let earliest := candles.foldl (fun least c => min least c.start) cursor
      if cursor ≤ earliest ∨ rows.length < limit then return { candles, next := none }
      else return { candles, next := some (earliest - 1) }
    | _ => return .last

/-- The pages of a request. -/
def pager (r : FetchRequest) : Pager where
  call cursor := ⟨name, url, [
    ("instId", .str (instrument r)), ("bar", .str r.interval), ("after", .int cursor),
    ("limit", .int limit)]⟩
  read := page r

/-- The candles of a request. -/
def fetch (r : FetchRequest) : Dialogue (List Candle) := (pager r).backward r.start r.stop

end Candlestick.Okx
