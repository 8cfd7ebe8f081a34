import Candlestick.Market.Symbol
import Candlestick.Network.Paging
import Candlestick.Provider.Request

set_option autoImplicit false

/-! # Endpoints of the klines kind

Binance and MEXC spot page forward through rows of open time, prices, volume and close time, in
milliseconds. The close time is the last millisecond of the candle. -/

namespace Candlestick.Klines

/-- An endpoint of this kind. -/
structure Endpoint where
  provider : String
  url : String
  /-- The most rows of a page. -/
  limit : Nat

/-- Whether the code of an object answer tells of success. -/
def isSuccess (code : Json) : Bool :=
  match code with
  | .null => true
  | .str s => s = "0"
  | code => code.equalsInt 0 || code.equalsInt 200

/-- The candle of a row, unless its open time is unusable. -/
def row (r : FetchRequest) (row : Json) : Except Failure (Option Candle) := do
  match ← Reading.time (Reading.item row 0) with
  | none => return none
  | some start =>
    let closeTime ← Reading.time (Reading.item row 6)
    let item := Reading.item row
    some <$> r.candle start (item 1) (item 2) (item 3) (item 4) (item 5) (item 8)
      ((closeTime.filter (· ≠ 0)).map (· + 1))

/-- The page of an answer. The next one starts right after the last row, if this one is full. -/
def page (e : Endpoint) (r : FetchRequest) (cursor : Int) (answer : Json) : Except Failure Page := do
  match answer with
  | .arr [] => return .last
  | .arr rows =>
    let candles ← readRows (row r) rows
    let last ← Reading.time (Reading.item answer (rows.length - 1) |> (Reading.item · 0))
    -- A page that is not full is the last one; one that does not move the cursor would repeat itself.
    let next := match last with
      | some last => if last ≤ cursor ∨ rows.length < e.limit then none else some (last + 1)
      | none => none
    return { candles, next }
  | .obj _ =>
    if isSuccess (answer.member "code") then return .last
    else .error (.provider e.provider (answer.member "code") (answer.member "msg"))
  | _ => return .last

/-- The endpoint's pages for a request. -/
def pager (e : Endpoint) (symbol : String) (r : FetchRequest) : Pager where
  call cursor := ⟨e.provider, e.url, [
    ("symbol", .str symbol), ("interval", .str r.interval), ("startTime", .int cursor),
    ("endTime", .int r.stop), ("limit", .int e.limit)]⟩
  read := page e r

/-- All pages of a request. -/
def fetch (e : Endpoint) (symbol : String) (r : FetchRequest) : Dialogue (List Candle) :=
  (pager e symbol r).forward r.stop r.start

end Candlestick.Klines
