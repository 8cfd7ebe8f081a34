import Candlestick.Market.Symbol
import Candlestick.Network.Dialogue
import Candlestick.Provider.Request

set_option autoImplicit false

/-! # Bitget

One answer for the whole range, as bare rows or inside an envelope. -/

namespace Candlestick.Bitget

def name : String := "Bitget"

def spotUrl : String := "https://api.bitget.com/api/spot/v1/market/candles"

def futuresUrl : String := "https://api.bitget.com/api/mix/v1/market/candles"

/-- Whether a code tells of success: it is absent, or its text is the code of success. -/
def isSuccess (code : Json) : Bool := !code.isPresent || code.display = "00000"

/-- The candle of a row of either form, unless its time is unusable. -/
def row (r : FetchRequest) (row : Json) : Except Failure (Option Candle) :=
  if row.isObject then r.memberCandle 1 "ts" "open" "high" "low" "close" "baseVol" row
  else r.rowCandle 1 1 2 3 4 5 row

/-- The candles of an answer. -/
def read (r : FetchRequest) (answer : Json) : Except Failure (List Candle) :=
  match answer with
  | .arr rows => readRows (row r) rows
  | .obj _ =>
    if isSuccess (answer.member "code") then
      match answer.member "data" with
      | .arr rows => readRows (row r) rows
      | _ => .ok []
    else .error (.provider name (answer.member "code") (answer.member "msg"))
  | _ => .ok []

/-- The question of a request. -/
def call (r : FetchRequest) : Call :=
  let symbol : Json := .str (Symbol.join r.asset r.quote "")
  if r.isSpot then
    ⟨name, spotUrl, [
      ("symbol", symbol), ("period", .str r.interval), ("startTime", .int r.start),
      ("endTime", .int r.stop)]⟩
  else
    ⟨name, futuresUrl, [
      ("symbol", symbol), ("granularity", .str r.interval), ("startTime", .int r.start),
      ("endTime", .int r.stop), ("productType", .str "umcbl")]⟩

/-- The candles of a request. -/
def fetch (r : FetchRequest) : Dialogue (List Candle) := .request (call r) (read r)

end Candlestick.Bitget
