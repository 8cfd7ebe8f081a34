import Candlestick.Provider.Klines

set_option autoImplicit false

/-! # MEXC

Spot is of the klines kind. The contract endpoint answers once, in columns: a list of times and a
list for each of the other values. -/

namespace Candlestick.Mexc

def spot : Klines.Endpoint := ⟨"MEXC spot", "https://api.mexc.com/api/v3/klines", 1000⟩

def contractName : String := "MEXC futures"

def contractUrl : String := "https://contract.mexc.com/api/v1/contract/kline"

/-- The candles of the columns, from the given place of the list of times on. -/
def readColumns (r : FetchRequest) (data : Json) (place : Nat) : List Json → Except Failure (List Candle)
  | [] => .ok []
  | time :: rest => do
    let cell (name : String) : Json := Reading.item (data.member name) place
    let candle ← match ← Reading.time time 1000 with
      | none => pure none
      | some start =>
        some <$> r.candle start (cell "open") (cell "high") (cell "low") (cell "close") (cell "vol")
    let others ← readColumns r data (place + 1) rest
    return candle.toList ++ others

/-- The candles of a contract answer. -/
def readContract (r : FetchRequest) (answer : Json) : Except Failure (List Candle) :=
  match answer.member "success" with
  | .bool false =>
    .error (.provider contractName (answer.member "code") (answer.member "message"))
  | _ =>
    let data := answer.member "data"
    match data.member "time" with
    | .arr times => readColumns r data 0 times
    | _ => .ok []

/-- The candles of a futures request. -/
def fetchContract (r : FetchRequest) : Dialogue (List Candle) :=
  let symbol := Symbol.join r.asset r.quote "_"
  .request
    ⟨contractName, contractUrl ++ "/" ++ symbol, [
      ("interval", .str r.interval), ("start", .int r.startSecond), ("end", .int r.stopSecond)]⟩
    (readContract r)

/-- The candles of a request. -/
def fetch (r : FetchRequest) : Dialogue (List Candle) :=
  if r.isSpot then Klines.fetch spot (Symbol.join r.asset r.quote "") r else fetchContract r

end Candlestick.Mexc
