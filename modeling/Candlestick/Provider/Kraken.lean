import Candlestick.Market.Symbol
import Candlestick.Network.Paging
import Candlestick.Provider.Request

set_option autoImplicit false

/-! # Kraken

Spot answers with the rows since a second and with the second to go on from; its result holds the
rows under a pair name of Kraken's own. Futures answer once. -/

namespace Candlestick.Kraken

def name : String := "Kraken"

def futuresName : String := "Kraken futures"

def spotUrl : String := "https://api.kraken.com/0/public/OHLC"

def futuresUrl : String := "https://futures.kraken.com/derivatives/api/v3/charts/v1/candles"

/-- An asset under Kraken's name: bitcoin is `XBT`. -/
def asset (text : String) : String :=
  let leg := Symbol.leg text
  if leg = "BTC" then "XBT" else leg

/-- The pair of a request. -/
def symbol (r : FetchRequest) : String := Symbol.join (asset r.asset) r.quote ""

/-! ## Spot -/

/-- The errors of an answer, joined. -/
def errors (answer : Json) : Except Failure (Option String) := do
  let errors := answer.member "error"
  if errors.isPresent then
    let items ← Reading.items errors
    return some (", ".intercalate (items.map Json.display))
  else return none

/-- Whether a key of a result is the cursor's. -/
def isCursorKey : Json → Bool
  | .str key => key = "last"
  | _ => false

/-- The rows of a result: what stands under its first key that is not the cursor's. -/
def rows (result : Json) : Except Failure Json := do
  if !result.isPresent then return .null
  else
    let keys ← Reading.items result
    match keys.find? (!isCursorKey ·) with
    | none => return .null
    | some key =>
      -- An empty key counts as no key at all.
      if !key.isPresent then return .null
      else match key, result with
        | .str key, .obj _ => return result.member key
        | _, _ => .error .notObject

/-- The candle of a row, unless its time is unusable. -/
def row (r : FetchRequest) (row : Json) : Except Failure (Option Candle) := do
  match ← Reading.time (Reading.item row 0) 1000 with
  | none => return none
  | some start =>
    let item := Reading.item row
    some <$> r.candle start (item 1) (item 2) (item 3) (item 4) (item 6) (item 7)

/-- The page of an answer. The next one starts where the answer says, if that is after the cursor. -/
def page (r : FetchRequest) (cursor : Int) (answer : Json) : Except Failure Page := do
  if !answer.isObject then return .last
  else match ← errors answer with
    | some text => .error (.provider name .null (.str text))
    | none =>
      let result := answer.member "result"
      match ← rows result with
      | .arr (first :: others) =>
        let candles ← readRows (row r) (first :: others)
        let last ← Reading.time (result.member "last")
        return { candles, next := last.filter (cursor < ·) }
      | _ => return .last

/-- The pages of a spot request. -/
def pager (r : FetchRequest) : Pager where
  call cursor := ⟨name, spotUrl, [
    ("pair", .str (symbol r)), ("interval", .str r.interval), ("since", .int cursor)]⟩
  read := page r

/-! ## Futures -/

/-- The candles of a futures answer, whose rows may stand inside a result. -/
def readFutures (r : FetchRequest) (answer : Json) : Except Failure (List Candle) := do
  if !answer.isObject then return []
  else
    let result := answer.member "result"
    let rows := if result.isObject then result.member "candles" else answer.member "candles"
    let rows ← Reading.itemsIfPresent rows
    readRows (r.memberCandle 1000 "time" "open" "high" "low" "close" "volume") (rows.filter Json.isObject)

/-- The candles of a futures request. -/
def fetchFutures (r : FetchRequest) : Dialogue (List Candle) :=
  .request
    ⟨futuresName, futuresUrl, [
      ("symbol", .str ("PI_" ++ symbol r)), ("resolution", .str r.interval),
      ("from", .int r.startSecond), ("to", .int r.stopSecond)]⟩
    (readFutures r)

/-- The candles of a request. -/
def fetch (r : FetchRequest) : Dialogue (List Candle) :=
  if r.isSpot then (pager r).forward r.stopSecond r.startSecond else fetchFutures r

end Candlestick.Kraken
