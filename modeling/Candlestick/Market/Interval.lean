import Candlestick.Failure
import Candlestick.Market.Source
import Candlestick.Market.TimeFrame

set_option autoImplicit false

/-! # Intervals of the providers

Each market of an exchange has a table of the timeframes it serves and its own names for them. A
timeframe that is not in the table is built from the longest served one whose length divides its
length, so that every bucket consists of whole candles. -/

namespace Candlestick

/-- A market's timeframes with the provider's names for them, in order; an empty name is no name. -/
abbrev IntervalTable := List (TimeFrame × String)

/-- Which interval to ask for, and how many of its candles make one candle of the timeframe. -/
structure IntervalPlan where
  interval : String
  base : TimeFrame
  group : Int
  deriving DecidableEq

/-- A plan that asks for the timeframe itself. -/
def IntervalPlan.isDirect (plan : IntervalPlan) : Bool := plan.group = 1

namespace IntervalTable

/-- The provider's name of a timeframe that it serves. -/
def name? (table : IntervalTable) (t : TimeFrame) : Option String :=
  (table.lookup t).filter (· ≠ "")

/-- Of two candidates for the base the longer one; the earlier one stays if they are equally long. -/
def longer (best : Option (TimeFrame × String)) (candidate : TimeFrame × String) :
    Option (TimeFrame × String) :=
  match best with
  | none => some candidate
  | some (t, name) => if t.ms < candidate.1.ms then some candidate else some (t, name)

/-- The longest served timeframe whose length divides that of `target`, and its name. -/
def base? (table : IntervalTable) (target : TimeFrame) : Option (TimeFrame × String) :=
  (table.filter fun (t, name) => name ≠ "" && t.ms ≤ target.ms && target.ms % t.ms = 0).foldl longer none

/-- How a market serves a timeframe. -/
def resolve (table : IntervalTable) (target : TimeFrame) : Option IntervalPlan :=
  match table.name? target with
  | some interval => some ⟨interval, target, 1⟩
  | none => (table.base? target).map fun (base, interval) => ⟨interval, base, target.ms / base.ms⟩

/-- Put a name into a table: in place where the timeframe is listed, else at the end. -/
def put (t : TimeFrame) (name : String) : IntervalTable → IntervalTable
  | [] => [(t, name)]
  | (t', name') :: rest => if t' = t then (t, name) :: rest else (t', name') :: put t name rest

end IntervalTable

/-- What is known of the exchanges: the interval tables of those listed, and which of them have a
    provider to fetch from. -/
structure Registry where
  tables : Exchange → Option (Market → Option IntervalTable)
  fetched : Exchange → Bool

namespace Registry

/-- The interval table of a source. -/
def table? (r : Registry) (s : Source) : Option IntervalTable :=
  (r.tables s.exchange).bind (· s.market)

/-- How a source serves a timeframe, directly or from shorter candles. -/
def resolve (r : Registry) (s : Source) (t : TimeFrame) : Option IntervalPlan :=
  (r.table? s).bind (·.resolve t)

/-- As `resolve`, with the cause where there is no plan. -/
def plan (r : Registry) (s : Source) (t : TimeFrame) : Except Failure IntervalPlan :=
  match r.resolve s t with
  | some plan => .ok plan
  | none =>
    if (r.tables s.exchange).isSome then
      .error (.unsupportedTimeFrame s.exchange.name s.market.name t.name)
    else .error (.unsupportedSource s.exchange.name none)

/-- The markets of an exchange whose tables list anything. -/
def markets (r : Registry) (e : Exchange) : List Market :=
  Market.all.filter fun market => (r.table? ⟨e, market⟩).any fun table => !table.isEmpty

/-- The timeframes that a source serves itself. -/
def native (r : Registry) (s : Source) : List TimeFrame :=
  TimeFrame.all.filter fun t => (r.table? s).any fun table => (table.name? t).isSome

/-- The timeframes that a source serves itself or from shorter candles. -/
def supported (r : Registry) (s : Source) : List TimeFrame :=
  TimeFrame.all.filter fun t => (r.resolve s t).isSome

/-- Replace the table of one source. -/
def setTable (r : Registry) (s : Source) (table : IntervalTable) : Registry :=
  { r with
    tables := fun e =>
      if e = s.exchange then
        some fun market => if market = s.market then some table else (r.tables e).bind (· market)
      else r.tables e }

/-- Strike an exchange off the interval tables. -/
def unlist (r : Registry) (exchange : Exchange) : Registry :=
  { r with tables := fun e => if e = exchange then none else r.tables e }

/-- Take away the provider of an exchange. -/
def unregister (r : Registry) (exchange : Exchange) : Registry :=
  { r with fetched := fun e => e ≠ exchange && r.fetched e }

end Registry

/-! ## The tables -/

namespace IntervalTable

open TimeFrame

/-- The chart labels themselves. -/
def byLabel : IntervalTable := TimeFrame.all.map fun t => (t, t.label)

/-- Lengths in seconds. -/
def bySeconds : IntervalTable := TimeFrame.all.map fun t => (t, toString (t.ms / 1000))

def bybit : IntervalTable := [
  (min1, "1"), (min3, "3"), (min5, "5"), (min15, "15"), (min30, "30"), (hour1, "60"),
  (hour2, "120"), (hour4, "240"), (hour12, "720"), (day1, "D"), (week, "W"), (month, "M")]

def okx : IntervalTable := [
  (min1, "1m"), (min3, "3m"), (min5, "5m"), (min15, "15m"), (min30, "30m"), (hour1, "1H"),
  (hour2, "2H"), (hour4, "4H"), (hour12, "12H"), (day1, "1D"), (day3, "3D"), (week, "1W"),
  (month, "1M")]

def kucoinSpot : IntervalTable := [
  (min1, "1min"), (min3, "3min"), (min5, "5min"), (min15, "15min"), (min30, "30min"),
  (hour1, "1hour"), (hour2, "2hour"), (hour4, "4hour"), (hour12, "12hour"), (day1, "1day"),
  (week, "1week"), (month, "1month")]

def coinbaseSpot : IntervalTable := [
  (min1, "60"), (min5, "300"), (min15, "900"), (hour1, "3600"), (day1, "86400")]

def kraken : IntervalTable := [
  (min1, "1"), (min5, "5"), (min15, "15"), (min30, "30"), (hour1, "60"), (hour4, "240"),
  (day1, "1440"), (week, "10080")]

def bitgetSpot : IntervalTable := [
  (min1, "1min"), (min5, "5min"), (min15, "15min"), (min30, "30min"), (hour1, "1h"),
  (hour4, "4h"), (day1, "1day"), (week, "1week"), (month, "1month")]

def htx : IntervalTable := [
  (min1, "1min"), (min5, "5min"), (min15, "15min"), (min30, "30min"), (hour1, "60min"),
  (hour4, "4hour"), (day1, "1day"), (week, "1week"), (month, "1mon")]

def mexcSpot : IntervalTable := [
  (min1, "1m"), (min5, "5m"), (min15, "15m"), (min30, "30m"), (hour1, "60m"), (hour4, "4h"),
  (day1, "1d"), (week, "1w"), (month, "1M")]

def mexcFutures : IntervalTable := [
  (min1, "Min1"), (min5, "Min5"), (min15, "Min15"), (min30, "Min30"), (hour1, "Min60"),
  (hour4, "Hour4"), (day1, "Day1"), (week, "Week1"), (month, "Month1")]

/-- The table of every source. -/
def standard : Exchange → Market → IntervalTable
  | .binance, _ => byLabel
  | .bybit, _ => bybit
  | .okx, _ => okx
  | .coinbase, .spot => coinbaseSpot
  | .coinbase, .futures => []
  | .kraken, _ => kraken
  | .kucoin, .spot => kucoinSpot
  | .kucoin, .futures => bySeconds
  | .bitget, .spot => bitgetSpot
  | .bitget, .futures => bySeconds
  | .gateio, _ => byLabel
  | .htx, _ => htx
  | .mexc, .spot => mexcSpot
  | .mexc, .futures => mexcFutures

end IntervalTable

/-- Every exchange listed, every provider at hand. -/
def Registry.standard : Registry where
  tables e := some fun market => some (IntervalTable.standard e market)
  fetched _ := true

end Candlestick
