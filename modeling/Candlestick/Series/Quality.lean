import Candlestick.Series.Frame
import Std.Data.TreeSet

set_option autoImplicit false

/-! # The quality of candles

The faults that a list of candles may have. Missing prices are a fault of their own and pass the
comparisons, where the cap of high and low is taken over the prices that are there. -/

namespace Candlestick.Series

/-- Whether a candle lacks one of its prices. -/
def lacksPrice (c : Candle) : Bool :=
  c.opening.isNaN || c.highest.isNaN || c.lowest.isNaN || c.closing.isNaN

/-- The greater of two prices, or the one that is there. -/
def greater (x y : Double) : Double := if x.isNaN then y else if y.isNaN then x else x.max y

/-- The less of two prices, or the one that is there. -/
def less (x y : Double) : Double := if x.isNaN then y else if y.isNaN then x else x.min y

/-- Whether a candle's high is below its opening or closing price. -/
def isHighTooLow (c : Candle) : Bool := c.highest.lt (greater c.opening c.closing)

/-- Whether a candle's low is above its opening or closing price. -/
def isLowTooHigh (c : Candle) : Bool := (less c.opening c.closing).lt c.lowest

/-- Whether a number occurs twice in a list. -/
def hasRepeats (seen : Std.TreeSet Int) : List Int → Bool
  | [] => false
  | n :: rest => seen.contains n || hasRepeats (seen.insert n) rest

/-- The faults of candles whose starts fit a table. -/
def faults (cs : List Candle) : List Issue :=
  let missing := cs.countP lacksPrice
  (if missing = 0 then [] else [Issue.missingPrices missing]) ++
  (if cs.any isHighTooLow then [.highTooLow] else []) ++
  (if cs.any isLowTooHigh then [.lowTooHigh] else []) ++
  (if cs.any (·.volume.lt .zero) then [.negativeVolume] else []) ++
  (if hasRepeats ∅ (cs.map (·.start)) then [.repeatedStart] else []) ++
  (if cs.any fun c => c.stop ≤ c.start then [.stopNotAfterStart] else [])

/-- The faults of candles. -/
def issues (cs : List Candle) : Except Failure (List Issue) := (Frame.ofCandles cs).map fun _ => faults cs

/-- The candles themselves if they are faultless. -/
def validate (cs : List Candle) : Except Failure (List Candle) := do
  let found ← issues cs
  if found.isEmpty then return cs else .error (.poorQuality found)

end Candlestick.Series
