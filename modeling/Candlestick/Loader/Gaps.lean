import Candlestick.Failure
import Candlestick.Loader.Cache

set_option autoImplicit false

/-! # Gaps of the cache

The buckets of a window are walked through in order. Buckets that a look-up finds give the cached
candles; each unbroken run of the others is one gap. -/

namespace Candlestick.Gaps

/-- How many steps a walk from `start` takes until it reaches `stop`. -/
def stepCount (start stop step : Int) : Nat :=
  if 0 < step then ((stop - start + step - 1) / step).toNat
  else ((start - stop - step - 1) / (-step)).toNat

/-- The times `start`, `start + step`, … before `stop`; after it for a negative step. -/
def grid (start stop step : Int) : List Int :=
  (List.range (stepCount start stop step)).map fun i : Nat => start + (i : Int) * step

/-- What has been seen of a window. -/
structure Scan where
  /-- The cached candles, the last one first. -/
  cached : List Candle := []
  /-- The gaps that have ended, the last one first. -/
  gaps : List Gap := []
  /-- Where the gap began that has not ended. -/
  opened : Option Int := none

/-- Look at one more bucket. A candle that covers several buckets in a row counts once. -/
def Scan.step (look : Int → Option Candle) (asset : String) (scan : Scan) (t : Int) : Scan :=
  match (look t).filter (·.asset = asset) with
  | some c =>
    { cached := if scan.cached.head? = some c then scan.cached else c :: scan.cached
      gaps := match scan.opened with
        | some first => Gap.mk first t :: scan.gaps
        | none => scan.gaps
      opened := none }
  | none => { scan with opened := some (scan.opened.getD t) }

/-- The cached candles and the gaps of a window that ends at `stop`. -/
def Scan.finish (scan : Scan) (stop : Int) : List Candle × List Gap :=
  let gaps := match scan.opened with
    | some first => Gap.mk first stop :: scan.gaps
    | none => scan.gaps
  (scan.cached.reverse, gaps.reverse)

/-- The candle whose time holds a moment, of candles with the latest start first: the first that
    starts by then, unless it has ended. -/
def covering (latestFirst : List Candle) (t : Int) : Option Candle :=
  (latestFirst.find? (·.start ≤ t)).filter (t < ·.stop)

/-- How a bucket is looked up: under its own start, or by the asset's candle that holds its start. -/
def lookUp (m : CandleMap) (asset : String) (exact : Bool) : Int → Option Candle :=
  if exact then m.get? else covering (m.sorted asset).reverse

/-- The cached candles and the gaps of a window. -/
def collect (m : CandleMap) (asset : String) (start stop bucket : Int) (exact : Bool) :
    List Candle × List Gap :=
  let look := lookUp m asset exact
  ((grid start stop bucket).foldl (Scan.step look asset) {}).finish stop

/-- As `collect`, for any bucket: a walk with steps of length zero is refused. -/
def collect? (m : CandleMap) (asset : String) (start stop bucket : Int) (exact : Bool) :
    Except Failure (List Candle × List Gap) :=
  if bucket = 0 then .error .zeroStep else .ok (collect m asset start stop bucket exact)

end Candlestick.Gaps
