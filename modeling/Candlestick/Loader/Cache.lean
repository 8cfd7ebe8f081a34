import Candlestick.Market.TimeFrame
import Candlestick.Series.Order

set_option autoImplicit false

/-! # The cache

For each timeframe the cache holds candles of one asset, the owner. Another asset that claims the
timeframe finds it empty. -/

namespace Candlestick

/-- The candles of a timeframe and the asset that they belong to. -/
structure Shelf where
  owner : String
  candles : CandleMap

/-- The shelves of the timeframes that have been claimed. -/
structure Cache where
  shelf : TimeFrame → Option Shelf

namespace Cache

/-- A cache that nothing has been claimed of. -/
def empty : Cache := ⟨fun _ => none⟩

instance : Inhabited Cache := ⟨empty⟩

/-- Put a shelf in a timeframe's place. -/
def setShelf (cache : Cache) (t : TimeFrame) (shelf : Shelf) : Cache :=
  ⟨fun t' => if t' = t then some shelf else cache.shelf t'⟩

/-- The owner of a timeframe. -/
def owner (cache : Cache) (t : TimeFrame) : Option String := (cache.shelf t).map (·.owner)

/-- The candles of a timeframe. -/
def candles (cache : Cache) (t : TimeFrame) : CandleMap := ((cache.shelf t).map (·.candles)).getD {}

/-- Make an asset the owner of a timeframe; the candles of another owner are dropped. -/
def claim (cache : Cache) (t : TimeFrame) (asset : String) : Cache :=
  if cache.owner t = some asset then cache else cache.setShelf t ⟨asset, {}⟩

/-- Store candles under a timeframe, each under its start. -/
def store (cache : Cache) (t : TimeFrame) (cs : List Candle) : Cache :=
  match cache.shelf t with
  | some shelf => cache.setShelf t { shelf with candles := shelf.candles.storeAll cs }
  | none => cache

/-- How many candles there are under all timeframes. -/
def size (cache : Cache) : Nat := TimeFrame.all.foldl (fun size t => size + (cache.candles t).size) 0

end Cache

/-- The candles of an asset in a map, in order of start. -/
def CandleMap.sorted (m : CandleMap) (asset : String) : List Candle :=
  Series.sort (m.values.filter (·.asset = asset))

/-- The candles of an asset under a timeframe, in order of start. -/
def Cache.snapshot (cache : Cache) (t : TimeFrame) (asset : String) : List Candle :=
  (cache.candles t).sorted asset

namespace Cache

@[simp] theorem shelf_setShelf (cache : Cache) (t t' : TimeFrame) (s : Shelf) :
    (cache.setShelf t s).shelf t' = if t' = t then some s else cache.shelf t' := rfl

theorem owner_claim (cache : Cache) (t : TimeFrame) (asset : String) :
    (cache.claim t asset).owner t = some asset := by
  unfold claim
  split
  · assumption
  · simp [owner]

theorem shelf_claim_of_ne (cache : Cache) {t t' : TimeFrame} (asset : String) (h : t' ≠ t) :
    (cache.claim t asset).shelf t' = cache.shelf t' := by
  unfold claim
  split
  · rfl
  · simp [h]

end Cache

end Candlestick
