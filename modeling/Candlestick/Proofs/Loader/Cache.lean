import Candlestick.Loader.Cache
import Candlestick.Proofs.Series.Keyed
import Candlestick.Proofs.Series.Order

set_option autoImplicit false

/-! # What claiming and storing do to the shelves

Claiming a timeframe leaves its map as it is for the owner and empty for everyone else; storing
overlays the map; and neither touches the shelf of another timeframe. -/

namespace Candlestick.Cache

variable (cache : Cache) (t : TimeFrame)

theorem shelf_store (cs : List Candle) :
    (cache.store t cs).shelf t =
      (cache.shelf t).map fun shelf => { shelf with candles := shelf.candles.storeAll cs } := by
  unfold store
  split <;> simp [*]

theorem shelf_store_of_ne (cs : List Candle) {t' : TimeFrame} (h : t' ≠ t) :
    (cache.store t cs).shelf t' = cache.shelf t' := by
  unfold store
  split
  · rw [shelf_setShelf, if_neg h]
  · rfl

theorem candles_eq {shelf : Shelf} (h : cache.shelf t = some shelf) :
    cache.candles t = shelf.candles := by
  rw [candles, h, Option.map_some, Option.getD_some]

/-- A claim of the owner's is no change. -/
theorem claim_of_owner {asset : String} (h : cache.owner t = some asset) : cache.claim t asset = cache :=
  if_pos h

theorem candles_claim_of_owner {asset : String} (h : cache.owner t = some asset) :
    (cache.claim t asset).candles t = cache.candles t := by
  rw [claim_of_owner cache t h]

theorem candles_claim_of_ne {asset : String} (h : cache.owner t ≠ some asset) :
    (cache.claim t asset).candles t = {} := by
  rw [claim, if_neg h]
  exact candles_eq (cache.setShelf t ⟨asset, {}⟩) t (by rw [shelf_setShelf, if_pos rfl])

/-- A timeframe that has been claimed has a shelf. -/
theorem shelf_claim (asset : String) :
    (cache.claim t asset).shelf t = some ⟨asset, (cache.claim t asset).candles t⟩ := by
  obtain ⟨shelf, hshelf, howner⟩ := Option.map_eq_some_iff.1 (owner_claim cache t asset)
  rw [candles_eq _ t hshelf, hshelf, ← howner]

theorem ext {cache cache' : Cache} (h : ∀ t, cache.shelf t = cache'.shelf t) : cache = cache' := by
  cases cache
  cases cache'
  exact congrArg Cache.mk (funext h)

theorem mem_claim_of_mem {asset : String} {k : Int} {c : Candle}
    (h : ((cache.claim t asset).candles t).get? k = some c) :
    cache.owner t = some asset ∧ (cache.candles t).get? k = some c := by
  by_cases howner : cache.owner t = some asset
  · rw [candles_claim_of_owner cache t howner] at h
    exact ⟨howner, h⟩
  · rw [candles_claim_of_ne cache t howner] at h
    exact absurd h (by simp)

end Candlestick.Cache
