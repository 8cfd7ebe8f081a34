import Candlestick.Loader.Fetch
import Candlestick.Proofs.Provider.Ownership
import Candlestick.Proofs.Series.RollUp

set_option autoImplicit false

/-! # What is fetched carries the asset and the timeframe's label

Relabelled candles keep the asset that the provider's candles have, which is the request's; rolled up
ones are given the asset and the label. Either way nothing else comes out of a fetch. -/

namespace Candlestick

theorem IntervalPlan.tags_of_mem_build {plan : IntervalPlan} {asset : String} {t : TimeFrame}
    {start stop : Int} {raw : List Candle} (hraw : ∀ c ∈ raw, c.asset = Symbol.leg asset) {c : Candle}
    (hc : c ∈ plan.build asset t start stop raw) :
    c.asset = Symbol.leg asset ∧ c.label = t.label := by
  unfold IntervalPlan.build at hc
  split at hc
  · obtain ⟨d, hd, rfl⟩ := List.mem_map.1 hc
    exact ⟨hraw d (Series.mem_of_mem_normalize hd).1, rfl⟩
  · exact Series.tags_of_bucketCandle ((Series.mem_rollUp t.ms_pos).1 hc)

/-- Whatever is answered, every candle fetched for an asset and a timeframe says so. -/
theorem Registry.yields_candles (registry : Registry) (source : Source) (asset quote : String)
    (start stop : Int) (t : TimeFrame) :
    (registry.candles source asset quote start stop t).Yields fun cs =>
      ∀ c ∈ cs, c.asset = Symbol.leg asset ∧ c.label = t.label := by
  unfold Registry.candles
  split
  · trivial
  · rename_i plan _
    rw [Dialogue.yields_map]
    refine (registry.yields_fetch _).mono fun raw hraw c hc => ?_
    exact plan.tags_of_mem_build (fun d hd => (hraw d hd).1) hc

end Candlestick
