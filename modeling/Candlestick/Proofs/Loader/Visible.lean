import Candlestick.Proofs.Loader.Fill
import Candlestick.Proofs.Loader.Window
import Candlestick.Proofs.Market.Interval
import Candlestick.Proofs.Series.RollUp

set_option autoImplicit false

/-! # The visible range in the window of a load

A visible range after 1970 that ends by the present is padded on both sides, so that the window holds
all of it, as long as the padding before it begins after the first moment of 1970. Padding that reaches
back to that moment is cut off there, and a range that has been cut off there counts as none: the window
is then that of the last days before the present, and it holds the range only if that is recent. -/

namespace Candlestick

namespace Window

variable {settings : LoaderSettings} {now start stop bucket first last : Int}

/-- Padding that begins after the first moment of 1970 stays as it is in front; behind, it ends at the
    present. -/
theorem expand_of_padded (hset : settings.Accepted) (hbucket : 0 < bucket) (hlt : start < stop)
    (hstop : stop ≤ now) (hpadded : settings.prefetchBuckets * bucket < start) :
    expand settings now start stop bucket =
      (start - settings.prefetchBuckets * bucket,
        min now (stop + settings.prefetchBuckets * bucket)) := by
  have hbuffer := Int.mul_nonneg hset.prefetch (Int.le_of_lt hbucket)
  unfold expand
  generalize settings.prefetchBuckets * bucket = buffer at *
  have hfirst : max 0 (start - buffer) = start - buffer := by omega
  simp only [hfirst]
  exact if_neg (by omega)

/-- Padding that reaches back to the first moment of 1970 leaves the last days. -/
theorem expand_of_reaching (hreaching : start ≤ settings.prefetchBuckets * bucket) :
    expand settings now start stop bucket = (now - settings.windowDays * dayMs, now) := by
  unfold expand
  generalize settings.prefetchBuckets * bucket = buffer at *
  exact if_pos (Or.inl (by omega))

/-- A window begins with the bucket in which its range begins. -/
theorem start_of_align (h : align first last bucket = .ok (start, stop)) :
    start = Series.bucketStart bucket (max 0 first) := by
  have hsplit := Int.mul_fdiv_add_fmod (max 0 first) bucket
  unfold align at h
  split at h
  · exact absurd h (by simp)
  · obtain ⟨buckets, -, h⟩ := exists_of_bind_eq_ok h
    obtain ⟨rfl, -⟩ := Prod.mk.inj (Except.ok.inj h)
    rw [Series.bucketStart, Int.mul_comm]
    omega

/-- The window of a visible range ends no earlier than the range. It begins no later if the padding
    begins after the first moment of 1970, and else with the bucket in which the last days begin. -/
theorem exists_align_expand (hset : settings.Accepted) (hbucket : 0 < bucket) (hbucket' : bucket ≤ 2 ^ 53)
    (hnow : now ≤ 2 ^ 53) (hstart : 0 < start) (hlt : start < stop) (hstop : stop ≤ now) :
    ∃ first last, align (expand settings now start stop bucket).1
        (expand settings now start stop bucket).2 bucket = .ok (first, last) ∧
      stop ≤ last ∧
      (settings.prefetchBuckets * bucket < start → first ≤ start) ∧
      (start ≤ settings.prefetchBuckets * bucket →
        first = Series.bucketStart bucket (max 0 (now - settings.windowDays * dayMs))) := by
  have hbuffer := Int.mul_nonneg hset.prefetch (Int.le_of_lt hbucket)
  obtain ⟨hless, hpos, hle⟩ := expand_bounds hset (by omega : 1 ≤ now) start stop bucket
  obtain ⟨first, last, halign, -, hsnug⟩ := align_sound hless hpos hle hnow hbucket hbucket'
  have hfirst := hsnug.start_le
  have hlast := hsnug.le_stop
  refine ⟨first, last, halign, ?_, fun hpadded => ?_, fun hreaching => ?_⟩
  · rcases Int.lt_or_le (settings.prefetchBuckets * bucket) start with hpadded | hreaching
    · rw [expand_of_padded hset hbucket hlt hstop hpadded] at hlast
      omega
    · rw [expand_of_reaching hreaching] at hlast
      omega
  · rw [expand_of_padded hset hbucket hlt hstop hpadded] at hfirst
    omega
  · rw [expand_of_reaching hreaching] at halign
    exact start_of_align halign

end Window

namespace LoadRequest

/-- A load of a range after 1970 that ends by the present has a window, and the window holds the end of
    the range. It holds the beginning if the padding in front of the range begins after the first moment
    of 1970; where it does not, the window begins with the bucket in which the last days begin. -/
theorem window_covers {settings : LoaderSettings} (hset : settings.Accepted) {now : Int}
    (hnow : now ≤ 2 ^ 53) {r : LoadRequest} (hstart : 0 < r.start) (hlt : r.start < r.stop)
    (hstop : r.stop ≤ now) {registry : Registry} {plan : IntervalPlan}
    (hplan : registry.plan r.source r.timeFrame = .ok plan) (asset : String) :
    ∃ job, r.job registry settings now asset = .ok job ∧ r.stop ≤ job.stop ∧
      (settings.prefetchBuckets * r.timeFrame.ms < r.start → job.start ≤ r.start) ∧
      (r.start ≤ settings.prefetchBuckets * r.timeFrame.ms →
        job.start = Series.bucketStart r.timeFrame.ms (max 0 (now - settings.windowDays * dayMs))) := by
  have hms : r.timeFrame.ms ≤ 2 ^ 53 := Int.le_trans r.timeFrame.ms_le (by decide)
  obtain ⟨first, last, halign, hend, hpadded, hreaching⟩ :=
    Window.exists_align_expand hset r.timeFrame.ms_pos hms hnow hstart hlt hstop
  obtain ⟨job, hjob, rfl, rfl⟩ := exists_job hplan halign asset
  exact ⟨job, hjob, hend, hpadded, hreaching⟩

/-- Six years of monthly candles, from 2015 to 2020. -/
def sixYears : LoadRequest :=
  ⟨⟨.binance, .spot⟩, .month, 1420070400000, 1609459200000, "BTC", none⟩

theorem plan_sixYears :
    Registry.standard.plan sixYears.source sixYears.timeFrame = .ok ⟨"1M", .month, 1⟩ :=
  eq_ok_of_toOption (by decide)

/-- At the end of 2023, with a hundred months of padding, the window holds the six years. -/
theorem window_covers_sixYears :
    let settings : LoaderSettings := { prefetchBuckets := 100 }
    settings.Accepted ∧ (1704067200000 : Int) ≤ 2 ^ 53 ∧ 0 < sixYears.start ∧
      sixYears.start < sixYears.stop ∧ sixYears.stop ≤ 1704067200000 ∧
      Registry.standard.plan sixYears.source sixYears.timeFrame = .ok ⟨"1M", .month, 1⟩ ∧
      ∃ job, sixYears.job Registry.standard settings 1704067200000 "BTC" = .ok job ∧
        sixYears.stop ≤ job.stop ∧ job.start ≤ sixYears.start := by
  intro settings
  have hset : settings.Accepted := ⟨by decide, by decide⟩
  have hnow : (1704067200000 : Int) ≤ 2 ^ 53 := by decide
  have hstop : sixYears.stop ≤ 1704067200000 := by decide
  obtain ⟨job, hjob, hend, hpadded, -⟩ :=
    window_covers hset hnow (by decide) (by decide) hstop plan_sixYears "BTC"
  exact ⟨hset, by decide, by decide, by decide, by decide, plan_sixYears, job, hjob, hend,
    hpadded (by decide)⟩

/-- A thousand months of padding reach back before 1970: the window is the month before the present,
    and it holds nothing of the six years. -/
theorem window_misses_sixYears :
    let settings : LoaderSettings := { prefetchBuckets := 1000 }
    settings.Accepted ∧ (1704067200000 : Int) ≤ 2 ^ 53 ∧ 0 < sixYears.start ∧
      sixYears.start < sixYears.stop ∧ sixYears.stop ≤ 1704067200000 ∧
      ∃ job, sixYears.job Registry.standard settings 1704067200000 "BTC" = .ok job ∧
        sixYears.stop < job.start := by
  intro settings
  have hset : settings.Accepted := ⟨by decide, by decide⟩
  have hnow : (1704067200000 : Int) ≤ 2 ^ 53 := by decide
  have hlt : sixYears.start < sixYears.stop := by decide
  obtain ⟨first, last, halign, -, -, hreaching⟩ :=
    Window.exists_align_expand hset sixYears.timeFrame.ms_pos (by decide) hnow (by decide) hlt (by decide)
  obtain ⟨job, hjob, rfl, rfl⟩ := exists_job plan_sixYears halign "BTC"
  refine ⟨hset, by decide, by decide, by decide, by decide, job, hjob, ?_⟩
  rw [hreaching (by decide)]
  decide

end LoadRequest

end Candlestick
