import Candlestick.Proofs.Loader.Fetch
import Candlestick.Proofs.Loader.Gaps
import Candlestick.Proofs.Market.Interval
import Candlestick.Proofs.Series.Clipping
import Candlestick.Series.Frame

set_option autoImplicit false

/-! # Feeds and their charts

A feed is what a source has, once and for all: for each asset and interval at most one candle for each
start. `Feed.chart` says what it amounts to in a timeframe, bucket by bucket, without any fetching.
`Feed.mem_build_of_direct` and `Feed.mem_build_of_rolled` say that a fetch gives just that, whatever the
order, duplicates and further candles of an honest answer are. -/

namespace Candlestick

/-- The candles that a source has of each asset in each interval. -/
structure Feed where
  /-- The candle of an asset in an interval with a given start. -/
  bar : String → TimeFrame → Int → Option Candle
  start_eq : ∀ asset base k c, bar asset base k = some c → c.start = k
  asset_eq : ∀ asset base k c, bar asset base k = some c → c.asset = asset
  label_eq : ∀ asset base k c, bar asset base k = some c → c.label = base.label

namespace Feed

/-- The candles of an interval stand on the grid of its buckets, and each fills its bucket. -/
def OnGrid (feed : Feed) (base : TimeFrame) : Prop :=
  ∀ asset k c, feed.bar asset base k = some c → base.ms ∣ k ∧ c.stop = k + base.ms

/-- The starts of candles that end after 1970 are dates. -/
def Dated (feed : Feed) : Prop :=
  ∀ asset base k c, feed.bar asset base k = some c → 0 < c.stop → -Frame.latestStart ≤ c.start

/-- The candles that start in a bucket, in order. -/
def members (feed : Feed) (asset : String) (base : TimeFrame) (width k : Int) : List Candle :=
  (Gaps.grid k (k + width) base.ms).filterMap (feed.bar asset base)

/-- The candle of a timeframe that a feed has under a plan: one of its own with another label, or that
    of the candles of a bucket. -/
def chart (feed : Feed) (plan : IntervalPlan) (asset : String) (t : TimeFrame) (k : Int) :
    Option Candle :=
  if plan.isDirect then (feed.bar asset plan.base k).map (Candle.relabel t.label)
  else if t.ms ∣ k then
    Series.bucketCandle t.ms k asset t.label (feed.members asset plan.base t.ms k)
  else none

/-- An honest answer for a range: it holds candles of the feed only, and all that overlap the range. -/
structure Answers (feed : Feed) (asset : String) (base : TimeFrame) (start stop : Int)
    (raw : List Candle) : Prop where
  own : ∀ c ∈ raw, feed.bar asset base c.start = some c
  all : ∀ k c, feed.bar asset base k = some c → c.overlaps start stop = true → c ∈ raw

theorem start_of_chart {feed : Feed} {plan : IntervalPlan} {asset : String} {t : TimeFrame} {k : Int}
    {c : Candle} (h : feed.chart plan asset t k = some c) : c.start = k := by
  unfold chart at h
  split at h
  · obtain ⟨d, hd, rfl⟩ := Option.map_eq_some_iff.1 h
    exact feed.start_eq _ _ _ d hd
  · split at h
    · exact Series.start_of_bucketCandle h
    · exact absurd h (by simp)

/-- On the grid, a timeframe's candles stand on the timeframe's own grid. -/
theorem dvd_of_chart {feed : Feed} {plan : IntervalPlan} {asset : String} {t : TimeFrame} {k : Int}
    {c : Candle} (hgrid : feed.OnGrid plan.base) (hbase : plan.isDirect = true ↔ plan.base = t)
    (h : feed.chart plan asset t k = some c) : t.ms ∣ k := by
  unfold chart at h
  split at h
  · rename_i hdirect
    obtain ⟨d, hd, rfl⟩ := Option.map_eq_some_iff.1 h
    have hdvd := (hgrid _ _ d hd).1
    rwa [hbase.1 hdirect] at hdvd
  · split at h
    · assumption
    · exact absurd h (by simp)

variable {feed : Feed} {asset : String} {base : TimeFrame} {start stop : Int} {raw : List Candle}

/-- Candles of one start in an honest answer are equal. -/
theorem Answers.unique (h : feed.Answers asset base start stop raw) :
    ∀ a ∈ raw, ∀ b ∈ raw, a.start = b.start → a = b := by
  intro a ha b hb heq
  have hbar := h.own a ha
  rw [heq, h.own b hb] at hbar
  exact (Option.some.inj hbar).symm

/-- What is left of an honest answer: the feed's candles that overlap the range. -/
theorem mem_normalize (hraw : feed.Answers asset base start stop raw) {c : Candle} :
    c ∈ Series.normalize start stop raw ↔
      feed.bar asset base c.start = some c ∧ c.overlaps start stop = true := by
  rw [Series.mem_normalize_of_unique hraw.unique]
  exact ⟨fun ⟨hc, hover⟩ => ⟨hraw.own c hc, hover⟩, fun ⟨hc, hover⟩ => ⟨hraw.all _ c hc hover, hover⟩⟩

/-- A candle on the grid overlaps a range of whole buckets if it starts in it. -/
theorem overlaps_iff (hgrid : feed.OnGrid base) (hstart : base.ms ∣ start) {c : Candle}
    (hc : feed.bar asset base c.start = some c) :
    c.overlaps start stop = true ↔ start ≤ c.start ∧ c.start < stop :=
  Candle.overlaps_iff base.ms_pos (hgrid _ _ c hc).1 (hgrid _ _ c hc).2 hstart

theorem mem_members (hgrid : feed.OnGrid base) {width k : Int} (hk : base.ms ∣ k) {c : Candle} :
    c ∈ feed.members asset base width k ↔
      feed.bar asset base c.start = some c ∧ k ≤ c.start ∧ c.start < k + width := by
  simp only [members, List.mem_filterMap, Gaps.mem_grid base.ms_pos]
  constructor
  · rintro ⟨s, ⟨hge, hlt, -⟩, hc⟩
    obtain rfl := feed.start_eq _ _ _ c hc
    exact ⟨hc, hge, hlt⟩
  · rintro ⟨hc, hge, hlt⟩
    exact ⟨c.start, ⟨hge, hlt, Int.dvd_sub (hgrid _ _ c hc).1 hk⟩, hc⟩

theorem ascending_members (width k : Int) :
    Series.Ascending (feed.members asset base width k) := by
  refine List.pairwise_filterMap.2 ((Gaps.pairwise_grid base.ms_pos).imp fun {s s'} hlt c hc c' hc' => ?_)
  rw [feed.start_eq _ _ _ c hc, feed.start_eq _ _ _ c' hc']
  exact hlt

section Build

variable {plan : IntervalPlan} {t : TimeFrame}

/-- On the grid, a candle of the chart fills its bucket. -/
theorem stop_of_chart (hplan : plan.base.ms ∣ t.ms ∧ (plan.isDirect = true ↔ plan.base = t))
    (hgrid : feed.OnGrid plan.base) {k : Int} {c : Candle} (hc : feed.chart plan asset t k = some c) :
    c.stop = k + t.ms := by
  have hdvd := dvd_of_chart hgrid hplan.2 hc
  rw [chart] at hc
  by_cases hdirect : plan.isDirect = true
  · rw [if_pos hdirect] at hc
    obtain ⟨d, hd, rfl⟩ := Option.map_eq_some_iff.1 hc
    have hstop := (hgrid _ _ d hd).2
    rwa [hplan.2.1 hdirect] at hstop
  · rw [if_neg hdirect, if_pos hdvd] at hc
    exact Series.stop_of_bucketCandle hc

/-- So it overlaps a range of whole buckets if it starts in it. -/
theorem overlaps_iff_of_chart (hplan : plan.base.ms ∣ t.ms ∧ (plan.isDirect = true ↔ plan.base = t))
    (hgrid : feed.OnGrid plan.base) (hstart : t.ms ∣ start) {k : Int} {c : Candle}
    (hc : feed.chart plan asset t k = some c) :
    c.overlaps start stop = true ↔ start ≤ k ∧ k < stop := by
  have hdvd := dvd_of_chart hgrid hplan.2 hc
  have hend := stop_of_chart hplan hgrid hc
  obtain rfl := start_of_chart hc
  exact Candle.overlaps_iff t.ms_pos hdvd hend hstart

/-- A direct plan builds from an honest answer the candles that overlap the range, wherever they
    stand. -/
theorem mem_build_of_direct (hdirect : plan.isDirect = true)
    (hraw : feed.Answers asset plan.base start stop raw) {d : Candle} :
    d ∈ plan.build asset t start stop raw ↔
      feed.chart plan asset t d.start = some d ∧ d.overlaps start stop = true := by
  rw [IntervalPlan.build, if_pos hdirect, chart, if_pos hdirect, List.mem_map]
  constructor
  · rintro ⟨c, hc, rfl⟩
    obtain ⟨hbar, hover⟩ := (mem_normalize hraw).1 hc
    exact ⟨Option.map_eq_some_iff.2 ⟨c, hbar, rfl⟩, hover⟩
  · rintro ⟨hchart, hover⟩
    obtain ⟨c, hbar, rfl⟩ := Option.map_eq_some_iff.1 hchart
    exact ⟨c, (mem_normalize hraw).2 ⟨hbar, hover⟩, rfl⟩

/-- What rolling up sees of a bucket inside the range: the bucket's own candles. -/
theorem inBucket_normalize (hgrid : feed.OnGrid plan.base) (hbase : plan.base.ms ∣ t.ms)
    (hstart : t.ms ∣ start) (hstop : t.ms ∣ stop)
    (hraw : feed.Answers asset plan.base start stop raw) {k : Int} (hk : t.ms ∣ k)
    (hge : start ≤ k) (hlt : k < stop) :
    Series.inBucket t.ms k (Series.normalize start stop raw) =
      feed.members asset plan.base t.ms k := by
  refine Series.Ascending.ext (Series.ascending_normalize start stop raw |>.filter _)
    (ascending_members _ _) fun c => ?_
  have hend : k + t.ms ≤ stop := by
    have := Int.le_of_dvd (by omega) (Int.dvd_sub hstop hk)
    omega
  rw [Series.inBucket, List.mem_filter, decide_eq_true_eq, Series.bucketStart_eq_iff t.ms_pos hk,
    mem_normalize hraw, mem_members hgrid (Int.dvd_trans hbase hk)]
  constructor
  · rintro ⟨⟨hc, -⟩, hrange⟩
    exact ⟨hc, hrange⟩
  · rintro ⟨hc, hrange⟩
    exact ⟨⟨hc, (overlaps_iff hgrid (Int.dvd_trans hbase hstart) hc).2 (by omega)⟩, hrange⟩

/-- Whoever is in a bucket shows that it is one of the buckets in the range. -/
theorem range_of_mem_inBucket (hgrid : feed.OnGrid plan.base) (hbase : plan.base.ms ∣ t.ms)
    (hstart : t.ms ∣ start) (hraw : feed.Answers asset plan.base start stop raw) {k : Int}
    {c : Candle} (hc : c ∈ Series.inBucket t.ms k (Series.normalize start stop raw)) :
    t.ms ∣ k ∧ start ≤ k ∧ k < stop := by
  obtain ⟨hnormal, hbucket⟩ := List.mem_filter.1 hc
  rw [decide_eq_true_eq] at hbucket
  have hk : t.ms ∣ k := hbucket ▸ Series.dvd_bucketStart t.ms c.start
  obtain ⟨hbar, hover⟩ := (mem_normalize hraw).1 hnormal
  obtain ⟨hge, hlt⟩ := (overlaps_iff hgrid (Int.dvd_trans hbase hstart) hbar).1 hover
  obtain ⟨hfrom, hto⟩ := (Series.bucketStart_eq_iff t.ms_pos hk).1 hbucket
  refine ⟨hk, Int.not_lt.1 fun hbefore => ?_, by omega⟩
  have := Int.le_of_dvd (by omega) (Int.dvd_sub hstart hk)
  omega

/-- Rolling up builds from an honest answer for whole buckets the candles of the buckets in the
    range. -/
theorem mem_build_of_rolled (hplan : plan.base.ms ∣ t.ms ∧ (plan.isDirect = true ↔ plan.base = t))
    (hrolled : plan.isDirect = false) (hgrid : feed.OnGrid plan.base) (hasset : Symbol.leg asset = asset)
    (hstart : t.ms ∣ start) (hstop : t.ms ∣ stop)
    (hraw : feed.Answers asset plan.base start stop raw) {d : Candle} :
    d ∈ plan.build asset t start stop raw ↔
      feed.chart plan asset t d.start = some d ∧ d.overlaps start stop = true := by
  have hdirect : ¬ plan.isDirect = true := by simp [hrolled]
  have hchart : feed.chart plan asset t d.start = if t.ms ∣ d.start then
      Series.bucketCandle t.ms d.start asset t.label (feed.members asset plan.base t.ms d.start)
      else none := if_neg hdirect
  rw [IntervalPlan.build, if_neg hdirect, hasset, Series.mem_rollUp t.ms_pos,
    Series.sort_of_ascending (Series.ascending_normalize start stop raw)]
  constructor
  · intro hd
    obtain ⟨c, hc⟩ := Series.exists_mem_of_bucketCandle hd
    obtain ⟨hk, hrange⟩ := range_of_mem_inBucket hgrid hplan.1 hstart hraw hc
    rw [inBucket_normalize hgrid hplan.1 hstart hstop hraw hk hrange.1 hrange.2] at hd
    rw [if_pos hk, hd] at hchart
    exact ⟨hchart, (overlaps_iff_of_chart hplan hgrid hstart hchart).2 hrange⟩
  · rintro ⟨hd, hover⟩
    obtain ⟨hge, hlt⟩ := (overlaps_iff_of_chart hplan hgrid hstart hd).1 hover
    have hk := dvd_of_chart hgrid hplan.2 hd
    rw [hchart, if_pos hk] at hd
    rwa [inBucket_normalize hgrid hplan.1 hstart hstop hraw hk hge hlt]

end Build

end Feed

end Candlestick
