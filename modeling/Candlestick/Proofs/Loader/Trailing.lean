import Candlestick.Proofs.Loader.Transparency
import Candlestick.Proofs.Loader.Visible

set_option autoImplicit false

/-! # Loads of a range without an end

A range without an end has the end zero. It ends before it begins, and padding mends this for those only
that begin between one and two paddings after the first moment of 1970. All others are given the window of
the last days before the present, however far back they begin. A new loader shows just the candles of that
window. -/

namespace Candlestick

namespace Window

variable {settings : LoaderSettings} {now start bucket : Int}

/-- A range without an end is given the last days, unless it begins between one and two paddings after the
    first moment of 1970. -/
theorem expand_of_open (hset : settings.Accepted) (hbucket : 0 < bucket) (hlt : start < now)
    (hbeside : ¬ (settings.prefetchBuckets * bucket < start ∧
      start < 2 * (settings.prefetchBuckets * bucket))) :
    expand settings now start 0 bucket = (now - settings.windowDays * dayMs, now) := by
  have hbuffer := Int.mul_nonneg hset.prefetch (Int.le_of_lt hbucket)
  unfold expand
  generalize settings.prefetchBuckets * bucket = buffer at *
  exact if_pos (by omega)

end Window

namespace Visit

/-- The bucket in which the last days before a visit begin. -/
def lastDays (v : Visit) : Int :=
  Series.bucketStart v.request.timeFrame.ms (max 0 (v.now - v.settings.windowDays * dayMs))

theorem lastDays_nonneg (v : Visit) : 0 ≤ v.lastDays :=
  Series.bucketStart_nonneg v.request.timeFrame.ms_pos (Int.le_max_left _ _)

namespace Honest

variable {v : Visit} {feed : Feed} {plan : IntervalPlan} {job : Job}

/-- The window of a range without an end reaches from that bucket to the present. -/
theorem window_of_open (h : v.Honest feed) (hprep : v.Prepared plan job) (hstop : v.request.stop = 0)
    (hlt : v.request.start < v.now)
    (hbeside : ¬ (v.settings.prefetchBuckets * v.request.timeFrame.ms < v.request.start ∧
      v.request.start < 2 * (v.settings.prefetchBuckets * v.request.timeFrame.ms))) :
    job.start = v.lastDays ∧ v.now ≤ job.stop := by
  have hms : v.request.timeFrame.ms ≤ 2 ^ 53 := Int.le_trans v.request.timeFrame.ms_le (by decide)
  have hpos := h.now_pos
  have hdays : 0 < v.settings.windowDays * dayMs := Int.mul_pos h.accepted.window (by decide)
  have hwindow : Window.align (v.now - v.settings.windowDays * dayMs) v.now v.request.timeFrame.ms =
      .ok (job.start, job.stop) := by
    rw [← hprep.window_eq, Visit.window, hstop,
      Window.expand_of_open h.accepted v.request.timeFrame.ms_pos hlt hbeside]
  have hless : v.now - v.settings.windowDays * dayMs < v.now := by omega
  obtain ⟨first, last, halign, -, hsnug⟩ :=
    Window.align_sound hless (by omega) (Int.le_refl v.now) h.now_le v.request.timeFrame.ms_pos hms
  rw [hwindow] at halign
  cases halign
  exact ⟨Window.start_of_align hwindow, hsnug.le_stop⟩

/-- What a new loader shows where the look-up is exact: the candles of the chart that start in the
    window, and no others. -/
theorem mem_outcome_of_empty (h : v.Honest feed) (hprep : v.Prepared plan job)
    (hexact : v.offGrid plan = false) {cs : List Candle} (hcs : (v.load Cache.empty).outcome = .ok cs)
    {c : Candle} : c ∈ cs ↔ feed.chart plan v.asset v.request.timeFrame c.start = some c ∧
      job.start ≤ c.start ∧ c.start < job.stop := by
  have hclaimed : ∀ k c, (v.claimed Cache.empty).get? k = some c →
      feed.chart plan v.asset v.request.timeFrame k = some c := by
    intro k c hc
    rw [claimed_empty] at hc
    exact absurd hc (by simp)
  have hwindow := h.window_load hprep hexact Cache.sound_empty hcs hclaimed
  have hwithin : ∀ gap ∈ (job.collect (Cache.empty.claim job.timeFrame job.asset)).2, ∀ state ds,
      (job.gapRun v.registry v.world state gap).outcome = .ok ds →
        ∀ d ∈ ds, job.start ≤ d.start ∧ d.start < job.stop := by
    intro gap hgap state ds hds d hd
    obtain ⟨hd', hover⟩ := (h.gapRun_spec hprep hgap hds d).1 hd
    obtain ⟨hge, hlt⟩ := (h.overlaps_gap_iff hprep hexact hgap hd').1 hover
    obtain ⟨hfrom, -, hto⟩ := (h.splits hprep _).within gap hgap
    exact ⟨Int.le_trans hfrom hge, Int.lt_of_lt_of_le hlt hto⟩
  constructor
  · intro hc
    have hchart := h.own_load hprep Cache.sound_empty hcs hclaimed c hc
    refine ⟨hchart, ?_⟩
    have hstored := ((Visit.sound_load v Cache.sound_empty).2.whole v.asset hprep.not_blank cs hcs).2.2 c
    obtain ⟨k, hk⟩ := hstored.1 hc
    -- Nothing was there before, so the candle was fetched for a gap, and starts in it.
    rcases hprep.mem_load hwithin hk with ⟨hkind, -⟩ | hold
    · exact hkind
    · rw [claimed_empty] at hold
      exact absurd hold (by simp)
  · rintro ⟨hchart, hge, hlt⟩
    have hgrid : c.start ∈ Gaps.grid job.start job.stop v.request.timeFrame.ms :=
      (Gaps.mem_grid v.request.timeFrame.ms_pos).2 ⟨hge, hlt,
        Int.dvd_sub (h.dvd_of_chart hprep hexact hchart) (h.sound hprep).start_dvd⟩
    have hmem := List.mem_filterMap.2 ⟨c.start, hgrid, hchart⟩
    rw [← hwindow] at hmem
    exact (List.mem_filter.1 hmem).1

end Honest

end Visit

/-! ## Providers that answer everything -/

/-- A visit whose timeframe is looked up exactly, and whose provider answers all that it may be asked from
    a feed on the grid. If the check of candles is strict, the feed's chart stands it. -/
structure Visit.Supplied (v : Visit) (feed : Feed) (plan : IntervalPlan) : Prop where
  plan_eq : v.plan = .ok plan
  exact : v.offGrid plan = false
  onGrid : feed.OnGrid plan.base
  going : ∀ state, v.world.withdrawn state = false
  answers : ∀ start stop state, 0 ≤ start → start < stop → stop < v.now + v.request.timeFrame.ms →
    ∃ raw, v.reply plan start stop state = .ok raw ∧ feed.Answers v.asset plan.base start stop raw
  clean : v.settings.strict = true → ∀ k c,
    feed.chart plan v.asset v.request.timeFrame k = some c → Series.faults [c] = []

namespace Visit.Supplied

variable {v : Visit} {feed : Feed} {plan : IntervalPlan}

/-- Such a provider is honest to accepted settings at a time of the clock, -/
theorem honest (h : v.Supplied feed plan) (hset : v.settings.Accepted) (hpos : 1 ≤ v.now)
    (hle : v.now ≤ 2 ^ 53) : v.Honest feed where
  accepted := hset
  now_pos := hpos
  now_le := hle
  answers plan' start stop state raw hplan hnonneg hlt hbegun hraw := by
    obtain rfl := Except.ok.inj (h.plan_eq.symm.trans hplan)
    obtain ⟨raw', hraw', hanswers⟩ := h.answers start stop state hnonneg hlt hbegun
    rwa [← Except.ok.inj (hraw'.symm.trans hraw)]
  onGrid plan' hplan := by
    obtain rfl := Except.ok.inj (h.plan_eq.symm.trans hplan)
    exact Or.inr h.onGrid

/-- and reliable. -/
theorem reliable (h : v.Supplied feed plan) : v.Reliable where
  going := h.going
  replies plan' start stop state hplan hnonneg hlt hbegun := by
    obtain rfl := Except.ok.inj (h.plan_eq.symm.trans hplan)
    obtain ⟨raw, hraw, -⟩ := h.answers start stop state hnonneg hlt hbegun
    exact ⟨raw, hraw⟩

/-- Each candle of its chart fills a bucket, -/
theorem stop_of_chart (h : v.Supplied feed plan) {k : Int} {c : Candle}
    (hc : feed.chart plan v.asset v.request.timeFrame k = some c) :
    c.stop = k + v.request.timeFrame.ms :=
  Feed.stop_of_chart (Registry.plan_spec h.plan_eq) h.onGrid hc

/-- and ends with a whole second. -/
theorem second_dvd_stop (h : v.Supplied feed plan) {k : Int} {c : Candle}
    (hc : feed.chart plan v.asset v.request.timeFrame k = some c) : 1000 ∣ c.stop := by
  have hsecond := v.request.timeFrame.second_dvd_ms
  have hdvd := Feed.dvd_of_chart h.onGrid (Registry.plan_spec h.plan_eq).2 hc
  rw [h.stop_of_chart hc]
  exact Int.dvd_add (Int.dvd_trans hsecond hdvd) hsecond

/-- A new loader's load of a range without an end returns the chart of the last days. -/
theorem outcome_of_open (h : v.Supplied feed plan) (hset : v.settings.Accepted) (hpos : 1 ≤ v.now)
    (hle : v.now ≤ 2 ^ 53) (hasset : v.request.asset? = some v.asset) (hstop : v.request.stop = 0)
    (hlt : v.request.start < v.now)
    (hbeside : ¬ (v.settings.prefetchBuckets * v.request.timeFrame.ms < v.request.start ∧
      v.request.start < 2 * (v.settings.prefetchBuckets * v.request.timeFrame.ms))) :
    ∃ cs, (v.load Cache.empty).outcome = .ok cs ∧ Series.Ascending cs ∧ ∀ c,
      c ∈ cs ↔ feed.chart plan v.asset v.request.timeFrame c.start = some c ∧ v.lastDays ≤ c.start ∧
        c.start < v.now := by
  have hhonest := h.honest hset hpos hle
  obtain ⟨job, hprep⟩ := hhonest.exists_prepared h.plan_eq hasset
  obtain ⟨cs, hcs⟩ :=
    hhonest.exists_outcome_of_clean hprep (Or.inl h.exact) h.reliable h.clean Cache.empty
  obtain ⟨hstart, hnow⟩ := hhonest.window_of_open hprep hstop hlt hbeside
  have hsound := hhonest.sound hprep
  refine ⟨cs, hcs, ((Visit.sound_load v Cache.sound_empty).2.whole v.asset hprep.not_blank cs hcs).2.1,
    fun c => ?_⟩
  rw [hhonest.mem_outcome_of_empty hprep h.exact hcs, hstart]
  refine and_congr_right fun hchart => and_congr_right fun _ => ?_
  -- The window ends with the bucket of the present, and the candle begins with a bucket.
  have hdvd := Int.dvd_sub hsound.stop_dvd (hhonest.dvd_of_chart hprep h.exact hchart)
  have hbegun := hsound.begun
  have hbucket : c.start < job.stop → v.request.timeFrame.ms ≤ job.stop - c.start := fun hbefore =>
    Int.le_of_dvd (by omega) hdvd
  omega

end Visit.Supplied

end Candlestick
