import Candlestick.Proofs.Loader.Feed
import Candlestick.Proofs.Loader.Reach
import Candlestick.Proofs.Loader.Session
import Candlestick.Proofs.Series.Quality

set_option autoImplicit false

/-! # Loads from honest providers

A provider is honest to a visit if its answers come from a feed. Then each candle that the visit
stores is one of the feed's chart, and a gap is filled with all of them that overlap the range that is
fetched for it, so the map afterwards is known at every key. -/

namespace Candlestick

theorem IntervalPlan.ascending_build (plan : IntervalPlan) (asset : String) (t : TimeFrame)
    (start stop : Int) (raw : List Candle) :
    Series.Ascending (plan.build asset t start stop raw) := by
  unfold build
  split
  · exact List.pairwise_map.2 (Series.ascending_normalize start stop raw)
  · exact Series.ascending_rollUp t.ms_pos _

namespace Visit

/-- How the visit's source serves its timeframe. -/
def plan (v : Visit) : Except Failure IntervalPlan :=
  v.registry.plan v.request.source v.request.timeFrame

/-- The visit's asset, as it is asked for. -/
def asset (v : Visit) : String := Symbol.leg v.request.asset

/-- The visit's quote asset, as it is asked for. -/
def quote (v : Visit) : String := quoteLeg (v.request.quoteFor v.settings)

/-- Whether candles of the visit's timeframe come from the provider and need not stand on the grid. -/
def offGrid (v : Visit) (plan : IntervalPlan) : Bool :=
  plan.isDirect && v.request.timeFrame.isOffGrid

/-- The map of the visit's timeframe when the asset has claimed it. -/
def claimed (v : Visit) (cache : Cache) : CandleMap :=
  (cache.claim v.request.timeFrame v.asset).candles v.request.timeFrame

theorem claimed_empty (v : Visit) : v.claimed Cache.empty = {} := by
  rw [claimed, Cache.candles_claim_of_ne]
  simp [Cache.empty, Cache.owner]

/-- The window of whole buckets that the visit loads. -/
def window (v : Visit) : Except Failure (Int × Int) :=
  let t := v.request.timeFrame
  let (first, last) := Window.expand v.settings v.now v.request.start v.request.stop t.ms
  Window.align first last t.ms

/-- The provider's answer to the visit for a range: all its pages, or why they did not come. -/
def reply (v : Visit) (plan : IntervalPlan) (start stop : Int) (state : v.σ) :
    Except Failure (List Candle) :=
  ((v.registry.fetch (plan.request v.request.source v.asset (v.request.quoteFor v.settings) start
    stop)).run v.world state).outcome

/-- A visit with checked settings at a time of the clock, whose provider answers from a feed up to the
    end of the present bucket. Only candles that the provider serves off the grid may stand anywhere. -/
structure Honest (v : Visit) (feed : Feed) : Prop where
  accepted : v.settings.Accepted
  now_pos : 1 ≤ v.now
  now_le : v.now ≤ 2 ^ 53
  answers : ∀ plan start stop state raw, v.plan = .ok plan → 0 ≤ start → start < stop →
    stop < v.now + v.request.timeFrame.ms → v.reply plan start stop state = .ok raw →
    feed.Answers v.asset plan.base start stop raw
  onGrid : ∀ plan, v.plan = .ok plan → v.offGrid plan = true ∨ feed.OnGrid plan.base

/-- A visit that is never withdrawn, and whose provider always answers. -/
structure Reliable (v : Visit) : Prop where
  going : ∀ state, v.world.withdrawn state = false
  replies : ∀ plan start stop state, v.plan = .ok plan → 0 ≤ start → start < stop →
    stop < v.now + v.request.timeFrame.ms → ∃ raw, v.reply plan start stop state = .ok raw

/-- A visit has a job. -/
structure Prepared (v : Visit) (plan : IntervalPlan) (job : Job) : Prop where
  not_blank : v.request.asset? = some v.asset
  job_eq : v.request.job v.registry v.settings v.now v.asset = .ok job
  plan_eq : v.plan = .ok plan
  window_eq : v.window = .ok (job.start, job.stop)
  eq : job = ⟨v.request.source, v.request.timeFrame, v.asset, v.request.quoteFor v.settings,
    v.offGrid plan, job.start, job.stop⟩

theorem prepared_of_job {v : Visit} {asset : String} {job : Job} (hasset : v.request.asset? = some asset)
    (hjob : v.request.job v.registry v.settings v.now asset = .ok job) :
    ∃ plan, v.Prepared plan job := by
  obtain ⟨-, rfl⟩ := LoadRequest.asset?_eq_some.1 hasset
  obtain ⟨plan, hplan, hwindow, heq⟩ := LoadRequest.job_eq_ok hjob
  exact ⟨plan, hasset, hjob, hplan, hwindow, heq⟩

/-- A visit whose timeframe resolves has a job as soon as it has a window. -/
theorem exists_prepared {v : Visit} {plan : IntervalPlan} (hplan : v.plan = .ok plan)
    {first last : Int} (hwindow : v.window = .ok (first, last))
    (hasset : v.request.asset? = some v.asset) : ∃ job, v.Prepared plan job := by
  obtain ⟨job, hjob, -, -⟩ := LoadRequest.exists_job hplan hwindow v.asset
  obtain ⟨plan', hprep⟩ := prepared_of_job hasset hjob
  obtain rfl := Except.ok.inj (hplan.symm.trans hprep.plan_eq)
  exact ⟨job, hprep⟩

namespace Prepared

variable {v : Visit} {plan : IntervalPlan} {job : Job}

theorem timeFrame (h : v.Prepared plan job) : job.timeFrame = v.request.timeFrame := by rw [h.eq]

theorem asset (h : v.Prepared plan job) : job.asset = v.asset := by rw [h.eq]

theorem offGrid (h : v.Prepared plan job) : job.offGrid = v.offGrid plan := by rw [h.eq]

theorem candles_claim (h : v.Prepared plan job) (cache : Cache) :
    (cache.claim job.timeFrame job.asset).candles v.request.timeFrame = v.claimed cache := by
  rw [h.timeFrame, h.asset, claimed]

theorem fetchStart (h : v.Prepared plan job) (hexact : v.offGrid plan = false) (gap : Gap) :
    job.fetchStart gap = gap.start := by
  rw [Job.fetchStart, h.offGrid, hexact]
  rfl

theorem load (h : v.Prepared plan job) (cache : Cache) :
    v.load cache = job.run v.registry v.settings.strict v.world cache v.state :=
  LoadRequest.load_of_job h.not_blank h.job_eq cache v.state

/-- What a visit leaves is its asset's, so that a second claim is no change. -/
theorem claim_load (h : v.Prepared plan job) (cache : Cache) :
    (v.load cache).cache.claim v.request.timeFrame v.asset = (v.load cache).cache := by
  obtain ⟨_, _, _, _, -, -, hshelf, -, -⟩ :=
    job.fillsPrefix_run v.registry v.settings.strict v.world cache v.state
  rw [← h.load, h.timeFrame, h.asset] at hshelf
  exact Cache.claim_of_owner _ _ (by rw [Cache.owner, hshelf]; rfl)

/-- A gap is filled by asking the provider for its range. -/
theorem gapRun_eq (h : v.Prepared plan job) (state : v.σ) (gap : Gap) :
    job.gapRun v.registry v.world state gap =
      ((v.registry.fetch (plan.request v.request.source v.asset (v.request.quoteFor v.settings)
        (job.fetchStart gap) gap.stop)).map
          (plan.build v.asset v.request.timeFrame (job.fetchStart gap) gap.stop)).run v.world state := by
  have hplan : v.registry.plan v.request.source v.request.timeFrame = .ok plan := h.plan_eq
  unfold Job.gapRun Registry.candles
  rw [h.eq]
  simp only [hplan]

/-- What comes of a gap is built from the provider's answer. -/
theorem outcome_gapRun (h : v.Prepared plan job) (state : v.σ) (gap : Gap) :
    (job.gapRun v.registry v.world state gap).outcome =
      (v.reply plan (job.fetchStart gap) gap.stop state).map
        (plan.build v.asset v.request.timeFrame (job.fetchStart gap) gap.stop) := by
  rw [h.gapRun_eq, Dialogue.run_map, reply]

/-- Candles come of a gap if the provider answers. -/
theorem exists_reply (h : v.Prepared plan job) {state : v.σ} {gap : Gap} {cs : List Candle}
    (hcs : (job.gapRun v.registry v.world state gap).outcome = .ok cs) :
    ∃ raw, v.reply plan (job.fetchStart gap) gap.stop state = .ok raw ∧
      cs = plan.build v.asset v.request.timeFrame (job.fetchStart gap) gap.stop raw := by
  rw [h.outcome_gapRun] at hcs
  obtain ⟨raw, hraw, rfl⟩ := exists_of_map_eq_ok hcs
  exact ⟨raw, hraw, rfl⟩

/-- They come in order. -/
theorem ascending_gapRun (h : v.Prepared plan job) {state : v.σ} {gap : Gap} {cs : List Candle}
    (hcs : (job.gapRun v.registry v.world state gap).outcome = .ok cs) : Series.Ascending cs := by
  obtain ⟨raw, -, rfl⟩ := h.exists_reply hcs
  exact plan.ascending_build _ _ _ _ _

/-- A visit that returns has completed all its gaps, and their results overlay the claimed map. -/
theorem exists_completed (h : v.Prepared plan job) {cache : Cache} {cs : List Candle}
    (hcs : (v.load cache).outcome = .ok cs) :
    ∃ results state', job.Completed v.registry v.settings.strict v.world v.state
        (job.collect (cache.claim job.timeFrame job.asset)).2 results state' ∧
      (v.load cache).cache.candles v.request.timeFrame = (v.claimed cache).overlay results ∧
      cs = (v.load cache).cache.snapshot job.timeFrame job.asset := by
  obtain ⟨done, rest, results, state', hsplit, hdone, hshelf, -, hend⟩ :=
    job.fillsPrefix_run v.registry v.settings.strict v.world cache v.state
  rw [← h.load] at hshelf hend
  rcases hend with ⟨rfl, houtcome, -⟩ | ⟨_, _, cause, -, houtcome, -⟩
  · rw [List.append_nil] at hsplit
    rw [houtcome] at hcs
    rw [h.timeFrame, h.asset] at hshelf
    refine ⟨results, state', hsplit ▸ hdone, Cache.candles_eq _ _ hshelf, (Except.ok.inj hcs).symm⟩
  · rw [houtcome] at hcs
    exact absurd hcs (by simp)

/-- A visit none of whose gaps breaks returns. -/
theorem exists_outcome (h : v.Prepared plan job) {cache : Cache}
    (hnone : ∀ gap ∈ (job.collect (cache.claim job.timeFrame job.asset)).2, ∀ state cause,
      ¬ job.Breaks v.registry v.settings.strict v.world state gap cause) :
    ∃ cs, (v.load cache).outcome = .ok cs := by
  obtain ⟨done, rest, results, state', hsplit, -, -, -, hend⟩ :=
    job.fillsPrefix_run v.registry v.settings.strict v.world cache v.state
  rw [h.load]
  rcases hend with ⟨-, houtcome, -⟩ | ⟨gap, later, cause, hrest, -, hbreaks⟩
  · exact ⟨_, houtcome⟩
  · have hgap : gap ∈ (job.collect (cache.claim job.timeFrame job.asset)).2 := by
      rw [hsplit, hrest]
      exact List.mem_append_right _ List.mem_cons_self
    exact absurd hbreaks (hnone gap hgap _ cause)

/-- Whatever a visit stores, however it ends, comes of one of its gaps or was in the claimed map. -/
theorem mem_load (h : v.Prepared plan job) {kind : Candle → Prop} {cache : Cache}
    (hgaps : ∀ gap ∈ (job.collect (cache.claim job.timeFrame job.asset)).2, ∀ state cs,
      (job.gapRun v.registry v.world state gap).outcome = .ok cs → ∀ c ∈ cs, kind c)
    {k : Int} {c : Candle} (hc : ((v.load cache).cache.candles v.request.timeFrame).get? k = some c) :
    (kind c ∧ c.start = k) ∨ (v.claimed cache).get? k = some c := by
  obtain ⟨done, rest, results, state', hsplit, hdone, hshelf, -, -⟩ :=
    job.fillsPrefix_run v.registry v.settings.strict v.world cache v.state
  rw [← h.load, h.timeFrame, h.asset] at hshelf
  rw [Cache.candles_eq _ _ hshelf] at hc
  rcases CandleMap.get?_overlay_cases hc with ⟨cs, hcs, hmem, hstart⟩ | hold
  · have hall := hdone.forall₂ fun gap hgap => hgaps gap (hsplit ▸ List.mem_append_left rest hgap)
    obtain ⟨_, _, hkind⟩ := Job.exists_of_forall₂ hall cs hcs
    exact Or.inl ⟨hkind c hmem, hstart⟩
  · exact Or.inr hold

end Prepared

namespace Honest

variable {v : Visit} {feed : Feed} {plan : IntervalPlan} {job : Job}

/-- An honest visit has a sound window. -/
theorem exists_window (h : v.Honest feed) :
    ∃ first last, v.window = .ok (first, last) ∧
      Window.Sound v.now v.request.timeFrame.ms first last := by
  have hms : v.request.timeFrame.ms ≤ 2 ^ 53 := Int.le_trans v.request.timeFrame.ms_le (by decide)
  exact Window.align_expand h.accepted h.now_pos h.now_le v.request.timeFrame.ms_pos hms _ _

theorem sound (h : v.Honest feed) (hprep : v.Prepared plan job) :
    Window.Sound v.now v.request.timeFrame.ms job.start job.stop := by
  obtain ⟨first, last, hwindow, hsound⟩ := h.exists_window
  rw [hprep.window_eq] at hwindow
  cases hwindow
  exact hsound

/-- An honest visit whose timeframe resolves has a job. -/
theorem exists_prepared (h : v.Honest feed) (hplan : v.plan = .ok plan)
    (hasset : v.request.asset? = some v.asset) : ∃ job, v.Prepared plan job := by
  obtain ⟨first, last, hwindow, -⟩ := h.exists_window
  exact Visit.exists_prepared hplan hwindow hasset

/-- The gaps of an honest visit split its window. -/
theorem splits (h : v.Honest feed) (hprep : v.Prepared plan job) (cache : Cache) :
    Gaps.Splits
      (Gaps.Hit (Gaps.lookUp (cache.candles v.request.timeFrame) v.asset (!v.offGrid plan)) v.asset)
      job.start job.stop v.request.timeFrame.ms (job.collect cache).2 := by
  have hsound := h.sound hprep
  rw [← hprep.timeFrame] at hsound ⊢
  rw [← hprep.asset, ← hprep.offGrid]
  exact Job.splits hsound cache

/-- Every gap of an honest visit's window can be asked for. -/
theorem reaches (h : v.Honest feed) (hprep : v.Prepared plan job) {cache : Cache} {gap : Gap}
    (hgap : gap ∈ (job.collect cache).2) : job.Reaches v.now gap := by
  have hsound := h.sound hprep
  rw [← hprep.timeFrame] at hsound
  exact Job.reaches hsound hgap

/-- A gap of an honest visit's window consists of whole buckets and can be asked for. -/
theorem gap_bounds (h : v.Honest feed) (hprep : v.Prepared plan job) {cache : Cache} {gap : Gap}
    (hgap : gap ∈ (job.collect cache).2) :
    0 ≤ job.fetchStart gap ∧ job.fetchStart gap < gap.stop ∧
      gap.stop < v.now + v.request.timeFrame.ms ∧ v.request.timeFrame.ms ∣ gap.start ∧
      v.request.timeFrame.ms ∣ gap.stop := by
  have hreach := h.reaches hprep hgap
  rw [← hprep.timeFrame]
  exact ⟨hreach.nonneg, hreach.fetchStart_lt, hreach.begun, hreach.start_dvd, hreach.stop_dvd⟩

end Honest

/-- What a gap is filled with: the candles of a chart that overlap the range fetched for it. -/
def Fills (chart : Int → Option Candle) (job : Job) (gap : Gap) (cs : List Candle) : Prop :=
  ∀ d, d ∈ cs ↔ chart d.start = some d ∧ d.overlaps (job.fetchStart gap) gap.stop = true

namespace Honest

variable {v : Visit} {feed : Feed} {plan : IntervalPlan} {job : Job}

theorem gapRun_spec (h : v.Honest feed) (hprep : v.Prepared plan job) {cache : Cache} {gap : Gap}
    (hgap : gap ∈ (job.collect cache).2) {state : v.σ} {cs : List Candle}
    (hcs : (job.gapRun v.registry v.world state gap).outcome = .ok cs) :
    Fills (feed.chart plan v.asset v.request.timeFrame) job gap cs := by
  intro d
  obtain ⟨hnonneg, hlt, hbegun, hstart, hstop⟩ := h.gap_bounds hprep hgap
  obtain ⟨raw, hreply, rfl⟩ := hprep.exists_reply hcs
  have hraw := h.answers plan _ _ state raw hprep.plan_eq hnonneg hlt hbegun hreply
  cases hdirect : plan.isDirect with
  | true => exact Feed.mem_build_of_direct hdirect hraw
  | false =>
    have hoff : v.offGrid plan = false := by simp [offGrid, hdirect]
    have hgrid : feed.OnGrid plan.base := (h.onGrid plan hprep.plan_eq).resolve_left (by simp [hoff])
    rw [hprep.fetchStart hoff] at hraw ⊢
    exact Feed.mem_build_of_rolled (Registry.plan_spec hprep.plan_eq) hdirect hgrid
      (Symbol.leg_leg _) hstart hstop hraw

end Honest

/-! ## The map after a load -/

/-- A candle overlaps a range that is fetched for one of the gaps. -/
def Fetched (job : Job) (gaps : List Gap) (c : Candle) : Prop :=
  ∃ gap ∈ gaps, c.overlaps (job.fetchStart gap) gap.stop = true

section Overlay

variable {chart : Int → Option Candle}

/-- The last candle of a start among those that fill a gap is the chart's. -/
theorem find?_of_fills (hchart : ∀ k c, chart k = some c → c.start = k) {job : Job} {gap : Gap}
    {cs : List Candle} (hfills : Fills chart job gap cs) (k : Int) :
    cs.reverse.find? (·.start = k) =
      (chart k).filter (Candle.overlaps (job.fetchStart gap) gap.stop) := by
  cases hfind : cs.reverse.find? (·.start = k) with
  | some c =>
    have hc := List.mem_reverse.1 (List.mem_of_find?_eq_some hfind)
    obtain rfl : c.start = k := by simpa using List.find?_some hfind
    obtain ⟨hck, hover⟩ := (hfills c).1 hc
    rw [hck, Option.filter_some_pos hover]
  | none =>
    refine (Option.eq_none_iff_forall_not_mem.2 fun c hc => ?_).symm
    obtain ⟨hck, hover⟩ := Option.filter_eq_some_iff.1 hc
    obtain rfl := hchart k c hck
    have hmem := List.mem_reverse.2 ((hfills c).2 ⟨hck, hover⟩)
    exact absurd (List.find?_eq_none.1 hfind c hmem) (by simp)

/-- Filling gaps one after the other puts in those candles of the chart that are fetched and leaves
    the rest. -/
theorem get?_overlay_of_fills (hchart : ∀ k c, chart k = some c → c.start = k) {job : Job}
    {gaps : List Gap} {results : List (List Candle)}
    (hfills : List.Forall₂ (Fills chart job) gaps results) (m : CandleMap) (k : Int) :
    (∀ c, chart k = some c → Fetched job gaps c → (m.overlay results).get? k = some c) ∧
      ((∀ c, chart k = some c → ¬ Fetched job gaps c) → (m.overlay results).get? k = m.get? k) := by
  induction hfills generalizing m with
  | nil => exact ⟨fun c _ ⟨g, hg, _⟩ => absurd hg (by simp), fun _ => rfl⟩
  | @cons gap cs gaps results hhead _ ih =>
    have hstore := CandleMap.get?_storeAll m cs k
    rw [find?_of_fills hchart hhead] at hstore
    obtain ⟨hin, hout⟩ := ih (m.storeAll cs)
    rw [CandleMap.overlay_cons]
    constructor
    · rintro c hc ⟨g, hg, hover⟩
      by_cases hrest : Fetched job gaps c
      · exact hin c hc hrest
      · obtain rfl | hg := List.mem_cons.1 hg
        · rw [hc, Option.filter_some_pos hover, Option.some_or] at hstore
          rw [hout fun d hd => ?_, hstore]
          rwa [← Option.some.inj (hc.symm.trans hd)]
        · exact absurd ⟨g, hg, hover⟩ hrest
    · intro hnone
      have hfilter : (chart k).filter (Candle.overlaps (job.fetchStart gap) gap.stop) = none :=
        Option.eq_none_iff_forall_not_mem.2 fun c hc => by
          obtain ⟨hck, hover⟩ := Option.filter_eq_some_iff.1 hc
          exact hnone c hck ⟨gap, List.mem_cons_self, hover⟩
      rw [hout fun c hc ⟨g, hg, hover⟩ => hnone c hc ⟨g, List.mem_cons_of_mem _ hg, hover⟩, hstore,
        hfilter, Option.none_or]

end Overlay

namespace Honest

variable {v : Visit} {feed : Feed} {plan : IntervalPlan} {job : Job}

/-- Whatever a visit stores is of its feed's chart, however the visit ends. -/
theorem mem_load (h : v.Honest feed) (hprep : v.Prepared plan job) {cache : Cache} {k : Int}
    {c : Candle} (hc : ((v.load cache).cache.candles v.request.timeFrame).get? k = some c) :
    feed.chart plan v.asset v.request.timeFrame k = some c ∨ (v.claimed cache).get? k = some c := by
  rcases hprep.mem_load (fun gap hgap state cs hcs d hd => ((h.gapRun_spec hprep hgap hcs d).1 hd).1) hc with
    ⟨hchart, rfl⟩ | hold
  · exact Or.inl hchart
  · exact Or.inr hold

/-- A candle that a visit returns is of its feed's chart, or was in the claimed map. -/
theorem mem_outcome (h : v.Honest feed) (hprep : v.Prepared plan job) {cache : Cache}
    (hcache : cache.Sound) {cs : List Candle} (hcs : (v.load cache).outcome = .ok cs) {c : Candle}
    (hc : c ∈ cs) :
    feed.chart plan v.asset v.request.timeFrame c.start = some c ∨
      (v.claimed cache).get? c.start = some c := by
  obtain ⟨hsound, hserves⟩ := Visit.sound_load v hcache
  obtain ⟨k, hk⟩ := ((hserves.whole v.asset hprep.not_blank cs hcs).2.2 c).1 hc
  obtain rfl := hsound.byStart _ k c hk
  exact h.mem_load hprep hk

/-- The claimed map of a sound cache holds candles of the visit's asset only. -/
theorem asset_of_claimed {cache : Cache} (hcache : cache.Sound) {t : TimeFrame} {asset : String}
    {k : Int} {c : Candle} (hc : ((cache.claim t asset).candles t).get? k = some c) :
    c.asset = asset := by
  obtain ⟨howner, hold⟩ := cache.mem_claim_of_mem t hc
  obtain ⟨owner, howner', -, hasset, -⟩ := hcache.owned t k c hold
  rw [howner] at howner'
  rw [hasset, Option.some.inj howner']

/-- What an honest visit that returns leaves under each key: the candle of the feed's chart where it was
    fetched, and what the claimed map held where it was not. -/
theorem get?_load (h : v.Honest feed) (hprep : v.Prepared plan job) {cache : Cache}
    {cs : List Candle} (hcs : (v.load cache).outcome = .ok cs) (k : Int) :
    (∀ c, feed.chart plan v.asset v.request.timeFrame k = some c →
        Fetched job (job.collect (cache.claim job.timeFrame job.asset)).2 c →
        ((v.load cache).cache.candles v.request.timeFrame).get? k = some c) ∧
      ((∀ c, feed.chart plan v.asset v.request.timeFrame k = some c →
          ¬ Fetched job (job.collect (cache.claim job.timeFrame job.asset)).2 c) →
        ((v.load cache).cache.candles v.request.timeFrame).get? k = (v.claimed cache).get? k) := by
  obtain ⟨results, state', hdone, hmap, -⟩ := hprep.exists_completed hcs
  have hfills := hdone.forall₂ fun gap hgap state cs hrun => h.gapRun_spec hprep hgap hrun
  rw [hmap]
  exact get?_overlay_of_fills (fun k c => Feed.start_of_chart (k := k) (c := c)) hfills _ k

/-- The candles of the chart that overlap a bucket which is missing are there afterwards. -/
theorem get?_load_of_missed (h : v.Honest feed) (hprep : v.Prepared plan job) {cache : Cache}
    {cs : List Candle} (hcs : (v.load cache).outcome = .ok cs) {k : Int}
    (hk : k ∈ Gaps.grid job.start job.stop v.request.timeFrame.ms)
    (hmissed : ¬ Gaps.Hit (Gaps.lookUp (v.claimed cache) v.asset (!v.offGrid plan)) v.asset k)
    {c : Candle} (hc : feed.chart plan v.asset v.request.timeFrame c.start = some c)
    (hover : c.overlaps k (k + v.request.timeFrame.ms) = true) :
    ((v.load cache).cache.candles v.request.timeFrame).get? c.start = some c := by
  have hsplits := h.splits hprep (cache.claim job.timeFrame job.asset)
  rw [hprep.candles_claim] at hsplits
  obtain ⟨g, hg, hge, hlt⟩ := (hsplits.covers k hk).resolve_left hmissed
  have hfrom := (h.reaches hprep hg).fetchStart_le
  have hend : k + v.request.timeFrame.ms ≤ g.stop := by
    have := Int.dvd_sub (hsplits.aligned g hg).2 ((Gaps.mem_grid v.request.timeFrame.ms_pos).1 hk).2.2
    rw [show g.stop - job.start - (k - job.start) = g.stop - k by omega] at this
    have := Int.le_of_dvd (by omega) this
    omega
  refine (h.get?_load hprep hcs c.start).1 c hc ⟨g, hg, ?_⟩
  simp only [Candle.overlaps, Bool.and_eq_true, decide_eq_true_eq] at hover ⊢
  omega

/-- Where the look-up is exact, a candle of the chart is fetched for a gap if it starts in it. -/
theorem overlaps_gap_iff (h : v.Honest feed) (hprep : v.Prepared plan job)
    (hexact : v.offGrid plan = false) {cache : Cache} {gap : Gap} (hgap : gap ∈ (job.collect cache).2)
    {k : Int} {c : Candle} (hc : feed.chart plan v.asset v.request.timeFrame k = some c) :
    c.overlaps (job.fetchStart gap) gap.stop = true ↔ gap.start ≤ k ∧ k < gap.stop := by
  have hgrid : feed.OnGrid plan.base := (h.onGrid plan hprep.plan_eq).resolve_left (by simp [hexact])
  rw [hprep.fetchStart hexact]
  exact Feed.overlaps_iff_of_chart (Registry.plan_spec hprep.plan_eq) hgrid
    (h.gap_bounds hprep hgap).2.2.2.1 hc

/-- Where the look-up is exact, the candles of the chart are fetched for the gaps that they start in. -/
theorem fetched_iff (h : v.Honest feed) (hprep : v.Prepared plan job) (hexact : v.offGrid plan = false)
    (cache : Cache) {k : Int} {c : Candle}
    (hc : feed.chart plan v.asset v.request.timeFrame k = some c) :
    Fetched job (job.collect cache).2 c ↔ ∃ g ∈ (job.collect cache).2, g.start ≤ k ∧ k < g.stop :=
  exists_congr fun _ => and_congr_right fun hg => h.overlaps_gap_iff hprep hexact hg hc

/-- No bucket of a gap holds a candle of the asset, and so none holds any. -/
theorem claimed_of_gap (h : v.Honest feed) (hprep : v.Prepared plan job)
    (hexact : v.offGrid plan = false) {cache : Cache} (hcache : cache.Sound) {gap : Gap}
    (hgap : gap ∈ (job.collect (cache.claim job.timeFrame job.asset)).2) {k : Int}
    (hk : k ∈ Gaps.grid job.start job.stop v.request.timeFrame.ms) (hge : gap.start ≤ k)
    (hlt : k < gap.stop) : (v.claimed cache).get? k = none := by
  have hsplits := h.splits hprep (cache.claim job.timeFrame job.asset)
  rw [hexact, hprep.candles_claim] at hsplits
  refine Option.eq_none_iff_forall_not_mem.2 fun c hc => ?_
  exact hsplits.missed gap hgap k hk hge hlt ⟨c, hc, asset_of_claimed hcache hc⟩

/-- An honest visit that looks its timeframe up exactly and returns leaves in each bucket of its window
    what the claimed map held, and the feed's chart where that was nothing. -/
theorem get?_load_of_exact (h : v.Honest feed) (hprep : v.Prepared plan job)
    (hexact : v.offGrid plan = false) {cache : Cache} (hcache : cache.Sound) {cs : List Candle}
    (hcs : (v.load cache).outcome = .ok cs) {k : Int}
    (hk : k ∈ Gaps.grid job.start job.stop v.request.timeFrame.ms) :
    ((v.load cache).cache.candles v.request.timeFrame).get? k =
      ((v.claimed cache).get? k).or (feed.chart plan v.asset v.request.timeFrame k) := by
  obtain ⟨hfetched, hkept⟩ := h.get?_load hprep hcs k
  have hsplits := h.splits hprep (cache.claim job.timeFrame job.asset)
  have hiff := fun {c : Candle} =>
    h.fetched_iff (k := k) (c := c) hprep hexact (cache.claim job.timeFrame job.asset)
  rw [hexact, hprep.candles_claim] at hsplits
  by_cases hgap : ∃ g ∈ (job.collect (cache.claim job.timeFrame job.asset)).2, g.start ≤ k ∧ k < g.stop
  · obtain ⟨g, hg, hge, hlt⟩ := hgap
    have hnone := h.claimed_of_gap hprep hexact hcache hg hk hge hlt
    rw [hnone, Option.none_or]
    cases hchart : feed.chart plan v.asset v.request.timeFrame k with
    | some c => exact hfetched c hchart ((hiff hchart).2 ⟨g, hg, hge, hlt⟩)
    | none => rw [hkept fun c hc => absurd (hchart.symm.trans hc) (by simp), hnone]
  · obtain ⟨c, hc, -⟩ := (hsplits.covers k hk).resolve_right hgap
    have hc : (v.claimed cache).get? k = some c := hc
    rw [hkept fun d hd hfetch => hgap ((hiff hd).1 hfetch), hc, Option.some_or]

/-- The starts of the candles that fill a gap are dates, if those of the candles that stand off the grid
    are. -/
theorem dated_of_fills (h : v.Honest feed) (hprep : v.Prepared plan job)
    (hdated : v.offGrid plan = false ∨ feed.Dated) {cache : Cache} {gap : Gap}
    (hgap : gap ∈ (job.collect cache).2) {cs : List Candle}
    (hfills : Fills (feed.chart plan v.asset v.request.timeFrame) job gap cs) :
    ∀ c ∈ cs, -Frame.latestStart ≤ c.start ∧ c.start ≤ Frame.latestStart := by
  intro c hc
  obtain ⟨hchart, hover⟩ := (hfills c).1 hc
  obtain ⟨hnonneg, -, hbegun, -, -⟩ := h.gap_bounds hprep hgap
  have hrange : job.fetchStart gap < c.stop ∧ c.start < gap.stop := by
    simpa [Candle.overlaps] using hover
  have hnow := h.now_le
  have hms := v.request.timeFrame.ms_le
  have hlatest : 2 ^ 53 + 2592000000 < Frame.latestStart := by decide
  refine ⟨?_, by omega⟩
  cases hoff : v.offGrid plan with
  | false =>
    obtain ⟨g, hg, hge, -⟩ := (h.fetched_iff hprep hoff cache hchart).1 ⟨gap, hgap, hover⟩
    have hbounds := (h.gap_bounds hprep hg).1
    rw [hprep.fetchStart hoff] at hbounds
    omega
  | true =>
    have hdirect : plan.isDirect = true := (Bool.and_eq_true_iff.1 hoff).1
    rw [Feed.chart, if_pos hdirect] at hchart
    obtain ⟨d, hd, rfl⟩ := Option.map_eq_some_iff.1 hchart
    exact hdated.resolve_left (by simp [hoff]) _ _ _ d hd (Int.lt_of_le_of_lt hnonneg hrange.1)

/-- What comes of a gap of a reliable and honest visit passes the check, a strict one too if no candle of
    the chart has a fault. -/
theorem exists_passes (h : v.Honest feed) (hprep : v.Prepared plan job)
    (hdated : v.offGrid plan = false ∨ feed.Dated) (hreliable : v.Reliable)
    (hclean : v.settings.strict = true → ∀ k c,
      feed.chart plan v.asset v.request.timeFrame k = some c → Series.faults [c] = [])
    {cache : Cache} {gap : Gap} (hgap : gap ∈ (job.collect cache).2) (state : v.σ) :
    ∃ cs, (job.gapRun v.registry v.world state gap).outcome = .ok cs ∧
      Job.Passes v.settings.strict cs := by
  obtain ⟨hnonneg, hlt, hbegun, -, -⟩ := h.gap_bounds hprep hgap
  obtain ⟨raw, hraw⟩ := hreliable.replies plan _ _ state hprep.plan_eq hnonneg hlt hbegun
  have hrun := (hprep.outcome_gapRun state gap).trans (congrArg _ hraw)
  have hfills := h.gapRun_spec hprep hgap hrun
  refine ⟨_, hrun, _, Series.issues_of_dated (h.dated_of_fills hprep hdated hgap hfills), fun hstrict => ?_⟩
  exact Series.faults_of_ascending (hprep.ascending_gapRun hrun) fun c hc =>
    hclean hstrict _ c ((hfills c).1 hc).1

/-- So a reliable visit to a chart without faults returns, however strict it is. -/
theorem exists_outcome_of_clean (h : v.Honest feed) (hprep : v.Prepared plan job)
    (hdated : v.offGrid plan = false ∨ feed.Dated) (hreliable : v.Reliable)
    (hclean : v.settings.strict = true → ∀ k c,
      feed.chart plan v.asset v.request.timeFrame k = some c → Series.faults [c] = [])
    (cache : Cache) : ∃ cs, (v.load cache).outcome = .ok cs := by
  refine hprep.exists_outcome fun gap hgap state cause hbreaks => ?_
  obtain ⟨cs, hrun, hpass⟩ := h.exists_passes hprep hdated hreliable hclean hgap state
  exact hpass.not_breaks (hreliable.going state) hrun hbreaks

/-- A reliable and lenient visit returns. -/
theorem exists_outcome (h : v.Honest feed) (hprep : v.Prepared plan job)
    (hdated : v.offGrid plan = false ∨ feed.Dated) (hreliable : v.Reliable)
    (hlenient : v.settings.strict = false) (cache : Cache) :
    ∃ cs, (v.load cache).outcome = .ok cs :=
  h.exists_outcome_of_clean hprep hdated hreliable (fun hstrict => absurd hstrict (by simp [hlenient])) cache

end Honest

end Visit

end Candlestick
