import Candlestick.Proofs.Loader.Covering
import Candlestick.Proofs.Loader.Resumption
import Candlestick.Proofs.Loader.Tenancy
import Candlestick.Proofs.Loader.Visible

set_option autoImplicit false

/-! # Providers that list what opens in a range

Of candles that stand off the grid a provider gives those that open in the range that it is asked for.
It need not give the candle that opened before and reaches into the range; this is why the range of a
gap begins two buckets early. Nothing is asked here of the clock, of the settings or of the length of
the candles. -/

namespace Candlestick

/-! ## Candles of one source laid over each other -/

/-- Where all candles are those of one source, a map holds after some lists have been laid over it what
    it held and what is in the lists. -/
theorem CandleMap.get?_overlay_of_own {f : Int → Option Candle} {m : CandleMap}
    {lists : List (List Candle)} (hm : ∀ k c, m.get? k = some c → f k = some c)
    (hlists : ∀ cs ∈ lists, ∀ c ∈ cs, f c.start = some c) {k : Int} {c : Candle} :
    (m.overlay lists).get? k = some c ↔ (∃ cs ∈ lists, c ∈ cs ∧ c.start = k) ∨ m.get? k = some c := by
  refine ⟨get?_overlay_cases, fun h => ?_⟩
  have hown : f k = some c := by
    rcases h with ⟨cs, hcs, hc, rfl⟩ | hold
    · exact hlists cs hcs c hc
    · exact hm k c hold
  -- Lists and map agree with the source, so it does not matter which of them wrote last.
  have hsome : ((m.overlay lists).get? k).isSome = true := by
    rcases h with ⟨cs, hcs, hc, hstart⟩ | hold
    · have hmem : c ∈ lists.flatten.reverse := List.mem_reverse.2 (List.mem_flatten.2 ⟨cs, hcs, hc⟩)
      rw [get?_overlay, Option.isSome_or, List.find?_isSome.2 ⟨c, hmem, by simpa using hstart⟩,
        Bool.true_or]
    · exact isSome_get?_overlay lists (Option.isSome_of_eq_some hold)
  obtain ⟨d, hd⟩ := Option.isSome_iff_exists.1 hsome
  have hown' : f k = some d := by
    rcases get?_overlay_cases hd with ⟨cs, hcs, hmem, rfl⟩ | hold
    · exact hlists cs hcs d hmem
    · exact hm k d hold
  rw [hd, ← hown', hown]

/-! ## What is listed -/

/-- An answer for a range that holds candles of the feed only, and all that open in the range. -/
structure Feed.Lists (feed : Feed) (asset : String) (base : TimeFrame) (start stop : Int)
    (raw : List Candle) : Prop where
  own : ∀ c ∈ raw, feed.bar asset base c.start = some c
  all : ∀ k c, feed.bar asset base k = some c → start ≤ k → k < stop → c ∈ raw

/-- What is left of such an answer under a plan that takes the provider's own candles: those that
    overlap the range, as they are. -/
theorem Feed.Lists.mem_build {feed : Feed} {asset : String} {plan : IntervalPlan} {t : TimeFrame}
    {start stop : Int} {raw : List Candle} (h : feed.Lists asset plan.base start stop raw)
    (hdirect : plan.isDirect = true) (hbase : plan.base = t) {c : Candle} :
    c ∈ plan.build asset t start stop raw ↔ c ∈ raw ∧ c.overlaps start stop = true := by
  have hunique : ∀ a ∈ raw, ∀ b ∈ raw, a.start = b.start → a = b := by
    intro a ha b hb heq
    have hbar := h.own a ha
    rw [heq, h.own b hb] at hbar
    exact (Option.some.inj hbar).symm
  have hsame : ∀ c ∈ raw, c.relabel t.label = c := by
    intro c hc
    rw [Candle.relabel, ← hbase, ← feed.label_eq _ _ _ c (h.own c hc)]
  rw [IntervalPlan.build, if_pos hdirect, List.mem_map]
  constructor
  · rintro ⟨d, hd, rfl⟩
    obtain ⟨hraw, hover⟩ := (Series.mem_normalize_of_unique hunique).1 hd
    rw [hsame d hraw]
    exact ⟨hraw, hover⟩
  · rintro ⟨hraw, hover⟩
    exact ⟨c, (Series.mem_normalize_of_unique hunique).2 ⟨hraw, hover⟩, hsame c hraw⟩

/-- A window that has been snapped outward is sound at its own end. -/
theorem Window.sound_of_align {first last bucket start stop : Int} (hbucket : 0 < bucket)
    (h : align first last bucket = .ok (start, stop)) : Sound stop bucket start stop := by
  obtain ⟨hstart, hstop, hlt⟩ := dvd_of_align hbucket h
  refine ⟨hstart, hstop, ?_, hlt, by omega⟩
  rw [start_of_align h]
  exact Series.bucketStart_nonneg hbucket (Int.le_max_left _ _)

namespace Visit

/-- A visit for a timeframe that its source serves itself and off the grid. To every range that the
    visit may ask for, the provider's answer lists a feed. -/
structure Lists (v : Visit) (feed : Feed) : Prop where
  offGrid : ∀ plan, v.plan = .ok plan → v.offGrid plan = true
  answers : ∀ plan first last start stop state raw, v.plan = .ok plan → v.window = .ok (first, last) →
    0 ≤ start → start < stop → stop ≤ last → v.reply plan start stop state = .ok raw →
    feed.Lists v.asset plan.base start stop raw

/-- All candles that come of the gaps of a visit are of a kind. -/
def Brings (v : Visit) (kind : Candle → Prop) : Prop :=
  ∀ plan job, v.Prepared plan job → ∀ cache, ∀ gap ∈ (job.collect cache).2, ∀ state cs,
    (job.gapRun v.registry v.world state gap).outcome = .ok cs → ∀ c ∈ cs, kind c

namespace Prepared

variable {v : Visit} {plan : IntervalPlan} {job : Job}

/-- The window of a visit is sound, however late it is. -/
theorem sound (h : v.Prepared plan job) :
    Window.Sound job.stop job.timeFrame.ms job.start job.stop := by
  rw [h.timeFrame]
  exact Window.sound_of_align v.request.timeFrame.ms_pos h.window_eq

/-- Every gap lies in the window, and so does the end of the range that is asked for it. -/
theorem gap_bounds (h : v.Prepared plan job) {cache : Cache} {gap : Gap}
    (hgap : gap ∈ (job.collect cache).2) :
    0 ≤ job.fetchStart gap ∧ job.fetchStart gap < gap.stop ∧ job.start ≤ gap.start ∧
      gap.stop ≤ job.stop := by
  have hreach := Job.reaches h.sound hgap
  obtain ⟨hfrom, -, hto⟩ := (Job.splits h.sound cache).within gap hgap
  exact ⟨hreach.nonneg, hreach.fetchStart_lt, hfrom, hto⟩

/-- A load that returns and has left no gap is repeated without a call, and returns the same. -/
theorem load_again (h : v.Prepared plan job) {cache : Cache} {cs : List Candle}
    (hcs : (v.load cache).outcome = .ok cs) (hnone : (job.collect (v.load cache).cache).2 = [])
    {σ : Type} (world : World σ) (state : σ) :
    let again := (v.facing world state).load (v.load cache).cache
    again.calls = [] ∧ again.outcome = .ok cs ∧ again.cache = (v.load cache).cache := by
  intro again
  have hclaim := h.claim_load cache
  rw [← h.timeFrame, ← h.asset] at hclaim
  have hagain : again = job.run v.registry v.settings.strict world (v.load cache).cache state :=
    (h.facing world state).load (v.load cache).cache
  obtain ⟨houtcome, hcache, hcalls, -⟩ :=
    job.run_eq_fill v.registry v.settings.strict world (v.load cache).cache state
  rw [← hagain, hclaim, hnone] at houtcome hcache hcalls
  obtain ⟨_, _, -, -, hfirst⟩ := h.exists_completed hcs
  exact ⟨hcalls, hfirst ▸ houtcome, hcache⟩

end Prepared

/-! ## Sessions -/

/-- After a session whose loads of a timeframe for an asset bring candles of a kind only, the map that
    the asset owns holds such candles only. -/
theorem forall_after {kind : Candle → Prop} {t : TimeFrame} {asset : String} {events : List Event}
    (h : ∀ u, Event.load u ∈ events → u.request.timeFrame = t → u.asset = asset → u.Brings kind)
    (howner : (Session.after events).owner t = some asset) {k : Int} {c : Candle}
    (hc : ((Session.after events).candles t).get? k = some c) : kind c ∧ c.start = k := by
  induction events using List.reverseRecOn with
  | nil => exact absurd howner (by simp [Session.after, Cache.owner, Cache.empty])
  | append_singleton events e ih =>
    have hbefore := ih fun u hu => h u (List.mem_append_left _ hu)
    rw [Session.after_concat] at howner hc
    cases e with
    | clear => exact absurd howner (by simp [Event.apply, Cache.owner, Cache.empty])
    | load v =>
      rcases v.claim?_cases with ⟨-, hsame⟩ | ⟨-, plan, job, hprep⟩
      · rw [Event.apply, hsame] at howner hc
        exact hbefore howner hc
      obtain ⟨_, _, _, _, -, -, hshelf, hother, -⟩ :=
        job.fillsPrefix_run v.registry v.settings.strict v.world (Session.after events) v.state
      rw [← hprep.load, hprep.timeFrame, hprep.asset] at hshelf
      rw [← hprep.load, hprep.timeFrame] at hother
      -- Only a load of the same timeframe touches the shelf, and only one for the asset leaves it its owner.
      by_cases ht : v.request.timeFrame = t
      · subst ht
        rw [Event.apply, Cache.owner, hshelf] at howner
        obtain rfl : v.asset = asset := Option.some.inj howner
        rcases hprep.mem_load (h v (by simp) rfl rfl plan job hprep _) hc with hnew | hold
        · exact hnew
        · obtain ⟨howner, hold⟩ := Cache.mem_claim_of_mem _ _ hold
          exact hbefore howner hold
      · have hsame := hother t (Ne.symm ht)
        rw [Event.apply, Cache.owner, hsame] at howner
        rw [Event.apply, Cache.candles, hsame] at hc
        exact hbefore howner hc

/-- What a visit finds after such a session is of that kind. -/
theorem forall_claimed {v : Visit} {kind : Candle → Prop} {events : List Event}
    (h : ∀ u, Event.load u ∈ events → u.request.timeFrame = v.request.timeFrame → u.asset = v.asset →
      u.Brings kind) {k : Int} {c : Candle}
    (hc : (v.claimed (Session.after events)).get? k = some c) : kind c ∧ c.start = k := by
  obtain ⟨howner, hold⟩ := Cache.mem_claim_of_mem _ _ hc
  exact forall_after h howner hold

namespace Lists

variable {v : Visit} {feed : Feed} {plan : IntervalPlan} {job : Job}

/-- A source that serves a timeframe off the grid serves it itself. -/
theorem direct (h : v.Lists feed) (hplan : v.plan = .ok plan) :
    plan.isDirect = true ∧ plan.base = v.request.timeFrame := by
  have hdirect : plan.isDirect = true := (Bool.and_eq_true_iff.1 (h.offGrid plan hplan)).1
  exact ⟨hdirect, (Registry.plan_spec hplan).2.1 hdirect⟩

/-- What comes of a gap: the listed candles that overlap the range asked for. -/
theorem gapRun_spec (h : v.Lists feed) (hprep : v.Prepared plan job) {cache : Cache} {gap : Gap}
    (hgap : gap ∈ (job.collect cache).2) {state : v.σ} {cs : List Candle}
    (hcs : (job.gapRun v.registry v.world state gap).outcome = .ok cs) :
    ∃ raw, v.reply plan (job.fetchStart gap) gap.stop state = .ok raw ∧
      feed.Lists v.asset v.request.timeFrame (job.fetchStart gap) gap.stop raw ∧
      ∀ c, c ∈ cs ↔ c ∈ raw ∧ c.overlaps (job.fetchStart gap) gap.stop = true := by
  obtain ⟨hnonneg, hlt, -, hto⟩ := hprep.gap_bounds hgap
  obtain ⟨hdirect, hbase⟩ := h.direct hprep.plan_eq
  obtain ⟨raw, hreply, rfl⟩ := hprep.exists_reply hcs
  have hraw := h.answers plan _ _ _ _ state raw hprep.plan_eq hprep.window_eq hnonneg hlt hto hreply
  exact ⟨raw, hreply, hbase ▸ hraw, fun c => hraw.mem_build hdirect hbase⟩

/-- The gaps of such a visit split its window, by the candles that hold the starts of the buckets. -/
theorem splits (h : v.Lists feed) (hprep : v.Prepared plan job) (cache : Cache) :
    Gaps.Splits (Gaps.Hit (Gaps.lookUp (cache.candles v.request.timeFrame) v.asset false) v.asset)
      job.start job.stop v.request.timeFrame.ms (job.collect cache).2 := by
  have hsplits := Job.splits hprep.sound cache
  rwa [hprep.timeFrame, hprep.asset, hprep.offGrid, h.offGrid plan hprep.plan_eq] at hsplits

/-- So all that it brings is of the feed. -/
theorem brings (h : v.Lists feed) :
    v.Brings fun c => feed.bar v.asset v.request.timeFrame c.start = some c := by
  intro plan job hprep cache gap hgap state cs hcs c hc
  obtain ⟨raw, -, hraw, hmem⟩ := h.gapRun_spec hprep hgap hcs
  exact hraw.own c ((hmem c).1 hc).1

section Load

variable (h : v.Lists feed) (hprep : v.Prepared plan job) {cache : Cache}
  (hclaimed : ∀ k c, (v.claimed cache).get? k = some c → feed.bar v.asset v.request.timeFrame k = some c)
  {cs : List Candle} (hcs : (v.load cache).outcome = .ok cs)
include h hprep hclaimed hcs

/-- What a visit that returns leaves: what it found, and what came of its gaps. -/
theorem get?_load_iff : ∃ results state',
    job.Completed v.registry v.settings.strict v.world v.state
      (job.collect (cache.claim job.timeFrame job.asset)).2 results state' ∧
    ∀ k c, ((v.load cache).cache.candles v.request.timeFrame).get? k = some c ↔
      (∃ ds ∈ results, c ∈ ds ∧ c.start = k) ∨ (v.claimed cache).get? k = some c := by
  obtain ⟨results, state', hdone, hmap, -⟩ := hprep.exists_completed hcs
  have hown : ∀ ds ∈ results, ∀ c ∈ ds, feed.bar v.asset v.request.timeFrame c.start = some c := by
    have hall := hdone.forall₂ fun gap hgap => h.brings plan job hprep _ gap hgap
    intro ds hds
    obtain ⟨_, _, hkind⟩ := Job.exists_of_forall₂ hall ds hds
    exact hkind
  refine ⟨results, state', hdone, fun k c => ?_⟩
  rw [hmap]
  exact CandleMap.get?_overlay_of_own hclaimed hown

/-- What it found is still there. -/
theorem get?_of_claimed {k : Int} {c : Candle} (hc : (v.claimed cache).get? k = some c) :
    ((v.load cache).cache.candles v.request.timeFrame).get? k = some c := by
  obtain ⟨results, state', -, hmap⟩ := h.get?_load_iff hprep hclaimed hcs
  exact (hmap k c).2 (Or.inr hc)

/-- Each gap has been answered; what came of it has passed the check and is there. -/
theorem exists_filled {gap : Gap} (hgap : gap ∈ (job.collect (cache.claim job.timeFrame job.asset)).2) :
    ∃ state raw ds, v.reply plan (job.fetchStart gap) gap.stop state = .ok raw ∧
      feed.Lists v.asset v.request.timeFrame (job.fetchStart gap) gap.stop raw ∧
      (∀ c, c ∈ ds ↔ c ∈ raw ∧ c.overlaps (job.fetchStart gap) gap.stop = true) ∧
      Job.Passes v.settings.strict ds ∧
      ∀ c ∈ ds, ((v.load cache).cache.candles v.request.timeFrame).get? c.start = some c := by
  obtain ⟨results, state', hdone, hmap⟩ := h.get?_load_iff hprep hclaimed hcs
  obtain ⟨ds, hds, state, hrun, hpass⟩ := hdone.exists_of_mem hgap
  obtain ⟨raw, hreply, hraw, hmem⟩ := h.gapRun_spec hprep hgap hrun
  exact ⟨state, raw, ds, hreply, hraw, hmem, hpass, fun c hc => (hmap _ c).2 (Or.inl ⟨ds, hds, hc, rfl⟩)⟩

/-- A candle that opens less than two buckets before a missing bucket has been listed, and is there unless
    it had ended before the range that was asked for. -/
theorem exists_listed (hlook : 2 * v.request.timeFrame.ms ≤ job.start) {t : Int}
    (ht : t ∈ Gaps.grid job.start job.stop v.request.timeFrame.ms)
    (hmissed : ¬ Gaps.Hit (Gaps.lookUp (v.claimed cache) v.asset false) v.asset t) {c : Candle}
    (hbar : feed.bar v.asset v.request.timeFrame c.start = some c) (hfrom : c.start ≤ t)
    (hnear : t < c.start + 2 * v.request.timeFrame.ms) :
    ∃ start stop state raw, v.reply plan start stop state = .ok raw ∧ c ∈ raw ∧ start ≤ c.start ∧
      (start < c.stop →
        ((v.load cache).cache.candles v.request.timeFrame).get? c.start = some c) := by
  have hsplits := h.splits hprep (cache.claim job.timeFrame job.asset)
  rw [hprep.candles_claim] at hsplits
  obtain ⟨gap, hgap, hge, hlt⟩ := (hsplits.covers t ht).resolve_left hmissed
  obtain ⟨state, raw, ds, hreply, hraw, hmem, -, hstored⟩ := h.exists_filled hprep hclaimed hcs hgap
  -- The gap's range begins two buckets before the gap, hence not after the candle.
  have hstart : job.fetchStart gap ≤ c.start := by
    have hbegin := (hsplits.within gap hgap).1
    rw [Job.fetchStart, hprep.offGrid, h.offGrid plan hprep.plan_eq, if_pos rfl, lookbackBuckets,
      hprep.timeFrame]
    omega
  have hlisted := hraw.all _ c hbar hstart (by omega)
  refine ⟨_, _, state, raw, hreply, hlisted, hstart, fun hends => hstored c ((hmem c).2 ⟨hlisted, ?_⟩)⟩
  exact Bool.and_eq_true_iff.2 ⟨decide_eq_true hends, decide_eq_true (by omega)⟩

end Load

end Lists

end Visit

end Candlestick
