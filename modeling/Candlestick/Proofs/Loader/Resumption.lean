import Mathlib.Data.List.Forall2
import Candlestick.Proofs.Loader.Steady
import Candlestick.Proofs.Loader.Withdrawal

set_option autoImplicit false

/-! # A load that was interrupted is resumed where it stopped

A load that fails has stored the gaps before the one it failed at. When it is repeated the scan finds
those buckets, and the gaps that it finds are just the others; they bring the same candles as they
would have without the interruption, and the cache ends up the same. -/

namespace Candlestick

/-! ## What a feed has of a bucket -/

namespace Feed

variable {feed : Feed} {plan : IntervalPlan} {asset : String} {t : TimeFrame} {k : Int} {c : Candle}

theorem asset_of_chart (h : feed.chart plan asset t k = some c) : c.asset = asset := by
  unfold chart at h
  split at h
  · obtain ⟨d, hd, rfl⟩ := Option.map_eq_some_iff.1 h
    exact feed.asset_eq _ _ _ d hd
  · split at h
    · exact (Series.tags_of_bucketCandle h).1
    · exact absurd h (by simp)

/-- A bucket has a candle as soon as the feed has one that starts with it. -/
theorem exists_chart (hplan : plan.base.ms ∣ t.ms ∧ (plan.isDirect = true ↔ plan.base = t))
    (hgrid : feed.OnGrid plan.base) (hk : t.ms ∣ k)
    (hbar : (feed.bar asset plan.base k).isSome = true) :
    ∃ c, feed.chart plan asset t k = some c := by
  obtain ⟨d, hd⟩ := Option.isSome_iff_exists.1 hbar
  cases hdirect : plan.isDirect with
  | true =>
    rw [chart, if_pos hdirect, hd]
    exact ⟨_, rfl⟩
  | false =>
    have hstart := feed.start_eq _ _ _ d hd
    have hmem : d ∈ feed.members asset plan.base t.ms k := by
      refine (mem_members hgrid (Int.dvd_trans hplan.1 hk)).2 ⟨hstart ▸ hd, ?_, ?_⟩
      · omega
      · have := t.ms_pos
        omega
    rw [chart, if_neg (by simp [hdirect]), if_pos hk]
    cases hmembers : feed.members asset plan.base t.ms k with
    | nil => exact absurd (hmembers ▸ hmem) (by simp)
    | cons first rest => exact ⟨_, rfl⟩

end Feed

/-! ## What a gap brings is settled -/

/-- A gap is filled in order. -/
def Settles (chart : Int → Option Candle) (job : Job) (gap : Gap) (cs : List Candle) : Prop :=
  Visit.Fills chart job gap cs ∧ Series.Ascending cs

/-- There is one way only to do so. -/
theorem Settles.eq {chart : Int → Option Candle} {job : Job} {gap : Gap} {cs ds : List Candle}
    (hcs : Settles chart job gap cs) (hds : Settles chart job gap ds) : cs = ds :=
  hcs.2.ext hds.2 fun c => (hcs.1 c).trans (hds.1 c).symm

/-- What gaps bring, one after the other, is settled with them. -/
theorem eq_of_settles {chart : Int → Option Candle} {job : Job} {gaps : List Gap}
    {results results' : List (List Candle)} (h : List.Forall₂ (Settles chart job) gaps results)
    (h' : List.Forall₂ (Settles chart job) gaps results') : results = results' := by
  have hunique : Relator.RightUnique (Settles chart job) := fun _ _ _ => Settles.eq
  exact List.right_unique_forall₂' hunique h h'

namespace Visit

/-- The same visit in another world. -/
def facing (v : Visit) {σ : Type} (world : World σ) (state : σ) : Visit :=
  { v with σ := σ, world := world, state := state }

/-- A feed has a candle in every bucket that the visit's window is made of. -/
def Covered (v : Visit) (feed : Feed) (plan : IntervalPlan) : Prop :=
  ∀ first last, v.window = .ok (first, last) → ∀ k, plan.base.ms ∣ k → first ≤ k → k < last →
    (feed.bar v.asset plan.base k).isSome = true

theorem Prepared.facing {v : Visit} {plan : IntervalPlan} {job : Job} (h : v.Prepared plan job)
    {σ : Type} (world : World σ) (state : σ) : (v.facing world state).Prepared plan job :=
  ⟨h.not_blank, h.job_eq, h.plan_eq, h.window_eq, h.eq⟩

/-- A visit that may be withdrawn is as honest as the one that is not. -/
theorem Honest.facing_impatient {v : Visit} {feed : Feed}
    {answer : v.σ → Call → Except Failure Json × v.σ} (h : v.Honest feed)
    (hworld : v.world = World.patient answer) (n : Nat) (state : v.σ × Nat) :
    (v.facing (World.impatient answer n) state).Honest feed :=
  { h with
    answers := fun plan start stop state raw hplan hnonneg hlt hbegun hraw => by
      refine h.answers plan start stop state.1 raw hplan hnonneg hlt hbegun ?_
      rw [reply, hworld]
      exact Dialogue.outcome_of_impatient hraw }

namespace Honest

variable {v : Visit} {feed : Feed} {plan : IntervalPlan} {job : Job}

theorem settles_of_completed (h : v.Honest feed) (hprep : v.Prepared plan job) {cache : Cache}
    {strict : Bool} {done : List Gap} {results : List (List Candle)} {state state' : v.σ}
    (hsub : ∀ gap ∈ done, gap ∈ (job.collect cache).2)
    (hdone : job.Completed v.registry strict v.world state done results state') :
    List.Forall₂ (Settles (feed.chart plan v.asset v.request.timeFrame) job) done results :=
  hdone.forall₂ fun gap hgap _ _ hcs =>
    ⟨h.gapRun_spec hprep (hsub gap hgap) hcs, hprep.ascending_gapRun hcs⟩

/-- In a covered window each gap that has been filled is found, and nothing else has changed. -/
theorem hit_overlay_iff (h : v.Honest feed) (hprep : v.Prepared plan job)
    (hexact : v.offGrid plan = false) (hcovered : v.Covered feed plan) {cache : Cache} {done : List Gap}
    {results : List (List Candle)} (hsub : ∀ gap ∈ done, gap ∈ (job.collect cache).2)
    (hsettles : List.Forall₂ (Settles (feed.chart plan v.asset v.request.timeFrame) job) done results)
    (m : CandleMap) {k : Int} (hk : k ∈ Gaps.grid job.start job.stop job.timeFrame.ms) :
    Gaps.Hit (m.overlay results).get? job.asset k ↔
      Gaps.Hit m.get? job.asset k ∨ ∃ g ∈ done, g.start ≤ k ∧ k < g.stop := by
  have hgrid : feed.OnGrid plan.base := (h.onGrid plan hprep.plan_eq).resolve_left (by simp [hexact])
  have hplan := Registry.plan_spec hprep.plan_eq
  have hsound := h.sound hprep
  rw [hprep.timeFrame, Gaps.mem_grid v.request.timeFrame.ms_pos] at hk
  have hdvd : v.request.timeFrame.ms ∣ k := by
    have := Int.dvd_add hk.2.2 hsound.start_dvd
    rwa [Int.sub_add_cancel] at this
  obtain ⟨c, hc⟩ := Feed.exists_chart hplan hgrid hdvd
    (hcovered _ _ hprep.window_eq k (Int.dvd_trans hplan.1 hdvd) hk.1 hk.2.1)
  have hfetched : Fetched job done c ↔ ∃ g ∈ done, g.start ≤ k ∧ k < g.stop :=
    exists_congr fun g => and_congr_right fun hg => h.overlaps_gap_iff hprep hexact (hsub g hg) hc
  obtain ⟨hin, hout⟩ := get?_overlay_of_fills (fun _ _ => Feed.start_of_chart)
    (hsettles.imp fun _ _ => And.left) m k
  by_cases hdone : ∃ g ∈ done, g.start ≤ k ∧ k < g.stop
  · refine iff_of_true ⟨c, hin c hc (hfetched.2 hdone), ?_⟩ (Or.inr hdone)
    rw [hprep.asset]
    exact Feed.asset_of_chart hc
  · have hkept := hout fun d hd => by
      obtain rfl := Option.some.inj (hc.symm.trans hd)
      exact fun hfetch => hdone (hfetched.1 hfetch)
    rw [Gaps.Hit, hkept, or_iff_left hdone]
    exact Iff.rfl

/-- When some of its gaps have been filled the scan finds just the others. -/
theorem collect_overlay (h : v.Honest feed) (hprep : v.Prepared plan job)
    (hexact : v.offGrid plan = false) (hcovered : v.Covered feed plan) {cache cache' : Cache}
    {done rest : List Gap} {results : List (List Candle)}
    (hsplit : (job.collect cache).2 = done ++ rest)
    (hsettles : List.Forall₂ (Settles (feed.chart plan v.asset v.request.timeFrame) job) done results)
    (hcache : cache'.candles job.timeFrame = (cache.candles job.timeFrame).overlay results) :
    (job.collect cache').2 = rest := by
  have hsound := h.sound hprep
  rw [← hprep.timeFrame] at hsound
  have hlook : ∀ m : CandleMap, Gaps.lookUp m job.asset (!job.offGrid) = m.get? := fun m => by
    rw [hprep.offGrid, hexact]
    rfl
  have hbefore := Job.splits hsound cache
  have hafter := Job.splits hsound cache'
  rw [hlook] at hbefore hafter
  rw [hsplit] at hbefore
  rw [hcache] at hafter
  have hsub : ∀ gap ∈ done, gap ∈ (job.collect cache).2 := fun gap hgap =>
    hsplit ▸ List.mem_append_left rest hgap
  refine (hafter.congr fun k hk => ?_).unique hbefore.rest job.timeFrame.ms_pos
  exact h.hit_overlay_iff hprep hexact hcovered hsub hsettles _ hk

/-- A reliable and lenient visit asks for all its gaps in their order, and the cache is overlaid with
    what they bring. -/
theorem run_spec (h : v.Honest feed) (hprep : v.Prepared plan job) (hexact : v.offGrid plan = false)
    (hreliable : v.Reliable) (hlenient : v.settings.strict = false) (cache : Cache) :
    ∃ results,
      List.Forall₂ (Settles (feed.chart plan v.asset v.request.timeFrame) job)
        (job.collect (cache.claim job.timeFrame job.asset)).2 results ∧
      (v.load cache).calls = job.asked v.registry v.world v.state
        (job.collect (cache.claim job.timeFrame job.asset)).2 ∧
      (v.load cache).outcome = .ok ((v.load cache).cache.snapshot job.timeFrame job.asset) ∧
      (v.load cache).cache.shelf job.timeFrame = some ⟨job.asset,
        ((cache.claim job.timeFrame job.asset).candles job.timeFrame).overlay results⟩ ∧
      ∀ t, t ≠ job.timeFrame → (v.load cache).cache.shelf t = cache.shelf t := by
  obtain ⟨cs, hcs⟩ := h.exists_outcome hprep (Or.inl hexact) hreliable hlenient cache
  obtain ⟨done, rest, results, state', hsplit, hdone, hshelf, hother, hend⟩ :=
    job.fillsPrefix_run v.registry v.settings.strict v.world cache v.state
  obtain ⟨houtcome, -, hcalls, -⟩ :=
    job.run_eq_fill v.registry v.settings.strict v.world cache v.state
  rw [hprep.load] at hcs ⊢
  rcases hend with ⟨rfl, hend, -⟩ | ⟨_, _, cause, -, herror, -⟩
  · rw [List.append_nil] at hsplit
    have hok : (job.fill v.registry v.settings.strict v.world (cache.claim job.timeFrame job.asset)
        v.state (job.collect (cache.claim job.timeFrame job.asset)).2).1.outcome = .ok () := by
      rw [houtcome] at hcs
      obtain ⟨⟨⟩, hok, -⟩ := exists_of_map_eq_ok hcs
      exact hok
    refine ⟨results, ?_, hcalls.trans (Job.calls_fill hok), hend, hshelf, hother⟩
    rw [hsplit]
    exact h.settles_of_completed hprep (fun gap hgap => hsplit ▸ hgap) hdone
  · rw [herror] at hcs
    exact absurd hcs (by simp)

/-- A visit that fails has a job, and has completed the gaps before one that broke. -/
theorem exists_broken (h : v.Honest feed) (hplan : v.plan = .ok plan) {cache : Cache} {cause : Failure}
    (hcause : (v.load cache).outcome = .error cause) :
    ∃ job done gap later results state', v.Prepared plan job ∧
      (job.collect (cache.claim job.timeFrame job.asset)).2 = done ++ gap :: later ∧
      job.Completed v.registry v.settings.strict v.world v.state done results state' ∧
      job.Breaks v.registry v.settings.strict v.world state' gap cause ∧
      (v.load cache).cache.shelf job.timeFrame = some ⟨job.asset,
        ((cache.claim job.timeFrame job.asset).candles job.timeFrame).overlay results⟩ ∧
      ∀ t, t ≠ job.timeFrame → (v.load cache).cache.shelf t = cache.shelf t := by
  have hasset : v.request.asset? = some v.asset := by
    cases hasset : v.request.asset? with
    | none =>
      rw [Visit.load, LoadRequest.load_of_blank hasset] at hcause
      exact absurd hcause (by simp)
    | some asset => exact congrArg some (LoadRequest.asset?_eq_some.1 hasset).2
  obtain ⟨job, hprep⟩ := h.exists_prepared hplan hasset
  obtain ⟨done, rest, results, state', hsplit, hdone, hshelf, hother, hend⟩ :=
    job.fillsPrefix_run v.registry v.settings.strict v.world cache v.state
  rw [← hprep.load] at hshelf hother hend
  rcases hend with ⟨-, hok, -⟩ | ⟨gap, later, cause', rfl, herror, hbreaks⟩
  · rw [hok] at hcause
    exact absurd hcause (by simp)
  · rw [herror] at hcause
    cases hcause
    exact ⟨job, done, gap, later, results, state', hprep, hsplit, hdone, hbreaks, hshelf, hother⟩

end Honest

/-- A visit that fails has completed the gaps before one that broke. When it is repeated, from the cache
    that it left and at the same time, in a world that always answers, the scan finds that gap and the
    later ones; exactly their ranges are asked for, in their order; and what is returned and what is in
    the cache in the end are the same as if no visit had failed. -/
theorem load_resumes {v : Visit} {feed : Feed} {plan : IntervalPlan} {cache : Cache} {cause : Failure}
    (hplan : v.plan = .ok plan) (hexact : v.offGrid plan = false)
    (hlenient : v.settings.strict = false) (hcovered : v.Covered feed plan) (hfirst : v.Honest feed)
    (hcause : (v.load cache).outcome = .error cause)
    {σ : Type} {again : World σ} {state : σ} (hagain : (v.facing again state).Honest feed)
    (hreliable : (v.facing again state).Reliable)
    {τ : Type} {calm : World τ} {still : τ} (hcalm : (v.facing calm still).Honest feed)
    (hreliable' : (v.facing calm still).Reliable) :
    ∃ job done gap later, v.Prepared plan job ∧
      (job.collect (cache.claim job.timeFrame job.asset)).2 = done ++ gap :: later ∧
      (∃ results state', job.Completed v.registry v.settings.strict v.world v.state done results state' ∧
        job.Breaks v.registry v.settings.strict v.world state' gap cause) ∧
      (job.collect ((v.load cache).cache.claim job.timeFrame job.asset)).2 = gap :: later ∧
      ((v.facing again state).load (v.load cache).cache).calls =
        job.asked v.registry again state (gap :: later) ∧
      ((v.facing again state).load (v.load cache).cache).cache =
        ((v.facing calm still).load cache).cache ∧
      ∃ cs, ((v.facing again state).load (v.load cache).cache).outcome = .ok cs ∧
        ((v.facing calm still).load cache).outcome = .ok cs := by
  obtain ⟨job, done, gap, later, results, state', hprep, hsplit, hdone, hbreaks, hshelf, hother⟩ :=
    hfirst.exists_broken hplan hcause
  have hsettles := hfirst.settles_of_completed hprep
    (fun gap hgap => hsplit ▸ List.mem_append_left _ hgap) hdone
  have hclaim := hprep.claim_load cache
  rw [← hprep.timeFrame, ← hprep.asset] at hclaim
  have hleft := Cache.candles_eq _ _ hshelf
  have hcollect := hfirst.collect_overlay hprep hexact hcovered hsplit hsettles hleft
  obtain ⟨results₁, hsettles₁, hcalls₁, houtcome₁, hshelf₁, hother₁⟩ :=
    hagain.run_spec (hprep.facing again state) hexact hreliable hlenient (v.load cache).cache
  obtain ⟨results₂, hsettles₂, -, houtcome₂, hshelf₂, hother₂⟩ :=
    hcalm.run_spec (hprep.facing calm still) hexact hreliable' hlenient cache
  rw [hclaim, hcollect] at hsettles₁ hcalls₁
  rw [hclaim, hleft] at hshelf₁
  rw [hsplit] at hsettles₂
  have hresults : results₂ = results ++ results₁ :=
    eq_of_settles hsettles₂ (List.rel_append hsettles hsettles₁)
  have hcache : ((v.facing again state).load (v.load cache).cache).cache =
      ((v.facing calm still).load cache).cache := by
    refine Cache.ext fun t => ?_
    by_cases ht : t = job.timeFrame
    · rw [ht, hshelf₁, hshelf₂, hresults, CandleMap.overlay_append]
    · rw [hother₁ t ht, hother₂ t ht, hother t ht]
  refine ⟨job, done, gap, later, hprep, hsplit, ⟨results, state', hdone, hbreaks⟩, ?_, hcalls₁, hcache,
    _, houtcome₁, ?_⟩
  · rw [hclaim, hcollect]
  · rw [houtcome₂, hcache]

/-- A visit to three hours of a steady market. -/
def calmHours : Visit := .steady .spot 1 .hour1 3600000 14400000 18000000 "BTC"

/-- The same, withdrawn with its first call. -/
def cutHours : Visit :=
  calmHours.facing (World.impatient (Steady.world 1 .hour1).answer 1) ((), 0)

/-- A cache with the hour in the middle of the three. -/
def middleLoaded : Cache :=
  ((Visit.steady .spot 1 .hour1 7200000 10800000 18000000 "BTC").load Cache.empty).cache

theorem load_resumes_hours :
    let again := (cutHours.facing (Steady.world 1 .hour1) ()).load (cutHours.load middleLoaded).cache
    let whole := (cutHours.facing (Steady.world 1 .hour1) ()).load middleLoaded
    (cutHours.load middleLoaded).calls.length = 1 ∧ again.calls.length = 1 ∧
      again.cache = whole.cache ∧ ∃ cs, again.outcome = .ok cs ∧ whole.outcome = .ok cs := by
  intro again whole
  have hhonest : calmHours.Honest (Feed.steady 1) := honest_steady (by decide) (by decide) (by decide)
  have hreliable : calmHours.Reliable := reliable_steady (by decide) (by decide)
  have hcut : cutHours.Honest (Feed.steady 1) := hhonest.facing_impatient rfl 1 ((), 0)
  have hplan : cutHours.plan = .ok ⟨"1h", .hour1, 1⟩ := rfl
  have hcovered : cutHours.Covered (Feed.steady 1) ⟨"1h", .hour1, 1⟩ := by
    intro first last _ k hk _ _
    have hdvd : TimeFrame.hour1.ms ∣ k - weekOpening .hour1 := (Int.sub_zero k).symm ▸ hk
    exact Option.isSome_iff_exists.2 ⟨_, if_pos hdvd⟩
  obtain ⟨cause, hcause⟩ : ∃ cause, (cutHours.load middleLoaded).outcome = .error cause :=
    exists_of_not_isOk (by decide +kernel)
  obtain ⟨-, -, -, -, -, -, -, -, -, hcache, hreturns⟩ :=
    load_resumes hplan rfl rfl hcovered hcut hcause hhonest hreliable hhonest hreliable
  exact ⟨by decide +kernel, by decide +kernel, hcache, hreturns⟩

end Visit

end Candlestick
