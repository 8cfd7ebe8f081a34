import Candlestick.Loader.Load
import Candlestick.Proofs.Loader.Cache
import Candlestick.Proofs.Network.Dialogue
import Candlestick.Proofs.Series.Quality

set_option autoImplicit false

/-! # A load that fails has filled the gaps before the failing one

Gaps are filled one after the other, and the candles of a gap are stored when all of them have come
and have passed the quality check. So wherever a load ends, the map is the one that was claimed,
overlaid with the results of the gaps that were completed, in their order. -/

namespace Candlestick

variable {σ : Type} {job : Job} {registry : Registry} {strict : Bool} {world : World σ}

namespace Job

/-- Candles pass the quality check: it can be made, and a strict one finds no faults. -/
def Passes (strict : Bool) (cs : List Candle) : Prop :=
  ∃ faults, Series.issues cs = .ok faults ∧ (strict = true → faults = [])

/-- Some of the candles that pass, in order, pass as well. -/
theorem Passes.of_subset {strict : Bool} {cs ds : List Candle} (h : Passes strict cs)
    (hds : Series.Ascending ds) (hsub : ∀ d ∈ ds, d ∈ cs) : Passes strict ds := by
  obtain ⟨found, hissues, hnone⟩ := h
  obtain ⟨hdated, rfl⟩ := Series.issues_eq_ok hissues
  exact ⟨_, Series.issues_of_dated fun d hd => hdated d (hsub d hd),
    fun hstrict => Series.faults_of_subset (hnone hstrict) hds hsub⟩

/-- The run of the provider's dialogue for a gap. -/
def gapRun (job : Job) (registry : Registry) (world : World σ) (state : σ) (gap : Gap) :
    Run σ (List Candle) :=
  (registry.candles job.source job.asset job.quote (job.fetchStart gap) gap.stop job.timeFrame).run
    world state

/-- Gaps are completed one after the other: before each the request does not stand withdrawn, the
    provider's candles come to the end, and they pass the check. -/
inductive Completed (job : Job) (registry : Registry) (strict : Bool) (world : World σ) :
    σ → List Gap → List (List Candle) → σ → Prop
  | nil (state : σ) : Completed job registry strict world state [] [] state
  | cons {state state' : σ} {gap : Gap} {rest : List Gap} {cs : List Candle}
      {others : List (List Candle)} (hgoing : world.withdrawn state = false)
      (hcs : (job.gapRun registry world state gap).outcome = .ok cs) (hpass : Passes strict cs)
      (hrest : Completed job registry strict world (job.gapRun registry world state gap).state rest
        others state') :
      Completed job registry strict world state (gap :: rest) (cs :: others) state'

/-- What holds of whatever comes of each gap holds of the results, gap by gap, -/
theorem Completed.forall₂ {state state' : σ} {done : List Gap} {results : List (List Candle)}
    {P : Gap → List Candle → Prop} (h : Completed job registry strict world state done results state')
    (hgap : ∀ gap ∈ done, ∀ state cs, (job.gapRun registry world state gap).outcome = .ok cs →
      P gap cs) :
    List.Forall₂ P done results := by
  induction h with
  | nil state => exact .nil
  | cons hgoing hcs hpass hrest ih =>
    exact .cons (hgap _ List.mem_cons_self _ _ hcs)
      (ih fun gap hmem => hgap gap (List.mem_cons_of_mem _ hmem))

/-- and so of each result with some gap. -/
theorem exists_of_forall₂ {P : Gap → List Candle → Prop} {done : List Gap}
    {results : List (List Candle)} (h : List.Forall₂ P done results) :
    ∀ cs ∈ results, ∃ gap ∈ done, P gap cs := by
  induction h with
  | nil => exact fun cs hcs => absurd hcs (by simp)
  | @cons gap cs gaps results hhead _ ih =>
    intro cs' hcs'
    rcases List.mem_cons.1 hcs' with rfl | hcs'
    · exact ⟨gap, List.mem_cons_self, hhead⟩
    · obtain ⟨g, hg, hP⟩ := ih cs' hcs'
      exact ⟨g, List.mem_cons_of_mem _ hg, hP⟩

/-- Each gap that was completed has its result. -/
theorem Completed.exists_of_mem {state state' : σ} {done : List Gap} {results : List (List Candle)}
    (h : Completed job registry strict world state done results state') {gap : Gap} (hgap : gap ∈ done) :
    ∃ cs ∈ results, ∃ state, (job.gapRun registry world state gap).outcome = .ok cs ∧ Passes strict cs := by
  induction h with
  | nil state => exact absurd hgap List.not_mem_nil
  | @cons state _ first _ cs _ hgoing hcs hpass hrest ih =>
    rcases List.mem_cons.1 hgap with rfl | hlater
    · exact ⟨cs, List.mem_cons_self, state, hcs, hpass⟩
    · obtain ⟨ds, hds, hrun⟩ := ih hlater
      exact ⟨ds, List.mem_cons_of_mem _ hds, hrun⟩

/-- Why a gap is not completed: the request stands withdrawn, the provider's dialogue fails on one of
    its pages, or the candles cannot be checked or do not pass. -/
inductive Breaks (job : Job) (registry : Registry) (strict : Bool) (world : World σ) (state : σ)
    (gap : Gap) : Failure → Prop
  | withdrawn (h : world.withdrawn state = true) : Breaks job registry strict world state gap .aborted
  | fetch {cause : Failure} (hgoing : world.withdrawn state = false)
      (h : (job.gapRun registry world state gap).outcome = .error cause) :
      Breaks job registry strict world state gap cause
  | unchecked {cs : List Candle} {cause : Failure} (hgoing : world.withdrawn state = false)
      (hcs : (job.gapRun registry world state gap).outcome = .ok cs)
      (h : Series.issues cs = .error cause) : Breaks job registry strict world state gap cause
  | faulty {cs : List Candle} {faults : List Issue} (hgoing : world.withdrawn state = false)
      (hcs : (job.gapRun registry world state gap).outcome = .ok cs)
      (h : Series.issues cs = .ok faults) (hstrict : strict = true) (hfaults : faults ≠ []) :
      Breaks job registry strict world state gap (.poorQuality faults)

/-- A gap whose candles come and pass does not break. -/
theorem Passes.not_breaks {state : σ} {gap : Gap} {cs : List Candle} (h : Passes strict cs)
    (hgoing : world.withdrawn state = false)
    (hcs : (job.gapRun registry world state gap).outcome = .ok cs) {cause : Failure} :
    ¬ Breaks job registry strict world state gap cause := by
  obtain ⟨found, hfound, hnone⟩ := h
  intro hbreaks
  cases hbreaks with
  | withdrawn hwithdrawn =>
    rw [hgoing] at hwithdrawn
    exact absurd hwithdrawn (by simp)
  | fetch _ hfails =>
    rw [hcs] at hfails
    exact absurd hfails (by simp)
  | unchecked _ hrun hissues =>
    obtain rfl := Except.ok.inj (hcs.symm.trans hrun)
    rw [hfound] at hissues
    exact absurd hissues (by simp)
  | faulty _ hrun hissues hstrict hfaults =>
    obtain rfl := Except.ok.inj (hcs.symm.trans hrun)
    obtain rfl := Except.ok.inj (hfound.symm.trans hissues)
    exact hfaults (hnone hstrict)

/-- The check leaves the world alone, and gives the candles where they pass. -/
theorem run_checkQuality (job : Job) (strict : Bool) (world : World σ) (state : σ) (cs : List Candle) :
    ((job.checkQuality strict cs).run world state).state = state ∧
      ((job.checkQuality strict cs).run world state).calls = [] ∧
      ((Passes strict cs ∧ ((job.checkQuality strict cs).run world state).outcome = .ok cs) ∨
        (∃ cause, Series.issues cs = .error cause ∧
          ((job.checkQuality strict cs).run world state).outcome = .error cause) ∨
        (∃ faults, Series.issues cs = .ok faults ∧ strict = true ∧ faults ≠ [] ∧
          ((job.checkQuality strict cs).run world state).outcome = .error (.poorQuality faults))) := by
  unfold checkQuality Passes
  split
  · rename_i cause hissues
    exact ⟨rfl, rfl, Or.inr (Or.inl ⟨cause, hissues, rfl⟩)⟩
  · rename_i hissues
    exact ⟨rfl, rfl, Or.inl ⟨⟨[], hissues, fun _ => rfl⟩, rfl⟩⟩
  · rename_i faults hne hissues
    cases strict with
    | true => exact ⟨rfl, rfl, Or.inr (Or.inr ⟨faults, hissues, rfl, hne, rfl⟩)⟩
    | false => exact ⟨rfl, rfl, Or.inl ⟨⟨faults, hissues, fun h => absurd h (by simp)⟩, rfl⟩⟩

/-- A gap is completed, with the calls of the provider's dialogue, and leaves the world where that has
    left it; or it breaks. -/
theorem fetchGap_cases (job : Job) (registry : Registry) (strict : Bool) (world : World σ) (state : σ)
    (gap : Gap) :
    (∃ cs, ((job.fetchGap registry strict gap).run world state).outcome = .ok cs ∧
        world.withdrawn state = false ∧ (job.gapRun registry world state gap).outcome = .ok cs ∧
        Passes strict cs ∧
        ((job.fetchGap registry strict gap).run world state).calls =
          (job.gapRun registry world state gap).calls ∧
        ((job.fetchGap registry strict gap).run world state).state =
          (job.gapRun registry world state gap).state) ∨
      ∃ cause, ((job.fetchGap registry strict gap).run world state).outcome = .error cause ∧
        Breaks job registry strict world state gap cause := by
  by_cases hw : world.withdrawn state = true
  · refine Or.inr ⟨.aborted, ?_, .withdrawn hw⟩
    rw [fetchGap, Dialogue.run, if_pos hw]
  have hgoing : world.withdrawn state = false := by simpa using hw
  rw [fetchGap, Dialogue.run, if_neg hw]
  cases hgap : (job.gapRun registry world state gap).outcome with
  | error cause =>
    exact Or.inr ⟨cause, Dialogue.outcome_run_bind_of_error hgap _, .fetch hgoing hgap⟩
  | ok cs =>
    rw [Dialogue.run_bind_of_ok hgap]
    obtain ⟨hstate, hcalls, hpass | hunchecked | hfaulty⟩ :=
      job.run_checkQuality strict world (job.gapRun registry world state gap).state cs
    · refine Or.inl ⟨cs, hpass.2, hgoing, rfl, hpass.1, ?_, hstate⟩
      exact (congrArg (_ ++ ·) hcalls).trans (List.append_nil _)
    · obtain ⟨cause, hissues, houtcome⟩ := hunchecked
      exact Or.inr ⟨cause, houtcome, .unchecked hgoing hgap hissues⟩
    · obtain ⟨faults, hissues, hstrict, hne, houtcome⟩ := hfaulty
      exact Or.inr ⟨_, houtcome, .faulty hgoing hgap hissues hstrict hne⟩

/-- Filling ends with a gap that is not completed, -/
theorem fill_of_error {state : σ} {gap : Gap} {cause : Failure}
    (h : ((job.fetchGap registry strict gap).run world state).outcome = .error cause) (rest : List Gap)
    (cache : Cache) :
    job.fill registry strict world cache state (gap :: rest) =
      let run := (job.fetchGap registry strict gap).run world state
      (⟨.error cause, run.calls, run.notes, run.state⟩, cache) := by
  simp only [fill, h]

/-- and stores the candles of one that is, before it goes on with the others. -/
theorem fill_of_ok {state : σ} {gap : Gap} {cs : List Candle}
    (h : ((job.fetchGap registry strict gap).run world state).outcome = .ok cs) (rest : List Gap)
    (cache : Cache) :
    job.fill registry strict world cache state (gap :: rest) =
      let run := (job.fetchGap registry strict gap).run world state
      let others := job.fill registry strict world (cache.store job.timeFrame cs) run.state rest
      ({ others.1 with calls := run.calls ++ others.1.calls, notes := run.notes ++ others.1.notes },
        others.2) := by
  simp only [fill, h]

/-- Filling begins with the calls for the first gap. -/
theorem exists_calls_fill (job : Job) (registry : Registry) (strict : Bool) (world : World σ) (gap : Gap)
    (rest : List Gap) (cache : Cache) (state : σ) :
    ∃ later, (job.fill registry strict world cache state (gap :: rest)).1.calls =
      ((job.fetchGap registry strict gap).run world state).calls ++ later := by
  cases hrun : ((job.fetchGap registry strict gap).run world state).outcome with
  | error cause =>
    rw [fill_of_error hrun]
    exact ⟨[], (List.append_nil _).symm⟩
  | ok cs =>
    rw [fill_of_ok hrun]
    exact ⟨_, rfl⟩

/-- Wherever filling ends, some of the gaps have been completed and their results overlay the shelf;
    no other shelf is touched. It ends after all gaps, or with the failure of the next one. -/
theorem fill_spec (job : Job) (registry : Registry) (strict : Bool) (world : World σ) (gaps : List Gap)
    (cache : Cache) (state : σ) :
    ∃ done rest results state', gaps = done ++ rest ∧
      Completed job registry strict world state done results state' ∧
      ((job.fill registry strict world cache state gaps).2.shelf job.timeFrame =
        (cache.shelf job.timeFrame).map fun shelf =>
          { shelf with candles := shelf.candles.overlay results }) ∧
      (∀ t, t ≠ job.timeFrame →
        (job.fill registry strict world cache state gaps).2.shelf t = cache.shelf t) ∧
      (((job.fill registry strict world cache state gaps).1.outcome = .ok () ∧ rest = [] ∧
          (job.fill registry strict world cache state gaps).1.state = state') ∨
        ∃ gap later cause, rest = gap :: later ∧
          (job.fill registry strict world cache state gaps).1.outcome = .error cause ∧
          Breaks job registry strict world state' gap cause) := by
  induction gaps generalizing cache state with
  | nil =>
    refine ⟨[], [], [], state, rfl, .nil state, ?_, fun t _ => rfl, Or.inl ⟨rfl, rfl, rfl⟩⟩
    cases hshelf : cache.shelf job.timeFrame <;> simp [fill, hshelf]
  | cons gap rest ih =>
    rcases job.fetchGap_cases registry strict world state gap with
      ⟨cs, houtcome, hgoing, hcs, hpass, -, hstate⟩ | ⟨cause, houtcome, hbreaks⟩
    · obtain ⟨done, rest', results, state', hsplit, hdone, hshelf, hother, hend⟩ :=
        ih (cache.store job.timeFrame cs) ((job.fetchGap registry strict gap).run world state).state
      rw [hstate] at hdone
      rw [fill_of_ok houtcome]
      refine ⟨gap :: done, rest', cs :: results, state', congrArg (gap :: ·) hsplit,
        .cons hgoing hcs hpass hdone, ?_, fun t ht => ?_, hend⟩
      · rw [hshelf, Cache.shelf_store, Option.map_map]
        rfl
      · rw [hother t ht, Cache.shelf_store_of_ne cache job.timeFrame cs ht]
    · rw [fill_of_error houtcome]
      refine ⟨[], gap :: rest, [], state, rfl, .nil state, ?_, fun t _ => rfl,
        Or.inr ⟨gap, rest, cause, rfl, rfl, hbreaks⟩⟩
      cases hshelf : cache.shelf job.timeFrame <;> simp

/-- The calls for gaps whose ranges are fetched one after the other. -/
def asked (job : Job) (registry : Registry) (world : World σ) (state : σ) : List Gap → List Call
  | [] => []
  | gap :: rest =>
    (job.gapRun registry world state gap).calls ++
      job.asked registry world (job.gapRun registry world state gap).state rest

/-- Filling that comes to its end has asked for its gaps in their order, and for nothing else. -/
theorem calls_fill {gaps : List Gap} {cache : Cache} {state : σ}
    (h : (job.fill registry strict world cache state gaps).1.outcome = .ok ()) :
    (job.fill registry strict world cache state gaps).1.calls = job.asked registry world state gaps := by
  induction gaps generalizing cache state with
  | nil => rfl
  | cons gap rest ih =>
    rcases job.fetchGap_cases registry strict world state gap with
      ⟨cs, houtcome, -, -, -, hcalls, hstate⟩ | ⟨cause, houtcome, -⟩
    · rw [fill_of_ok houtcome] at h ⊢
      rw [asked, ← hcalls, ← hstate]
      exact congrArg (_ ++ ·) (ih h)
    · rw [fill_of_error houtcome] at h
      exact absurd h (by simp)

/-- A run fills the gaps of the claimed cache and gives the asset's candles. Where everything has been
    found there is nothing to be filled. -/
theorem run_eq_fill (job : Job) (registry : Registry) (strict : Bool) (world : World σ) (cache : Cache)
    (state : σ) :
    let claimed := cache.claim job.timeFrame job.asset
    let filled := job.fill registry strict world claimed state (job.collect claimed).2
    let load := job.run registry strict world cache state
    load.outcome = filled.1.outcome.map (fun _ => filled.2.snapshot job.timeFrame job.asset) ∧
      load.cache = filled.2 ∧ load.calls = filled.1.calls ∧ load.state = filled.1.state := by
  rcases hcollect : job.collect (cache.claim job.timeFrame job.asset) with ⟨cached, gaps⟩
  simp only [run, hcollect]
  split
  · rename_i hfull
    simp only [Bool.and_eq_true, List.isEmpty_iff] at hfull
    rw [hfull.1]
    exact ⟨rfl, rfl, rfl, rfl⟩
  · exact ⟨rfl, rfl, rfl, rfl⟩

/-- What a load has done of a job that started with a cache and a state of the world. The gaps that
    the scan of the claimed map found fall into those that were completed and those that were not.
    The map is the claimed one, overlaid with the results of the completed gaps, and no other shelf
    has been touched. Either all gaps were completed and the load returns the asset's candles, or the
    first of those that were not has broken, and the load fails with its cause. -/
def FillsPrefix (job : Job) (registry : Registry) (strict : Bool) (world : World σ) (cache : Cache)
    (state : σ) (load : Load σ) : Prop :=
  ∃ done rest results state',
    (job.collect (cache.claim job.timeFrame job.asset)).2 = done ++ rest ∧
    Completed job registry strict world state done results state' ∧
    load.cache.shelf job.timeFrame =
      some ⟨job.asset,
        ((cache.claim job.timeFrame job.asset).candles job.timeFrame).overlay results⟩ ∧
    (∀ t, t ≠ job.timeFrame → load.cache.shelf t = cache.shelf t) ∧
    ((rest = [] ∧ load.outcome = .ok (load.cache.snapshot job.timeFrame job.asset) ∧
        load.state = state') ∨
      ∃ gap later cause, rest = gap :: later ∧ load.outcome = .error cause ∧
        Breaks job registry strict world state' gap cause)

/-- Every run of a job fills a prefix of its gaps. -/
theorem fillsPrefix_run (job : Job) (registry : Registry) (strict : Bool) (world : World σ)
    (cache : Cache) (state : σ) :
    job.FillsPrefix registry strict world cache state
      (job.run registry strict world cache state) := by
  have hclaim := cache.shelf_claim job.timeFrame job.asset
  obtain ⟨houtcome, hcache, -, hstate⟩ := job.run_eq_fill registry strict world cache state
  obtain ⟨done, rest, results, state', hsplit, hdone, hshelf, hother, hend⟩ :=
    job.fill_spec registry strict world (job.collect (cache.claim job.timeFrame job.asset)).2
      (cache.claim job.timeFrame job.asset) state
  rw [FillsPrefix, houtcome, hcache, hstate]
  refine ⟨done, rest, results, state', hsplit, hdone, ?_, fun t ht => ?_, ?_⟩
  · rw [hshelf, hclaim]
    rfl
  · rw [hother t ht]
    exact cache.shelf_claim_of_ne job.asset ht
  · rcases hend with ⟨hok, hrest, hend⟩ | ⟨gap, later, cause, hrest, herror, hbreaks⟩
    · refine Or.inl ⟨hrest, ?_, hend⟩
      rw [hok]
      rfl
    · refine Or.inr ⟨gap, later, cause, hrest, ?_, hbreaks⟩
      rw [herror]
      rfl

end Job

namespace LoadRequest

/-- The quote asset of a load: its own, or that of the settings. -/
def quoteFor (r : LoadRequest) (settings : LoaderSettings) : String :=
  if Symbol.leg (r.quote.getD "") = "" then settings.quote else Symbol.leg (r.quote.getD "")

/-- A job is the load's own: its source, timeframe, asset and quote asset, with the window that the
    load's range is widened and snapped to. -/
theorem job_eq_ok {settings : LoaderSettings} {now : Int} {r : LoadRequest} {asset : String}
    (h : r.job registry settings now asset = .ok job) :
    ∃ plan, registry.plan r.source r.timeFrame = .ok plan ∧
      Window.align (Window.expand settings now r.start r.stop r.timeFrame.ms).1
        (Window.expand settings now r.start r.stop r.timeFrame.ms).2 r.timeFrame.ms =
          .ok (job.start, job.stop) ∧
      job = ⟨r.source, r.timeFrame, asset, r.quoteFor settings,
        plan.isDirect && r.timeFrame.isOffGrid, job.start, job.stop⟩ := by
  unfold LoadRequest.job at h
  obtain ⟨plan, hplan, h⟩ := exists_of_bind_eq_ok h
  obtain ⟨window, hwindow, h⟩ := exists_of_bind_eq_ok h
  cases h
  exact ⟨plan, hplan, hwindow, rfl⟩

/-- A load that has a plan and a window has a job. -/
theorem exists_job {settings : LoaderSettings} {now : Int} {r : LoadRequest} {plan : IntervalPlan}
    (hplan : registry.plan r.source r.timeFrame = .ok plan) {first last : Int}
    (hwindow : Window.align (Window.expand settings now r.start r.stop r.timeFrame.ms).1
      (Window.expand settings now r.start r.stop r.timeFrame.ms).2 r.timeFrame.ms =
        .ok (first, last)) (asset : String) :
    ∃ job, r.job registry settings now asset = .ok job ∧ job.start = first ∧ job.stop = last := by
  refine ⟨⟨r.source, r.timeFrame, asset, r.quoteFor settings,
    plan.isDirect && r.timeFrame.isOffGrid, first, last⟩, ?_, rfl, rfl⟩
  simp only [LoadRequest.job, hplan, hwindow, bind, Except.bind]
  rfl

/-- A timeframe without a plan has no job. -/
theorem job_of_plan_error {settings : LoaderSettings} {now : Int} {r : LoadRequest} {asset : String}
    {cause : Failure} (h : registry.plan r.source r.timeFrame = .error cause) :
    r.job registry settings now asset = .error cause := by
  simp [LoadRequest.job, h, bind, Except.bind]

section Load

variable {settings : LoaderSettings} {now : Int} {r : LoadRequest} {asset : String}

theorem asset?_eq_some : r.asset? = some asset ↔ Text.strip r.asset ≠ "" ∧ asset = Symbol.leg r.asset := by
  unfold asset?
  split
  · simp_all
  · rw [Option.some.injEq, eq_comm]
    simp_all

theorem load_of_blank (hasset : r.asset? = none) (cache : Cache) (state : σ) :
    r.load registry settings now world cache state = ⟨.ok [], cache, none, [], [], state⟩ := by
  simp only [load, hasset]

theorem load_of_no_job {cause : Failure} (hasset : r.asset? = some asset)
    (hjob : r.job registry settings now asset = .error cause) (cache : Cache) (state : σ) :
    r.load registry settings now world cache state = ⟨.error cause, cache, none, [], [], state⟩ := by
  simp only [load, hasset, hjob]

theorem load_of_job (hasset : r.asset? = some asset)
    (hjob : r.job registry settings now asset = .ok job) (cache : Cache) (state : σ) :
    r.load registry settings now world cache state =
      job.run registry settings.strict world cache state := by
  simp only [load, hasset, hjob]

end Load

/-- A load leaves no trace: neither in the cache nor at a provider. -/
def LeavesNoTrace (cache : Cache) (load : Load σ) : Prop := load.cache = cache ∧ load.calls = []

/-- However a load ends, in every cache and against every provider: a blank asset and a timeframe
    that does not resolve leave no trace, as does every other cause that there is no job; a job fills
    a prefix of its gaps; and no key of the owner's map is lost. -/
theorem load_atomic (r : LoadRequest) (registry : Registry) (settings : LoaderSettings) (now : Int)
    (world : World σ) (cache : Cache) (state : σ) :
    (match r.asset?, registry.plan r.source r.timeFrame with
      | none, _ =>
        (r.load registry settings now world cache state).outcome = .ok [] ∧
          LeavesNoTrace cache (r.load registry settings now world cache state)
      | some _, .error cause =>
        (r.load registry settings now world cache state).outcome = .error cause ∧
          LeavesNoTrace cache (r.load registry settings now world cache state)
      | some asset, .ok _ =>
        match r.job registry settings now asset with
        | .error cause =>
          (r.load registry settings now world cache state).outcome = .error cause ∧
            LeavesNoTrace cache (r.load registry settings now world cache state)
        | .ok job =>
          job.timeFrame = r.timeFrame ∧ job.asset = asset ∧
            job.FillsPrefix registry settings.strict world cache state
              (r.load registry settings now world cache state)) ∧
      ∀ k, cache.owner r.timeFrame = r.asset? →
        ((cache.candles r.timeFrame).get? k).isSome = true →
        (((r.load registry settings now world cache state).cache.candles r.timeFrame).get? k).isSome =
          true := by
  cases hasset : r.asset? with
  | none =>
    rw [load_of_blank hasset]
    exact ⟨⟨rfl, rfl, rfl⟩, fun k _ hk => hk⟩
  | some asset =>
    cases hjob : r.job registry settings now asset with
    | error cause =>
      rw [load_of_no_job hasset hjob]
      refine ⟨?_, fun k _ hk => hk⟩
      cases hplan : registry.plan r.source r.timeFrame with
      | error cause' =>
        rw [job_of_plan_error hplan] at hjob
        cases hjob
        exact ⟨rfl, rfl, rfl⟩
      | ok plan =>
        simp only [hjob]
        exact ⟨trivial, rfl, rfl⟩
    | ok job =>
      have hfills := job.fillsPrefix_run registry settings.strict world cache state
      obtain ⟨plan, hplan, -, heq⟩ := job_eq_ok hjob
      have htimeFrame : job.timeFrame = r.timeFrame := by rw [heq]
      have howner : job.asset = asset := by rw [heq]
      rw [load_of_job hasset hjob]
      refine ⟨?_, fun k hk hsome => ?_⟩
      · simp only [hplan, hjob]
        exact ⟨htimeFrame, howner, hfills⟩
      · obtain ⟨done, rest, results, state', -, -, hshelf, -, -⟩ := hfills
        rw [htimeFrame, howner] at hshelf
        rw [Cache.candles_eq _ _ hshelf]
        refine CandleMap.isSome_get?_overlay results ?_
        rwa [Cache.candles_claim_of_owner cache r.timeFrame hk]

end LoadRequest

end Candlestick
