import Candlestick.Proofs.Loader.Border
import Candlestick.Proofs.Loader.Resumption
import Candlestick.Proofs.Series.Quality

set_option autoImplicit false

/-! # What a strict load refuses

A strict load checks the candles that are made of an answer, not the answer's own. Where the timeframe
is served as it is, no missing price escapes it. Where candles are rolled up, it sees the missing prices
that the roll-up leaves to be seen, and only those: a gap with any of them is refused and nothing of it
is stored, and a gap without is stored, whatever else its answer lacks. -/

namespace Candlestick

/-- Whether a missing price among the candles of a range can be seen in what a plan makes of them. -/
def IntervalPlan.Exposes (plan : IntervalPlan) (t : TimeFrame) (shown : List Candle) : Prop :=
  if plan.isDirect then ∃ c ∈ shown, Series.lacksPrice c = true else Series.Exposes t.ms shown

instance (plan : IntervalPlan) (t : TimeFrame) (shown : List Candle) :
    Decidable (plan.Exposes t shown) :=
  inferInstanceAs (Decidable (if plan.isDirect then _ else _))

theorem IntervalPlan.exists_lacksPrice_build (plan : IntervalPlan) (asset : String) (t : TimeFrame)
    (start stop : Int) (raw : List Candle) :
    (∃ c ∈ plan.build asset t start stop raw, Series.lacksPrice c = true) ↔
      plan.Exposes t (Series.normalize start stop raw) := by
  unfold build Exposes
  dsimp only
  split
  · constructor
    · rintro ⟨_, hc, hlacks⟩
      obtain ⟨d, hd, rfl⟩ := List.mem_map.1 hc
      exact ⟨d, hd, hlacks⟩
    · rintro ⟨d, hd, hlacks⟩
      exact ⟨d.relabel t.label, List.mem_map_of_mem hd, hlacks⟩
  · exact Series.exists_lacksPrice_rollUp t.ms_pos (Series.ascending_normalize start stop raw)

/-- Candles in order are rolled up as they stand. -/
theorem IntervalPlan.build_of_ascending {plan : IntervalPlan} (hrolled : plan.isDirect = false)
    (asset : String) (t : TimeFrame) (start stop : Int) {raw : List Candle} (hraw : Series.Ascending raw) :
    plan.build asset t start stop raw =
      match raw.filter (Candle.overlaps start stop) with
      | [] => []
      | c :: rest =>
        Series.rollFrom t.ms (Symbol.leg asset) t.label
          (Series.openBucket t.ms (Symbol.leg asset) t.label c) rest := by
  have hsort := Series.sort_of_ascending (hraw.filter (Candle.overlaps start stop))
  unfold build Series.rollUp
  dsimp only
  rw [if_neg (by simp [hrolled]), Series.normalize_of_ascending hraw]
  generalize raw.filter (Candle.overlaps start stop) = cs at hsort ⊢
  cases cs with
  | nil => rw [hsort]
  | cons c rest => rw [hsort]

theorem Cache.shelf_foldl_store (t : TimeFrame) (lists : List (List Candle)) (cache : Cache) :
    (lists.foldl (fun cache cs => cache.store t cs) cache).shelf t =
      (cache.shelf t).map fun shelf => { shelf with candles := shelf.candles.overlay lists } := by
  induction lists generalizing cache with
  | nil => cases h : cache.shelf t <;> simp [h]
  | cons cs lists ih =>
    rw [List.foldl_cons, ih, shelf_store, Option.map_map]
    rfl

namespace Job

variable {σ : Type} {job : Job} {registry : Registry} {strict : Bool} {world : World σ}

/-- Where the candles of a gap have come, it is the check that decides. -/
theorem run_fetchGap (strict : Bool) {state : σ} {gap : Gap} {cs : List Candle} (hgoing : world.withdrawn state = false)
    (hcs : (job.gapRun registry world state gap).outcome = .ok cs) :
    let run := (job.fetchGap registry strict gap).run world state
    let before := (job.gapRun registry world state gap).state
    run.outcome = ((job.checkQuality strict cs).run world before).outcome ∧ run.state = before := by
  dsimp only
  rw [fetchGap, Dialogue.run, if_neg (by simp [hgoing]), Dialogue.run_bind_of_ok hcs]
  exact ⟨rfl, (job.run_checkQuality strict world _ cs).1⟩

theorem Passes.outcome_checkQuality {cs : List Candle} (h : Passes strict cs) (state : σ) :
    ((job.checkQuality strict cs).run world state).outcome = .ok cs := by
  obtain ⟨faults, hissues, hstrict⟩ := h
  rw [checkQuality, hissues]
  cases faults with
  | nil => rfl
  | cons fault faults =>
    cases strict with
    | true => exact absurd (hstrict rfl) (by simp)
    | false => rfl

theorem outcome_checkQuality_of_faults {cs : List Candle} {faults : List Issue}
    (h : Series.issues cs = .ok faults) (hne : faults ≠ []) (state : σ) :
    ((job.checkQuality true cs).run world state).outcome = .error (.poorQuality faults) := by
  rw [checkQuality, h]
  cases faults with
  | nil => exact absurd rfl hne
  | cons fault faults => rfl

/-- Filling goes on behind the gaps that are completed, with their results stored. -/
theorem fill_append {state state' : σ} {done : List Gap} {results : List (List Candle)}
    (h : Completed job registry strict world state done results state') (rest : List Gap)
    (cache : Cache) :
    let filled := job.fill registry strict world cache state (done ++ rest)
    let later := job.fill registry strict world
      (results.foldl (fun cache cs => cache.store job.timeFrame cs) cache) state' rest
    filled.1.outcome = later.1.outcome ∧ filled.2 = later.2 := by
  induction h generalizing cache with
  | nil state => exact ⟨rfl, rfl⟩
  | cons hgoing hcs hpass hrest ih =>
    obtain ⟨houtcome, hstate⟩ := run_fetchGap strict hgoing hcs
    rw [hpass.outcome_checkQuality] at houtcome
    simp only [List.cons_append, fill_of_ok houtcome, hstate]
    exact ih _

theorem Completed.concat {state state' : σ} {done : List Gap} {results : List (List Candle)}
    (h : Completed job registry strict world state done results state') {gap : Gap} {cs : List Candle}
    (hgoing : world.withdrawn state' = false)
    (hcs : (job.gapRun registry world state' gap).outcome = .ok cs) (hpass : Passes strict cs) :
    Completed job registry strict world state (done ++ [gap]) (results ++ [cs])
      (job.gapRun registry world state' gap).state := by
  induction h with
  | nil state => exact .cons hgoing hcs hpass (.nil _)
  | cons hgoing' hcs' hpass' hrest ih => exact .cons hgoing' hcs' hpass' (ih hgoing hcs)

end Job

namespace Visit

/-- Where a shelf is the claimed one with lists laid over it, so is its map. -/
theorem Prepared.candles_of_shelf {v : Visit} {plan : IntervalPlan} {job : Job} (h : v.Prepared plan job)
    {cache cache' : Cache} {lists : List (List Candle)}
    (hshelf : cache'.shelf job.timeFrame =
      ((cache.claim job.timeFrame job.asset).shelf job.timeFrame).map fun shelf =>
        { shelf with candles := shelf.candles.overlay lists }) :
    cache'.candles v.request.timeFrame = (v.claimed cache).overlay lists := by
  rw [cache.shelf_claim] at hshelf
  rw [← h.candles_claim cache, ← h.timeFrame, Cache.candles_eq _ _ hshelf]

/-- The gaps that a visit finds do not depend on the world. -/
theorem gaps_facing (v : Visit) {σ : Type} (world : World σ) (state : σ) (cache : Cache) :
    (v.facing world state).gaps cache = v.gaps cache := rfl

/-- A visit has come to a gap: it has filled the gaps before it with their results, it does not stand
    withdrawn, and the provider has answered for the gap. Some gaps come later. -/
structure Meets (v : Visit) (plan : IntervalPlan) (job : Job) (cache : Cache)
    (results : List (List Candle)) (gap : Gap) (later : List Gap) (raw : List Candle) : Prop where
  prepared : v.Prepared plan job
  reached : ∃ done state', v.gaps cache = done ++ gap :: later ∧
    job.Completed v.registry v.settings.strict v.world v.state done results state' ∧
    v.world.withdrawn state' = false ∧
    v.reply plan (job.fetchStart gap) gap.stop state' = .ok raw

namespace Meets

variable {v : Visit} {plan : IntervalPlan} {job : Job} {cache : Cache} {results : List (List Candle)}
  {gap : Gap} {later : List Gap} {raw : List Candle}

/-- Where the candles that are made of an answer do not pass the check, the visit fails as the check
    does, and what it leaves are the results of the gaps before. -/
theorem load_of_refused (h : v.Meets plan job cache results gap later raw) (cause : Failure)
    (hcheck : ∀ state, ((job.checkQuality v.settings.strict (plan.build v.asset v.request.timeFrame
      (job.fetchStart gap) gap.stop raw)).run v.world state).outcome = .error cause) :
    (v.load cache).outcome = .error cause ∧
      (v.load cache).cache.candles v.request.timeFrame = (v.claimed cache).overlay results := by
  obtain ⟨done, state', hgaps, hdone, hgoing, hreply⟩ := h.reached
  have hrun := h.prepared.outcome_gapRun state' gap
  rw [hreply] at hrun
  obtain ⟨houtcome, -⟩ := Job.run_fetchGap v.settings.strict hgoing hrun
  rw [hcheck] at houtcome
  obtain ⟨hload, hcache, -⟩ :=
    job.run_eq_fill v.registry v.settings.strict v.world cache v.state
  rw [h.prepared.gaps_eq] at hgaps
  obtain ⟨hfill, hfilled⟩ :=
    Job.fill_append hdone (gap :: later) (cache.claim job.timeFrame job.asset)
  rw [Job.fill_of_error houtcome] at hfill hfilled
  rw [h.prepared.load, hload, hcache, hgaps, hfill, hfilled]
  exact ⟨rfl, h.prepared.candles_of_shelf (Cache.shelf_foldl_store job.timeFrame results _)⟩

/-- Where they pass, they are stored behind the results of the gaps before, and the visit returns if no
    gap comes later. -/
theorem load_of_passed (h : v.Meets plan job cache results gap later raw)
    (hpass : Job.Passes v.settings.strict (plan.build v.asset v.request.timeFrame (job.fetchStart gap)
      gap.stop raw)) :
    (later = [] → (v.load cache).outcome.isOk = true) ∧
      ∃ others, (v.load cache).cache.candles v.request.timeFrame =
        ((v.claimed cache).overlay results).overlay
          (plan.build v.asset v.request.timeFrame (job.fetchStart gap) gap.stop raw :: others) := by
  obtain ⟨done, state', hgaps, hdone, hgoing, hreply⟩ := h.reached
  have hrun := h.prepared.outcome_gapRun state' gap
  rw [hreply] at hrun
  obtain ⟨hload, hcache, -⟩ :=
    job.run_eq_fill v.registry v.settings.strict v.world cache v.state
  rw [h.prepared.gaps_eq, List.append_cons] at hgaps
  obtain ⟨hfill, hfilled⟩ := Job.fill_append (hdone.concat hgoing hrun hpass) later
    (cache.claim job.timeFrame job.asset)
  rw [h.prepared.load, hload, hcache, hgaps, hfill, hfilled]
  constructor
  · rintro rfl
    rfl
  · obtain ⟨_, _, others, _, -, -, hshelf, -⟩ := job.fill_spec v.registry v.settings.strict v.world later
      ((results ++ [plan.build v.asset v.request.timeFrame (job.fetchStart gap) gap.stop raw]).foldl
        (fun cache cs => cache.store job.timeFrame cs) (cache.claim job.timeFrame job.asset))
      (job.gapRun v.registry v.world state' gap).state
    rw [Cache.shelf_foldl_store, Option.map_map] at hshelf
    refine ⟨others, ?_⟩
    rw [← CandleMap.overlay_append]
    refine h.prepared.candles_of_shelf ?_
    rw [hshelf]
    refine congrArg (Option.map · _) (funext fun shelf => ?_)
    simp only [Function.comp, CandleMap.overlay_append, CandleMap.overlay_cons, CandleMap.overlay_nil]

end Meets

/-- What a strict load makes of the prices that an answer lacks. If one of them can be seen in the candles
    that are made of the answer, the load fails and leaves the results of the gaps before; as long as the
    starts fit a table it names the faults of those candles, and all candles without a price are counted
    among them. If none can be seen, the check does not find any missing, and candles without another
    fault are stored before the load goes on to the gaps that come later. -/
theorem load_strict {v : Visit} (hstrict : v.settings.strict = true) {plan : IntervalPlan} {job : Job}
    {cache : Cache} {results : List (List Candle)} {gap : Gap} {later : List Gap}
    {raw : List Candle} (h : v.Meets plan job cache results gap later raw) :
    let t := v.request.timeFrame
    let shown := Series.normalize (job.fetchStart gap) gap.stop raw
    let made := plan.build v.asset t (job.fetchStart gap) gap.stop raw
    (plan.Exposes t shown →
      (∃ cause, (v.load cache).outcome = .error cause ∧
        ((∀ c ∈ made, -Frame.latestStart ≤ c.start ∧ c.start ≤ Frame.latestStart) →
          cause = .poorQuality (Series.faults made) ∧
            .missingPrices (made.countP Series.lacksPrice) ∈ Series.faults made)) ∧
      (v.load cache).cache.candles t = (v.claimed cache).overlay results) ∧
    (¬ plan.Exposes t shown →
      (∀ n, .missingPrices n ∉ Series.faults made) ∧
      (Series.issues made = .ok [] →
        (later = [] → (v.load cache).outcome.isOk = true) ∧
          ∃ others, (v.load cache).cache.candles t =
            ((v.claimed cache).overlay results).overlay (made :: others))) := by
  intro t shown made
  have hexposes : (∃ c ∈ made, Series.lacksPrice c = true) ↔ plan.Exposes t shown :=
    plan.exists_lacksPrice_build v.asset t (job.fetchStart gap) gap.stop raw
  constructor
  · intro hseen
    have hmissing : Issue.missingPrices (made.countP Series.lacksPrice) ∈ Series.faults made :=
      Series.missingPrices_mem_faults.2 ⟨rfl, hexposes.2 hseen⟩
    cases hissues : Series.issues made with
    | error cause =>
      obtain ⟨houtcome, hcache⟩ := h.load_of_refused cause fun state => by
        rw [Job.checkQuality, hissues]
        rfl
      refine ⟨⟨cause, houtcome, fun hdated => ?_⟩, hcache⟩
      rw [Series.issues_of_dated hdated] at hissues
      exact absurd hissues (by simp)
    | ok faults =>
      obtain rfl : Series.faults made = faults := by
        obtain ⟨_, -, hfaults⟩ := exists_of_map_eq_ok hissues
        exact hfaults
      obtain ⟨houtcome, hcache⟩ := h.load_of_refused (.poorQuality (Series.faults made))
        fun state => by
          rw [hstrict]
          exact Job.outcome_checkQuality_of_faults hissues (List.ne_nil_of_mem hmissing) state
      exact ⟨⟨_, houtcome, fun _ => ⟨rfl, hmissing⟩⟩, hcache⟩
  · intro hhidden
    refine ⟨fun n hn => ?_, fun hissues => h.load_of_passed ⟨[], hissues, fun _ => rfl⟩⟩
    exact hhidden (hexposes.1 (Series.missingPrices_mem_faults.1 hn).2)

/-! ## Two hours that are rolled up -/

/-- A world that answers every question with two hours, of which it gives the opening prices. -/
def twoHours (first second : Json) : World Unit where
  withdrawn _ := false
  answer _ _ :=
    (.ok (.arr [
      .arr [.int 7200000, first, .int 6, .int 3, .int 5, .int 10],
      .arr [.int 10800000, second, .int 6, .int 3, .int 5, .int 10]]), ())

/-- A strict load of the two hours as one candle, from a provider that has hours. -/
def strictTwoHours (world : World Unit) : Visit where
  registry := Registry.standard
  settings := { prefetchBuckets := 0, strict := true }
  now := 14400000
  request := ⟨⟨.bitget, .spot⟩, .hour2, 7200000, 14400000, "BTC", none⟩
  world := world
  state := ()

theorem gaps_strictTwoHours (world : World Unit) :
    (strictTwoHours world).gaps Cache.empty = [⟨7200000, 14400000⟩] := by
  have hgaps : (strictTwoHours (twoHours .null .null)).gaps Cache.empty = [⟨7200000, 14400000⟩] := by
    decide +kernel
  exact (gaps_facing (strictTwoHours (twoHours .null .null)) world () Cache.empty).trans hgaps

theorem meets_twoHours {world : World Unit} (hgoing : world.withdrawn () = false) {raw : List Candle}
    (hreply : (strictTwoHours world).reply ⟨"1h", .hour1, 2⟩ 7200000 14400000 () = .ok raw) :
    ∃ job : Job, job.fetchStart ⟨7200000, 14400000⟩ = 7200000 ∧
      (strictTwoHours world).Meets ⟨"1h", .hour1, 2⟩ job Cache.empty [] ⟨7200000, 14400000⟩ [] raw := by
  have hwindow : (strictTwoHours (twoHours .null .null)).window = .ok (7200000, 14400000) :=
    eq_ok_of_toOption (by decide +kernel)
  obtain ⟨job, hprep⟩ : ∃ job, (strictTwoHours (twoHours .null .null)).Prepared ⟨"1h", .hour1, 2⟩ job :=
    exists_prepared rfl hwindow (by decide +kernel)
  have hstart : job.fetchStart ⟨7200000, 14400000⟩ = 7200000 := hprep.fetchStart rfl _
  refine ⟨job, hstart, hprep.facing world (), [], (), gaps_strictTwoHours world, .nil (), hgoing, ?_⟩
  rw [hstart]
  exact hreply

/-- Without the first hour's opening price the load is refused and nothing is stored. -/
theorem load_strict_twoHours :
    let v := strictTwoHours (twoHours .null (.int 4))
    let plan : IntervalPlan := ⟨"1h", .hour1, 2⟩
    v.settings.strict = true ∧
      ∃ job raw, v.Meets plan job Cache.empty [] ⟨7200000, 14400000⟩ [] raw ∧
        plan.Exposes .hour2 (Series.normalize 7200000 14400000 raw) ∧
        (v.load Cache.empty).outcome = .error (.poorQuality [.missingPrices 1]) ∧
        (v.load Cache.empty).cache.candles .hour2 = v.claimed Cache.empty := by
  intro v plan
  let raw := (v.reply plan 7200000 14400000 ()).toOption.getD []
  have hreply : v.reply plan 7200000 14400000 () = .ok raw := eq_ok_of_toOption (by decide +kernel)
  have hraw : Series.Ascending raw := by unfold Series.Ascending; decide +kernel
  obtain ⟨job, hstart, hmeets⟩ := meets_twoHours rfl hreply
  have hexposes : plan.Exposes .hour2 (Series.normalize 7200000 14400000 raw) := by
    rw [Series.normalize_of_ascending hraw]
    decide +kernel
  obtain ⟨hseen, -⟩ := load_strict rfl hmeets
  rw [hstart] at hseen
  obtain ⟨⟨cause, houtcome, hcause⟩, hcache⟩ := hseen hexposes
  have hmade := plan.build_of_ascending rfl v.asset v.request.timeFrame 7200000 14400000 hraw
  have hfaults : Series.faults (plan.build v.asset v.request.timeFrame 7200000 14400000 raw) =
      [.missingPrices 1] := by
    rw [hmade]
    decide +kernel
  obtain ⟨rfl, -⟩ := hcause (by rw [hmade]; decide +kernel)
  rw [hfaults] at houtcome
  exact ⟨rfl, job, raw, hmeets, hexposes, houtcome, hcache⟩

/-- Without the second hour's opening price the load returns and stores the candle of the two hours. -/
theorem load_stores_unpriced :
    let v := strictTwoHours (twoHours (.int 4) .null)
    let plan : IntervalPlan := ⟨"1h", .hour1, 2⟩
    v.settings.strict = true ∧ v.gaps Cache.empty = [⟨7200000, 14400000⟩] ∧
      (∃ raw, v.reply plan 7200000 14400000 () = .ok raw ∧
        ∃ c ∈ Series.normalize 7200000 14400000 raw, Series.lacksPrice c = true) ∧
      (v.load Cache.empty).outcome.isOk = true ∧
      (((v.load Cache.empty).cache.candles .hour2).get? 7200000).isSome = true := by
  intro v plan
  let raw := (v.reply plan 7200000 14400000 ()).toOption.getD []
  have hreply : v.reply plan 7200000 14400000 () = .ok raw := eq_ok_of_toOption (by decide +kernel)
  have hraw : Series.Ascending raw := by unfold Series.Ascending; decide +kernel
  obtain ⟨job, hstart, hmeets⟩ := meets_twoHours rfl hreply
  have hmade := plan.build_of_ascending rfl v.asset v.request.timeFrame 7200000 14400000 hraw
  have hissues : Series.issues (plan.build v.asset v.request.timeFrame 7200000 14400000 raw) =
      .ok [] := by
    rw [hmade]
    exact eq_ok_of_toOption (by decide +kernel)
  obtain ⟨hreturns, others, hcache⟩ :=
    hmeets.load_of_passed ⟨[], by rw [hstart]; exact hissues, fun _ => rfl⟩
  rw [hstart, CandleMap.overlay_cons, hmade] at hcache
  refine ⟨rfl, gaps_strictTwoHours _, ⟨raw, hreply, ?_⟩, hreturns rfl, ?_⟩
  · rw [Series.normalize_of_ascending hraw]
    decide +kernel
  · refine (congrArg (fun m : CandleMap => (m.get? 7200000).isSome) hcache).trans ?_
    exact CandleMap.isSome_get?_overlay others (by decide +kernel)

end Visit

end Candlestick
