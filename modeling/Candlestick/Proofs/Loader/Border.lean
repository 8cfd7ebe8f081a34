import Candlestick.Proofs.Loader.Tenancy

set_option autoImplicit false

/-! # What a load changes beside its gaps

A provider answers for a gap with the candles that overlap it, so also with those that begin before it
and reach into it. What they make is stored with the rest, under keys that lie outside the gap: a candle
under its own start, and a rolled-up one under the start of a bucket that may be cached already and of
which the answer holds the last part only. Nothing else is changed outside the gaps that are filled. -/

namespace Candlestick

namespace IntervalPlan

/-- Where buckets begin, the candles before a time are made of the candles before it only. -/
theorem build_filter_lt {plan : IntervalPlan} {asset : String} {t : TimeFrame} {first : Int}
    (hfirst : t.ms ∣ first) (start stop : Int) (raw : List Candle) :
    plan.build asset t start stop (raw.filter (·.start < first)) =
      (plan.build asset t start stop raw).filter (·.start < first) := by
  unfold build
  dsimp only
  rw [Series.normalize_filter_lt]
  split
  · rw [List.filter_map]
    rfl
  · exact Series.rollUp_filter_lt t.ms_pos hfirst (Series.ascending_normalize start stop raw)

/-- Every candle that is made comes of a candle that overlaps the range and starts no earlier. -/
theorem exists_of_mem_build {plan : IntervalPlan} {asset : String} {t : TimeFrame} {start stop : Int}
    {raw : List Candle} {c : Candle} (hc : c ∈ plan.build asset t start stop raw) :
    ∃ d ∈ raw, (start < d.stop ∧ d.start < stop) ∧ c.start ≤ d.start := by
  have hmade : ∃ d ∈ Series.normalize start stop raw, c.start ≤ d.start := by
    unfold build at hc
    dsimp only at hc
    split at hc
    · obtain ⟨d, hd, rfl⟩ := List.mem_map.1 hc
      exact ⟨d, hd, Int.le_refl _⟩
    · obtain ⟨d, hd, hstart⟩ := Series.exists_mem_of_mem_rollUp t.ms_pos hc
      exact ⟨d, hd, hstart ▸ Series.bucketStart_le t.ms_pos d.start⟩
  obtain ⟨d, hd, hle⟩ := hmade
  obtain ⟨hraw, hover⟩ := Series.mem_of_mem_normalize hd
  exact ⟨d, hraw, by simpa [Candle.overlaps] using hover, hle⟩

/-- What an answer for a gap spills over its borders: what the answer's candles that begin before the
    gap make. -/
def spill (plan : IntervalPlan) (asset : String) (t : TimeFrame) (gap : Gap) (raw : List Candle) :
    List Candle :=
  plan.build asset t gap.start gap.stop (raw.filter (·.start < gap.start))

/-- Outside a gap of whole buckets an answer makes what it spills. -/
theorem find?_build_of_outside (plan : IntervalPlan) (asset : String) {t : TimeFrame} {gap : Gap}
    (hgap : t.ms ∣ gap.start) (raw : List Candle) {k : Int} (hk : ¬ (gap.start ≤ k ∧ k < gap.stop)) :
    (plan.build asset t gap.start gap.stop raw).reverse.find? (·.start = k) =
      (plan.spill asset t gap raw).reverse.find? (·.start = k) := by
  by_cases hlt : k < gap.start
  · rw [spill, build_filter_lt hgap, ← List.filter_reverse, Series.find?_filter_lt hlt]
  · have hnone : ∀ cs : List Candle,
        (plan.build asset t gap.start gap.stop cs).reverse.find? (·.start = k) = none := by
      intro cs
      refine List.find?_eq_none.2 fun c hc => ?_
      obtain ⟨d, -, ⟨-, hlt⟩, hle⟩ := exists_of_mem_build (List.mem_reverse.1 hc)
      simp only [decide_eq_true_eq]
      omega
    rw [spill, hnone, hnone]

/-- What spills over the borders of a gap comes of candles that straddle its start. -/
theorem exists_straddling_of_mem_spill {plan : IntervalPlan} {asset : String} {t : TimeFrame} {gap : Gap}
    {raw : List Candle} {c : Candle} (hc : c ∈ plan.spill asset t gap raw) :
    ∃ d ∈ raw, d.start < gap.start ∧ gap.start < d.stop := by
  obtain ⟨d, hd, ⟨hstop, -⟩, -⟩ := exists_of_mem_build hc
  obtain ⟨hraw, hlt⟩ := List.mem_filter.1 hd
  exact ⟨d, hraw, of_decide_eq_true hlt, hstop⟩

end IntervalPlan

/-- Laid over a map, what was made for gaps of whole buckets leaves outside of them what it spills. -/
theorem CandleMap.get?_overlay_of_outside {plan : IntervalPlan} {asset : String} {t : TimeFrame}
    {answers : List (Gap × List Candle)} (hgaps : ∀ a ∈ answers, t.ms ∣ a.1.start) {k : Int}
    (hk : ∀ a ∈ answers, ¬ (a.1.start ≤ k ∧ k < a.1.stop)) (m : CandleMap) :
    (m.overlay (answers.map fun a => plan.build asset t a.1.start a.1.stop a.2)).get? k =
      ((answers.flatMap fun a => plan.spill asset t a.1 a.2).reverse.find? (·.start = k)).or
        (m.get? k) := by
  rw [get?_overlay]
  congr 1
  induction answers with
  | nil => rfl
  | cons a rest ih =>
    have hhead := plan.find?_build_of_outside asset (hgaps a List.mem_cons_self) a.2
      (hk a List.mem_cons_self)
    have hrest := ih (fun b hb => hgaps b (List.mem_cons_of_mem _ hb))
      fun b hb => hk b (List.mem_cons_of_mem _ hb)
    rw [List.map_cons, List.flatten_cons, List.flatMap_cons, List.reverse_append, List.reverse_append,
      List.find?_append, List.find?_append, hhead, hrest]

namespace Visit

/-- The provider's answers to a visit for the ranges of gaps, asked one after the other. -/
def replies (v : Visit) (plan : IntervalPlan) (state : v.σ) :
    List Gap → List (Except Failure (List Candle))
  | [] => []
  | gap :: rest =>
    let run := (v.registry.fetch (plan.request v.request.source v.asset
      (v.request.quoteFor v.settings) gap.start gap.stop)).run v.world state
    run.outcome :: v.replies plan run.state rest

/-- The gaps that a visit finds in the map of its timeframe. -/
def gaps (v : Visit) (cache : Cache) : List Gap :=
  match v.claim?, v.request.job v.registry v.settings v.now v.asset with
  | some asset, .ok job => (job.collect (cache.claim v.request.timeFrame asset)).2
  | _, _ => []

theorem gaps_of_no_claim {v : Visit} (h : v.claim? = none) (cache : Cache) : v.gaps cache = [] := by
  simp only [gaps, h]

namespace Prepared

variable {v : Visit} {plan : IntervalPlan} {job : Job}

theorem gaps_eq (h : v.Prepared plan job) (cache : Cache) :
    v.gaps cache = (job.collect (cache.claim job.timeFrame job.asset)).2 := by
  have hclaim : v.claim? = some v.asset := by simp only [claim?, h.not_blank, h.job_eq]
  simp only [gaps, hclaim, h.job_eq, h.timeFrame, h.asset]

/-- Every gap begins with a bucket. -/
theorem dvd_start_of_gap (h : v.Prepared plan job) {cache : Cache} {gap : Gap}
    (hgap : gap ∈ v.gaps cache) : v.request.timeFrame.ms ∣ gap.start := by
  have hwindow := Window.dvd_of_align v.request.timeFrame.ms_pos h.window_eq
  rw [← h.timeFrame] at hwindow ⊢
  rw [h.gaps_eq] at hgap
  obtain ⟨hstart, hstop, hlt⟩ := hwindow
  exact (Job.dvd_of_gap hstart hstop (Int.le_of_lt hlt) hgap).1

/-- What came of completed gaps was made of the provider's answers for them. -/
theorem exists_answers (h : v.Prepared plan job) (hexact : v.offGrid plan = false) {strict : Bool}
    {state state' : v.σ} {done : List Gap} {results : List (List Candle)}
    (hdone : job.Completed v.registry strict v.world state done results state') :
    ∃ answers : List (Gap × List Candle), answers.map Prod.fst = done ∧
      v.replies plan state done = answers.map (fun a => .ok a.2) ∧
      results = answers.map fun a =>
        plan.build v.asset v.request.timeFrame a.1.start a.1.stop a.2 := by
  induction hdone with
  | nil state => exact ⟨[], rfl, rfl, rfl⟩
  | @cons state state' gap rest cs others hgoing hcs hpass hrest ih =>
    obtain ⟨answers, hgaps, hreplies, hresults⟩ := ih
    rw [h.gapRun_eq, h.fetchStart hexact, Dialogue.run_map] at hcs hreplies
    obtain ⟨raw, hraw, rfl⟩ := exists_of_map_eq_ok hcs
    refine ⟨(gap, raw) :: answers, congrArg (gap :: ·) hgaps, ?_, by rw [hresults]; rfl⟩
    rw [replies, hreplies, hraw]
    rfl

end Prepared

/-- The gaps of a visit that were filled, each with the provider's answer for it: the first ones of those
    that it found, and all of them if it returned. -/
structure Filled (v : Visit) (plan : IntervalPlan) (cache : Cache)
    (answers : List (Gap × List Candle)) : Prop where
  first : ∃ rest, v.gaps cache = answers.map Prod.fst ++ rest ∧
    ((v.load cache).outcome.isOk = true → rest = [])
  replies_eq : v.replies plan v.state (answers.map Prod.fst) = answers.map fun a => .ok a.2

/-- Outside the gaps that a load fills it leaves what the answers for them spill, and else what was there. -/
theorem exists_filled (v : Visit) {plan : IntervalPlan} (hplan : v.plan = .ok plan)
    (hexact : v.offGrid plan = false) {cache : Cache}
    (howner : cache.owner v.request.timeFrame = some v.asset) :
    ∃ answers, v.Filled plan cache answers ∧
      ∀ k, (∀ a ∈ answers, ¬ (a.1.start ≤ k ∧ k < a.1.stop)) →
        ((v.load cache).cache.candles v.request.timeFrame).get? k =
          ((answers.flatMap fun a => plan.spill v.asset v.request.timeFrame a.1 a.2).reverse.find?
            (·.start = k)).or ((cache.candles v.request.timeFrame).get? k) := by
  rcases v.claim?_cases with ⟨hnone, hcache⟩ | ⟨-, plan', job, hprep⟩
  · refine ⟨[], ⟨⟨[], gaps_of_no_claim hnone cache, fun _ => rfl⟩, rfl⟩, fun k _ => ?_⟩
    rw [hcache]
    rfl
  obtain rfl := Except.ok.inj (hplan.symm.trans hprep.plan_eq)
  obtain ⟨done, rest, results, state', hsplit, hdone, hshelf, -, hend⟩ :=
    job.fillsPrefix_run v.registry v.settings.strict v.world cache v.state
  rw [← hprep.load] at hshelf hend
  rw [← hprep.gaps_eq] at hsplit
  obtain ⟨answers, rfl, hreplies, rfl⟩ := hprep.exists_answers hexact hdone
  refine ⟨answers, ⟨⟨rest, hsplit, fun hok => ?_⟩, hreplies⟩, fun k hk => ?_⟩
  · rcases hend with ⟨hrest, -⟩ | ⟨_, _, cause, -, houtcome, -⟩
    · exact hrest
    · rw [houtcome] at hok
      exact absurd hok (by simp [Except.isOk, Except.toBool])
  · have hgaps : ∀ a ∈ answers, v.request.timeFrame.ms ∣ a.1.start := by
      intro a ha
      have hgap : a.1 ∈ v.gaps cache := by
        rw [hsplit]
        exact List.mem_append_left rest (List.mem_map_of_mem ha)
      exact hprep.dvd_start_of_gap hgap
    rw [hprep.timeFrame, hprep.asset] at hshelf
    rw [Cache.candles_eq _ _ hshelf, CandleMap.get?_overlay_of_outside hgaps hk,
      Cache.candles_claim_of_owner cache _ howner]

/-- What a load of a timeframe that is looked up exactly leaves under a key outside the gaps that it
    fills, however it ends: the last candle of the key among those that the answers spill over the
    borders of their gaps, and where there is none, what was there before. So it changes nothing there
    as long as no answer holds a candle that straddles the start of its gap. -/
theorem load_beside (cache : Cache) (v : Visit) {plan : IntervalPlan} (hplan : v.plan = .ok plan)
    (hexact : v.offGrid plan = false) (howner : cache.owner v.request.timeFrame = some v.asset) :
    let t := v.request.timeFrame
    ∃ answers, v.Filled plan cache answers ∧
      (∀ k, (∀ a ∈ answers, ¬ (a.1.start ≤ k ∧ k < a.1.stop)) →
        ((v.load cache).cache.candles t).get? k =
          ((answers.flatMap fun a => plan.spill v.asset t a.1 a.2).reverse.find? (·.start = k)).or
            ((cache.candles t).get? k)) ∧
      ((∀ a ∈ answers, ∀ d ∈ a.2, ¬ (d.start < a.1.start ∧ a.1.start < d.stop)) →
        ∀ k, (∀ a ∈ answers, ¬ (a.1.start ≤ k ∧ k < a.1.stop)) →
          ((v.load cache).cache.candles t).get? k = (cache.candles t).get? k) := by
  intro t
  obtain ⟨answers, hfilled, hbeside⟩ := v.exists_filled hplan hexact howner
  refine ⟨answers, hfilled, hbeside, fun hnone k hk => ?_⟩
  have hspill : (answers.flatMap fun a => plan.spill v.asset t a.1 a.2) = [] := by
    refine List.flatMap_eq_nil_iff.2 fun a ha => List.eq_nil_iff_forall_not_mem.2 fun c hc => ?_
    obtain ⟨d, hd, hstraddles⟩ := IntervalPlan.exists_straddling_of_mem_spill hc
    exact hnone a ha d hd hstraddles
  rw [hbeside k hk, hspill]
  rfl

/-! ## Days that open at 16:00 -/

/-- A load of three-day candles from HTX, which has days only. There are three of them, the newest one
    first, and each opens at 16:00. -/
def threeDays (start stop now : Int) : Visit where
  registry := Registry.standard
  settings := { prefetchBuckets := 0 }
  now := now
  request := ⟨⟨.htx, .spot⟩, .day3, start, stop, "BTC", none⟩
  world := {
    withdrawn := fun _ => false
    answer := fun _ _ =>
      (.ok (.obj [("status", .str "ok"), ("data", .arr
        (([489600, 403200, 316800].filter (· * 1000 ≤ now)).map fun day =>
          .obj [("id", .int day), ("open", .int 4), ("high", .int 6), ("low", .int 3),
            ("close", .int 5), ("vol", .int 10), ("count", .int (day / 86400))]))]), ()) }
  state := ()

/-- A bucket that has just begun is loaded beside one that was loaded on the first of its days. -/
theorem load_beside_threeDays :
    let v := threeDays 518400000 777600000 520000000
    let cache := Session.after [.load (threeDays 259200000 518400000 400000000)]
    let plan : IntervalPlan := ⟨"1day", .day1, 3⟩
    v.plan = .ok plan ∧ v.offGrid plan = false ∧ cache.owner .day3 = some v.asset ∧
      ∃ answers, v.Filled plan cache answers ∧
        ∀ k, (∀ a ∈ answers, ¬ (a.1.start ≤ k ∧ k < a.1.stop)) →
          ((v.load cache).cache.candles .day3).get? k =
            ((answers.flatMap fun a => plan.spill v.asset .day3 a.1 a.2).reverse.find?
              (·.start = k)).or ((cache.candles .day3).get? k) := by
  intro v cache plan
  have hplan : v.plan = .ok plan := eq_ok_of_toOption (by decide +kernel)
  have howner : cache.owner v.request.timeFrame = some v.asset := by decide +kernel
  obtain ⟨answers, hfilled, hbeside, -⟩ := load_beside cache v hplan rfl howner
  exact ⟨hplan, rfl, howner, answers, hfilled, hbeside⟩

/-- The load fills its own bucket only, and still the one before it, where the first of its three days
    stood, holds the last of them afterwards. -/
theorem load_overwrites_beside :
    let v := threeDays 518400000 777600000 520000000
    let cache := Session.after [.load (threeDays 259200000 518400000 400000000)]
    cache.owner .day3 = some v.asset ∧ v.gaps cache = [⟨518400000, 777600000⟩] ∧
      ((cache.candles .day3).get? 259200000).map Candle.trades = some 3 ∧
      (((v.load cache).cache.candles .day3).get? 259200000).map Candle.trades = some 5 := by
  decide +kernel

end Visit

end Candlestick
