import Candlestick.Proofs.Loader.Months
import Candlestick.Proofs.Loader.Tiling
import Candlestick.Proofs.Provider.Attention

set_option autoImplicit false

/-! # Candles that end before the next one opens

Where the rows of a source carry no time of their end, each candle is taken to last as long as its
interval. A month is taken to last 30 days, so that nothing holds the last day of a month of 31. If a
bucket starts on such a day the scan misses it, whatever has been loaded: every load asks for it again,
is given what it has already, and returns the same as before. -/

namespace Candlestick

/-- A candle of a feed that lasts as long as its interval. -/
structure Feed.Nominal (feed : Feed) (asset : String) (t : TimeFrame) (c : Candle) : Prop where
  bar : feed.bar asset t c.start = some c
  stop : c.stop = c.start + t.ms

theorem Feed.bar_of_nominal {feed : Feed} {asset : String} {t : TimeFrame} {m : CandleMap}
    (hm : ∀ k c, m.get? k = some c → feed.Nominal asset t c ∧ c.start = k) (k : Int) (c : Candle)
    (hc : m.get? k = some c) : feed.bar asset t k = some c := by
  obtain ⟨hnominal, rfl⟩ := hm k c hc
  exact hnominal.bar

/-- In a map of such candles a bucket counts as cached exactly if one of them holds its start. -/
theorem Feed.hit_iff_of_nominal {feed : Feed} {asset : String} {t : TimeFrame} {m : CandleMap}
    (hm : ∀ k c, m.get? k = some c → feed.Nominal asset t c ∧ c.start = k) {k : Int} :
    Gaps.Hit (Gaps.lookUp m asset false) asset k ↔
      ∃ c, m.get? c.start = some c ∧ c.start ≤ k ∧ k < c.stop := by
  constructor
  · intro hhit
    obtain ⟨c, hc, hheld⟩ := Gaps.held_of_hit hhit
    obtain ⟨⟨s, hs⟩, -⟩ := Gaps.mem_sorted.1 hc
    obtain ⟨-, rfl⟩ := hm s c hs
    exact ⟨c, hs, hheld⟩
  · -- Candles of one length end in the order in which they start.
    rintro ⟨c, hc, hfrom, hto⟩
    have hasset : c.asset = asset := feed.asset_eq _ _ _ c (hm _ c hc).1.bar
    refine Gaps.hit_of_held (fun a ha b hb hle => ?_) (Gaps.mem_sorted.2 ⟨⟨_, hc⟩, hasset⟩) hfrom hto
    obtain ⟨⟨s, hs⟩, -⟩ := Gaps.mem_sorted.1 ha
    obtain ⟨⟨s', hs'⟩, -⟩ := Gaps.mem_sorted.1 hb
    have hastop := (hm s a hs).1.stop
    have hbstop := (hm s' b hs').1.stop
    omega

namespace Visit

/-- The candles of an untimed source last as long as their interval. -/
theorem reply_nominal {v : Visit} (huntimed : v.request.source.isUntimed = true) {plan : IntervalPlan}
    {start stop : Int} {state : v.σ} {raw : List Candle} (hraw : v.reply plan start stop state = .ok raw) :
    ∀ c ∈ raw, c.stop = c.start + plan.base.ms :=
  (v.registry.yields_nominal huntimed).run v.world state hraw

/-- A gap that is filled has been asked for. -/
theorem Prepared.calls_gapRun_pos {v : Visit} {plan : IntervalPlan} {job : Job}
    (h : v.Prepared plan job) {cache : Cache} {gap : Gap} (hgap : gap ∈ (job.collect cache).2)
    {state : v.σ} (hgoing : v.world.withdrawn state = false) {cs : List Candle}
    (hcs : (job.gapRun v.registry v.world state gap).outcome = .ok cs) :
    0 < (job.gapRun v.registry v.world state gap).calls.length := by
  obtain ⟨raw, hraw, -⟩ := h.exists_reply hcs
  have hreach := Job.reaches h.sound hgap
  have hminute : minuteMs ∣ job.timeFrame.ms := Int.dvd_mul_left _ _
  have hseconds := FetchRequest.second_lt_of_le (FetchRequest.second_le_of_dvd
    (r := plan.request v.request.source v.asset (v.request.quoteFor v.settings) (job.fetchStart gap)
      gap.stop)
    (Int.dvd_trans hminute hreach.fetchStart_dvd) (Int.dvd_trans hminute hreach.stop_dvd)
    hreach.fetchStart_lt)
  rw [h.gapRun_eq, Dialogue.run_map]
  exact v.registry.calls_pos hreach.fetchStart_lt hseconds hgoing hraw

/-- A later visit to a provider that has not changed: it is never withdrawn, always answered, and told
    nothing of a part of a range that the earlier visit would not have been told of the whole. -/
structure Echoes (later v : Visit) : Prop where
  going : ∀ state, later.world.withdrawn state = false
  replies : ∀ plan first last start stop state, later.plan = .ok plan →
    later.window = .ok (first, last) → 0 ≤ start → start < stop → stop ≤ last →
    ∃ raw, later.reply plan start stop state = .ok raw
  within : ∀ plan start stop start' stop' state state' raw raw', v.plan = .ok plan →
    v.reply plan start stop state = .ok raw → later.reply plan start' stop' state' = .ok raw' →
    start ≤ start' → stop' ≤ stop → ∀ c ∈ raw', c ∈ raw

namespace Lists

variable {v : Visit} {feed : Feed} {plan : IntervalPlan} {job : Job}

/-- What a visit to an untimed source brings is nominal. -/
theorem brings_nominal (h : v.Lists feed) (huntimed : v.request.source.isUntimed = true) :
    v.Brings (feed.Nominal v.asset v.request.timeFrame) := by
  intro plan job hprep cache gap hgap state cs hcs c hc
  obtain ⟨raw, hraw, hlists, hmem⟩ := h.gapRun_spec hprep hgap hcs
  have hc := ((hmem c).1 hc).1
  have hstop := reply_nominal huntimed hraw c hc
  rw [(h.direct hprep.plan_eq).2] at hstop
  exact ⟨hlists.own c hc, hstop⟩

section Load

variable (h : v.Lists feed) (huntimed : v.request.source.isUntimed = true) (hprep : v.Prepared plan job)
  {cache : Cache}
  (hclaimed : ∀ k c, (v.claimed cache).get? k = some c →
    feed.Nominal v.asset v.request.timeFrame c ∧ c.start = k)
include h huntimed hprep hclaimed

/-- Whatever such a visit leaves is nominal. -/
theorem nominal_load {k : Int} {c : Candle}
    (hc : ((v.load cache).cache.candles v.request.timeFrame).get? k = some c) :
    feed.Nominal v.asset v.request.timeFrame c ∧ c.start = k :=
  (hprep.mem_load (h.brings_nominal huntimed plan job hprep _) hc).elim id (hclaimed k c)

variable {cs : List Candle} (hcs : (v.load cache).outcome = .ok cs)
include hcs

/-- What was found before such a visit is found after it. -/
theorem hit_load {t : Int} (hhit : Gaps.Hit (Gaps.lookUp (v.claimed cache) v.asset false) v.asset t) :
    Gaps.Hit (Gaps.lookUp ((v.load cache).cache.candles v.request.timeFrame) v.asset false) v.asset t := by
  obtain ⟨c, hc, hheld⟩ := (Feed.hit_iff_of_nominal hclaimed).1 hhit
  exact (Feed.hit_iff_of_nominal fun k c => h.nominal_load huntimed hprep hclaimed).2
    ⟨c, h.get?_of_claimed hprep (Feed.bar_of_nominal hclaimed) hcs hc, hheld⟩

/-- When the visit is repeated nothing is missing exactly if a candle holds the start of each bucket
    until its nominal end. -/
theorem gaps_load_eq_nil_iff (hlook : 2 * v.request.timeFrame.ms ≤ job.start) :
    (job.collect (v.load cache).cache).2 = [] ↔
      ∀ t ∈ Gaps.grid job.start job.stop v.request.timeFrame.ms,
        ∃ c, feed.bar v.asset v.request.timeFrame c.start = some c ∧ c.start ≤ t ∧
          t < c.start + v.request.timeFrame.ms := by
  have hown := Feed.bar_of_nominal hclaimed
  have hleft := fun k c => h.nominal_load (k := k) (c := c) huntimed hprep hclaimed
  have hsplits := h.splits hprep (v.load cache).cache
  have hpos := v.request.timeFrame.ms_pos
  constructor
  · intro hnone t ht
    rw [hnone] at hsplits
    obtain ⟨c, hc, hfrom, hto⟩ := (Feed.hit_iff_of_nominal hleft).1
      ((hsplits.covers t ht).resolve_right (by simp))
    obtain ⟨hnominal, -⟩ := hleft _ c hc
    exact ⟨c, hnominal.bar, hfrom, hnominal.stop ▸ hto⟩
  · intro hheld
    refine hsplits.eq_nil hpos fun t ht => ?_
    by_cases hhit : Gaps.Hit (Gaps.lookUp (v.claimed cache) v.asset false) v.asset t
    · exact h.hit_load huntimed hprep hclaimed hcs hhit
    · obtain ⟨c, hbar, hfrom, hto⟩ := hheld t ht
      obtain ⟨start, _, _, raw, hraw, hlisted, hstart, hstored⟩ :=
        h.exists_listed hprep hown hcs hlook ht hhit hbar hfrom (by omega)
      have hstop := reply_nominal huntimed hraw c hlisted
      rw [(h.direct hprep.plan_eq).2] at hstop
      exact (Feed.hit_iff_of_nominal hleft).2 ⟨c, hstored (by omega), hfrom, hstop ▸ hto⟩

section Again

variable {σ : Type} {world : World σ} {state : σ} (hagain : (v.facing world state).Lists feed)
  (hechoes : (v.facing world state).Echoes v)
include hagain hechoes

/-- What comes of a gap when the visit is repeated passes the check, and is there already. -/
theorem passes_again {gap : Gap} (hgap : gap ∈ (job.collect (v.load cache).cache).2) {state' : σ}
    {ds : List Candle} (hds : (job.gapRun v.registry world state' gap).outcome = .ok ds) :
    Job.Passes v.settings.strict ds ∧
      ∀ c ∈ ds, ((v.load cache).cache.candles v.request.timeFrame).get? c.start = some c := by
  have hown := Feed.bar_of_nominal hclaimed
  have hprep' := hprep.facing world state
  have hbefore := h.splits hprep (cache.claim job.timeFrame job.asset)
  rw [hprep.candles_claim] at hbefore
  -- More is found than before, so the gap lies inside one that the visit has filled.
  obtain ⟨first, hfirst, hfrom, hto⟩ := hbefore.exists_inside (h.splits hprep (v.load cache).cache)
    (fun t _ => h.hit_load huntimed hprep hclaimed hcs) v.request.timeFrame.ms_pos hgap
  obtain ⟨_, raw, filled, hreply, -, hmem, hpass, hstored⟩ := h.exists_filled hprep hown hcs hfirst
  obtain ⟨raw', hreply', -, hmem'⟩ := hagain.gapRun_spec hprep' hgap hds
  have hstart := job.fetchStart_mono hfrom
  have hsub : ∀ c ∈ ds, c ∈ filled := by
    intro c hc
    obtain ⟨hlisted, hover⟩ := (hmem' c).1 hc
    refine (hmem c).2 ⟨hechoes.within plan _ _ _ _ _ _ raw raw' hprep.plan_eq hreply hreply' hstart hto c
      hlisted, ?_⟩
    simp only [Candle.overlaps, Bool.and_eq_true, decide_eq_true_eq] at hover ⊢
    omega
  exact ⟨hpass.of_subset (hprep'.ascending_gapRun hds) hsub, fun c hc => hstored c (hsub c hc)⟩

/-- Each gap of the repeated visit is answered. -/
theorem exists_gapRun_again {gap : Gap} (hgap : gap ∈ (job.collect (v.load cache).cache).2) (state' : σ) :
    ∃ ds, (job.gapRun v.registry world state' gap).outcome = .ok ds ∧ Job.Passes v.settings.strict ds := by
  have hprep' := hprep.facing world state
  obtain ⟨hnonneg, hlt, -, hto⟩ := hprep.gap_bounds hgap
  obtain ⟨raw, hraw⟩ :=
    hechoes.replies plan _ _ _ _ state' hprep.plan_eq hprep'.window_eq hnonneg hlt hto
  have hds : (job.gapRun v.registry world state' gap).outcome = .ok _ :=
    (hprep'.outcome_gapRun state' gap).trans (congrArg _ hraw)
  exact ⟨_, hds, (h.passes_again huntimed hprep hclaimed hcs hagain hechoes hgap hds).1⟩

/-- The repeated visit returns. -/
theorem exists_again :
    ∃ ds, ((v.facing world state).load (v.load cache).cache).outcome = .ok ds := by
  refine (hprep.facing world state).exists_outcome fun gap hgap state' cause => ?_
  rw [hprep.timeFrame, hprep.asset, hprep.claim_load] at hgap
  obtain ⟨ds, hds, hpass⟩ :=
    h.exists_gapRun_again huntimed hprep hclaimed hcs hagain hechoes hgap state'
  exact hpass.not_breaks (hechoes.going state') hds

/-- It changes nothing. -/
theorem get?_again (k : Int) :
    (((v.facing world state).load (v.load cache).cache).cache.candles v.request.timeFrame).get? k =
      ((v.load cache).cache.candles v.request.timeFrame).get? k := by
  have hprep' := hprep.facing world state
  obtain ⟨ds, hds⟩ := h.exists_again huntimed hprep hclaimed hcs hagain hechoes
  have hfound : (v.facing world state).claimed (v.load cache).cache =
      (v.load cache).cache.candles v.request.timeFrame :=
    congrArg (Cache.candles · v.request.timeFrame) (hprep.claim_load cache)
  have hown : ∀ k c, ((v.facing world state).claimed (v.load cache).cache).get? k = some c →
      feed.bar v.asset v.request.timeFrame k = some c := by
    intro k c hc
    rw [hfound] at hc
    obtain ⟨hnominal, rfl⟩ := h.nominal_load huntimed hprep hclaimed hc
    exact hnominal.bar
  obtain ⟨results, state', hdone, hmap⟩ := hagain.get?_load_iff hprep' hown hds
  rw [hprep.timeFrame, hprep.asset, hprep.claim_load] at hdone
  have hthere := hdone.forall₂ fun gap hgap _ _ hrun =>
    (h.passes_again huntimed hprep hclaimed hcs hagain hechoes hgap hrun).2
  refine Option.ext fun c => ?_
  rw [← hfound]
  refine (hmap k c).trans ⟨fun hc => ?_, Or.inr⟩
  rcases hc with ⟨es, hes, hc, rfl⟩ | hold
  · obtain ⟨_, _, hstored⟩ := Job.exists_of_forall₂ hthere es hes
    rw [hfound]
    exact hstored c hc
  · exact hold

/-- And it asks if anything is missing. -/
theorem calls_again_eq_nil_iff :
    ((v.facing world state).load (v.load cache).cache).calls = [] ↔
      (job.collect (v.load cache).cache).2 = [] := by
  have hprep' := hprep.facing world state
  refine ⟨fun hcalls => ?_, fun hnone => (hprep.load_again hcs hnone world state).1⟩
  by_contra hne
  obtain ⟨gap, rest, hgaps⟩ := List.exists_cons_of_ne_nil hne
  have hgap : gap ∈ (job.collect (v.load cache).cache).2 := hgaps ▸ List.mem_cons_self
  obtain ⟨ds, hds, hpass⟩ := h.exists_gapRun_again huntimed hprep hclaimed hcs hagain hechoes hgap state
  have hasked := hprep'.calls_gapRun_pos hgap (hechoes.going state) hds
  have hclaim := hprep.claim_load cache
  rw [← hprep.timeFrame, ← hprep.asset] at hclaim
  have hload : (v.facing world state).load (v.load cache).cache =
      job.run v.registry v.settings.strict world (v.load cache).cache state := hprep'.load _
  obtain ⟨-, -, hfill, -⟩ :=
    job.run_eq_fill v.registry v.settings.strict world (v.load cache).cache state
  obtain ⟨later, hlater⟩ := job.exists_calls_fill v.registry v.settings.strict world gap rest
    (v.load cache).cache state
  rw [hload, hfill, hclaim, hgaps, hlater] at hcalls
  -- The calls of the first gap are among those of the load, unless the gap breaks it off.
  rcases job.fetchGap_cases v.registry v.settings.strict world state gap with
    ⟨_, -, -, -, -, hsame, -⟩ | ⟨cause, -, hbreaks⟩
  · have hfirst := (List.append_eq_nil_iff.1 hcalls).1
    rw [← List.length_eq_zero_iff, hsame] at hfirst
    exact Nat.ne_of_gt hasked hfirst
  · exact hpass.not_breaks (hechoes.going state) hds hbreaks

end Again

end Load

end Lists

/-- A source whose rows carry no time of their end serves a timeframe off the grid, and it lists one feed
    in every load of a session that may have filled the asset's map. The window of a load begins two
    buckets after 1970 or later. When the load has returned and is repeated, at a provider that has not
    changed, it returns the same candles and leaves the same in the cache. It asks for nothing exactly if
    the start of each bucket of the window is held by a candle, were that as long as its interval. -/
theorem load_nominal {v : Visit} {feed : Feed} {plan : IntervalPlan} {events : List Event}
    {first last : Int} (hasset : v.request.asset? = some v.asset) (hplan : v.plan = .ok plan)
    (hwindow : v.window = .ok (first, last)) (hlook : 2 * v.request.timeFrame.ms ≤ first)
    (huntimed : v.request.source.isUntimed = true) (hlists : v.Lists feed)
    (hsession : ∀ u, Event.load u ∈ events → u.request.timeFrame = v.request.timeFrame →
      u.asset = v.asset → u.request.source.isUntimed = true ∧ u.Lists feed) {cs : List Candle}
    (hcs : (v.load (Session.after events)).outcome = .ok cs) {σ : Type} {world : World σ} {state : σ}
    (hagain : (v.facing world state).Lists feed) (hechoes : (v.facing world state).Echoes v) :
    let left := (v.load (Session.after events)).cache
    let again := (v.facing world state).load left
    again.outcome = .ok cs ∧
      (∀ k, (again.cache.candles v.request.timeFrame).get? k =
        (left.candles v.request.timeFrame).get? k) ∧
      (again.calls = [] ↔ ∀ t ∈ Gaps.grid first last v.request.timeFrame.ms,
        ∃ c, feed.bar v.asset v.request.timeFrame c.start = some c ∧ c.start ≤ t ∧
          t < c.start + v.request.timeFrame.ms) := by
  intro left again
  obtain ⟨job, hprep⟩ := Visit.exists_prepared hplan hwindow hasset
  obtain ⟨rfl, rfl⟩ : job.start = first ∧ job.stop = last :=
    Prod.mk.inj (Except.ok.inj (hprep.window_eq.symm.trans hwindow))
  have hclaimed : ∀ k c, (v.claimed (Session.after events)).get? k = some c →
      feed.Nominal v.asset v.request.timeFrame c ∧ c.start = k := by
    intro k c hc
    refine forall_claimed (fun u hu ht hasset => ?_) hc
    obtain ⟨huntimed', hlists'⟩ := hsession u hu ht hasset
    exact ht ▸ hasset ▸ hlists'.brings_nominal huntimed'
  have hsame := hlists.get?_again huntimed hprep hclaimed hcs hagain hechoes
  refine ⟨?_, hsame, ?_⟩
  · obtain ⟨ds, hds⟩ := hlists.exists_again huntimed hprep hclaimed hcs hagain hechoes
    obtain ⟨hsound, hserves⟩ := v.sound_load (Session.sound_after events)
    obtain ⟨-, hascending, hmem⟩ := hserves.whole _ hprep.not_blank cs hcs
    obtain ⟨-, hascending', hmem'⟩ :=
      ((v.facing world state).sound_load hsound).2.whole _ hprep.not_blank ds hds
    rw [hds, hascending'.ext hascending fun c => ?_]
    rw [hmem, hmem']
    exact exists_congr fun k => by rw [← hsame k]; exact Iff.rfl
  · rw [hlists.calls_again_eq_nil_iff huntimed hprep hclaimed hcs hagain hechoes]
    exact hlists.gaps_load_eq_nil_iff huntimed hprep hclaimed hcs hlook

/-! ## Months -/

section Months

variable {start : Int} (hstart : 0 ≤ start) (hstart' : start ≤ 2 ^ 52)
include hstart hstart'

theorem lists_months : (months start).Lists Feed.months := by
  refine (honest_months hstart hstart').lists (fun plan hplan => ?_) fun base k c hc => ?_
  · rw [plan_months] at hplan
    obtain rfl := Except.ok.inj hplan
    show monthPlan.isDirect && TimeFrame.month.isOffGrid = true
    decide
  · obtain ⟨-, rfl⟩ := Months.bar_eq_some.1 hc
    have hpos := base.ms_pos
    show k < k + base.ms
    omega

/-- A load of a month returns. -/
theorem exists_months (cache : Cache) : ∃ cs, ((months start).load cache).outcome = .ok cs := by
  have hhonest := honest_months hstart hstart'
  obtain ⟨job, hprep⟩ := hhonest.exists_prepared (plan_months start) asset_months
  exact hhonest.exists_outcome hprep (Or.inr Months.dated) (reliable_months start) rfl cache

end Months

/-- Bitget has not changed when it is asked again. -/
theorem echoes_months (start : Int) : (months start).Echoes (months start) where
  going _ := rfl
  replies plan _ _ first last state hplan _ _ _ _ := by
    rw [plan_months] at hplan
    obtain rfl := Except.ok.inj hplan
    exact ⟨_, reply_months start state⟩
  within plan first last first' last' state state' raw raw' hplan hraw hraw' hle hle' c hc := by
    rw [plan_months] at hplan
    obtain rfl := Except.ok.inj hplan
    rw [reply_months] at hraw hraw'
    obtain rfl := Except.ok.inj hraw
    obtain rfl := Except.ok.inj hraw'
    obtain ⟨k, hk, rfl⟩ := List.mem_map.1 hc
    obtain ⟨hopens, hlt, hlt'⟩ := Months.mem_starts.1 hk
    exact List.mem_map.2 ⟨k, Months.mem_starts.2 ⟨hopens, by omega, by omega⟩, rfl⟩

/-- The thirty days from the last of June 1970 on begin on the thirtieth day of a month. After a load of
    the thirty days before, a load of them is repeated without a call. -/
theorem load_nominal_june :
    let before := Session.after [.load (months (150 * dayMs))]
    let v := months (180 * dayMs)
    v.request.asset? = some v.asset ∧ v.plan = .ok monthPlan ∧
      v.window = .ok (180 * dayMs, 210 * dayMs) ∧ 2 * TimeFrame.month.ms ≤ 180 * dayMs ∧
      v.request.source.isUntimed = true ∧ v.Lists Feed.months ∧ v.Echoes v ∧
      ∃ cs, (v.load before).outcome = .ok cs ∧ (v.load (v.load before).cache).outcome = .ok cs ∧
        (v.load (v.load before).cache).calls = [] := by
  intro before v
  have hwindow : v.window = .ok (180 * dayMs, 210 * dayMs) := eq_ok_of_toOption (by decide +kernel)
  have hlists : v.Lists Feed.months := lists_months (by decide) (by decide)
  obtain ⟨cs, hcs⟩ : ∃ cs, (v.load before).outcome = .ok cs := exists_months (by decide) (by decide) before
  have hsession : ∀ u, Event.load u ∈ [Event.load (months (150 * dayMs))] →
      u.request.timeFrame = v.request.timeFrame → u.asset = v.asset →
      u.request.source.isUntimed = true ∧ u.Lists Feed.months := by
    intro u hu _ _
    obtain rfl : u = months (150 * dayMs) := by simpa using hu
    exact ⟨rfl, lists_months (by decide) (by decide)⟩
  have hagain : (v.facing v.world v.state).Lists Feed.months := hlists
  obtain ⟨houtcome, -, hcalls⟩ := load_nominal asset_months (plan_months _) hwindow (by decide) rfl hlists
    hsession hcs hagain (echoes_months _)
  refine ⟨asset_months, plan_months _, hwindow, by decide, rfl, hlists, echoes_months _, cs, hcs, houtcome,
    hcalls.2 fun t ht => ?_⟩
  have hgrid : Gaps.grid (180 * dayMs) (210 * dayMs) TimeFrame.month.ms = [180 * dayMs] := by decide
  obtain rfl : t = 180 * dayMs := List.mem_singleton.1 (hgrid ▸ ht)
  exact ⟨.steady 1 _ .month (151 * dayMs), Months.bar_eq_some.2 ⟨⟨rfl, by decide⟩, rfl⟩, by decide,
    by decide⟩

/-- The thirty days before begin on the thirty-first of May. The months are 28 to 31 days long and reach
    over them, and all of them are listed; yet a load of these days is repeated with a call. -/
theorem load_asks_again_may :
    let v := months (150 * dayMs)
    (Months.opens.IsChain fun k k' => 28 * dayMs ≤ k' - k ∧ k' - k ≤ 31 * dayMs) ∧
      (∃ k ∈ Months.opens, k ≤ 150 * dayMs) ∧ (∃ k ∈ Months.opens, 180 * dayMs ≤ k) ∧
      v.window = .ok (150 * dayMs, 180 * dayMs) ∧ 2 * TimeFrame.month.ms ≤ 150 * dayMs ∧
      v.request.source.isUntimed = true ∧ v.Lists Feed.months ∧ v.Echoes v ∧
      ∃ cs, (v.load (Session.after [])).outcome = .ok cs ∧
        (v.load (v.load (Session.after [])).cache).calls ≠ [] := by
  intro v
  have hwindow : v.window = .ok (150 * dayMs, 180 * dayMs) := eq_ok_of_toOption (by decide +kernel)
  have hlists : v.Lists Feed.months := lists_months (by decide) (by decide)
  obtain ⟨cs, hcs⟩ : ∃ cs, (v.load (Session.after [])).outcome = .ok cs :=
    exists_months (by decide) (by decide) _
  refine ⟨Months.spaced_opens, ⟨0, by decide, by decide⟩, ⟨181 * dayMs, by decide, by decide⟩, hwindow,
    by decide, rfl, hlists, echoes_months _, cs, hcs, fun hcalls => ?_⟩
  obtain ⟨job, hprep⟩ := Visit.exists_prepared (plan_months _) hwindow asset_months
  obtain ⟨hfirst, hlast⟩ := Prod.mk.inj (Except.ok.inj (hprep.window_eq.symm.trans hwindow))
  have hclaimed : ∀ k c, (v.claimed (Session.after [])).get? k = some c →
      Feed.months.Nominal v.asset v.request.timeFrame c ∧ c.start = k := by
    intro k c hc
    rw [show Session.after [] = Cache.empty from rfl, claimed_empty] at hc
    exact absurd hc (by simp)
  have hnone := (hlists.calls_again_eq_nil_iff rfl hprep hclaimed hcs hlists (echoes_months _)).1 hcalls
  have hlook : 2 * v.request.timeFrame.ms ≤ job.start := hfirst ▸ (by decide)
  have hheld := (hlists.gaps_load_eq_nil_iff rfl hprep hclaimed hcs hlook).1 hnone
  rw [hfirst, hlast] at hheld
  obtain ⟨c, hbar, hfrom, hto⟩ := hheld (150 * dayMs) (by decide)
  have hopens := (Months.bar_eq_some.1 hbar).1.2
  have huncovered : ∀ k ∈ Months.opens, ¬ (k ≤ 150 * dayMs ∧ 150 * dayMs < k + TimeFrame.month.ms) := by
    decide
  exact huncovered _ hopens ⟨hfrom, hto⟩

end Visit

end Candlestick
