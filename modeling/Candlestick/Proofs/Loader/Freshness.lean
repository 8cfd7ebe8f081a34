import Candlestick.Proofs.Loader.Closing
import Candlestick.Proofs.Loader.Transparency

set_option autoImplicit false

/-! # When a candle that is shown was served

As long as a bucket is open its candle changes, and when it has ended it changes no more. The loader
asks for a bucket until one of its loads has brought a candle of it, and then never again. So the candle
that is shown is the one that was served to the load which brought it. It is the bucket's last if the
bucket had ended by then; a candle that was brought before is kept as it was. -/

namespace Candlestick

/-- What a source serves at each time: from its opening on a bucket has a candle, and the one that it
    has at its end it keeps. -/
structure Feed.Live (served : Int → Feed) (asset : String) (t : TimeFrame) : Prop where
  opened : ∀ now k, 0 ≤ k → t.ms ∣ k → k ≤ now → ((served now).bar asset t k).isSome = true
  settles : ∀ now k, k + t.ms ≤ now → (served now).bar asset t k = (served (k + t.ms)).bar asset t k

/-- A visit for an asset in a timeframe that its source serves itself and on the grid. Its provider
    answers with what is served at the visit's time. -/
structure Visit.Watches (v : Visit) (served : Int → Feed) (asset : String) (t : TimeFrame) : Prop where
  asset_eq : v.request.asset? = some asset
  timeFrame_eq : v.request.timeFrame = t
  native : ∃ plan, v.plan = .ok plan ∧ plan.isDirect = true
  onGrid : t.isOffGrid = false
  honest : v.Honest (served v.now)

/-- A bucket is in the window of a visit. -/
def Visit.Spans (v : Visit) (k : Int) : Prop :=
  ∃ first last, v.window = .ok (first, last) ∧ k ∈ Gaps.grid first last v.request.timeFrame.ms

/-- What an asset finds of a bucket. -/
def Cache.held (cache : Cache) (t : TimeFrame) (asset : String) (k : Int) : Option Candle :=
  ((cache.claim t asset).candles t).get? k

theorem Cache.Sound.start_of_held {cache : Cache} (h : cache.Sound) {t : TimeFrame} {asset : String}
    {k : Int} {c : Candle} (hc : cache.held t asset k = some c) : c.start = k :=
  h.byStart t k c (mem_claim_of_mem _ _ hc).2

namespace Session

variable {served : Int → Feed} {asset : String} {t : TimeFrame} {visits : List Visit} {v : Visit}
  {k : Int} {c : Candle}

/-- The cache after some visits. -/
def loaded (visits : List Visit) : Cache := after (visits.map .load)

/-- Of the visits that had a bucket in their windows none has returned. -/
def Missed (visits : List Visit) (k : Int) : Prop :=
  ∀ before u later, visits = before ++ u :: later → u.Spans k →
    ∀ cs, (u.load (loaded before)).outcome ≠ .ok cs

/-- A candle is what was served of a bucket to one of the visits, which had the bucket in its window;
    none of those before had returned with it. -/
def Brought (served : Int → Feed) (asset : String) (t : TimeFrame) (visits : List Visit) (k : Int)
    (c : Candle) : Prop :=
  ∃ before u later, visits = before ++ u :: later ∧ Missed before k ∧ u.Spans k ∧
    (served u.now).bar asset t k = some c

theorem loaded_concat (visits : List Visit) (v : Visit) :
    loaded (visits ++ [v]) = (v.load (loaded visits)).cache := by
  rw [loaded, List.map_append]
  exact after_concat _ _

theorem Missed.concat (h : Missed visits k)
    (hv : v.Spans k → ∀ cs, (v.load (loaded visits)).outcome ≠ .ok cs) : Missed (visits ++ [v]) k := by
  intro before u later hsplit hspans
  rcases List.eq_nil_or_concat' later with rfl | ⟨later, w, rfl⟩
  · obtain ⟨rfl, heq⟩ := List.append_inj' hsplit rfl
    cases heq
    exact hv hspans
  · rw [← List.cons_append, ← List.append_assoc] at hsplit
    exact h before u later (List.append_inj' hsplit rfl).1 hspans

theorem Brought.concat (h : Brought served asset t visits k c) (v : Visit) :
    Brought served asset t (visits ++ [v]) k c := by
  obtain ⟨before, u, later, rfl, hbrought⟩ := h
  exact ⟨before, u, later ++ [v], by simp, hbrought⟩

end Session

/-- What a feed has of a timeframe that its source serves itself is its chart. -/
theorem Feed.chart_of_direct {feed : Feed} {plan : IntervalPlan} {t : TimeFrame}
    (hplan : plan.isDirect = true ↔ plan.base = t) (hdirect : plan.isDirect = true) (asset : String)
    (k : Int) : feed.chart plan asset t k = feed.bar asset t k := by
  rw [chart, if_pos hdirect, hplan.1 hdirect]
  cases hbar : feed.bar asset t k with
  | none => rfl
  | some c =>
    rw [Option.map_some, Candle.relabel, ← feed.label_eq asset t k c hbar]

namespace Visit

/-- The last bucket of an honest visit's window has begun. -/
theorem Honest.begun_of_mem {v : Visit} {feed : Feed} (h : v.Honest feed) {plan : IntervalPlan}
    {job : Job} (hprep : v.Prepared plan job) {k : Int}
    (hk : k ∈ Gaps.grid job.start job.stop v.request.timeFrame.ms) :
    0 ≤ k ∧ v.request.timeFrame.ms ∣ k ∧ k ≤ v.now := by
  have hsound := h.sound hprep
  obtain ⟨hge, hlt, hdvd⟩ := (Gaps.mem_grid v.request.timeFrame.ms_pos).1 hk
  have hnonneg := hsound.nonneg
  have hbegun := hsound.begun
  have hk : v.request.timeFrame.ms ∣ k := (Int.dvd_iff_dvd_of_dvd_sub hdvd).2 hsound.start_dvd
  have hend := Int.le_of_dvd (by omega) (Int.dvd_sub hsound.stop_dvd hk)
  exact ⟨by omega, hk, by omega⟩

namespace Watches

variable {v : Visit} {served : Int → Feed} {asset : String} {t : TimeFrame}

theorem eq_asset (h : v.Watches served asset t) : asset = v.asset :=
  (LoadRequest.asset?_eq_some.1 h.asset_eq).2

/-- A watching visit has a job, which looks up exactly, and its chart is what is served. -/
theorem exists_prepared (h : v.Watches served v.asset v.request.timeFrame) :
    ∃ plan job, v.Prepared plan job ∧ v.offGrid plan = false ∧
      ∀ k, (served v.now).chart plan v.asset v.request.timeFrame k =
        (served v.now).bar v.asset v.request.timeFrame k := by
  obtain ⟨plan, hplan, hdirect⟩ := h.native
  obtain ⟨job, hprep⟩ := h.honest.exists_prepared hplan h.asset_eq
  refine ⟨plan, job, hprep, ?_, Feed.chart_of_direct (Registry.plan_spec hplan).2 hdirect v.asset⟩
  rw [offGrid, h.onGrid, Bool.and_false]

/-- When a watching visit returns, every bucket of its window is held. -/
theorem exists_held (h : v.Watches served asset t) (hlive : Feed.Live served asset t) {cache : Cache}
    (hcache : cache.Sound) {cs : List Candle} (hcs : (v.load cache).outcome = .ok cs) {k : Int}
    (hk : v.Spans k) : ∃ c, (v.load cache).cache.held t asset k = some c := by
  obtain rfl := h.eq_asset
  obtain rfl := h.timeFrame_eq
  obtain ⟨plan, job, hprep, hexact, hchart⟩ := h.exists_prepared
  obtain ⟨first, last, hwindow, hk⟩ := hk
  rw [hprep.window_eq] at hwindow
  cases hwindow
  obtain ⟨hnonneg, hdvd, hbegun⟩ := h.honest.begun_of_mem hprep hk
  obtain ⟨c, hc⟩ := Option.isSome_iff_exists.1 (hlive.opened _ _ hnonneg hdvd hbegun)
  rw [Cache.held, hprep.claim_load, h.honest.get?_load_of_exact hprep hexact hcache hcs hk, hchart, hc]
  cases (v.claimed cache).get? k with
  | none => exact ⟨c, rfl⟩
  | some d => exact ⟨d, rfl⟩

/-- A candle that is served fills its bucket. -/
theorem stop_of_served (h : v.Watches served asset t) {k : Int} {c : Candle}
    (hc : (served v.now).bar asset t k = some c) : c.stop = k + t.ms := by
  obtain rfl := h.timeFrame_eq
  obtain ⟨plan, hplan, hdirect⟩ := h.native
  have hexact : ¬ v.offGrid plan = true := by simp [offGrid, h.onGrid]
  have hgrid := (h.honest.onGrid plan hplan).resolve_left hexact
  rw [(Registry.plan_spec hplan).2.1 hdirect] at hgrid
  exact (hgrid _ _ c hc).2

/-- A watching visit leaves what is held of a bucket, or it brings it: then nothing was held, and what
    is served at its time is there afterwards. -/
theorem held_load (h : v.Watches served asset t) {cache : Cache} (hcache : cache.Sound) (k : Int) :
    (v.load cache).cache.held t asset k = cache.held t asset k ∨
      cache.held t asset k = none ∧ v.Spans k ∧
        (v.load cache).cache.held t asset k = (served v.now).bar asset t k := by
  obtain rfl := h.eq_asset
  obtain rfl := h.timeFrame_eq
  obtain ⟨plan, job, hprep, hexact, hchart⟩ := h.exists_prepared
  obtain ⟨done, rest, results, state', hsplit, hdone, hshelf, -, -⟩ :=
    job.fillsPrefix_run v.registry v.settings.strict v.world cache v.state
  rw [← hprep.load, hprep.timeFrame, hprep.asset] at hshelf
  have hsub : ∀ gap ∈ done, gap ∈ (job.collect (cache.claim job.timeFrame job.asset)).2 :=
    fun gap hgap => hsplit ▸ List.mem_append_left rest hgap
  have hfills := hdone.forall₂ fun gap hgap state cs hrun =>
    h.honest.gapRun_spec hprep (hsub gap hgap) hrun
  have hafter : (v.load cache).cache.held v.request.timeFrame v.asset k =
      ((v.claimed cache).overlay results).get? k := by
    rw [Cache.held, hprep.claim_load, Cache.candles_eq _ _ hshelf, claimed]
  obtain ⟨hin, hout⟩ := get?_overlay_of_fills (fun _ _ => Feed.start_of_chart) hfills
    (v.claimed cache) k
  rw [hafter, ← hchart]
  by_cases hfetched : ∃ c, (served v.now).chart plan v.asset v.request.timeFrame k = some c ∧
      Fetched job done c
  · -- The bucket lies in a gap that was completed, so nothing had been found of it.
    obtain ⟨c, hc, gap, hgap, hover⟩ := hfetched
    have hmem := hsub gap hgap
    obtain ⟨hge, hlt⟩ := (h.honest.overlaps_gap_iff hprep hexact hmem hc).1 hover
    have hwithin := (h.honest.splits hprep _).within gap hmem
    have hgrid : k ∈ Gaps.grid job.start job.stop v.request.timeFrame.ms :=
      (Gaps.mem_grid v.request.timeFrame.ms_pos).2 ⟨by omega, by omega,
        Int.dvd_sub (h.honest.dvd_of_chart hprep hexact hc) (h.honest.sound hprep).start_dvd⟩
    refine Or.inr ⟨h.honest.claimed_of_gap hprep hexact hcache hmem hgrid hge hlt,
      ⟨_, _, hprep.window_eq, hgrid⟩, ?_⟩
    rw [hin c hc ⟨gap, hgap, hover⟩, hc]
  · exact Or.inl (hout fun c hc hover => hfetched ⟨c, hc, hover⟩)

/-- A watching visit that returns gives what is held afterwards. -/
theorem mem_outcome (h : v.Watches served asset t) {cache : Cache} (hcache : cache.Sound)
    {cs : List Candle} (hcs : (v.load cache).outcome = .ok cs) {c : Candle} :
    c ∈ cs ↔ (v.load cache).cache.held t asset c.start = some c := by
  obtain rfl := h.eq_asset
  obtain rfl := h.timeFrame_eq
  obtain ⟨plan, job, hprep, -, -⟩ := h.exists_prepared
  obtain ⟨hsound, hserves⟩ := Visit.sound_load v hcache
  rw [(hserves.whole v.asset h.asset_eq cs hcs).2.2, Cache.held, hprep.claim_load]
  constructor
  · rintro ⟨k, hk⟩
    rwa [hsound.byStart _ k c hk]
  · exact fun hc => ⟨c.start, hc⟩

end Watches

end Visit

namespace Session

variable {served : Int → Feed} {asset : String} {t : TimeFrame} {visits : List Visit} {k : Int}

theorem sound_loaded (visits : List Visit) : (loaded visits).Sound := sound_after _

/-- After watching visits nothing is held of a bucket that all of them have missed, and otherwise what
    one of them brought. -/
theorem held_loaded (hlive : Feed.Live served asset t)
    (hvisits : ∀ u ∈ visits, u.Watches served asset t) :
    ((loaded visits).held t asset k = none → Missed visits k) ∧
      ∀ c, (loaded visits).held t asset k = some c → Brought served asset t visits k c := by
  induction visits using List.reverseRecOn with
  | nil =>
    have hnone : (loaded []).held t asset k = none := by
      rw [Cache.held, Cache.candles_claim_of_ne]
      · simp
      · simp [loaded, after, Cache.empty, Cache.owner]
    refine ⟨fun _ before u later h => absurd h (by simp), fun c hc => ?_⟩
    exact absurd (hnone.symm.trans hc) (by simp)
  | append_singleton visits v ih =>
    obtain ⟨hmissed, hbrought⟩ := ih fun u hu => hvisits u (List.mem_append_left _ hu)
    have hv := hvisits v (by simp)
    have hheld := hv.held_load (sound_loaded visits) k
    rw [loaded_concat]
    constructor
    · intro hnone
      -- What is held once stays held.
      have hbefore : (loaded visits).held t asset k = none := by
        rcases hheld with hkept | ⟨hbefore, -, -⟩
        · rw [← hkept, hnone]
        · exact hbefore
      refine (hmissed hbefore).concat fun hspans cs hcs => ?_
      obtain ⟨c, hc⟩ := hv.exists_held hlive (sound_loaded visits) hcs hspans
      exact absurd (hnone.symm.trans hc) (by simp)
    · intro c hc
      rcases hheld with hkept | ⟨hbefore, hspans, hserved⟩
      · exact (hbrought c (hkept.symm.trans hc)).concat v
      · exact ⟨visits, v, [], rfl, hmissed hbefore, hspans, hserved.symm.trans hc⟩

end Session

/-- A load that returns gives a candle of every bucket of its window. Each candle that it gives is what
    was served to a load of the session, this one or one before, when that brought the bucket. Where the
    bucket had ended for this load, and for all those before that had it in their windows, the candle
    is the one that was served at the bucket's end. -/
theorem Visit.load_as_served {served : Int → Feed} {asset : String} {t : TimeFrame}
    {visits : List Visit} {v : Visit} {cs : List Candle} (hlive : Feed.Live served asset t)
    (hvisits : ∀ u ∈ visits, u.Watches served asset t) (hv : v.Watches served asset t)
    (hcs : (v.load (Session.loaded visits)).outcome = .ok cs) :
    (∀ k, v.Spans k → ∃ c ∈ cs, c.start = k) ∧
      ∀ c ∈ cs, Session.Brought served asset t (visits ++ [v]) c.start c ∧
        (c.stop ≤ v.now → (∀ u ∈ visits, u.Spans c.start → c.stop ≤ u.now) →
          (served c.stop).bar asset t c.start = some c) := by
  have hsound := Session.sound_loaded visits
  refine ⟨fun k hk => ?_, fun c hc => ?_⟩
  · obtain ⟨c, hc⟩ := hv.exists_held hlive hsound hcs hk
    have hstart := (Visit.sound_load v hsound).1.start_of_held hc
    exact ⟨c, (hv.mem_outcome hsound hcs).2 (hstart ▸ hc), hstart⟩
  · have hall : ∀ u ∈ visits ++ [v], u.Watches served asset t := fun u hu =>
      (List.mem_append.1 hu).elim (hvisits u) fun hu => List.mem_singleton.1 hu ▸ hv
    have hheld := (hv.mem_outcome hsound hcs).1 hc
    rw [← Session.loaded_concat] at hheld
    have hbrought := (Session.held_loaded hlive hall).2 c hheld
    refine ⟨hbrought, fun hend hearlier => ?_⟩
    obtain ⟨before, u, later, hsplit, -, hspans, hserved⟩ := hbrought
    have hu : u ∈ visits ++ [v] := hsplit ▸ List.mem_append_right before List.mem_cons_self
    have hstop := (hall u hu).stop_of_served hserved
    have hended : c.stop ≤ u.now := by
      rcases List.mem_append.1 hu with hu | hu
      · exact hearlier u hu hspans
      · rwa [List.mem_singleton.1 hu]
    rw [hstop, ← hlive.settles u.now c.start (hstop ▸ hended), hserved]

/-! ## Hours of a market whose candles close -/

theorem Feed.live_closing {asset : String} {t : TimeFrame} (ht : t ≠ .week) :
    Feed.Live Feed.closing asset t where
  opened now k _ hk hle := by
    rw [← Int.sub_zero k] at hk
    refine Option.isSome_iff_exists.2 ⟨_, Closing.bar_eq_some.2 ⟨⟨?_, hle⟩, rfl⟩⟩
    rwa [weekOpening, if_neg ht]
  settles now k hend := by
    have hpos := t.ms_pos
    have hle : k ≤ now ∧ k ≤ k + t.ms := by omega
    simp only [Feed.closing, Closing.price, hle.1, hle.2, and_true, if_pos hend, Int.le_refl, if_true]

namespace Visit

/-- A load of some hours of Bitget's spot market, at a time. -/
def hoursAt (start stop now : Int) : Visit := .closing .spot .hour1 start stop now "BTC"

theorem watches_hoursAt {start stop now : Int} (hnow : 1 ≤ now) (hnow' : now ≤ 2 ^ 52) :
    (hoursAt start stop now).Watches Feed.closing "BTC" .hour1 where
  asset_eq := by
    show (hoursAt 0 0 0).request.asset? = some "BTC"
    decide +kernel
  timeFrame_eq := rfl
  native := ⟨⟨"1h", .hour1, 1⟩, rfl, rfl⟩
  onGrid := rfl
  honest := honest_closing hnow hnow'

/-- Two hours that are loaded at three o'clock. The first was loaded before, when it had just ended. -/
theorem load_as_served_hours :
    let early := hoursAt 3600000 7200000 7200000
    let late := hoursAt 3600000 10800000 10800000
    Feed.Live Feed.closing "BTC" .hour1 ∧ early.Watches Feed.closing "BTC" .hour1 ∧
      late.Watches Feed.closing "BTC" .hour1 ∧
      ∃ cs, (late.load (Session.loaded [early])).outcome = .ok cs ∧
        (∀ k ∈ Gaps.grid 3600000 10800000 TimeFrame.hour1.ms, ∃ c ∈ cs, c.start = k) ∧
        ∀ c ∈ cs, c.stop ≤ 10800000 → (Feed.closing c.stop).bar "BTC" .hour1 c.start = some c := by
  intro early late
  have hlive : Feed.Live Feed.closing "BTC" .hour1 := Feed.live_closing (by decide)
  have hearly : early.Watches Feed.closing "BTC" .hour1 := watches_hoursAt (by decide) (by decide)
  have hlate : late.Watches Feed.closing "BTC" .hour1 := watches_hoursAt (by decide) (by decide)
  obtain ⟨cs, hcs⟩ : ∃ cs, (late.load (Session.loaded [early])).outcome = .ok cs :=
    exists_of_isOk (by decide +kernel)
  obtain ⟨hwhole, hall⟩ :=
    load_as_served hlive (by simpa using hearly) hlate hcs
  refine ⟨hlive, hearly, hlate, cs, hcs, fun k hk => hwhole k ⟨_, _, eq_ok_of_toOption (by decide +kernel), hk⟩,
    fun c hc hend => ?_⟩
  obtain ⟨⟨_, _, _, _, _, _, hserved⟩, hlast⟩ := hall c hc
  have hstop : c.stop = c.start + 3600000 := congrArg Candle.stop (Closing.bar_eq_some.1 hserved).2
  refine hlast hend fun u hu ⟨first, last, hwindow, hgrid⟩ => ?_
  obtain rfl := List.mem_singleton.1 hu
  have hwindow' : early.window = .ok (3600000, 7200000) := eq_ok_of_toOption (by decide +kernel)
  rw [hwindow] at hwindow'
  cases hwindow'
  obtain ⟨hge, hlt, hdvd⟩ := (Gaps.mem_grid TimeFrame.hour1.ms_pos).1 hgrid
  have hnow : early.now = 7200000 := rfl
  have hms : TimeFrame.hour1.ms = 3600000 := rfl
  rw [hms] at hdvd
  omega

/-- An hour that was loaded when half of it was over is shown as it was then, when it has ended. -/
theorem load_not_final :
    let early := hoursAt 3600000 7200000 5400000
    let late := hoursAt 3600000 7200000 7200000
    Feed.Live Feed.closing "BTC" .hour1 ∧ early.Watches Feed.closing "BTC" .hour1 ∧
      late.Watches Feed.closing "BTC" .hour1 ∧ early.now ≤ late.now ∧
      ∃ cs, (late.load (Session.loaded [early])).outcome = .ok cs ∧
        ∃ c ∈ cs, late.Spans c.start ∧ c.stop ≤ late.now ∧
          (Feed.closing c.stop).bar "BTC" .hour1 c.start ≠ some c := by
  intro early late
  have hshown : (late.load (Session.loaded [early])).outcome =
      .ok [.steady 1 "BTC" .hour1 3600000] := eq_ok_of_toOption (by decide +kernel)
  exact ⟨Feed.live_closing (by decide), watches_hoursAt (by decide) (by decide),
    watches_hoursAt (by decide) (by decide), by decide, _, hshown, _, List.mem_singleton_self _,
    ⟨3600000, 7200000, eq_ok_of_toOption (by decide +kernel), by decide⟩, by decide,
    by decide +kernel⟩

end Visit

end Candlestick
