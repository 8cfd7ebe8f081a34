import Candlestick.Proofs.Loader.Covering
import Candlestick.Proofs.Loader.Transparency

set_option autoImplicit false

/-! # Which loads a chart depends on

The cache is kept by timeframe and asset. Loads of one asset and timeframe from several sources, or in
several quote assets, share a map, and a chart shows what the map holds before it asks its own source.
So a chart depends on its own feed and on those of the loads that may have filled the map; where these
all asked its own source for its own quote asset, the rest of the session cannot be told from it. -/

namespace Candlestick

namespace Visit.Honest

variable {v : Visit} {feed : Feed} {plan : IntervalPlan} {job : Job}

/-- A bucket that counts as cached is held by a claimed candle. -/
theorem held_of_hit (h : v.Honest feed) (hprep : v.Prepared plan job) {cache : Cache}
    (hclaimed : ∀ k c, (v.claimed cache).get? k = some c →
      feed.chart plan v.asset v.request.timeFrame k = some c) {k : Int}
    (hhit : Gaps.Hit (Gaps.lookUp (v.claimed cache) v.asset (!v.offGrid plan)) v.asset k) :
    ∃ d, (∃ s, (v.claimed cache).get? s = some d) ∧ d.start ≤ k ∧ k < d.stop := by
  cases hoff : v.offGrid plan with
  | true =>
    rw [hoff] at hhit
    obtain ⟨d, hd, hheld⟩ := Gaps.held_of_hit hhit
    exact ⟨d, (Gaps.mem_sorted.1 hd).1, hheld⟩
  | false =>
    rw [hoff] at hhit
    obtain ⟨d, hd, -⟩ := hhit
    have hd : (v.claimed cache).get? k = some d := hd
    have hchart := hclaimed k d hd
    have hgrid : feed.OnGrid plan.base := (h.onGrid plan hprep.plan_eq).resolve_left (by simp [hoff])
    have hover : d.overlaps k (k + 1) = true :=
      (Feed.overlaps_iff_of_chart (Registry.plan_spec hprep.plan_eq) hgrid
        (h.dvd_of_chart hprep hoff hchart) hchart).2 (by omega)
    simp only [Candle.overlaps, Bool.and_eq_true, decide_eq_true_eq] at hover
    exact ⟨d, ⟨k, hd⟩, by omega, hover.1⟩

/-- Where the claimed map holds nothing but the visit's own chart, and a candle of the chart holds the
    start of a bucket of the window, some candle that is shown holds it. -/
theorem held_load (h : v.Honest feed) (hprep : v.Prepared plan job) {cache : Cache}
    (hcache : cache.Sound) {cs : List Candle} (hcs : (v.load cache).outcome = .ok cs)
    (hclaimed : ∀ k c, (v.claimed cache).get? k = some c →
      feed.chart plan v.asset v.request.timeFrame k = some c) {k : Int}
    (hk : k ∈ Gaps.grid job.start job.stop v.request.timeFrame.ms) {c : Candle}
    (hc : feed.chart plan v.asset v.request.timeFrame c.start = some c) (hfrom : c.start ≤ k)
    (hto : k < c.stop) : ∃ d ∈ cs, d.start ≤ k ∧ k < d.stop := by
  have hmem := ((Visit.sound_load v hcache).2.whole v.asset hprep.not_blank cs hcs).2.2
  by_cases hhit : Gaps.Hit (Gaps.lookUp (v.claimed cache) v.asset (!v.offGrid plan)) v.asset k
  · -- The claimed candle that was found is still there: if it was fetched again, it came out the same.
    obtain ⟨d, ⟨s, hd⟩, hheld⟩ := h.held_of_hit hprep hclaimed hhit
    obtain ⟨hfetched, hkept⟩ := h.get?_load hprep hcs s
    have hchart := hclaimed s d hd
    refine ⟨d, (hmem d).2 ⟨s, ?_⟩, hheld⟩
    by_cases hfetch : Fetched job (job.collect (cache.claim job.timeFrame job.asset)).2 d
    · exact hfetched d hchart hfetch
    · rw [hkept fun e he => ?_, hd]
      rwa [← Option.some.inj (hchart.symm.trans he)]
  · have hpos := v.request.timeFrame.ms_pos
    have hover : c.overlaps k (k + v.request.timeFrame.ms) = true := by
      simp only [Candle.overlaps, Bool.and_eq_true, decide_eq_true_eq]
      omega
    exact ⟨c, (hmem c).2 ⟨c.start, h.get?_load_of_missed hprep hcs hk hhit hc hover⟩, hfrom, hto⟩

end Visit.Honest

/-- The feed of the source and the quote asset that a visit asks for. -/
def Visit.feed (v : Visit) (feeds : Source → String → Feed) : Feed := feeds v.request.source v.quote

/-- A visit to a source that has a feed for each quote asset and is honest to it. -/
structure Visit.FedBy (v : Visit) (registry : Registry) (feeds : Source → String → Feed) : Prop where
  registry_eq : v.registry = registry
  honest : v.Honest (v.feed feeds)

/-- A load of an asset returns candles, for a plan and a window. -/
structure Visit.Gives (v : Visit) (cache : Cache) (plan : IntervalPlan) (first last : Int)
    (cs : List Candle) : Prop where
  not_blank : v.request.asset? = some v.asset
  plan_eq : v.plan = .ok plan
  window_eq : v.window = .ok (first, last)
  outcome : (v.load cache).outcome = .ok cs

/-- All loads whose candles a visit may find asked the visit's source for its quote asset. -/
def Visit.Alone (v : Visit) (events : List Event) : Prop :=
  ∀ u ∈ v.contributors events, u.request.source = v.request.source ∧ u.quote = v.quote

instance (v : Visit) (events : List Event) : Decidable (v.Alone events) :=
  List.decidableBAll (fun u : Visit => u.request.source = v.request.source ∧ u.quote = v.quote) _

/-- Two loads ask for the same, at the same time and with the same settings. Who answers them, and
    what went before, may differ. -/
structure Visit.Alike (v v' : Visit) : Prop where
  registry_eq : v'.registry = v.registry
  settings_eq : v'.settings = v.settings
  now_eq : v'.now = v.now
  source_eq : v'.request.source = v.request.source
  timeFrame_eq : v'.request.timeFrame = v.request.timeFrame
  start_eq : v'.request.start = v.request.start
  stop_eq : v'.request.stop = v.request.stop
  asset_eq : v'.request.asset = v.request.asset
  quote_eq : v'.quote = v.quote

/-- No two candles of a chart hold the same moment. -/
def Feed.Apart (chart : Int → Option Candle) : Prop :=
  ∀ k c k' d t, chart k = some c → chart k' = some d → c.start ≤ t → t < c.stop → d.start ≤ t →
    t < d.stop → c = d

/-- A candle holds the start of a bucket of a window. -/
def Candle.holdsBucket (first last width : Int) (c : Candle) : Bool :=
  (Gaps.grid first last width).any fun k => c.start ≤ k ∧ k < c.stop

/-- On which feeds the outcome of a visit after a session depends. -/
structure Visit.Traced (v : Visit) (feeds : Source → String → Feed) (events : List Event) : Prop where
  blank : v.request.asset? = none → (v.load (Session.after events)).outcome = .ok []
  returns : v.Reliable → v.settings.strict = false → ∀ plan, v.plan = .ok plan →
    v.offGrid plan = false ∨ (v.feed feeds).Dated →
    ∃ cs, (v.load (Session.after events)).outcome = .ok cs
  /-- Each candle is of the feed that this load asked for, or that a load asked for whose candles it
      may have found. -/
  provenance : ∀ plan first last cs, v.Gives (Session.after events) plan first last cs → ∀ c ∈ cs,
    ∃ u, (u = v ∨ u ∈ v.contributors events) ∧ ∃ plan', u.plan = .ok plan' ∧
      (u.feed feeds).chart plan' v.asset v.request.timeFrame c.start = some c
  /-- Where the look-up is exact, a bucket of the window shows what was found there, and the load's own
      feed where nothing was. -/
  bucket : ∀ plan first last cs, v.Gives (Session.after events) plan first last cs →
    v.offGrid plan = false → ∀ k ∈ Gaps.grid first last v.request.timeFrame.ms,
    cs.find? (·.start = k) = ((v.claimed (Session.after events)).get? k).or
      ((v.feed feeds).chart plan v.asset v.request.timeFrame k)

/-- Two loads give the same in their windows: the same candles that start there, where the look-up is
    exact, and the same that hold the starts of buckets, where no two candles of the feed hold the same
    moment. All of them are of one feed. -/
structure Visit.ShowsAlike (v v' : Visit) (feed : Feed) (cache cache' : Cache) : Prop where
  own : ∀ plan first last cs, v.Gives cache plan first last cs →
    ∀ c ∈ cs, feed.chart plan v.asset v.request.timeFrame c.start = some c
  window : ∀ plan first last cs cs', v.Gives cache plan first last cs →
    (v'.load cache').outcome = .ok cs' → v.offGrid plan = false →
    cs.filter (fun c => first ≤ c.start ∧ c.start < last) =
      cs'.filter (fun c => first ≤ c.start ∧ c.start < last)
  held : ∀ plan first last cs cs', v.Gives cache plan first last cs →
    (v'.load cache').outcome = .ok cs' →
    Feed.Apart (feed.chart plan v.asset v.request.timeFrame) →
    cs.filter (Candle.holdsBucket first last v.request.timeFrame.ms) =
      cs'.filter (Candle.holdsBucket first last v.request.timeFrame.ms)

namespace Visit

variable {v v' : Visit} {registry : Registry} {feeds : Source → String → Feed} {events : List Event}

theorem Gives.exists_prepared {feed : Feed} (hhonest : v.Honest feed) {cache : Cache}
    {plan : IntervalPlan} {first last : Int} {cs : List Candle}
    (h : v.Gives cache plan first last cs) :
    ∃ job, v.Prepared plan job ∧ job.start = first ∧ job.stop = last := by
  obtain ⟨job, hprep⟩ := hhonest.exists_prepared h.plan_eq h.not_blank
  have hwindow := hprep.window_eq
  rw [h.window_eq] at hwindow
  cases hwindow
  exact ⟨job, hprep, rfl, rfl⟩

/-- What a visit finds when it is alone is of its own chart. -/
theorem claimed_of_alone (hevents : ∀ u, Event.load u ∈ events → u.FedBy registry feeds)
    (hv : v.FedBy registry feeds) (halone : v.Alone events) {plan : IntervalPlan}
    (hplan : v.plan = .ok plan) {k : Int} {c : Candle}
    (hc : (v.claimed (Session.after events)).get? k = some c) :
    (v.feed feeds).chart plan v.asset v.request.timeFrame k = some c := by
  obtain ⟨u, hu, plan', hplan', hchart⟩ :=
    claimed_of_honest (fun u => u.feed feeds) (fun u hu => (hevents u hu).honest) hc
  obtain ⟨hmem, ht, -⟩ := mem_contributors hu
  obtain ⟨hsource, hquote⟩ := halone u hu
  rw [Visit.plan, (hevents u hmem).registry_eq, hsource, ht, ← hv.registry_eq] at hplan'
  rw [Visit.plan, hplan'] at hplan
  rw [Visit.feed, hsource, hquote, Except.ok.inj hplan] at hchart
  exact hchart

theorem traced (hevents : ∀ u, Event.load u ∈ events → u.FedBy registry feeds)
    (hv : v.FedBy registry feeds) : v.Traced feeds events := by
  have hsound := Session.sound_after events
  refine ⟨fun hblank => ?_, fun hreliable hlenient plan hplan hdated => ?_,
    fun plan first last cs hgives c hc => ?_, fun plan first last cs hgives hexact k hk => ?_⟩
  · exact ((sound_load v hsound).2.blank hblank).1
  · cases hasset : v.request.asset? with
    | none => exact ⟨[], ((sound_load v hsound).2.blank hasset).1⟩
    | some asset =>
      obtain rfl : asset = v.asset := (LoadRequest.asset?_eq_some.1 hasset).2
      obtain ⟨job, hprep⟩ := hv.honest.exists_prepared hplan hasset
      exact hv.honest.exists_outcome hprep hdated hreliable hlenient _
  · obtain ⟨job, hprep, -, -⟩ := hgives.exists_prepared hv.honest
    rcases hv.honest.mem_outcome hprep hsound hgives.outcome hc with hchart | hold
    · exact ⟨v, Or.inl rfl, plan, hgives.plan_eq, hchart⟩
    · obtain ⟨u, hu, hcharted⟩ :=
        claimed_of_honest (fun u => u.feed feeds) (fun u hu => (hevents u hu).honest) hold
      exact ⟨u, Or.inr hu, hcharted⟩
  · obtain ⟨job, hprep, rfl, rfl⟩ := hgives.exists_prepared hv.honest
    exact hv.honest.find?_load hprep hexact hsound hgives.outcome hk

/-- What a visit gives when it is alone is of its own chart, in order; in its window it is all of it
    where the look-up is exact, and where no two candles hold the same moment, all that hold the start
    of a bucket. -/
theorem alone_spec (hevents : ∀ u, Event.load u ∈ events → u.FedBy registry feeds)
    (hv : v.FedBy registry feeds) (halone : v.Alone events) {plan : IntervalPlan} {first last : Int}
    {cs : List Candle} (hgives : v.Gives (Session.after events) plan first last cs) :
    Series.Ascending cs ∧
      (∀ c ∈ cs, (v.feed feeds).chart plan v.asset v.request.timeFrame c.start = some c) ∧
      (v.offGrid plan = false → cs.filter (fun c => first ≤ c.start ∧ c.start < last) =
        (Gaps.grid first last v.request.timeFrame.ms).filterMap
          ((v.feed feeds).chart plan v.asset v.request.timeFrame)) ∧
      (Feed.Apart ((v.feed feeds).chart plan v.asset v.request.timeFrame) →
        ∀ c, (v.feed feeds).chart plan v.asset v.request.timeFrame c.start = some c →
          c.holdsBucket first last v.request.timeFrame.ms = true → c ∈ cs) := by
  have hsound := Session.sound_after events
  have hclaimed := fun k c => claimed_of_alone (k := k) (c := c) hevents hv halone hgives.plan_eq
  obtain ⟨job, hprep, rfl, rfl⟩ := hgives.exists_prepared hv.honest
  have hown := hv.honest.own_load hprep hsound hgives.outcome hclaimed
  refine ⟨((sound_load v hsound).2.whole v.asset hgives.not_blank cs hgives.outcome).2.1,
    hown, fun hexact => hv.honest.window_load hprep hexact hsound hgives.outcome hclaimed,
    fun hapart c hc hholds => ?_⟩
  obtain ⟨k, hk, hheld⟩ := List.any_eq_true.1 hholds
  obtain ⟨hfrom, hto⟩ := of_decide_eq_true hheld
  obtain ⟨d, hd, hdfrom, hdto⟩ := hv.honest.held_load hprep hsound hgives.outcome hclaimed hk hc hfrom hto
  rwa [hapart _ c _ d k hc (hown d hd) hfrom hto hdfrom hdto]

theorem Alike.gives (halike : v.Alike v') {cache cache' : Cache} {plan : IntervalPlan}
    {first last : Int} {cs cs' : List Candle} (h : v.Gives cache plan first last cs)
    (hcs' : (v'.load cache').outcome = .ok cs') : v'.Gives cache' plan first last cs' where
  not_blank := by
    have := h.not_blank
    rw [LoadRequest.asset?, Visit.asset] at this ⊢
    rwa [halike.asset_eq]
  plan_eq := by
    have := h.plan_eq
    rw [Visit.plan] at this ⊢
    rwa [halike.registry_eq, halike.source_eq, halike.timeFrame_eq]
  window_eq := by
    have := h.window_eq
    rw [Visit.window] at this ⊢
    rwa [halike.settings_eq, halike.now_eq, halike.timeFrame_eq, halike.start_eq, halike.stop_eq]
  outcome := hcs'

end Visit

/-- After a session of loads that each are honest to the feed of their source and quote asset, a load
    shows candles of its own feed and of those of its contributors only, and those of the contributors
    first. If it is alone, a load that asks for the same after another session, whatever else there was
    in it, shows the same. -/
theorem load_isolated (registry : Registry) (feeds feeds' : Source → String → Feed)
    (events events' : List Event) (v v' : Visit)
    (hevents : ∀ u, Event.load u ∈ events → u.FedBy registry feeds)
    (hevents' : ∀ u, Event.load u ∈ events' → u.FedBy registry feeds') (hv : v.FedBy registry feeds)
    (hv' : v'.FedBy registry feeds') (halike : v.Alike v') (hfeed : v'.feed feeds' = v.feed feeds) :
    v.Traced feeds events ∧ (v.Alone events → v'.Alone events' →
      v.ShowsAlike v' (v.feed feeds) (Session.after events) (Session.after events')) := by
  refine ⟨Visit.traced hevents hv, fun halone halone' => ?_⟩
  have hsame : ∀ plan, (v'.feed feeds').chart plan v'.asset v'.request.timeFrame =
      (v.feed feeds).chart plan v.asset v.request.timeFrame := fun plan => by
    rw [hfeed, Visit.asset, halike.asset_eq, halike.timeFrame_eq, Visit.asset]
  refine ⟨fun plan first last cs hgives => (Visit.alone_spec hevents hv halone hgives).2.1,
    fun plan first last cs cs' hgives hcs' hexact => ?_, fun plan first last cs cs' hgives hcs' hapart => ?_⟩
  · have hgives' := halike.gives hgives hcs'
    have hexact' : v'.offGrid plan = false := by
      rw [Visit.offGrid] at hexact ⊢
      rwa [halike.timeFrame_eq]
    have hwindow' := (Visit.alone_spec hevents' hv' halone' hgives').2.2.1 hexact'
    rw [hsame, halike.timeFrame_eq] at hwindow'
    rw [(Visit.alone_spec hevents hv halone hgives).2.2.1 hexact, hwindow']
  · have hgives' := halike.gives hgives hcs'
    obtain ⟨hascending, hown, -, hheld⟩ := Visit.alone_spec hevents hv halone hgives
    obtain ⟨hascending', hown', -, hheld'⟩ := Visit.alone_spec hevents' hv' halone' hgives'
    rw [hsame, halike.timeFrame_eq] at hheld'
    rw [hsame] at hown'
    refine (hascending.filter _).ext (hascending'.filter _) fun c => ?_
    rw [List.mem_filter, List.mem_filter]
    constructor
    · rintro ⟨hc, hholds⟩
      exact ⟨hheld' hapart c (hown c hc) hholds, hholds⟩
    · rintro ⟨hc, hholds⟩
      exact ⟨hheld hapart c (hown' c hc) hholds, hholds⟩

/-! ## Two markets with prices that stand still -/

def Market.steadyPrice : Market → Int
  | .spot => 1
  | .futures => 2

def Feed.byMarket (source : Source) (_ : String) : Feed := .steady source.market.steadyPrice

/-- A load of the hour from one to two o'clock from one of Bitget's markets. -/
def Visit.hourOf (market : Market) (asset : String) : Visit :=
  .steady market market.steadyPrice .hour1 3600000 7200000 7200000 asset

theorem Visit.fedBy_steady {market : Market} {t : TimeFrame} {start stop now : Int} {asset : String}
    (hnow : 1 ≤ now) (hnow' : now ≤ 2 ^ 52) :
    (steady market market.steadyPrice t start stop now asset).FedBy Registry.standard Feed.byMarket where
  registry_eq := rfl
  honest := honest_steady (by cases market <;> decide) hnow hnow'

theorem Visit.fedBy_hourOf (market : Market) (asset : String) :
    (hourOf market asset).FedBy Registry.standard Feed.byMarket :=
  fedBy_steady (by decide) (by decide)

/-- An hour of the spot market after one of the other market and one of another asset, and after one of
    the spot market. -/
theorem load_isolated_hours :
    let spot := Visit.hourOf .spot "BTC"
    let mixed := [.load (Visit.hourOf .futures "BTC"), .load (Visit.hourOf .spot "eth")]
    let plain := [.load (Visit.hourOf .spot "btc")]
    (∀ u, Event.load u ∈ mixed → u.FedBy Registry.standard Feed.byMarket) ∧
      (∀ u, Event.load u ∈ plain → u.FedBy Registry.standard Feed.byMarket) ∧
      spot.FedBy Registry.standard Feed.byMarket ∧ spot.Alike spot ∧ spot.Traced Feed.byMarket mixed ∧
      spot.ShowsAlike spot (spot.feed Feed.byMarket) (Session.after mixed) (Session.after plain) := by
  intro spot mixed plain
  have hmixed : ∀ u, Event.load u ∈ mixed → u.FedBy Registry.standard Feed.byMarket := by
    intro u hu
    simp only [mixed, List.mem_cons, Event.load.injEq, List.not_mem_nil, or_false] at hu
    rcases hu with rfl | rfl <;> exact Visit.fedBy_hourOf _ _
  have hplain : ∀ u, Event.load u ∈ plain → u.FedBy Registry.standard Feed.byMarket := by
    intro u hu
    obtain rfl := Event.load.inj (List.mem_singleton.1 hu)
    exact Visit.fedBy_hourOf _ _
  have hspot : spot.FedBy Registry.standard Feed.byMarket :=
    Visit.fedBy_hourOf _ _
  have halike : spot.Alike spot := ⟨rfl, rfl, rfl, rfl, rfl, rfl, rfl, rfl, rfl⟩
  obtain ⟨htraced, halone⟩ := load_isolated Registry.standard Feed.byMarket Feed.byMarket mixed plain spot
    spot hmixed hplain hspot hspot halike rfl
  exact ⟨hmixed, hplain, hspot, halike, htraced, halone (by decide +kernel) (by decide +kernel)⟩

/-! ## Weeks, which open on Mondays -/

/-- Weeks of the spot market from the fourth on, where the first begins with the year 1970. -/
def Visit.weeks (stop : Int) : Visit := .steady .spot 1 .week 1814400000 stop 3628800000 "BTC"

/-- The part of what a visit returns that starts in its window. -/
def Visit.shown (v : Visit) (cache : Cache) : Option (List Candle) :=
  match v.window, (v.load cache).outcome with
  | .ok (first, last), .ok cs => some (cs.filter fun c => first ≤ c.start ∧ c.start < last)
  | _, _ => none

namespace Visit

theorem shown_eq {v : Visit} {cache : Cache} {plan : IntervalPlan} {job : Job} {cs : List Candle}
    (hprep : v.Prepared plan job) (hcs : (v.load cache).outcome = .ok cs) :
    v.shown cache = some (cs.filter fun c => job.start ≤ c.start ∧ c.start < job.stop) := by
  simp only [shown, hprep.window_eq, hcs]

theorem fedBy_weeks (stop : Int) : (weeks stop).FedBy Registry.standard Feed.byMarket :=
  fedBy_steady (by decide) (by decide)

theorem reliable_weeks (stop : Int) : (weeks stop).Reliable :=
  reliable_steady (by decide) (by decide)

def weekPlan : IntervalPlan := ⟨"1week", .week, 1⟩

theorem plan_weeks (stop : Int) : (weeks stop).plan = .ok weekPlan := rfl

theorem chart_weeks {k : Int} {c : Candle} :
    (Feed.steady 1).chart weekPlan "BTC" .week k = some c ↔
      604800000 ∣ k - 345600000 ∧ c = .steady 1 "BTC" .week k :=
  Steady.chart_eq_some (by decide : weekPlan.isDirect = true)

/-- A load of weeks returns. -/
theorem exists_weeks {stop : Int} (hstop : (weeks stop).window.toOption = some (1814400000, stop)) :
    ∃ job, (weeks stop).Prepared weekPlan job ∧ job.start = 1814400000 ∧ job.stop = stop ∧
      ∀ cache, ∃ cs, ((weeks stop).load cache).outcome = .ok cs := by
  have hhonest := (fedBy_weeks stop).honest
  have hasset : (weeks stop).request.asset? = some (weeks stop).asset := by
    show (weeks 0).request.asset? = some (weeks 0).asset
    decide +kernel
  obtain ⟨job, hprep⟩ := hhonest.exists_prepared (plan_weeks stop) hasset
  rw [hprep.window_eq] at hstop
  obtain ⟨hfirst, hlast⟩ := Prod.mk.inj (Option.some.inj hstop)
  exact ⟨job, hprep, hfirst, hlast, hhonest.exists_outcome hprep (Or.inr (Steady.dated 1))
    (reliable_weeks _) rfl⟩

theorem asset_weeks (stop : Int) : (weeks stop).asset = "BTC" := by
  show (weeks 0).asset = "BTC"
  decide +kernel

section Weeks

variable {stop : Int} {job : Job} {cs : List Candle}

/-- A load of weeks from the empty cache leaves the candles that overlap a bucket of its window, -/
theorem get?_weeks (hprep : (weeks stop).Prepared weekPlan job)
    (hcs : ((weeks stop).load Cache.empty).outcome = .ok cs) {b : Int}
    (hb : b ∈ Gaps.grid job.start job.stop TimeFrame.week.ms) {k : Int}
    (hk : 604800000 ∣ k - 345600000)
    (hover : (Candle.steady 1 "BTC" .week k).overlaps b (b + TimeFrame.week.ms) = true) :
    (((weeks stop).load Cache.empty).cache.candles .week).get? k = some (.steady 1 "BTC" .week k) := by
  have hmissed : ¬ Gaps.Hit (Gaps.lookUp ((weeks stop).claimed Cache.empty) (weeks stop).asset
      (!(weeks stop).offGrid weekPlan)) (weeks stop).asset b := by
    rw [claimed_empty]
    exact Gaps.not_hit_empty
  have hchart : ((weeks stop).feed Feed.byMarket).chart weekPlan (weeks stop).asset
      (weeks stop).request.timeFrame (Candle.steady 1 "BTC" .week k).start =
        some (Candle.steady 1 "BTC" .week k) := by
    rw [asset_weeks]
    exact chart_weeks.2 ⟨hk, rfl⟩
  have hstored := (fedBy_weeks stop).honest.get?_load_of_missed hprep hcs hb hmissed hchart hover
  exact hstored

/-- and no others. -/
theorem of_get?_weeks (hprep : (weeks stop).Prepared weekPlan job)
    (hcs : ((weeks stop).load Cache.empty).outcome = .ok cs) {k : Int} {c : Candle}
    (hc : (((weeks stop).load Cache.empty).cache.candles .week).get? k = some c) :
    c = .steady 1 "BTC" .week k ∧ k < job.stop := by
  have hhonest := (fedBy_weeks stop).honest
  have hchart : (Feed.steady 1).chart weekPlan "BTC" .week k = some c := by
    rcases hhonest.mem_load hprep hc with hchart | hold
    · rwa [asset_weeks] at hchart
    · rw [claimed_empty] at hold
      exact absurd hold (by simp)
  refine ⟨(chart_weeks.1 hchart).2, Int.not_le.1 fun hle => ?_⟩
  have hkept := (hhonest.get?_load hprep hcs k).2 fun d hd ⟨g, hg, hover⟩ => by
    have hto := ((hhonest.splits hprep _).within g hg).2.2
    have hstart := Feed.start_of_chart hd
    simp only [Candle.overlaps, Bool.and_eq_true, decide_eq_true_eq] at hover
    omega
  rw [claimed_empty] at hkept
  have hnone : (((weeks stop).load Cache.empty).cache.candles .week).get? k = none := hkept
  rw [hc] at hnone
  exact absurd hnone (by simp)

/-- Where each bucket of its window begins in a candle that it finds, a load of weeks leaves what it
    finds. -/
theorem get?_weeks_of_held (hprep : (weeks stop).Prepared weekPlan job) {cache : Cache}
    (hcs : ((weeks stop).load cache).outcome = .ok cs)
    (hclaimed : ∀ k c, ((weeks stop).claimed cache).get? k = some c → c = .steady 1 "BTC" .week k)
    (hheld : ∀ t ∈ Gaps.grid job.start job.stop TimeFrame.week.ms, ∃ k c,
      ((weeks stop).claimed cache).get? k = some c ∧ k ≤ t ∧ t < k + TimeFrame.week.ms) (k : Int) :
    (((weeks stop).load cache).cache.candles .week).get? k = ((weeks stop).claimed cache).get? k := by
  have hhonest := (fedBy_weeks stop).honest
  have hsorted : ∀ c ∈ ((weeks stop).claimed cache).sorted "BTC",
      c.stop = c.start + TimeFrame.week.ms := by
    intro c hc
    obtain ⟨⟨k, hk⟩, -⟩ := Gaps.mem_sorted.1 hc
    rw [hclaimed k c hk]
    rfl
  have hends : ∀ c ∈ ((weeks stop).claimed cache).sorted "BTC",
      ∀ d ∈ ((weeks stop).claimed cache).sorted "BTC", c.start ≤ d.start → c.stop ≤ d.stop := by
    intro c hc d hd hle
    have hcstop := hsorted c hc
    have hdstop := hsorted d hd
    omega
  have hgaps : (job.collect (cache.claim job.timeFrame job.asset)).2 = [] := by
    refine (hhonest.splits hprep _).eq_nil (TimeFrame.ms_pos _) fun t ht => ?_
    rw [hprep.candles_claim, asset_weeks]
    obtain ⟨s, c, hs, hfrom, hto⟩ := hheld t ht
    obtain rfl := hclaimed s c hs
    exact Gaps.hit_of_held hends (Gaps.mem_sorted.2 ⟨⟨s, hs⟩, rfl⟩) hfrom hto
  refine (hhonest.get?_load hprep hcs k).2 fun c _ ⟨g, hg, _⟩ => ?_
  rw [hgaps] at hg
  exact absurd hg (by simp)

end Weeks

/-- After a load of a week, a load of this week and the next does not show the candle that opens in the
    next: the one that opened in this week and holds the start of the next passes for it. -/
theorem shown_weeks :
    (weeks 3024000000).shown (Session.after [.load (weeks 2419200000)]) ≠
      (weeks 3024000000).shown (Session.after []) := by
  obtain ⟨job, hprep, hstart, hstop, hreturns⟩ :=
    exists_weeks (show (weeks 3024000000).window.toOption = some (1814400000, 3024000000) by decide +kernel)
  obtain ⟨job', hprep', hstart', hstop', hreturns'⟩ :=
    exists_weeks (show (weeks 2419200000).window.toOption = some (1814400000, 2419200000) by decide +kernel)
  have hgrid : Gaps.grid job.start job.stop TimeFrame.week.ms = [1814400000, 2419200000] := by
    rw [hstart, hstop]
    decide
  have hgrid' : Gaps.grid job'.start job'.stop TimeFrame.week.ms = [1814400000] := by
    rw [hstart', hstop']
    decide
  have hhonest := (fedBy_weeks 3024000000).honest
  -- The week that is loaded first brings the candles that begin and end in it.
  obtain ⟨cs', hcs'⟩ := hreturns' Cache.empty
  have hsound := (sound_load (weeks 2419200000) Cache.sound_empty).1
  have hthis := get?_weeks hprep' hcs' (hgrid' ▸ List.mem_singleton_self _)
    (by decide : (604800000 : Int) ∣ 1555200000 - 345600000) (by decide)
  have hnext := get?_weeks hprep' hcs' (hgrid' ▸ List.mem_singleton_self _)
    (by decide : (604800000 : Int) ∣ 2160000000 - 345600000) (by decide)
  have hall := fun k c => of_get?_weeks (k := k) (c := c) hprep' hcs'
  show (weeks 3024000000).shown ((weeks 2419200000).load Cache.empty).cache ≠
    (weeks 3024000000).shown Cache.empty
  generalize ((weeks 2419200000).load Cache.empty).cache = cache at *
  have hclaimed : (weeks 3024000000).claimed cache = cache.candles .week := by
    obtain ⟨owner, howner, -, hasset, -⟩ := hsound.owned .week _ _ hthis
    obtain rfl : "BTC" = owner := hasset
    rw [claimed, asset_weeks]
    exact Cache.candles_claim_of_owner _ _ howner
  obtain ⟨cs, hcs⟩ := hreturns Cache.empty
  obtain ⟨cs₁, hcs₁⟩ := hreturns cache
  have hshown : .steady 1 "BTC" .week 2764800000 ∈ cs := by
    refine (((sound_load _ Cache.sound_empty).2.whole _ hprep.not_blank cs hcs).2.2 _).2
      ⟨2764800000, get?_weeks hprep hcs (b := 2419200000) ?_ (by decide) (by decide)⟩
    rw [hgrid]
    decide
  have hmissing : .steady 1 "BTC" .week 2764800000 ∉ cs₁ := by
    intro hmem
    obtain ⟨k, hk⟩ :=
      (((sound_load _ hsound).2.whole _ hprep.not_blank cs₁ hcs₁).2.2 _).1 hmem
    have hkept := get?_weeks_of_held hprep hcs₁ (fun k c hc => (hall k c (hclaimed ▸ hc)).1)
      (fun t ht => ?_) k
    · have hold : (cache.candles .week).get? k = some (.steady 1 "BTC" .week 2764800000) := by
        rw [← hclaimed, ← hkept]
        exact hk
      obtain ⟨heq, hlt⟩ := hall k _ hold
      have hstart : 2764800000 = k := congrArg Candle.start heq
      omega
    · rw [hgrid, List.mem_cons, List.mem_singleton] at ht
      rw [hclaimed]
      rcases ht with rfl | rfl
      · exact ⟨1555200000, _, hthis, by decide, by decide⟩
      · exact ⟨2160000000, _, hnext, by decide, by decide⟩
  rw [shown_eq hprep hcs₁, shown_eq hprep hcs]
  intro heq
  have hin : .steady 1 "BTC" .week 2764800000 ∈
      cs.filter fun c => job.start ≤ c.start ∧ c.start < job.stop := by
    rw [hstart, hstop]
    exact List.mem_filter.2 ⟨hshown, by decide⟩
  rw [← Option.some.inj heq] at hin
  exact hmissing (List.mem_filter.1 hin).1

end Visit

/-- Bitget's markets have a candle at every moment, and each load is answered from its own market. But an
    hour of the spot market shows the other market's price where that was loaded before; and weeks of
    one market show other candles where some of them were loaded before. -/
theorem load_not_isolated :
    (∀ source quote asset base t, ∃ k c, (Feed.byMarket source quote).bar asset base k = some c ∧
        c.start ≤ t ∧ t < c.stop) ∧
      (∀ v ∈ [Visit.hourOf .futures "BTC", Visit.hourOf .spot "BTC", Visit.weeks 2419200000,
        Visit.weeks 3024000000], v.FedBy Registry.standard Feed.byMarket ∧ v.Reliable) ∧
      (Visit.hourOf .spot "BTC").shown (Session.after [.load (Visit.hourOf .futures "BTC")]) =
        some [.steady 2 "BTC" .hour1 3600000] ∧
      (Visit.hourOf .spot "BTC").shown (Session.after []) = some [.steady 1 "BTC" .hour1 3600000] ∧
      (Visit.weeks 3024000000).shown (Session.after [.load (Visit.weeks 2419200000)]) ≠
        (Visit.weeks 3024000000).shown (Session.after []) := by
  refine ⟨fun source quote asset base t => Steady.exists_bar _ asset base t, fun v hv => ?_,
    by decide +kernel, by decide +kernel, Visit.shown_weeks⟩
  simp only [List.mem_cons, List.not_mem_nil, or_false] at hv
  rcases hv with rfl | rfl | rfl | rfl
  · exact ⟨Visit.fedBy_hourOf _ _,
      Visit.reliable_steady (by decide) (by decide)⟩
  · exact ⟨Visit.fedBy_hourOf _ _,
      Visit.reliable_steady (by decide) (by decide)⟩
  · exact ⟨Visit.fedBy_weeks _, Visit.reliable_weeks _⟩
  · exact ⟨Visit.fedBy_weeks _, Visit.reliable_weeks _⟩

end Candlestick
