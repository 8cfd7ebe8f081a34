import Candlestick.Proofs.Loader.Steady
import Candlestick.Proofs.Loader.Tenancy

set_option autoImplicit false

/-! # The cache is transparent

Where all loads of a session are served from one feed, no load can tell from the candles in its window
whether the cache was there: they are the feed's chart of the window, whatever was loaded before, in
whatever order, for whatever ranges and assets, and whenever the cache was cleared. -/

namespace Candlestick

namespace Series

/-- The part of a list in a window is a chart of the window as soon as the list has nothing else in it
    than the chart, in order, and the chart's candle in each bucket. -/
theorem filter_window_eq {cs : List Candle} {chart : Int → Option Candle} {start stop step : Int}
    (hstep : 0 < step) (hcs : Series.Ascending cs) (hchart : ∀ k c, chart k = some c → c.start = k)
    (hgrid : ∀ k c, chart k = some c → step ∣ k - start)
    (hown : ∀ c ∈ cs, start ≤ c.start → c.start < stop → chart c.start = some c)
    (hall : ∀ k ∈ Gaps.grid start stop step, ∀ c, chart k = some c → c ∈ cs) :
    cs.filter (fun c => start ≤ c.start ∧ c.start < stop) =
      (Gaps.grid start stop step).filterMap chart := by
  have hascending : Series.Ascending ((Gaps.grid start stop step).filterMap chart) := by
    refine List.pairwise_filterMap.2 ((Gaps.pairwise_grid hstep).imp fun {s s'} hlt c hc c' hc' => ?_)
    rw [hchart s c hc, hchart s' c' hc']
    exact hlt
  refine (hcs.filter _).ext hascending fun c => ?_
  simp only [List.mem_filter, decide_eq_true_eq, List.mem_filterMap, Gaps.mem_grid hstep]
  constructor
  · rintro ⟨hc, hge, hlt⟩
    have hck := hown c hc hge hlt
    exact ⟨c.start, ⟨hge, hlt, hgrid _ c hck⟩, hck⟩
  · rintro ⟨k, hk, hck⟩
    obtain rfl := hchart k c hck
    exact ⟨hall c.start ((Gaps.mem_grid hstep).2 hk) c hck, hk.1, hk.2.1⟩

end Series

namespace Visit.Honest

variable {v : Visit} {feed : Feed} {plan : IntervalPlan} {job : Job}

/-- What a returning visit whose timeframe is looked up exactly shows of a bucket in its window. -/
theorem find?_load (h : v.Honest feed) (hprep : v.Prepared plan job) (hexact : v.offGrid plan = false)
    {cache : Cache} (hcache : cache.Sound) {cs : List Candle} (hcs : (v.load cache).outcome = .ok cs)
    {k : Int} (hk : k ∈ Gaps.grid job.start job.stop v.request.timeFrame.ms) :
    cs.find? (·.start = k) =
      ((v.claimed cache).get? k).or (feed.chart plan v.asset v.request.timeFrame k) := by
  obtain ⟨hsound, hserves⟩ := Visit.sound_load v hcache
  rw [(hserves.whole v.asset hprep.not_blank cs hcs).1, hsound.find?_sort,
    h.get?_load_of_exact hprep hexact hcache hcs hk]

/-- The candles of an exactly looked up timeframe's chart stand on its grid. -/
theorem dvd_of_chart (h : v.Honest feed) (hprep : v.Prepared plan job)
    (hexact : v.offGrid plan = false) {k : Int} {c : Candle}
    (hc : feed.chart plan v.asset v.request.timeFrame k = some c) : v.request.timeFrame.ms ∣ k := by
  have hgrid : feed.OnGrid plan.base := (h.onGrid plan hprep.plan_eq).resolve_left (by simp [hexact])
  exact Feed.dvd_of_chart hgrid (Registry.plan_spec hprep.plan_eq).2 hc

/-- Where the claimed map holds nothing but the visit's own chart, a returning visit shows nothing
    else. -/
theorem own_load (h : v.Honest feed) (hprep : v.Prepared plan job) {cache : Cache}
    (hcache : cache.Sound) {cs : List Candle} (hcs : (v.load cache).outcome = .ok cs)
    (hclaimed : ∀ k c, (v.claimed cache).get? k = some c →
      feed.chart plan v.asset v.request.timeFrame k = some c) :
    ∀ c ∈ cs, feed.chart plan v.asset v.request.timeFrame c.start = some c := by
  intro c hc
  rcases h.mem_outcome hprep hcache hcs hc with hchart | hold
  · exact hchart
  · exact hclaimed _ c hold

/-- In its window it shows all of its chart, where the look-up is exact. -/
theorem window_load (h : v.Honest feed) (hprep : v.Prepared plan job) (hexact : v.offGrid plan = false)
    {cache : Cache} (hcache : cache.Sound) {cs : List Candle} (hcs : (v.load cache).outcome = .ok cs)
    (hclaimed : ∀ k c, (v.claimed cache).get? k = some c →
      feed.chart plan v.asset v.request.timeFrame k = some c) :
    cs.filter (fun c => job.start ≤ c.start ∧ c.start < job.stop) =
      (Gaps.grid job.start job.stop v.request.timeFrame.ms).filterMap
        (feed.chart plan v.asset v.request.timeFrame) := by
  have hascending := ((Visit.sound_load v hcache).2.whole v.asset hprep.not_blank cs hcs).2.1
  have hown := h.own_load hprep hcache hcs hclaimed
  refine Series.filter_window_eq v.request.timeFrame.ms_pos hascending
    (fun k c => Feed.start_of_chart) (fun k c hc => ?_) (fun c hc _ _ => hown c hc)
    (fun k hk c hc => ?_)
  · exact Int.dvd_sub (h.dvd_of_chart hprep hexact hc) (h.sound hprep).start_dvd
  · have hfind := h.find?_load hprep hexact hcache hcs hk
    rw [hc] at hfind
    cases hold : (v.claimed cache).get? k with
    | none =>
      rw [hold, Option.none_or] at hfind
      exact List.mem_of_find?_eq_some hfind
    | some d =>
      have hd := hclaimed k d hold
      rw [hc] at hd
      rw [hold, Option.some_or, ← Option.some.inj hd] at hfind
      exact List.mem_of_find?_eq_some hfind

end Visit.Honest

/-- A visit to one market: with its registry and source, and served from its feed, always and without
    a check that could refuse the feed's candles. Its timeframe resolves and is not one whose candles
    the source itself serves off the grid. -/
structure Visit.ServedFrom (v : Visit) (registry : Registry) (source : Source) (feed : Feed) :
    Prop where
  registry_eq : v.registry = registry
  source_eq : v.request.source = source
  honest : v.Honest feed
  reliable : v.Reliable
  lenient : v.settings.strict = false
  resolves : ∃ plan, v.plan = .ok plan ∧ v.offGrid plan = false

/-- After a session of visits to one market, each tenant's chart is that of any visit to the market
    for the same asset and timeframe. -/
theorem Session.claimed_of_servedFrom {registry : Registry} {source : Source} {feed : Feed}
    {events : List Event}
    (hevents : ∀ u, Event.load u ∈ events → u.ServedFrom registry source feed) {v : Visit}
    (hv : v.ServedFrom registry source feed) {plan : IntervalPlan} (hplan : v.plan = .ok plan) {k : Int}
    {c : Candle} (hc : (v.claimed (after events)).get? k = some c) :
    feed.chart plan v.asset v.request.timeFrame k = some c := by
  obtain ⟨u, hu, plan', hplan', hchart⟩ :=
    Visit.claimed_of_honest (fun _ => feed) (fun u hu => (hevents u hu).honest) hc
  obtain ⟨hmem, ht, -⟩ := Visit.mem_contributors hu
  have hserved := hevents u hmem
  rw [Visit.plan, hserved.registry_eq, hserved.source_eq, ht, ← hv.registry_eq, ← hv.source_eq] at hplan'
  rw [Visit.plan, hplan'] at hplan
  rwa [Except.ok.inj hplan] at hchart

/-- A load returns, and shows the chart of a feed. For a blank asset that is nothing. For any other it
    is a list of candles of the asset's and timeframe's chart only, in order, and among them all those
    that start in the load's window; so the part of the list in the window is the chart itself. -/
def Visit.ShowsChart (v : Visit) (feed : Feed) (cache : Cache) : Prop :=
  match v.request.asset? with
  | none => (v.load cache).outcome = .ok []
  | some _ =>
    ∃ plan first last cs, v.plan = .ok plan ∧ v.window = .ok (first, last) ∧
      (v.load cache).outcome = .ok cs ∧ Series.Ascending cs ∧
      (∀ c ∈ cs, feed.chart plan v.asset v.request.timeFrame c.start = some c) ∧
      (∀ k c, first ≤ k → k < last → feed.chart plan v.asset v.request.timeFrame k = some c → c ∈ cs) ∧
      cs.filter (fun c => first ≤ c.start ∧ c.start < last) =
        (Gaps.grid first last v.request.timeFrame.ms).filterMap
          (feed.chart plan v.asset v.request.timeFrame)

/-- In a session of visits to one market every load returns and shows the chart of the market's feed,
    whatever the session was. -/
theorem cache_transparent (registry : Registry) (source : Source) (feed : Feed) (events : List Event)
    (v : Visit) (hevents : ∀ u, Event.load u ∈ events → u.ServedFrom registry source feed)
    (hv : v.ServedFrom registry source feed) : v.ShowsChart feed (Session.after events) := by
  have hsound := Session.sound_after events
  unfold Visit.ShowsChart
  cases hasset : v.request.asset? with
  | none => exact ((Visit.sound_load v hsound).2.blank hasset).1
  | some asset =>
    obtain ⟨plan, hplan, hexact⟩ := hv.resolves
    have hasset' : v.request.asset? = some v.asset := by
      rw [hasset, (LoadRequest.asset?_eq_some.1 hasset).2]
      rfl
    obtain ⟨job, hprep⟩ := hv.honest.exists_prepared hplan hasset'
    obtain ⟨cs, hcs⟩ := hv.honest.exists_outcome hprep (Or.inl hexact) hv.reliable hv.lenient
      (Session.after events)
    have hclaimed := fun k c => Session.claimed_of_servedFrom (k := k) (c := c) hevents hv hplan
    have hascending :=
      ((Visit.sound_load v hsound).2.whole v.asset hprep.not_blank cs hcs).2.1
    have hown := hv.honest.own_load hprep hsound hcs hclaimed
    have hwindow := hv.honest.window_load hprep hexact hsound hcs hclaimed
    refine ⟨plan, job.start, job.stop, cs, hplan, hprep.window_eq, hcs, hascending, hown,
      fun k c hge hlt hc => ?_, hwindow⟩
    have hmem : c ∈ (Gaps.grid job.start job.stop v.request.timeFrame.ms).filterMap
        (feed.chart plan v.asset v.request.timeFrame) :=
      List.mem_filterMap.2 ⟨k, (Gaps.mem_grid v.request.timeFrame.ms_pos).2 ⟨hge, hlt,
        Int.dvd_sub (hv.honest.dvd_of_chart hprep hexact hc) (hv.honest.sound hprep).start_dvd⟩, hc⟩
    rw [← hwindow] at hmem
    exact (List.mem_filter.1 hmem).1

theorem Visit.servedFrom_steady {market : Market} {price : Int} {t : TimeFrame} {start stop now : Int}
    {asset : String} (hprice : price.natAbs ≤ 2 ^ 53) (hnow : 1 ≤ now) (hnow' : now ≤ 2 ^ 52)
    (hresolves : ∃ plan, (steady market price t start stop now asset).plan = .ok plan ∧
      (steady market price t start stop now asset).offGrid plan = false) :
    (steady market price t start stop now asset).ServedFrom Registry.standard ⟨.bitget, market⟩
      (Feed.steady price) where
  registry_eq := rfl
  source_eq := rfl
  honest := honest_steady hprice hnow hnow'
  reliable := reliable_steady hprice hnow'
  lenient := rfl
  resolves := hresolves

/-- A session of hours and of three minutes made of one, for two assets and with the cache cleared. -/
theorem cache_transparent_steady :
    let hour (asset : String) := Visit.steady .spot 1 .hour1 7200000 14400000 18000000 asset
    let minutes := Visit.steady .spot 1 .min3 7200000 7560000 18000000 "btc"
    let wide := Visit.steady .spot 1 .hour1 3600000 18000000 21600000 " btc"
    let events := [.load (hour "BTC"), .load minutes, .load (hour "eth"), .clear, .load (hour "BTC")]
    (∀ u, Event.load u ∈ events → u.ServedFrom Registry.standard ⟨.bitget, .spot⟩ (Feed.steady 1)) ∧
      wide.ServedFrom Registry.standard ⟨.bitget, .spot⟩ (Feed.steady 1) ∧
      wide.ShowsChart (Feed.steady 1) (Session.after events) := by
  intro hour minutes wide events
  have hhour : ∀ asset, (hour asset).ServedFrom Registry.standard ⟨.bitget, .spot⟩ (Feed.steady 1) :=
    fun _ => Visit.servedFrom_steady (by decide) (by decide) (by decide) ⟨⟨"1h", .hour1, 1⟩, rfl, rfl⟩
  have hminutes : minutes.ServedFrom Registry.standard ⟨.bitget, .spot⟩ (Feed.steady 1) :=
    Visit.servedFrom_steady (by decide) (by decide) (by decide)
      ⟨⟨"1min", .min1, 3⟩, rfl, rfl⟩
  have hwide : wide.ServedFrom Registry.standard ⟨.bitget, .spot⟩ (Feed.steady 1) :=
    Visit.servedFrom_steady (by decide) (by decide) (by decide)
      ⟨⟨"1h", .hour1, 1⟩, rfl, rfl⟩
  have hevents : ∀ u, Event.load u ∈ events →
      u.ServedFrom Registry.standard ⟨.bitget, .spot⟩ (Feed.steady 1) := by
    intro u hu
    simp only [events, List.mem_cons, Event.load.injEq, reduceCtorEq, List.not_mem_nil, or_false,
      false_or] at hu
    rcases hu with rfl | rfl | rfl | rfl
    · exact hhour "BTC"
    · exact hminutes
    · exact hhour "eth"
    · exact hhour "BTC"
  exact ⟨hevents, hwide, cache_transparent _ _ _ events wide hevents hwide⟩

end Candlestick
