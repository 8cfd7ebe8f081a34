import Candlestick.Command.Fetch
import Candlestick.Proofs.Calendar.Moment
import Candlestick.Proofs.Config.Accepted
import Candlestick.Proofs.Loader.Steady
import Candlestick.Proofs.Loader.Trailing

set_option autoImplicit false

/-! # Charts without an end

The command `fetch` loads the window of a chart and cuts what has come to the chart's range. A chart with a
start and no end has the window of the last days before the present, so of its range as far as the present
it is shown what lies in those days. The start goes through a binary64 number on its way to the loader and
may lose a millisecond there, which no candle on the grid notices. -/

namespace Candlestick

/-! ## What is cut out -/

namespace ChartConfig

variable {config : ChartConfig} {candles : List Candle}

theorem ascending_visible (config : ChartConfig) (hcandles : Series.Ascending candles) :
    Series.Ascending (config.visible candles) := by
  unfold visible
  split
  · exact hcandles
  · split
    · exact Series.ascending_normalize _ _ _
    · exact hcandles

/-- Of a range without an end those candles are visible that end after its start. -/
theorem mem_visible_of_open (hstart : config.start.isSome = true) (hstop : config.stop = none)
    (hcandles : Series.Ascending candles) (hfill : ∀ c ∈ candles, c.start < c.stop) {c : Candle} :
    c ∈ config.visible candles ↔ c ∈ candles ∧ config.startMs < c.stop := by
  have hopen : config.stopMs = 0 := by rw [stopMs, hstop]; rfl
  unfold visible
  split
  · rename_i hlast
    obtain rfl := List.getLast?_eq_none_iff.1 hlast
    simp
  · rename_i last hlast
    rw [if_pos (by rw [hstart, Bool.true_or]), if_pos hopen, Series.normalize_of_ascending hcandles,
      List.mem_filter, and_congr_right_iff]
    intro hc
    have hne := List.ne_nil_of_mem hc
    have hle := hcandles.le_getLast hne hc
    have hend := hfill _ (List.getLast_mem hne)
    rw [List.getLast?_eq_some_getLast hne] at hlast
    obtain rfl := Option.some.inj hlast
    -- The end of the last candle stands for the missing end, and it is after every start.
    simp only [Candle.overlaps, Bool.and_eq_true, decide_eq_true_eq]
    omega

end ChartConfig

/-! ## What is loaded -/

/-- An accepted chart is loaded for its asset. -/
theorem ChartConfig.Accepted.asset?_request {config : ChartConfig} (h : config.Accepted) :
    config.request.asset? = some (Symbol.leg config.asset) := by
  refine LoadRequest.asset?_eq_some.2 ⟨?_, rfl⟩
  have hstrip := Symbol.strip_leg config.asset
  rw [h.leg] at hstrip
  show Text.strip config.asset ≠ ""
  rw [hstrip]
  exact h.asset

/-- The load that a chart comes down to. -/
def ChartConfig.visit (config : ChartConfig) (registry : Registry) (settings : LoaderSettings) (now : Int)
    {σ : Type} (world : World σ) (state : σ) : Visit where
  registry := registry
  settings := settings
  now := now
  request := config.request
  world := world
  state := state

/-! ## What is shown -/

namespace Command

/-- A command has shown candles of a chart: under the chart's line stands the summary of these candles, and
    they have been written where they should be. -/
structure Shows {σ : Type} (options : FetchOptions) (config : ChartConfig) (folder : Folder)
    (outcome : Outcome σ) (shown : List Candle) : Prop where
  lines : outcome.lines = headLine config :: (summarize options folder shown).lines
  ending : outcome.ending = (summarize options folder shown).ending
  folder : outcome.folder = (summarize options folder shown).folder

/-- A chart that options describe is an accepted one. -/
theorem FetchOptions.accepted_of_chart {options : FetchOptions} {folder : Folder} {config : ChartConfig}
    (h : options.chart folder = .ok config) : config.Accepted := by
  unfold chart at h
  split at h
  · split at h
    · exact absurd h (by simp)
    · obtain ⟨value, -, hvalue⟩ := exists_of_bind_eq_ok (eq_ok_of_mapError h)
      exact ChartConfig.accepted_of_ofValue hvalue
  · split at h
    · exact absurd h (by simp)
    · exact absurd h (by simp)
    · exact ChartConfig.accepted_of_ofValue (eq_ok_of_mapError h)

/-- The ends of candles are written where they can be. -/
theorem exists_countLine (candles : List Candle) {first last : Candle}
    (hstart : Calendar.Writable first.start) (hstop : Calendar.Writable last.stop) :
    ∃ line, countLine candles first last = .ok line := by
  obtain ⟨m, hm, -⟩ := Calendar.exists_moment hstart
  obtain ⟨m', hm', -⟩ := Calendar.exists_moment hstop
  simp only [countLine, Calendar.minuteOfMs, hm, hm', Except.map, bind, Except.bind, pure, Except.pure]
  exact ⟨_, rfl⟩

/-- Candles within the calendar are summed up without a failure. -/
theorem summarize_done {options : FetchOptions} (houtput : options.output = none) (folder : Folder)
    {candles : List Candle} (hdated : ∀ c ∈ candles, Calendar.yearStart 1970 ≤ c.start ∧
      c.start < c.stop ∧ c.stop ≤ Calendar.yearStart 9500) :
    (summarize options folder candles).ending = .done := by
  have hbegin : Calendar.yearStart 1 ≤ Calendar.yearStart 1970 := by decide
  have hroom : Calendar.yearStart 9500 ≤ Calendar.yearStart 10000 - 1000 := by decide
  unfold summarize
  split
  · rename_i first last hfirst hlast
    obtain ⟨hlo, hlt, hhi⟩ := hdated first (List.mem_of_head? hfirst)
    obtain ⟨hlo', hlt', hhi'⟩ := hdated last (List.mem_of_getLast? hlast)
    have hwritable : Calendar.Writable first.start ∧ Calendar.Writable last.stop := by
      unfold Calendar.Writable
      omega
    obtain ⟨line, hline⟩ := exists_countLine candles hwritable.1 hwritable.2
    simp only [hline, houtput]
  · rfl

section Run

variable {σ : Type} {options : FetchOptions} {registry : Registry} {env : Environment} {now : Int}
  {world : World σ} {folder : Folder} {state : σ} {config : ChartConfig} {settings : LoaderSettings}

/-- What a chart's load returns is cut and shown. -/
theorem FetchOptions.shows_of_load (hchart : options.chart folder = .ok config)
    (hsettings : config.loader.override env = .ok settings) {candles : List Candle}
    (hload : ((config.visit registry settings now world state).load Cache.empty).outcome = .ok candles) :
    Shows options config folder (options.run registry env now world folder state)
      (config.visible candles) := by
  have hload : (config.request.load registry settings now world Cache.empty state).outcome = .ok candles :=
    hload
  unfold run
  rw [hchart]
  simp only [hsettings, showChart, hload]
  exact ⟨rfl, rfl, rfl⟩

/-- Of a chart without an end the candles are shown that begin in the last days and end after the start
    that the loader is given. -/
theorem FetchOptions.shows_open (hchart : options.chart folder = .ok config)
    (hsettings : config.loader.override env = .ok settings) (hstart : config.start.isSome = true)
    (hstop : config.stop = none) (hpos : 1 ≤ now) (hle : now ≤ 2 ^ 53) (hlt : config.startMs < now)
    {feed : Feed} {plan : IntervalPlan}
    (hsupplied : (config.visit registry settings now world state).Supplied feed plan)
    (hbeside : ¬ (settings.prefetchBuckets * config.timeFrame.ms < config.startMs ∧
      config.startMs < 2 * (settings.prefetchBuckets * config.timeFrame.ms))) :
    let v := config.visit registry settings now world state
    ∃ shown, Shows options config folder (options.run registry env now world folder state) shown ∧
      Series.Ascending shown ∧
      ∀ c, c ∈ shown ↔ feed.chart plan v.asset config.timeFrame c.start = some c ∧
        (v.lastDays ≤ c.start ∧ c.start < now) ∧ config.startMs < c.stop := by
  intro v
  have haccepted := accepted_of_chart hchart
  have hset := LoaderSettings.accepted_of_override haccepted.loader hsettings
  have hstopMs : config.stopMs = 0 := by rw [ChartConfig.stopMs, hstop]; rfl
  obtain ⟨cs, hload, hascending, hmem⟩ := hsupplied.outcome_of_open hset hpos hle
    haccepted.asset?_request hstopMs hlt hbeside
  have hfill : ∀ c ∈ cs, c.start < c.stop := by
    intro c hc
    have hend : c.stop = c.start + config.timeFrame.ms := hsupplied.stop_of_chart ((hmem c).1 hc).1
    have hms := config.timeFrame.ms_pos
    omega
  refine ⟨config.visible cs, shows_of_load hchart hsettings hload, config.ascending_visible hascending,
    fun c => ?_⟩
  rw [ChartConfig.mem_visible_of_open hstart hstop hascending hfill, hmem, and_assoc]
  rfl

/-- A chart without an end, looked up exactly and on a feed on the grid, is shown from its start to the
    present as far as the last days go: not what begins before the bucket in which they begin, and all else
    that the range holds. That is so for every start, every clock up to the year 9000 and all settings; only
    the starts between one and two paddings after the first moment of 1970 are left aside. -/
theorem FetchOptions.run_open (hchart : options.chart folder = .ok config)
    (hsettings : config.loader.override env = .ok settings) {start : Calendar.Moment} {s : Int}
    (hstart : config.start = some start) (hmicros : start.micros = s * 1000) (hstop : config.stop = none)
    (hpos : 0 < s) (hlt : s < now) (hnow : now < Calendar.yearStart 9000) {feed : Feed}
    {plan : IntervalPlan} (hsupplied : (config.visit registry settings now world state).Supplied feed plan)
    (hbeside : ¬ (settings.prefetchBuckets * config.timeFrame.ms < s ∧
      s < 2 * (settings.prefetchBuckets * config.timeFrame.ms))) :
    let v := config.visit registry settings now world state
    ∃ shown, Shows options config folder (options.run registry env now world folder state) shown ∧
      Series.Ascending shown ∧
      (∀ c, c ∈ shown ↔ feed.chart plan v.asset config.timeFrame c.start = some c ∧
        c.overlaps s now = true ∧ v.lastDays ≤ c.start) ∧
      (options.output = none →
        (options.run registry env now world folder state).ending = .done) := by
  intro v
  have hyear : Calendar.yearStart 9000 = 221845392000000 := by decide
  have hstartMs : config.startMs = start.toMs := by rw [ChartConfig.startMs, hstart]; rfl
  obtain ⟨hlow, hhigh⟩ := Calendar.Moment.toMs_near hmicros hpos (by omega)
  -- The loader's start and the chart's own stand before the same whole seconds.
  have hafter : ∀ t, 1000 ∣ t → (config.startMs < t ↔ s < t) := by
    intro t ht
    rw [hstartMs]
    exact Calendar.Moment.toMs_lt_iff hmicros hpos (by omega) ht
  have hpaddings : (1000 : Int) ∣ 2 * (settings.prefetchBuckets * config.timeFrame.ms) :=
    Int.dvd_mul_of_dvd_right (Int.dvd_mul_of_dvd_right config.timeFrame.second_dvd_ms)
  have hbeside' : ¬ (settings.prefetchBuckets * config.timeFrame.ms < config.startMs ∧
      config.startMs < 2 * (settings.prefetchBuckets * config.timeFrame.ms)) := by
    rw [hafter _ hpaddings]
    omega
  obtain ⟨shown, hshows, hascending, hmem⟩ := shows_open hchart hsettings (by rw [hstart]; rfl) hstop
    (by omega) (by omega) (by omega) hsupplied hbeside'
  have hshown : ∀ c, c ∈ shown ↔ feed.chart plan v.asset config.timeFrame c.start = some c ∧
      c.overlaps s now = true ∧ v.lastDays ≤ c.start := by
    intro c
    rw [hmem, Candle.overlaps, Bool.and_eq_true, decide_eq_true_eq, decide_eq_true_eq]
    refine and_congr_right fun hc => ?_
    rw [hafter _ (hsupplied.second_dvd_stop hc)]
    tauto
  refine ⟨shown, hshows, hascending, hshown, fun houtput => ?_⟩
  rw [hshows.ending]
  refine summarize_done houtput folder fun c hc => ?_
  obtain ⟨hchart, ⟨hfrom, hto⟩, -⟩ := (hmem c).1 hc
  have hnonneg : 0 ≤ c.start := Int.le_trans v.lastDays_nonneg hfrom
  have hend : c.stop = c.start + config.timeFrame.ms := hsupplied.stop_of_chart hchart
  have hwide := config.timeFrame.ms_pos
  have hlong := config.timeFrame.ms_le
  have hrange : Calendar.yearStart 1970 = 0 ∧ Calendar.yearStart 9500 = 237623846400000 := by decide
  exact ⟨by omega, by omega, by omega⟩

end Run

/-! ## Days of a steady price -/

deriving instance DecidableEq for LoaderSettings

deriving instance DecidableEq for ChartConfig

/-- Bitget's days from a date on. -/
def daysSince (date : String) : FetchOptions where
  asset := some "BTC"
  exchange := "bitget"
  market := "spot"
  timeFrame := "1d"
  start := some date

/-- The chart that this is, where the date is so many days after the first of January 1970. -/
def chartSince (day : Int) : ChartConfig where
  source := ⟨.bitget, .spot⟩
  asset := "BTC"
  quote := "USDT"
  timeFrame := .day1
  start := some ⟨day * dayMs * 1000⟩
  stop := none
  loader := {}

def dayPlan : IntervalPlan := ⟨"1day", .day1, 1⟩

/-- The load of such a chart on the eleventh of April 1970. -/
def visitSince (day : Int) : Visit :=
  (chartSince day).visit Registry.standard {} (100 * dayMs) (Steady.world 1 .day1) ()

theorem chart_february : (daysSince "1970-02-01").chart {} = .ok (chartSince 31) :=
  eq_ok_of_toOption (by decide +kernel)

theorem chart_april : (daysSince "1970-04-01").chart {} = .ok (chartSince 90) :=
  eq_ok_of_toOption (by decide +kernel)

theorem override_since (day : Int) : (chartSince day).loader.override [] = .ok {} :=
  eq_ok_of_toOption (by
    show (({} : LoaderSettings).override []).toOption = some {}
    decide +kernel)

theorem asset_since (day : Int) : (visitSince day).asset = "BTC" := by
  show Symbol.leg "BTC" = "BTC"
  decide +kernel

theorem chart_days {k : Int} {c : Candle} :
    (Feed.steady 1).chart dayPlan "BTC" .day1 k = some c ↔ dayMs ∣ k ∧ c = .steady 1 "BTC" .day1 k := by
  refine (Steady.chart_eq_some (by decide : dayPlan.isDirect = true)).trans (and_congr_left' ?_)
  show dayMs ∣ k - 0 ↔ dayMs ∣ k
  rw [Int.sub_zero]

/-- Whatever such a load may ask for, Bitget answers it. -/
theorem supplied_since (day : Int) : (visitSince day).Supplied (Feed.steady 1) dayPlan where
  plan_eq := rfl
  exact := rfl
  onGrid := Steady.onGrid (by decide)
  going _ := rfl
  answers start stop state hstart hlt hstop := by
    have hclock : 100 * dayMs + dayMs ≤ 2 ^ 53 := by decide
    have hstop : stop < 100 * dayMs + dayMs := hstop
    have hreply : (visitSince day).reply dayPlan start stop state =
        .ok ((Steady.starts .day1 start stop).map (Candle.steady 1 (Symbol.leg (visitSince day).asset) .day1)) :=
      Steady.outcome_fetch (by decide) dayPlan .spot _ _ hstart (by omega) state
    rw [asset_since] at hreply ⊢
    exact ⟨_, hreply, Steady.answers⟩
  clean hstrict := absurd hstrict Bool.false_ne_true

/-- The days since the first of April are shown, all of them. -/
theorem run_open_april :
    let v := visitSince 90
    let outcome := (daysSince "1970-04-01").run Registry.standard [] v.now (Steady.world 1 .day1) {} ()
    (daysSince "1970-04-01").chart {} = .ok (chartSince 90) ∧
      (chartSince 90).loader.override [] = .ok v.settings ∧
      (chartSince 90).start = some ⟨90 * dayMs * 1000⟩ ∧ (chartSince 90).stop = none ∧
      0 < 90 * dayMs ∧ 90 * dayMs < v.now ∧ v.now < Calendar.yearStart 9000 ∧
      v.Supplied (Feed.steady 1) dayPlan ∧
      ¬ (v.settings.prefetchBuckets * dayMs < 90 * dayMs ∧
        90 * dayMs < 2 * (v.settings.prefetchBuckets * dayMs)) ∧
      v.lastDays = 70 * dayMs ∧
      ∃ shown, Shows (daysSince "1970-04-01") (chartSince 90) {} outcome shown ∧ ∀ c, c ∈ shown ↔
        (Feed.steady 1).chart dayPlan v.asset .day1 c.start = some c ∧
          c.overlaps (90 * dayMs) v.now = true ∧ v.lastDays ≤ c.start := by
  intro v outcome
  have hnow : v.now < Calendar.yearStart 9000 := by decide
  have hbeside : ¬ (v.settings.prefetchBuckets * dayMs < 90 * dayMs ∧
      90 * dayMs < 2 * (v.settings.prefetchBuckets * dayMs)) := by decide
  obtain ⟨shown, hshows, -, hmem, -⟩ := FetchOptions.run_open chart_april (override_since 90) rfl rfl rfl
    (by decide) (by decide) hnow (supplied_since 90) hbeside
  exact ⟨chart_april, override_since 90, rfl, rfl, by decide, by decide, hnow, supplied_since 90, hbeside,
    by decide, shown, hshows, hmem⟩

/-- The days from one on up to another. -/
def steadyDays (first last : Int) : List Candle :=
  (Gaps.grid (first * dayMs) (last * dayMs) dayMs).map (Candle.steady 1 "BTC" .day1)

theorem ascending_steadyDays (first last : Int) : Series.Ascending (steadyDays first last) :=
  List.pairwise_map.2 (Gaps.pairwise_grid (by decide))

theorem mem_steadyDays {first last : Int} {c : Candle} : c ∈ steadyDays first last ↔
    (Feed.steady 1).chart dayPlan "BTC" .day1 c.start = some c ∧ first * dayMs ≤ c.start ∧
      c.start < last * dayMs := by
  rw [chart_days, steadyDays, List.mem_map]
  constructor
  · rintro ⟨k, hk, rfl⟩
    obtain ⟨hge, hlt, hdvd⟩ := (Gaps.mem_grid (by decide)).1 hk
    have hdvd := Int.dvd_add hdvd (Int.dvd_mul_left first dayMs)
    rw [Int.sub_add_cancel] at hdvd
    exact ⟨⟨hdvd, rfl⟩, hge, hlt⟩
  · rintro ⟨⟨hdvd, hc⟩, hge, hlt⟩
    have hgrid := Int.dvd_sub hdvd (Int.dvd_mul_left first dayMs)
    exact ⟨c.start, (Gaps.mem_grid (by decide)).2 ⟨hge, hlt, hgrid⟩, hc.symm⟩

/-- Of the days since the first of February those before the twelfth of March are not shown, although the
    provider has them: they are not among the last thirty days. -/
theorem run_loses_february :
    let v := visitSince 31
    let outcome := (daysSince "1970-02-01").run Registry.standard [] v.now (Steady.world 1 .day1) {} ()
    (daysSince "1970-02-01").chart {} = .ok (chartSince 31) ∧
      (chartSince 31).loader.override [] = .ok v.settings ∧
      (chartSince 31).start = some ⟨31 * dayMs * 1000⟩ ∧ (chartSince 31).stop = none ∧
      0 < 31 * dayMs ∧ 31 * dayMs < v.now ∧ v.now < Calendar.yearStart 9000 ∧
      v.Supplied (Feed.steady 1) dayPlan ∧
      (∀ k, dayMs ∣ k → ((Feed.steady 1).bar v.asset .day1 k).isSome = true) ∧
      ¬ ∃ shown, Shows (daysSince "1970-02-01") (chartSince 31) {} outcome shown ∧
        Series.Ascending shown ∧ ∀ c, c ∈ shown ↔
          (Feed.steady 1).chart dayPlan v.asset .day1 c.start = some c ∧
            c.overlaps (31 * dayMs) v.now = true := by
  intro v outcome
  refine ⟨chart_february, override_since 31, rfl, rfl, by decide, by decide, by decide, supplied_since 31,
    fun k hk => ?_, ?_⟩
  · rw [← Int.sub_zero k] at hk
    exact Option.isSome_of_eq_some (if_pos hk)
  rintro ⟨shown, hshows, hascending, hmem⟩
  have hstart : (chartSince 31).startMs = 31 * dayMs := by decide +kernel
  obtain ⟨shown', hshows', hascending', hmem'⟩ := FetchOptions.shows_open chart_february
    (override_since 31) rfl rfl (by decide) (by decide) (by rw [hstart]; decide) (supplied_since 31)
    (by rw [hstart]; decide)
  have hplan : dayPlan.base.ms ∣ TimeFrame.day1.ms ∧
      (dayPlan.isDirect = true ↔ dayPlan.base = .day1) := by decide
  -- Both lists are known in full, and then their summaries are too.
  have hwanted : shown = steadyDays 31 100 := by
    refine hascending.ext (ascending_steadyDays _ _) fun c => ?_
    rw [hmem, mem_steadyDays, asset_since]
    exact and_congr_right fun hc =>
      Feed.overlaps_iff_of_chart hplan (Steady.onGrid (by decide)) (Int.dvd_mul_left 31 dayMs) hc
  have hgiven : shown' = steadyDays 70 100 := by
    have hlast : (visitSince 31).lastDays = 70 * dayMs := by decide
    refine hascending'.ext (ascending_steadyDays _ _) fun c => (hmem' c).trans ?_
    show (Feed.steady 1).chart dayPlan (visitSince 31).asset .day1 c.start = some c ∧
      ((visitSince 31).lastDays ≤ c.start ∧ c.start < 100 * dayMs) ∧ (chartSince 31).startMs < c.stop ↔ _
    rw [mem_steadyDays, asset_since, hlast, hstart]
    refine and_congr_right fun hc => ⟨And.left, fun hrange => ⟨hrange, ?_⟩⟩
    have hend : c.stop = c.start + dayMs := congrArg Candle.stop (chart_days.1 hc).2
    unfold dayMs minuteMs at *
    omega
  have hlines := hshows.lines.symm.trans hshows'.lines
  rw [hwanted, hgiven] at hlines
  exact absurd (List.cons.inj hlines).2 (by decide +kernel)

end Command

end Candlestick
