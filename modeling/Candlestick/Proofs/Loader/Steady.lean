import Candlestick.Proofs.Loader.Honest
import Candlestick.Proofs.Number.Reading

set_option autoImplicit false

/-! # A market that stands still

The feed of a price that never changes has a candle in every bucket of every interval; only weeks begin
on Mondays and not on the grid. A world that answers Bitget's questions from it is honest to every
load, so honest providers are there, for every asset, timeframe, range and time. -/

namespace Candlestick

/-- How far after a bucket of the grid the candles of an interval open: weeks open on Mondays, four days
    after the first of January 1970. -/
def weekOpening (base : TimeFrame) : Int := if base = .week then 4 * dayMs else 0

/-- The candle of a steady price. -/
def Candle.steady (price : Int) (asset : String) (base : TimeFrame) (k : Int) : Candle where
  start := k
  stop := k + base.ms
  opening := Double.ofInt price
  highest := Double.ofInt price
  lowest := Double.ofInt price
  closing := Double.ofInt price
  volume := Double.ofInt price
  trades := 0
  asset := asset
  label := base.label

/-- The feed of a steady price. -/
def Feed.steady (price : Int) : Feed where
  bar asset base k := if base.ms ∣ k - weekOpening base then some (.steady price asset base k) else none
  start_eq asset base k c h := by
    split at h
    · cases h
      rfl
    · exact absurd h (by simp)
  asset_eq asset base k c h := by
    split at h
    · cases h
      rfl
    · exact absurd h (by simp)
  label_eq asset base k c h := by
    split at h
    · cases h
      rfl
    · exact absurd h (by simp)

namespace Steady

/-- A time among the parameters of a call. -/
def timeOf (call : Call) (name : String) : Int :=
  match call.params.lookup name with
  | some (.int ms) => ms
  | _ => 0

/-- The starts of the candles that overlap a range. -/
def starts (base : TimeFrame) (start stop : Int) : List Int :=
  Gaps.grid (start - (start - weekOpening base) % base.ms) stop base.ms

/-- The row of a candle. -/
def row (price k : Int) : Json :=
  .arr [.int k, .int price, .int price, .int price, .int price, .int price]

/-- The world that answers with the rows of a range. -/
def world (price : Int) (base : TimeFrame) : World Unit where
  withdrawn _ := false
  answer _ call :=
    (.ok (.arr ((starts base (timeOf call "startTime") (timeOf call "endTime")).map (row price))), ())

/-- The last candle that opens by a time opens on the grid of openings. -/
theorem dvd_opening (base : TimeFrame) (t : Int) :
    base.ms ∣ t - (t - weekOpening base) % base.ms - weekOpening base := by
  rw [show t - (t - weekOpening base) % base.ms - weekOpening base =
    t - weekOpening base - (t - weekOpening base) % base.ms by omega]
  exact Int.dvd_self_sub_emod

theorem mem_starts {base : TimeFrame} {start stop k : Int} :
    k ∈ starts base start stop ↔ start < k + base.ms ∧ k < stop ∧ base.ms ∣ k - weekOpening base := by
  have hms := base.ms_pos
  have hfirst := dvd_opening base start
  have hnonneg := Int.emod_nonneg (start - weekOpening base) (Int.ne_of_gt hms)
  have hless := Int.emod_lt_of_pos (start - weekOpening base) hms
  rw [starts, Gaps.mem_grid hms]
  generalize (start - weekOpening base) % base.ms = m at *
  constructor
  · rintro ⟨hge, hlt, hdvd⟩
    have := Int.dvd_add hdvd hfirst
    rw [show k - (start - m) + (start - m - weekOpening base) = k - weekOpening base by omega] at this
    exact ⟨by omega, hlt, this⟩
  · rintro ⟨hlt, hlt', hdvd⟩
    have := Int.dvd_sub hdvd hfirst
    rw [show k - weekOpening base - (start - m - weekOpening base) = k - (start - m) by omega] at this
    refine ⟨Int.not_lt.1 fun hbefore => ?_, hlt', this⟩
    have := Int.le_of_dvd (by omega) ((Int.dvd_neg).2 this)
    omega

/-- The candle that is read from a row. -/
theorem row_eq {price k : Int} (hprice : price.natAbs ≤ 2 ^ 53) (hk : k.natAbs ≤ 2 ^ 53)
    {r : FetchRequest} {base : TimeFrame} (hlabel : r.label = base.label) (hwidth : r.width = base.ms) :
    Bitget.row r (row price k) = .ok (some (.steady price r.asset base k)) := by
  have hnumber := Reading.number_int hprice
  have hvolume : Reading.volume (.int price) = .ok (Double.ofInt price) := by
    simp only [Reading.volume, hnumber, Except.map, Double.isFinite_ofInt hprice, if_true]
  have hcount : Reading.count (.int 0) = .ok 0 := by
    have hzero : (0 : Int).natAbs ≤ 2 ^ 53 := by decide
    simp only [Reading.count, Reading.number_int hzero, Except.map, Double.truncate?_ofInt hzero,
      Option.getD_some]
  have htime : Reading.time (Reading.item (row price k) 0) 1 = .ok (some k) := Reading.time_int hk
  have hcell : ∀ place, place = 1 ∨ place = 2 ∨ place = 3 ∨ place = 4 ∨ place = 5 →
      Reading.item (row price k) place = .int price := by
    rintro place (rfl | rfl | rfl | rfl | rfl) <;> rfl
  have hcandle : r.candle k (.int price) (.int price) (.int price) (.int price) (.int price) =
      .ok (.steady price r.asset base k) := by
    simp only [FetchRequest.candle, pure, Except.pure, bind, Except.bind, hnumber, hvolume, hcount,
      hlabel, hwidth]
    rfl
  rw [Bitget.row, if_neg (by simp [row, Json.isObject]), FetchRequest.rowCandle]
  simp only [htime, bind, Except.bind, hcell, true_or, or_true, hcandle]
  rfl

/-- The candles that are read from rows, each with a price of its own. -/
theorem readRows_eq {price : Int → Int} {r : FetchRequest} {base : TimeFrame}
    (hlabel : r.label = base.label) (hwidth : r.width = base.ms) {ks : List Int}
    (hks : ∀ k ∈ ks, (price k).natAbs ≤ 2 ^ 53 ∧ k.natAbs ≤ 2 ^ 53) :
    readRows (Bitget.row r) (ks.map fun k => row (price k) k) =
      .ok (ks.map fun k => Candle.steady (price k) r.asset base k) := by
  induction ks with
  | nil => rfl
  | cons k rest ih =>
    obtain ⟨hprice, hk⟩ := hks k List.mem_cons_self
    rw [List.map_cons, readRows, row_eq hprice hk hlabel hwidth,
      ih fun k hk => hks k (List.mem_cons_of_mem _ hk)]
    rfl

/-- The times that Bitget is asked for. -/
theorem timeOf_call (r : FetchRequest) :
    timeOf (Bitget.call r) "startTime" = r.start ∧ timeOf (Bitget.call r) "endTime" = r.stop := by
  unfold Bitget.call
  split <;> exact ⟨rfl, rfl⟩

theorem natAbs_le_of_mem_starts {base : TimeFrame} {start stop k : Int} (hstart : 0 ≤ start)
    (hstop : stop ≤ 2 ^ 53) (hk : k ∈ starts base start stop) : k.natAbs ≤ 2 ^ 53 := by
  obtain ⟨hlt, hlt', -⟩ := mem_starts.1 hk
  have hms := base.ms_le
  omega

/-- What comes of a fetch from a world that answers with such rows. -/
theorem outcome_of_rows {price : Int → Int} {r : FetchRequest} {base : TimeFrame}
    (hlabel : r.label = base.label) (hwidth : r.width = base.ms) {ks : List Int}
    (hks : ∀ k ∈ ks, (price k).natAbs ≤ 2 ^ 53 ∧ k.natAbs ≤ 2 ^ 53) {σ : Type} {world : World σ}
    {state : σ} (hgoing : world.withdrawn state = false)
    (hanswer : (world.answer state (Bitget.call r)).1 = .ok (.arr (ks.map fun k => row (price k) k))) :
    ((Bitget.fetch r).run world state).outcome =
      .ok (ks.map fun k => Candle.steady (price k) r.asset base k) :=
  (Dialogue.outcome_request hgoing hanswer _).trans (readRows_eq hlabel hwidth hks)

/-- What comes of a fetch from the world of a steady price: the candles that overlap the range. -/
theorem fetch_eq {price : Int} (hprice : price.natAbs ≤ 2 ^ 53) {r : FetchRequest} {base : TimeFrame}
    (hlabel : r.label = base.label) (hwidth : r.width = base.ms) (hstart : 0 ≤ r.start)
    (hstop : r.stop ≤ 2 ^ 53) :
    ((Bitget.fetch r).run (world price base) ()).outcome =
      .ok ((starts base r.start r.stop).map (Candle.steady price r.asset base)) := by
  refine outcome_of_rows hlabel hwidth
    (fun k hk => ⟨hprice, natAbs_le_of_mem_starts hstart hstop hk⟩) rfl ?_
  simp only [world, (timeOf_call r).1, (timeOf_call r).2]

/-- So it is under any plan. -/
theorem outcome_fetch {price : Int} (hprice : price.natAbs ≤ 2 ^ 53) (plan : IntervalPlan) (market : Market)
    (asset quote : String) {start stop : Int} (hstart : 0 ≤ start) (hstop : stop ≤ 2 ^ 53) (state : Unit) :
    ((Registry.standard.fetch (plan.request ⟨.bitget, market⟩ asset quote start stop)).run
        (world price plan.base) state).outcome =
      .ok ((starts plan.base start stop).map (Candle.steady price (Symbol.leg asset) plan.base)) :=
  fetch_eq hprice rfl rfl hstart hstop

/-- These candles are an honest answer. -/
theorem answers {price : Int} {asset : String} {base : TimeFrame} {start stop : Int} :
    (Feed.steady price).Answers asset base start stop
      ((starts base start stop).map (Candle.steady price asset base)) where
  own c hc := by
    obtain ⟨k, hk, rfl⟩ := List.mem_map.1 hc
    exact if_pos (mem_starts.1 hk).2.2
  all k c hc hover := by
    simp only [Feed.steady] at hc
    split at hc
    · rename_i hdvd
      cases hc
      obtain ⟨hlt, hlt'⟩ := Bool.and_eq_true_iff.1 hover
      exact List.mem_map.2
        ⟨k, mem_starts.2 ⟨of_decide_eq_true hlt, of_decide_eq_true hlt', hdvd⟩, rfl⟩
    · exact absurd hc (by simp)

/-- Only weeks stand off the grid. -/
theorem onGrid {price : Int} {base : TimeFrame} (hbase : base ≠ .week) :
    (Feed.steady price).OnGrid base := by
  intro asset k c hc
  simp only [Feed.steady, weekOpening, if_neg hbase, Int.sub_zero] at hc
  split at hc
  · cases hc
    exact ⟨‹_›, rfl⟩
  · exact absurd hc (by simp)

/-- Under a plan that takes the provider's own candles they are the chart. -/
theorem chart_eq_some {price : Int} {plan : IntervalPlan} (hdirect : plan.isDirect = true)
    {asset : String} {k : Int} {c : Candle} :
    (Feed.steady price).chart plan asset plan.base k = some c ↔
      plan.base.ms ∣ k - weekOpening plan.base ∧ c = .steady price asset plan.base k := by
  rw [Feed.chart, if_pos hdirect, Option.map_eq_some_iff]
  constructor
  · rintro ⟨d, hd, rfl⟩
    obtain ⟨hdvd, heq⟩ := Option.ite_none_right_eq_some.1 hd
    rw [← Option.some.inj heq]
    exact ⟨hdvd, rfl⟩
  · rintro ⟨hdvd, rfl⟩
    exact ⟨.steady price asset plan.base k, if_pos hdvd, rfl⟩

/-- There is a candle at every moment. -/
theorem exists_bar (price : Int) (asset : String) (base : TimeFrame) (t : Int) :
    ∃ k c, (Feed.steady price).bar asset base k = some c ∧ c.start ≤ t ∧ t < c.stop := by
  have hnonneg := Int.emod_nonneg (t - weekOpening base) (Int.ne_of_gt base.ms_pos)
  have hless := Int.emod_lt_of_pos (t - weekOpening base) base.ms_pos
  refine ⟨_, _, if_pos (dvd_opening base t), ?_⟩
  simp only [Candle.steady]
  omega

theorem dated (price : Int) : (Feed.steady price).Dated := by
  intro asset base k c hc hend
  simp only [Feed.steady] at hc
  split at hc
  · cases hc
    have hms := base.ms_le
    have hend : 0 < k + base.ms := hend
    show -Frame.latestStart ≤ k
    unfold Frame.latestStart
    omega
  · exact absurd hc (by simp)

/-- The interval that Bitget's candles come in for a timeframe. -/
def baseOf (market : Market) (t : TimeFrame) : TimeFrame :=
  match Registry.standard.plan ⟨.bitget, market⟩ t with
  | .ok plan => plan.base
  | .error _ => t

theorem baseOf_eq {market : Market} {t : TimeFrame} {plan : IntervalPlan}
    (hplan : Registry.standard.plan ⟨.bitget, market⟩ t = .ok plan) : baseOf market t = plan.base := by
  rw [baseOf, hplan]

end Steady

/-- Weeks are not rolled up to anything else, so their candles are looked up where they stand. -/
theorem Visit.base_ne_week {v : Visit} {plan : IntervalPlan} (hplan : v.plan = .ok plan) :
    v.offGrid plan = true ∨ plan.base ≠ .week := by
  by_cases hweek : plan.base = .week
  · obtain ⟨hdvd, hdirect⟩ := Registry.plan_spec hplan
    have ht : v.request.timeFrame = .week := TimeFrame.eq_week_of_dvd (hweek ▸ hdvd)
    refine Or.inl (Bool.and_eq_true_iff.2 ⟨hdirect.2 (hweek.trans ht.symm), ?_⟩)
    rw [ht]
    rfl
  · exact Or.inr hweek

/-- A load of a range and nothing around it from Bitget, where the price stands still. -/
def Visit.steady (market : Market) (price : Int) (t : TimeFrame) (start stop now : Int)
    (asset : String) : Visit where
  registry := Registry.standard
  settings := { prefetchBuckets := 0 }
  now := now
  request := ⟨⟨.bitget, market⟩, t, start, stop, asset, none⟩
  world := Steady.world price (Steady.baseOf market t)
  state := ()

section Visit

variable {market : Market} {price : Int} {t : TimeFrame} {start stop now : Int} {asset : String}

/-- What Bitget answers where the price stands still. -/
theorem Visit.reply_steady (hprice : price.natAbs ≤ 2 ^ 53) {plan : IntervalPlan}
    (hplan : (steady market price t start stop now asset).plan = .ok plan) {first last : Int}
    (hfirst : 0 ≤ first) (hlast : last ≤ 2 ^ 53)
    (state : (steady market price t start stop now asset).σ) :
    (steady market price t start stop now asset).reply plan first last state =
      .ok ((Steady.starts plan.base first last).map
        (Candle.steady price (steady market price t start stop now asset).asset plan.base)) := by
  have hrun := Steady.outcome_fetch hprice plan market (Symbol.leg asset)
    ((steady market price t start stop now asset).request.quoteFor
      (steady market price t start stop now asset).settings) hfirst hlast state
  rw [Symbol.leg_leg, ← Steady.baseOf_eq hplan] at hrun
  rw [← Steady.baseOf_eq hplan]
  exact hrun

/-- It is honest to the steady feed, for every asset, timeframe, range and time. -/
theorem Visit.honest_steady (hprice : price.natAbs ≤ 2 ^ 53) (hnow : 1 ≤ now) (hnow' : now ≤ 2 ^ 52) :
    (steady market price t start stop now asset).Honest (Feed.steady price) where
  accepted := ⟨Int.le_refl 0, LoaderSettings.accepted_default.window⟩
  now_pos := hnow
  now_le := Int.le_trans hnow' (by decide)
  answers plan first last state raw hplan hfirst _ hlast hraw := by
    have hms := t.ms_le
    have hlast : last < now + t.ms := hlast
    rw [reply_steady hprice hplan hfirst (by omega)] at hraw
    cases hraw
    exact Steady.answers
  onGrid plan hplan := (base_ne_week hplan).imp_right Steady.onGrid

theorem Visit.reliable_steady (hprice : price.natAbs ≤ 2 ^ 53) (hnow : now ≤ 2 ^ 52) :
    (steady market price t start stop now asset).Reliable where
  going _ := rfl
  replies _ _ _ state hplan hfirst _ hlast := by
    have hms := t.ms_le
    have hlast : _ < now + t.ms := hlast
    exact ⟨_, reply_steady hprice hplan hfirst (by omega) state⟩

end Visit

end Candlestick
