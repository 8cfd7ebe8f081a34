import Candlestick.Proofs.Loader.Steady

set_option autoImplicit false

/-! # A market whose candles close

The feeds of a price that is 1 in each bucket as long as it is open, and 2 in the end: what there is of
a bucket depends on when it is asked for. A world that answers Bitget's questions at a time is honest
to the feed of that time, so there are honest providers whose candles change. -/

namespace Candlestick

namespace Closing

/-- The price of a bucket, at a time. -/
def price (base : TimeFrame) (now k : Int) : Int := if k + base.ms ≤ now then 2 else 1

theorem natAbs_price_le (base : TimeFrame) (now k : Int) : (price base now k).natAbs ≤ 2 ^ 53 := by
  unfold price
  split <;> decide

/-- The starts of the candles that overlap a range and are there at a time. -/
def starts (base : TimeFrame) (now start stop : Int) : List Int :=
  (Steady.starts base start stop).filter (· ≤ now)

theorem mem_starts {base : TimeFrame} {now start stop k : Int} :
    k ∈ starts base now start stop ↔ k ∈ Steady.starts base start stop ∧ k ≤ now := by
  rw [starts, List.mem_filter, decide_eq_true_eq]

/-- The world that answers at a time. -/
def world (base : TimeFrame) (now : Int) : World Unit where
  withdrawn _ := false
  answer _ call :=
    (.ok (.arr ((starts base now (Steady.timeOf call "startTime") (Steady.timeOf call "endTime")).map
      fun k => Steady.row (price base now k) k)), ())

/-- What comes of a fetch: the candles that overlap the range, as they are at the time. -/
theorem fetch_eq {r : FetchRequest} {base : TimeFrame} {now : Int} (hlabel : r.label = base.label)
    (hwidth : r.width = base.ms) (hstart : 0 ≤ r.start) (hstop : r.stop ≤ 2 ^ 53) :
    ((Bitget.fetch r).run (world base now) ()).outcome =
      .ok ((starts base now r.start r.stop).map
        fun k => Candle.steady (price base now k) r.asset base k) := by
  refine Steady.outcome_of_rows hlabel hwidth (fun k hk =>
    ⟨natAbs_price_le base now k, Steady.natAbs_le_of_mem_starts hstart hstop (mem_starts.1 hk).1⟩) rfl ?_
  simp only [world, (Steady.timeOf_call r).1, (Steady.timeOf_call r).2]

end Closing

/-- What there is at a time: a candle in each bucket that has been opened by then. -/
def Feed.closing (now : Int) : Feed where
  bar asset base k :=
    if base.ms ∣ k - weekOpening base ∧ k ≤ now then
      some (.steady (Closing.price base now k) asset base k)
    else none
  start_eq asset base k c h := by
    obtain ⟨-, heq⟩ := Option.ite_none_right_eq_some.1 h
    rw [← Option.some.inj heq]
    rfl
  asset_eq asset base k c h := by
    obtain ⟨-, heq⟩ := Option.ite_none_right_eq_some.1 h
    rw [← Option.some.inj heq]
    rfl
  label_eq asset base k c h := by
    obtain ⟨-, heq⟩ := Option.ite_none_right_eq_some.1 h
    rw [← Option.some.inj heq]
    rfl

namespace Closing

theorem bar_eq_some {asset : String} {base : TimeFrame} {now k : Int} {c : Candle} :
    (Feed.closing now).bar asset base k = some c ↔
      (base.ms ∣ k - weekOpening base ∧ k ≤ now) ∧ c = .steady (price base now k) asset base k := by
  rw [Feed.closing, Option.ite_none_right_eq_some, Option.some.injEq, eq_comm (a := c)]

theorem answers {asset : String} {base : TimeFrame} {now start stop : Int} :
    (Feed.closing now).Answers asset base start stop
      ((starts base now start stop).map fun k => Candle.steady (price base now k) asset base k) where
  own c hc := by
    obtain ⟨k, hk, rfl⟩ := List.mem_map.1 hc
    obtain ⟨hstarts, hle⟩ := mem_starts.1 hk
    exact bar_eq_some.2 ⟨⟨(Steady.mem_starts.1 hstarts).2.2, hle⟩, rfl⟩
  all k c hc hover := by
    obtain ⟨⟨hdvd, hle⟩, rfl⟩ := bar_eq_some.1 hc
    obtain ⟨hlt, hlt'⟩ := Bool.and_eq_true_iff.1 hover
    exact List.mem_map.2 ⟨k, mem_starts.2 ⟨Steady.mem_starts.2
      ⟨of_decide_eq_true hlt, of_decide_eq_true hlt', hdvd⟩, hle⟩, rfl⟩

/-- Only weeks stand off the grid. -/
theorem onGrid {now : Int} {base : TimeFrame} (hbase : base ≠ .week) :
    (Feed.closing now).OnGrid base := by
  intro asset k c hc
  obtain ⟨⟨hdvd, -⟩, rfl⟩ := bar_eq_some.1 hc
  rw [weekOpening, if_neg hbase, Int.sub_zero] at hdvd
  exact ⟨hdvd, rfl⟩

end Closing

/-- A load of a range and nothing around it from Bitget, where candles close. -/
def Visit.closing (market : Market) (t : TimeFrame) (start stop now : Int) (asset : String) : Visit where
  registry := Registry.standard
  settings := { prefetchBuckets := 0 }
  now := now
  request := ⟨⟨.bitget, market⟩, t, start, stop, asset, none⟩
  world := Closing.world (Steady.baseOf market t) now
  state := ()

section Visit

variable {market : Market} {t : TimeFrame} {start stop now : Int} {asset : String}

theorem Visit.reply_closing {plan : IntervalPlan}
    (hplan : (closing market t start stop now asset).plan = .ok plan) {first last : Int}
    (hfirst : 0 ≤ first) (hlast : last ≤ 2 ^ 53)
    (state : (closing market t start stop now asset).σ) :
    (closing market t start stop now asset).reply plan first last state =
      .ok ((Closing.starts plan.base now first last).map fun k => Candle.steady
        (Closing.price plan.base now k) (closing market t start stop now asset).asset plan.base k) := by
  have hbase := Steady.baseOf_eq hplan
  have hleg : (plan.request ⟨.bitget, market⟩ (closing market t start stop now asset).asset
      ((closing market t start stop now asset).request.quoteFor
        (closing market t start stop now asset).settings) first last).asset =
      (closing market t start stop now asset).asset := Symbol.leg_leg asset
  rw [← hleg, ← hbase]
  exact Closing.fetch_eq (congrArg TimeFrame.label hbase.symm) (congrArg TimeFrame.ms hbase.symm) hfirst
    hlast

/-- It is honest to what there is at its time, for every asset, timeframe, range and time. -/
theorem Visit.honest_closing (hnow : 1 ≤ now) (hnow' : now ≤ 2 ^ 52) :
    (closing market t start stop now asset).Honest (Feed.closing now) where
  accepted := ⟨Int.le_refl 0, LoaderSettings.accepted_default.window⟩
  now_pos := hnow
  now_le := Int.le_trans hnow' (by decide)
  answers plan first last state raw hplan hfirst _ hlast hraw := by
    have hms := t.ms_le
    have hlast : last < now + t.ms := hlast
    rw [reply_closing hplan hfirst (by omega)] at hraw
    cases hraw
    exact Closing.answers
  onGrid plan hplan := (base_ne_week hplan).imp_right Closing.onGrid

end Visit

end Candlestick
