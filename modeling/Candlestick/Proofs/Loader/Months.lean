import Candlestick.Proofs.Loader.Steady

set_option autoImplicit false

/-! # A market of calendar months

The months of a calendar are 28 to 31 days long and open wherever the one before them ends; the buckets
of a monthly chart are all 30 days wide. A world that answers Bitget's questions with the months of 1970
is honest to them. -/

namespace Candlestick

namespace Months

/-- The times at which the first months of 1970 open. -/
def opens : List Int := [0, 31, 59, 90, 120, 151, 181, 212].map (· * dayMs)

/-- Each of them is 28 to 31 days long. -/
theorem spaced_opens :
    opens.IsChain fun k k' => 28 * dayMs ≤ k' - k ∧ k' - k ≤ 31 * dayMs := by decide

/-- Those whose candles overlap a range, if a month lasts as long as its bucket. -/
def starts (start stop : Int) : List Int :=
  opens.filter fun k => start < k + TimeFrame.month.ms ∧ k < stop

theorem mem_starts {start stop k : Int} :
    k ∈ starts start stop ↔ k ∈ opens ∧ start < k + TimeFrame.month.ms ∧ k < stop := by
  rw [starts, List.mem_filter, decide_eq_true_eq]

/-- The world that answers with the rows of a range. -/
def world : World Unit where
  withdrawn _ := false
  answer _ call :=
    (.ok (.arr ((starts (Steady.timeOf call "startTime") (Steady.timeOf call "endTime")).map
      (Steady.row 1))), ())

/-- What comes of a fetch from it: the candles that overlap the range. -/
theorem fetch_eq {r : FetchRequest} (hlabel : r.label = TimeFrame.month.label)
    (hwidth : r.width = TimeFrame.month.ms) :
    ((Bitget.fetch r).run world ()).outcome =
      .ok ((starts r.start r.stop).map (Candle.steady 1 r.asset .month)) := by
  have hsmall : ∀ k ∈ opens, k.natAbs ≤ 2 ^ 53 := by decide
  refine Steady.outcome_of_rows hlabel hwidth
    (fun k hk => ⟨by decide, hsmall k (mem_starts.1 hk).1⟩) rfl ?_
  simp only [world, (Steady.timeOf_call r).1, (Steady.timeOf_call r).2]

end Months

/-- The feed of these months. -/
def Feed.months : Feed where
  bar asset base k := if base = .month ∧ k ∈ Months.opens then some (.steady 1 asset base k) else none
  start_eq asset base k c h := by
    obtain ⟨-, heq⟩ := Option.ite_none_right_eq_some.1 h
    rw [← Option.some.inj heq]
    rfl
  asset_eq asset base k c h := by
    obtain ⟨-, heq⟩ := Option.ite_none_right_eq_some.1 h
    rw [← Option.some.inj heq]
    rfl
  label_eq asset base k c h := by
    obtain ⟨-, heq⟩ := Option.ite_none_right_eq_some.1 h
    rw [← Option.some.inj heq]
    rfl

namespace Months

theorem bar_eq_some {asset : String} {base : TimeFrame} {k : Int} {c : Candle} :
    Feed.months.bar asset base k = some c ↔
      (base = .month ∧ k ∈ opens) ∧ c = .steady 1 asset base k := by
  rw [Feed.months, Option.ite_none_right_eq_some, Option.some.injEq, eq_comm (a := c)]

/-- The candles that overlap a range are an honest answer. -/
theorem answers {asset : String} {start stop : Int} :
    Feed.months.Answers asset .month start stop
      ((starts start stop).map (Candle.steady 1 asset .month)) where
  own c hc := by
    obtain ⟨k, hk, rfl⟩ := List.mem_map.1 hc
    exact bar_eq_some.2 ⟨⟨rfl, (mem_starts.1 hk).1⟩, rfl⟩
  all k c hc hover := by
    obtain ⟨⟨-, hopens⟩, rfl⟩ := bar_eq_some.1 hc
    obtain ⟨hlt, hlt'⟩ := Bool.and_eq_true_iff.1 hover
    exact List.mem_map.2
      ⟨k, mem_starts.2 ⟨hopens, of_decide_eq_true hlt, of_decide_eq_true hlt'⟩, rfl⟩

theorem dated : Feed.months.Dated := by
  intro asset base k c hc _
  obtain ⟨⟨-, hopens⟩, rfl⟩ := bar_eq_some.1 hc
  have hall : ∀ k ∈ opens, -Frame.latestStart ≤ k := by decide
  exact hall k hopens

end Months

/-- A load of a bucket from Bitget at its end, and of nothing around it. -/
def Visit.months (start : Int) : Visit where
  registry := Registry.standard
  settings := { prefetchBuckets := 0 }
  now := start + TimeFrame.month.ms
  request := ⟨⟨.bitget, .spot⟩, .month, start, start + TimeFrame.month.ms, "BTC", none⟩
  world := Months.world
  state := ()

namespace Visit

def monthPlan : IntervalPlan := ⟨"1month", .month, 1⟩

theorem plan_months (start : Int) : (months start).plan = .ok monthPlan := rfl

theorem asset_months {start : Int} : (months start).request.asset? = some (months start).asset := by
  show (months 0).request.asset? = some (months 0).asset
  decide +kernel

theorem reply_months (start : Int) {first last : Int} (state : (months start).σ) :
    (months start).reply monthPlan first last state =
      .ok ((Months.starts first last).map (Candle.steady 1 (months start).asset .month)) := by
  have hleg : (monthPlan.request ⟨.bitget, .spot⟩ (months start).asset
      ((months start).request.quoteFor (months start).settings) first last).asset =
      (months start).asset := Symbol.leg_leg "BTC"
  rw [← hleg]
  exact Months.fetch_eq rfl rfl

variable {start : Int}

theorem honest_months (hstart : 0 ≤ start) (hstart' : start ≤ 2 ^ 52) :
    (months start).Honest Feed.months where
  accepted := ⟨Int.le_refl 0, LoaderSettings.accepted_default.window⟩
  now_pos := by
    show 1 ≤ start + TimeFrame.month.ms
    have hpos := TimeFrame.month.ms_pos
    omega
  now_le := by
    show start + TimeFrame.month.ms ≤ 2 ^ 53
    have hms := TimeFrame.month.ms_le
    omega
  answers plan first last state raw hplan _ _ _ hraw := by
    rw [plan_months] at hplan
    obtain rfl := Except.ok.inj hplan
    rw [reply_months] at hraw
    obtain rfl := Except.ok.inj hraw
    exact Months.answers
  onGrid plan hplan := by
    rw [plan_months] at hplan
    obtain rfl := Except.ok.inj hplan
    left
    show monthPlan.isDirect && TimeFrame.month.isOffGrid = true
    decide

theorem reliable_months (start : Int) : (months start).Reliable where
  going _ := rfl
  replies plan first last state hplan _ _ _ := by
    rw [plan_months] at hplan
    obtain rfl := Except.ok.inj hplan
    exact ⟨_, reply_months start state⟩

end Visit

end Candlestick
