import Candlestick.Proofs.Number.Sum
import Candlestick.Proofs.Series.Buckets

set_option autoImplicit false

/-! # Rolling up faultless candles

The candle of a bucket opens and closes with prices of two of the bucket's candles, and its high and low
bound all the others. So it is faultless if they are: nothing goes missing, the prices stay between low
and high, and volumes that are not below zero add up to no less, however their sums are rounded. -/

namespace Candlestick

/-! ## The prices of a faultless candle -/

namespace Candle.Faultless

variable {c : Candle}

theorem there (h : c.Faultless) : c.opening.isNaN = false ∧ c.highest.isNaN = false ∧
    c.lowest.isNaN = false ∧ c.closing.isNaN = false := by
  simpa [prices] using h.priced

theorem le_highest (h : c.Faultless) :
    c.opening.le c.highest = true ∧ c.closing.le c.highest = true :=
  (Double.selects_max.bounds_iff h.there.1 h.there.2.2.2).1 h.capped

theorem lowest_le (h : c.Faultless) :
    c.lowest.le c.opening = true ∧ c.lowest.le c.closing = true :=
  (Double.selects_min.bounds_iff h.there.1 h.there.2.2.2).1 h.floored

end Candle.Faultless

namespace Series

/-! ## One bucket -/

/-- What sums up faultless candles is faultless, if it ends after it starts. -/
theorem SumsUp.faultless {first d : Candle} {rest : List Candle} (h : SumsUp first rest d)
    (hmembers : ∀ c ∈ first :: rest, c.Faultless) (hlasts : d.start < d.stop) : d.Faultless := by
  have hfirst := hmembers first List.mem_cons_self
  have hmem := List.getLast_mem (List.cons_ne_nil first rest)
  have hlast := hmembers _ hmem
  have hopening : d.opening.isNaN = false := h.opening ▸ hfirst.there.1
  have hclosing : d.closing.isNaN = false := h.closing ▸ hlast.there.2.2.2
  have hhighest : d.highest.isNaN = false := by
    obtain ⟨c, hc, heq⟩ := h.highest
    exact heq ▸ (hmembers c hc).there.2.1
  have hlowest : d.lowest.isNaN = false := by
    obtain ⟨c, hc, heq⟩ := h.lowest
    exact heq ▸ (hmembers c hc).there.2.2.1
  constructor
  case priced => simp [Candle.prices, hopening, hhighest, hlowest, hclosing]
  case capped =>
    -- The opening price is below the first candle's high, the closing price below the last one's.
    refine (Double.selects_max.bounds_iff hopening hclosing).2 ⟨?_, ?_⟩
    · rw [h.opening]
      exact Double.le_trans hfirst.le_highest.1 (h.le_highest first List.mem_cons_self)
    · rw [h.closing]
      exact Double.le_trans hlast.le_highest.2 (h.le_highest _ hmem)
  case floored =>
    refine (Double.selects_min.bounds_iff hopening hclosing).2 ⟨?_, ?_⟩
    · rw [h.opening]
      exact Double.le_trans (h.lowest_le first List.mem_cons_self) hfirst.lowest_le.1
    · rw [h.closing]
      exact Double.le_trans (h.lowest_le _ hmem) hlast.lowest_le.2
  case volume =>
    rw [h.volume, List.foldl_map]
    exact Double.foldl_add_lt_zero (fun c hc => (hmembers c (List.mem_cons_of_mem first hc)).volume)
      hfirst.volume
  case lasts => exact hlasts

/-! ## All buckets -/

section RollUp

variable {width : Int} {asset label : String} {cs : List Candle}

theorem faultless_rollUp (hw : 0 < width) (hcs : ∀ c ∈ cs, c.Faultless) :
    Faultless (rollUp width asset label cs) := by
  have hrolls : RollsUp width asset label cs (rollUp width asset label cs) :=
    rollsUp_rollUp hw fun c hc => lacksPrice_eq_false_iff.2 (hcs c hc).priced
  refine hrolls.ascending.faultless fun d hd => ?_
  obtain ⟨first, rest, hstable, hsum⟩ := hrolls.members d hd
  have hstop := hrolls.stop d hd
  refine hsum.faultless (fun c hc => ?_) (by omega)
  exact hcs c (List.mem_filter.1 (hstable.perm.mem_iff.1 hc)).1

/-- Buckets of candles that start from 1970 on start no earlier than that and no later than the candles, so
    their starts are dates where those of the candles are. -/
theorem dated_rollUp (hw : 0 < width) (hfrom : ∀ c ∈ cs, 0 ≤ c.start)
    (hto : ∀ c ∈ cs, c.start ≤ Frame.latestStart) :
    ∀ d ∈ rollUp width asset label cs, -Frame.latestStart ≤ d.start ∧ d.start ≤ Frame.latestStart := by
  intro d hd
  obtain ⟨c, hc, hstart⟩ := exists_mem_of_mem_rollUp hw hd
  have hnonneg := bucketStart_nonneg hw (hfrom c hc)
  have hle := bucketStart_le hw c.start
  have hlatest := hto c hc
  have hpos : 0 < Frame.latestStart := by decide
  omega

/-- Where the check finds nothing among candles from 1970 on, it finds nothing in what they are rolled up to
    either. -/
theorem rollUp_faultless (hw : 0 < width) (asset label : String) (hfrom : ∀ c ∈ cs, 0 ≤ c.start)
    (hclean : issues cs = .ok []) :
    ∃ out, rollUp? width asset label cs = .ok out ∧ Faultless out ∧ issues out = .ok [] := by
  obtain ⟨hdated, hnone⟩ := issues_eq_ok hclean
  have hfaultless : Faultless (rollUp width asset label cs) :=
    faultless_rollUp hw (faults_eq_nil_iff.1 hnone.symm).each
  refine ⟨_, rollUp?_of_pos hw cs, hfaultless, ?_⟩
  rw [issues_of_dated (dated_rollUp hw hfrom fun c hc => (hdated c hc).2),
    faults_eq_nil_iff.2 hfaultless]

end RollUp

/-- Three minutes, the latest first. The first one has infinite prices and no volume. -/
def latestFirst : List Candle := [flat 120000 180000 7, flat 60000 120000 5, boundless]

/-- The two buckets of two minutes that they are in. -/
def doubled : List Candle := [
  ⟨0, 120000, .ofInt 1, .infinity false, .infinity true, .ofInt 5, .nan, 2, "BTC", "2m"⟩,
  ⟨120000, 240000, .ofInt 7, .ofInt 7, .ofInt 7, .ofInt 7, .ofInt 1, 1, "BTC", "2m"⟩]

theorem rollUp_latestFirst : rollUp? 120000 "BTC" "2m" latestFirst = .ok doubled := by
  have hordered : Ascending latestFirst.reverse := by
    unfold Ascending
    decide
  have hsort : sort latestFirst = latestFirst.reverse :=
    (ascending_sort (by decide)).ext hordered fun c => by rw [mem_sort, List.mem_reverse]
  rw [rollUp?_of_pos (by decide), rollUp, hsort]
  exact congrArg Except.ok (by decide +kernel)

theorem rollUp_faultless_latestFirst :
    (0 : Int) < 120000 ∧ (∀ c ∈ latestFirst, 0 ≤ c.start) ∧ issues latestFirst = .ok [] ∧
      Faultless doubled ∧ issues doubled = .ok [] := by
  have hfrom : ∀ c ∈ latestFirst, 0 ≤ c.start := by decide
  have hclean : issues latestFirst = .ok [] := by
    rw [issues_of_dated (by decide), faults_eq_nil_iff.2 (by decide)]
  obtain ⟨out, hout, hfaultless, hissues⟩ :=
    rollUp_faultless (show (0 : Int) < 120000 by decide) "BTC" "2m" hfrom hclean
  obtain rfl := Except.ok.inj (rollUp_latestFirst.symm.trans hout)
  exact ⟨by decide, hfrom, hclean, hfaultless, hissues⟩

end Series

end Candlestick
