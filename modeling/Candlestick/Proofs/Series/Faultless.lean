import Candlestick.Proofs.Number.Order
import Candlestick.Proofs.Series.Order
import Candlestick.Series.Quality

set_option autoImplicit false

/-! # What the quality check decides

The check goes through the columns of a table of candles, and its comparisons pass over numbers that are
missing. All the same it finds nothing exactly if each candle is faultless by itself
(`Candle.Faultless`) and no two of them start together (`Series.Faultless`), and what it finds does not
depend on the order of the candles (`Series.faults_perm`). -/

namespace Candlestick

/-- The four prices of a candle. -/
def Candle.prices (c : Candle) : List Double := [c.opening, c.highest, c.lowest, c.closing]

/-- A candle without a fault of its own: no price is missing, the other prices lie between low and high,
    the volume is not below zero, and the candle ends after it starts. -/
structure Candle.Faultless (c : Candle) : Prop where
  priced : ∀ x ∈ c.prices, x.isNaN = false
  capped : (c.opening.max c.closing).le c.highest = true
  floored : c.lowest.le (c.opening.min c.closing) = true
  volume : c.volume.lt .zero = false
  lasts : c.start < c.stop

instance (c : Candle) : Decidable c.Faultless :=
  decidable_of_iff ((∀ x ∈ c.prices, x.isNaN = false) ∧
      (c.opening.max c.closing).le c.highest = true ∧ c.lowest.le (c.opening.min c.closing) = true ∧
      c.volume.lt .zero = false ∧ c.start < c.stop)
    ⟨fun ⟨hpriced, hcapped, hfloored, hvolume, hlasts⟩ => ⟨hpriced, hcapped, hfloored, hvolume, hlasts⟩,
      fun h => ⟨h.priced, h.capped, h.floored, h.volume, h.lasts⟩⟩

namespace Series

/-- Candles without a fault: none has one of its own, and no two of them start together. -/
structure Faultless (cs : List Candle) : Prop where
  each : ∀ c ∈ cs, c.Faultless
  distinct : cs.Pairwise fun a b => a.start ≠ b.start

instance (cs : List Candle) : Decidable (Faultless cs) :=
  decidable_of_iff ((∀ c ∈ cs, c.Faultless) ∧ cs.Pairwise fun a b => a.start ≠ b.start)
    ⟨fun ⟨heach, hdistinct⟩ => ⟨heach, hdistinct⟩, fun h => ⟨h.each, h.distinct⟩⟩

/-! ## One candle -/

theorem lacksPrice_eq_false_iff {c : Candle} :
    lacksPrice c = false ↔ ∀ x ∈ c.prices, x.isNaN = false := by
  simp [lacksPrice, Candle.prices, and_assoc]

theorem greater_of_there {x y : Double} (hx : x.isNaN = false) (hy : y.isNaN = false) :
    greater x y = x.max y := by
  simp [greater, hx, hy]

theorem less_of_there {x y : Double} (hx : x.isNaN = false) (hy : y.isNaN = false) :
    less x y = x.min y := by
  simp [less, hx, hy]

/-- Where no price is missing, nothing is passed over: the comparisons are those of the definition. -/
theorem comparisons_of_priced {c : Candle} (hpriced : ∀ x ∈ c.prices, x.isNaN = false) :
    (isHighTooLow c = false ↔ (c.opening.max c.closing).le c.highest = true) ∧
      (isLowTooHigh c = false ↔ c.lowest.le (c.opening.min c.closing) = true) := by
  simp only [Candle.prices, List.forall_mem_cons] at hpriced
  obtain ⟨hopening, hhighest, hlowest, hclosing, -⟩ := hpriced
  have hmax : (c.opening.max c.closing).isNaN = false := (Double.isNaN_max _ _).trans hopening
  have hmin : (c.opening.min c.closing).isNaN = false := (Double.isNaN_min _ _).trans hopening
  rw [isHighTooLow, isLowTooHigh, greater_of_there hopening hclosing, less_of_there hopening hclosing,
    Double.lt_eq_false_iff hhighest hmax, Double.lt_eq_false_iff hmin hlowest]
  exact ⟨Iff.rfl, Iff.rfl⟩

/-- A candle is faultless exactly if no check of a column finds it. -/
theorem faultless_iff_unfound {c : Candle} :
    c.Faultless ↔ lacksPrice c = false ∧ isHighTooLow c = false ∧ isLowTooHigh c = false ∧
      c.volume.lt .zero = false ∧ c.start < c.stop := by
  constructor
  · intro h
    obtain ⟨hhigh, hlow⟩ := comparisons_of_priced h.priced
    exact ⟨lacksPrice_eq_false_iff.2 h.priced, hhigh.2 h.capped, hlow.2 h.floored, h.volume, h.lasts⟩
  · rintro ⟨hprices, hhigh, hlow, hvolume, hlasts⟩
    have hpriced := lacksPrice_eq_false_iff.1 hprices
    obtain ⟨hcapped, hfloored⟩ := comparisons_of_priced hpriced
    exact ⟨hpriced, hcapped.1 hhigh, hfloored.1 hlow, hvolume, hlasts⟩

/-! ## Repeated starts -/

/-- Nothing repeats itself exactly if the numbers are distinct and none of them has been seen before. -/
theorem hasRepeats_eq_false_iff {ns : List Int} {seen : Std.TreeSet Int} :
    hasRepeats seen ns = false ↔ ns.Nodup ∧ ∀ n ∈ ns, n ∉ seen := by
  induction ns generalizing seen with
  | nil => simp [hasRepeats]
  | cons n rest ih =>
    have hinsert : ∀ m, m ∉ seen.insert n ↔ n ≠ m ∧ m ∉ seen := by
      intro m
      rw [Std.TreeSet.mem_insert, not_or, Std.LawfulEqCmp.compare_eq_iff_eq]
    rw [hasRepeats, Bool.or_eq_false_iff, ih, List.nodup_cons, List.forall_mem_cons]
    simp only [hinsert, ← Bool.not_eq_true, ← Std.TreeSet.mem_iff_contains]
    constructor
    · rintro ⟨hn, hrest, hnew⟩
      exact ⟨⟨fun hmem => (hnew n hmem).1 rfl, hrest⟩, hn, fun m hm => (hnew m hm).2⟩
    · rintro ⟨⟨hmem, hrest⟩, hn, hnew⟩
      exact ⟨hn, hrest, fun m hm => ⟨fun heq => hmem (heq ▸ hm), hnew m hm⟩⟩

theorem hasRepeats_starts {cs : List Candle} :
    hasRepeats ∅ (cs.map (·.start)) = false ↔ cs.Pairwise fun a b => a.start ≠ b.start := by
  rw [hasRepeats_eq_false_iff, and_iff_left (by simp)]
  exact List.pairwise_map

/-! ## All candles -/

/-- The check finds nothing exactly if there is no fault. -/
theorem faults_eq_nil_iff {cs : List Candle} : faults cs = [] ↔ Faultless cs := by
  simp only [faults, List.append_eq_nil_iff, ite_eq_left_iff, ite_eq_right_iff, imp_false,
    List.cons_ne_nil, List.countP_eq_zero, Bool.not_eq_true, List.any_eq_false, not_not,
    decide_eq_true_eq, Int.not_le, hasRepeats_starts]
  constructor
  · rintro ⟨⟨⟨⟨⟨hprices, hhigh⟩, hlow⟩, hvolume⟩, hdistinct⟩, hlasts⟩
    exact ⟨fun c hc => faultless_iff_unfound.2
      ⟨hprices c hc, hhigh c hc, hlow c hc, hvolume c hc, hlasts c hc⟩, hdistinct⟩
  · rintro ⟨heach, hdistinct⟩
    have hunfound := fun c hc => faultless_iff_unfound.1 (heach c hc)
    exact ⟨⟨⟨⟨⟨fun c hc => (hunfound c hc).1, fun c hc => (hunfound c hc).2.1⟩,
      fun c hc => (hunfound c hc).2.2.1⟩, fun c hc => (hunfound c hc).2.2.2.1⟩, hdistinct⟩,
      fun c hc => (hunfound c hc).2.2.2.2⟩

/-- What is found does not depend on the order of the candles. -/
theorem faults_perm {cs ds : List Candle} (h : cs.Perm ds) : faults cs = faults ds := by
  have hrepeats : hasRepeats ∅ (cs.map (·.start)) = hasRepeats ∅ (ds.map (·.start)) := by
    rw [Bool.eq_iff_iff, ← not_iff_not, Bool.not_eq_true, Bool.not_eq_true, hasRepeats_starts,
      hasRepeats_starts]
    exact h.pairwise_iff fun hab => Ne.symm hab
  simp only [faults, h.countP_eq, h.any_eq, hrepeats]

/-- Missing prices are found exactly if there are any, and then all of them are counted. -/
theorem missingPrices_mem_faults {cs : List Candle} {n : Nat} :
    Issue.missingPrices n ∈ faults cs ↔ n = cs.countP lacksPrice ∧ ∃ c ∈ cs, lacksPrice c = true := by
  rw [← List.countP_pos_iff]
  simp only [faults, List.mem_append, List.mem_ite_nil_left, List.mem_ite_nil_right,
    List.mem_singleton, Issue.missingPrices.injEq, reduceCtorEq, and_false, or_false]
  constructor
  · rintro ⟨hne, rfl⟩
    exact ⟨rfl, Nat.pos_of_ne_zero hne⟩
  · rintro ⟨rfl, hpos⟩
    exact ⟨Nat.ne_of_gt hpos, rfl⟩

theorem faults_singleton_eq_nil_iff {c : Candle} : faults [c] = [] ↔ c.Faultless := by
  rw [faults_eq_nil_iff]
  exact ⟨fun h => h.each c List.mem_cons_self,
    fun h => ⟨List.forall_mem_singleton.2 h, List.pairwise_singleton _ _⟩⟩

/-- Candles in order that are faultless by themselves are a faultless list. -/
theorem Ascending.faultless {cs : List Candle} (hcs : Ascending cs) (h : ∀ c ∈ cs, c.Faultless) :
    Faultless cs :=
  ⟨h, hcs.imp Int.ne_of_lt⟩

/-- So are some of the candles of a faultless list, in order. -/
theorem faults_of_subset {cs ds : List Candle} (h : faults cs = []) (hds : Ascending ds)
    (hsub : ∀ d ∈ ds, d ∈ cs) : faults ds = [] :=
  faults_eq_nil_iff.2 (hds.faultless fun d hd => (faults_eq_nil_iff.1 h).each d (hsub d hd))

theorem faults_of_ascending {cs : List Candle} (hcs : Ascending cs) (h : ∀ c ∈ cs, faults [c] = []) :
    faults cs = [] :=
  faults_eq_nil_iff.2 (hcs.faultless fun c hc => faults_singleton_eq_nil_iff.1 (h c hc))

/-! ## The table -/

/-- The quality of candles whose starts are dates can be checked. -/
theorem issues_of_dated {cs : List Candle}
    (hcs : ∀ c ∈ cs, -Frame.latestStart ≤ c.start ∧ c.start ≤ Frame.latestStart) :
    issues cs = .ok (faults cs) := by
  have hfit : cs.any (fun c => Frame.latestStart < c.start || c.start < -Frame.latestStart) = false := by
    refine List.any_eq_false.2 fun c hc => ?_
    have := hcs c hc
    simp only [Bool.or_eq_true, decide_eq_true_eq]
    omega
  rw [issues, Frame.ofCandles, hfit]
  rfl

/-- The starts of candles that could be checked are dates, and what was found are their faults. -/
theorem issues_eq_ok {cs : List Candle} {found : List Issue} (h : issues cs = .ok found) :
    (∀ c ∈ cs, -Frame.latestStart ≤ c.start ∧ c.start ≤ Frame.latestStart) ∧ found = faults cs := by
  unfold issues Frame.ofCandles at h
  split at h
  · exact absurd h (by simp [Except.map])
  · rename_i hfit
    rw [Bool.not_eq_true, List.any_eq_false] at hfit
    refine ⟨fun c hc => ?_, (Except.ok.inj h).symm⟩
    have hdate := hfit c hc
    simp only [Bool.or_eq_true, decide_eq_true_eq] at hdate
    omega

/-- The check of candles whose starts are dates finds nothing exactly if there is no fault, and finds the
    same in any other order. Candles pass as they are if nothing is found, and are refused with all that
    is found otherwise. -/
theorem issues_decide {cs : List Candle}
    (hdated : ∀ c ∈ cs, -Frame.latestStart ≤ c.start ∧ c.start ≤ Frame.latestStart) :
    ∃ found, issues cs = .ok found ∧ (found = [] ↔ Faultless cs) ∧
      (∀ other, cs.Perm other → issues other = .ok found) ∧
      (found = [] → validate cs = .ok cs) ∧
      (found ≠ [] → validate cs = .error (.poorQuality found)) := by
  have hissues := issues_of_dated hdated
  refine ⟨faults cs, hissues, faults_eq_nil_iff, fun other hperm => ?_, fun hnone => ?_, fun hsome => ?_⟩
  · rw [issues_of_dated fun c hc => hdated c (hperm.mem_iff.2 hc), faults_perm hperm]
  · rw [validate, hissues, hnone]
    rfl
  · have hfound : (faults cs).isEmpty = false := by simpa using hsome
    rw [validate, hissues]
    exact if_neg (by simp [hfound])

/-- A candle of infinite prices, with a volume that is missing. -/
def boundless : Candle :=
  ⟨0, 60000, .ofInt 1, .infinity false, .infinity true, .ofInt 2, .nan, 1, "BTC", "1m"⟩

/-- Two more candles: one lacks its closing price and has a high below the opening one, the other starts
    when the boundless one does, has no length, and a volume below zero. -/
def blemished : List Candle := [
  boundless,
  ⟨60000, 120000, .ofInt 3, .ofInt 2, .ofInt 1, .nan, .ofInt 1, 1, "BTC", "1m"⟩,
  ⟨0, 0, .ofInt 1, .ofInt 1, .ofInt 1, .ofInt 1, .ofInt (-1), 1, "BTC", "1m"⟩]

/-- What is wrong with them. -/
def blemishes : List Issue :=
  [.missingPrices 1, .highTooLow, .negativeVolume, .repeatedStart, .stopNotAfterStart]

/-- Infinite prices and a missing volume are no faults, and all the others are found. -/
theorem issues_decide_blemished :
    (∀ c ∈ blemished, -Frame.latestStart ≤ c.start ∧ c.start ≤ Frame.latestStart) ∧
      Faultless [boundless] ∧ validate [boundless] = .ok [boundless] ∧
      ¬ Faultless blemished ∧ issues blemished.reverse = .ok blemishes ∧
      validate blemished = .error (.poorQuality blemishes) := by
  have hdated : ∀ c ∈ blemished, -Frame.latestStart ≤ c.start ∧ c.start ≤ Frame.latestStart := by decide
  have hfaults : faults blemished = blemishes := by decide
  have hboundless : Faultless [boundless] := by decide
  obtain ⟨_, -, hclean, -, hpass, -⟩ := issues_decide fun c hc =>
    hdated c (List.mem_singleton.1 hc ▸ .head _)
  obtain ⟨found, hissues, hiff, hperm, -, hrefuse⟩ := issues_decide hdated
  obtain rfl : found = blemishes := (Except.ok.inj (hissues.symm.trans (issues_of_dated hdated))).trans hfaults
  have hsome : blemishes ≠ [] := by decide
  exact ⟨hdated, hboundless, hpass (hclean.2 hboundless), fun h => hsome (hiff.2 h),
    hperm _ (List.reverse_perm blemished).symm, hrefuse hsome⟩

end Series

end Candlestick
