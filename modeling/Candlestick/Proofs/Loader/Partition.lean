import Mathlib.Data.List.Destutter
import Candlestick.Proofs.Loader.Covering
import Candlestick.Proofs.Series.Keyed

set_option autoImplicit false

/-! # The scan of a window is a partition of its grid

Each bucket of a window is found, or it lies in one gap. What the scan hands on of the found buckets are
the candles that the look-ups gave, without repeats in a row: one candle that covers a run of buckets is
handed on once. -/

namespace Candlestick.Gaps

instance {look : Int → Option Candle} {asset : String} : DecidablePred (Hit look asset) := fun t =>
  decidable_of_iff (((look t).filter (·.asset = asset)).isSome = true)
    (Option.isSome_iff_exists.trans filter_eq_some_iff_hit)

/-! ## The cached candles -/

/-- The candles of an asset that the look-ups of some times give. -/
def found (look : Int → Option Candle) (asset : String) (ts : List Int) : List Candle :=
  ts.filterMap fun t => (look t).filter (·.asset = asset)

section Found

variable {look : Int → Option Candle} {asset : String}

theorem found_cons_hit {t : Int} {ts : List Int} {c : Candle}
    (h : (look t).filter (·.asset = asset) = some c) :
    found look asset (t :: ts) = c :: found look asset ts :=
  List.filterMap_cons_some h

theorem found_cons_miss {t : Int} {ts : List Int} (h : (look t).filter (·.asset = asset) = none) :
    found look asset (t :: ts) = found look asset ts :=
  List.filterMap_cons_none h

theorem mem_found {ts : List Int} {c : Candle} :
    c ∈ found look asset ts ↔ ∃ t ∈ ts, look t = some c ∧ c.asset = asset := by
  simp [found, List.mem_filterMap, Option.filter_eq_some_iff]

theorem Scan.cached_step_hit (scan : Scan) {t : Int} {c : Candle}
    (h : (look t).filter (·.asset = asset) = some c) :
    (scan.step look asset t).cached =
      if scan.cached.head? = some c then scan.cached else c :: scan.cached := by
  simp only [Scan.step, h]

theorem Scan.cached_step_miss {scan : Scan} {t : Int}
    (h : (look t).filter (·.asset = asset) = none) :
    (scan.step look asset t).cached = scan.cached := by
  simp only [Scan.step, h]

/-- Once a candle has been collected, what follows is what differs from the candle before it. -/
theorem Scan.cached_foldl_cons (ts : List Int) {scan : Scan} {c : Candle} {before : List Candle}
    (hscan : scan.cached = c :: before) :
    (ts.foldl (Scan.step look asset) scan).cached.reverse =
      before.reverse ++ (found look asset ts).destutter' (· ≠ ·) c := by
  induction ts generalizing scan c before with
  | nil => simp [found, hscan]
  | cons t ts ih =>
    rw [List.foldl_cons]
    cases hd : (look t).filter (·.asset = asset) with
    | none =>
      rw [ih ((Scan.cached_step_miss hd).trans hscan), found_cons_miss hd]
    | some d =>
      rw [found_cons_hit hd]
      have hstep := Scan.cached_step_hit scan hd
      rw [hscan, List.head?_cons] at hstep
      by_cases hcd : c = d
      · rw [if_pos (congrArg some hcd)] at hstep
        rw [ih hstep, List.destutter'_cons_neg _ (not_not.2 hcd)]
      · rw [if_neg fun h => hcd (Option.some.inj h)] at hstep
        rw [ih hstep, List.destutter'_cons_pos _ hcd, List.reverse_cons, List.append_assoc,
          List.singleton_append]

theorem Scan.cached_foldl (ts : List Int) {scan : Scan} (hscan : scan.cached = []) :
    (ts.foldl (Scan.step look asset) scan).cached.reverse =
      (found look asset ts).destutter (· ≠ ·) := by
  induction ts generalizing scan with
  | nil => simp [found, hscan]
  | cons t ts ih =>
    rw [List.foldl_cons]
    cases hd : (look t).filter (·.asset = asset) with
    | none => rw [ih ((Scan.cached_step_miss hd).trans hscan), found_cons_miss hd]
    | some d =>
      have hstep := Scan.cached_step_hit scan hd
      rw [hscan, List.head?_nil, if_neg (by simp)] at hstep
      rw [found_cons_hit hd, List.destutter_cons', Scan.cached_foldl_cons ts hstep]
      rfl

end Found

/-- Leaving out repeats in a row leaves out no value. -/
theorem mem_destutter_ne {α : Type} [DecidableEq α] {a : α} {as : List α} :
    a ∈ as.destutter (· ≠ ·) ↔ a ∈ as := by
  refine ⟨fun h => (List.destutter_sublist _ as).mem h, fun h => ?_⟩
  cases as with
  | nil => exact h
  | cons b bs =>
    rw [List.destutter_cons']
    induction bs generalizing b with
    | nil => simpa using h
    | cons d bs ih =>
      by_cases hbd : b = d
      · rw [List.destutter'_cons_neg _ (not_not.2 hbd)]
        exact ih b (by simpa [hbd] using h)
      · rw [List.destutter'_cons_pos _ hbd]
        rcases List.mem_cons.1 h with rfl | h
        · exact List.mem_cons_self
        · exact List.mem_cons_of_mem _ (ih d h)

theorem cached_collect (m : CandleMap) (asset : String) (start stop bucket : Int) (exact : Bool) :
    (collect m asset start stop bucket exact).1 =
      (found (lookUp m asset exact) asset (grid start stop bucket)).destutter (· ≠ ·) :=
  Scan.cached_foldl _ rfl

/-! ## Candles under their own starts -/

section Exact

variable {m : CandleMap} {asset : String}

/-- What is found under the times of a grid begins at just those times. -/
theorem map_start_found (hm : m.ByStart) (ts : List Int) :
    (found m.get? asset ts).map (·.start) = ts.filter fun t => Hit m.get? asset t := by
  induction ts with
  | nil => rfl
  | cons t ts ih =>
    cases hc : (m.get? t).filter (·.asset = asset) with
    | none =>
      have hmiss : ¬ Hit m.get? asset t := fun hhit => by
        obtain ⟨c, hc'⟩ := filter_eq_some_iff_hit.2 hhit
        rw [hc] at hc'
        cases hc'
      rw [found_cons_miss hc, ih, List.filter_cons_of_neg (by simpa using hmiss)]
    | some c =>
      have hhit : Hit m.get? asset t := filter_eq_some_iff_hit.1 ⟨c, hc⟩
      have hstart : c.start = t := hm t c (Option.filter_eq_some_iff.1 hc).1
      rw [found_cons_hit hc, List.map_cons, ih, hstart,
        List.filter_cons_of_pos (by simpa using hhit)]

/-- Under different times lie different candles, so that nothing is left out. -/
theorem destutter_found (hm : m.ByStart) {ts : List Int} (hts : ts.Pairwise (· < ·)) :
    (found m.get? asset ts).destutter (· ≠ ·) = found m.get? asset ts := by
  refine List.destutter_of_isChain _ _ (List.Pairwise.isChain ?_)
  have hstarts : ((found m.get? asset ts).map (·.start)).Pairwise (· < ·) := by
    rw [map_start_found hm]
    exact hts.filter _
  refine (List.pairwise_map.1 hstarts).imp fun {c d} hlt hcd => ?_
  rw [hcd] at hlt
  exact Int.lt_irrefl _ hlt

end Exact

/-! ## The partition -/

/-- What a scan gives of a window, by the look-up of its buckets: the cached candles and the gaps. -/
structure Partition (look : Int → Option Candle) (asset : String) (start stop bucket : Int)
    (cached : List Candle) (gaps : List Gap) : Prop where
  /-- A bucket that is found lies in no gap, -/
  clear : ∀ t ∈ grid start stop bucket, Hit look asset t → ∀ g ∈ gaps, ¬ (g.start ≤ t ∧ t < g.stop)
  /-- and one that is missing lies in one. -/
  missing : ∀ t ∈ grid start stop bucket, ¬ Hit look asset t →
    ∃! g, g ∈ gaps ∧ g.start ≤ t ∧ t < g.stop
  nonempty : ∀ g ∈ gaps, g.start < g.stop
  within : ∀ g ∈ gaps, start ≤ g.start ∧ g.stop ≤ stop
  aligned : ∀ g ∈ gaps, bucket ∣ g.start - start ∧ bucket ∣ g.stop - start
  /-- The gaps ascend, and a bucket that is found stands between one and the next. -/
  apart : gaps.Pairwise fun g g' => g.stop < g'.start
  /-- A candle that several buckets in a row find is given once. In a map by start, equal candles are one
      entry. -/
  cached_eq : cached = (found look asset (grid start stop bucket)).destutter (· ≠ ·)

theorem Splits.partition {look : Int → Option Candle} {asset : String} {start stop bucket : Int}
    {cached : List Candle} {gaps : List Gap}
    (h : Splits (Hit look asset) start stop bucket gaps)
    (hcached : cached = (found look asset (grid start stop bucket)).destutter (· ≠ ·)) :
    Partition look asset start stop bucket cached gaps where
  clear t ht hhit g hg hin := h.missed g hg t ht hin.1 hin.2 hhit
  missing t ht hmiss := by
    obtain ⟨g, hg, hin⟩ := (h.covers t ht).resolve_left hmiss
    refine ⟨g, ⟨hg, hin⟩, fun g' hg' => ?_⟩
    exact h.eq_of_meet hg'.1 hg (by omega) (by omega)
  nonempty g hg := (h.within g hg).2.1
  within g hg := ⟨(h.within g hg).1, (h.within g hg).2.2⟩
  aligned := h.aligned
  apart := h.apart
  cached_eq := hcached

/-- The scan of a window that is a whole number of buckets wide parts its grid into the buckets that are
    found and the gaps. Looked up by their own starts, the candles begin at the found buckets; looked up
    by what holds a bucket's start, each found bucket is held by one of the candles. -/
theorem collect_partitions (m : CandleMap) (asset : String) {start stop bucket : Int} (exact : Bool)
    (hbucket : 0 < bucket) (hlt : start < stop) (hdvd : bucket ∣ stop - start) :
    ∃ cached gaps, collect? m asset start stop bucket exact = .ok (cached, gaps) ∧
      Partition (lookUp m asset exact) asset start stop bucket cached gaps ∧
      (exact = true → m.ByStart → cached.map (·.start) =
        (grid start stop bucket).filter fun t => Hit (lookUp m asset exact) asset t) ∧
      (exact = false → ∀ t ∈ grid start stop bucket, Hit (lookUp m asset exact) asset t →
        ∃ c ∈ cached, c.asset = asset ∧ (∃ k, m.get? k = some c) ∧ c.start ≤ t ∧ t < c.stop) := by
  have hcached := cached_collect m asset start stop bucket exact
  have hsplits := splits_collect m asset exact hbucket (Int.le_of_lt hlt) hdvd
  refine ⟨(collect m asset start stop bucket exact).1, (collect m asset start stop bucket exact).2,
    if_neg (Int.ne_of_gt hbucket), hsplits.partition hcached, ?_, ?_⟩
  · rintro rfl hm
    rw [hcached]
    exact (congrArg _ (destutter_found hm (pairwise_grid hbucket))).trans (map_start_found hm _)
  · rintro rfl t ht ⟨c, hc, hasset⟩
    obtain ⟨hmem, hfrom, hto⟩ := covering_spec hc
    refine ⟨c, ?_, hasset, (mem_sorted.1 (List.mem_reverse.1 hmem)).1, hfrom, hto⟩
    rw [hcached, mem_destutter_ne]
    exact mem_found.2 ⟨t, ht, hc, hasset⟩

/-- A flat candle. -/
def flat (asset : String) (start stop : Int) : Candle :=
  ⟨start, stop, .ofInt 1, .ofInt 1, .ofInt 1, .ofInt 1, .ofInt 1, 1, asset, "1m"⟩

/-- Two candles with a hole between them, of which the first is two buckets long, and another asset's
    before them. -/
def patchy : CandleMap :=
  CandleMap.storeAll {} [flat "ETH" 0 10, flat "BTC" 20 40, flat "BTC" 50 60]

theorem sorted_patchy : patchy.sorted "BTC" = [flat "BTC" 20 40, flat "BTC" 50 60] := by
  have hget : ∀ k, patchy.get? k =
      [flat "BTC" 50 60, flat "BTC" 20 40, flat "ETH" 0 10].find? (·.start = k) := fun k => by
    rw [patchy, CandleMap.get?_storeAll, CandleMap.get?_empty, Option.or_none]
    rfl
  have hascending : Series.Ascending (patchy.sorted "BTC") :=
    Series.ascending_sort ((CandleMap.byStart_empty.storeAll _).values_pairwise.filter _)
  refine hascending.ext (List.pairwise_pair.2 (by decide)) fun c => ?_
  rw [mem_sorted, List.mem_pair]
  constructor
  · rintro ⟨⟨k, hk⟩, hasset⟩
    rw [hget] at hk
    have hmem := List.mem_of_find?_eq_some hk
    rw [List.mem_cons, List.mem_pair] at hmem
    rcases hmem with rfl | rfl | rfl
    · exact Or.inr rfl
    · exact Or.inl rfl
    · exact absurd hasset (by decide)
  · rintro (rfl | rfl)
    · exact ⟨⟨20, (hget 20).trans (by decide)⟩, rfl⟩
    · exact ⟨⟨50, (hget 50).trans (by decide)⟩, rfl⟩

/-- The other asset's candle does not count, the long one counts for two buckets and is given once, and
    the last bucket is found. -/
theorem collect_partitions_patchy :
    (0 : Int) < 10 ∧ (0 : Int) < 60 ∧ (10 : Int) ∣ 60 - 0 ∧
      ∃ cached gaps, collect? patchy "BTC" 0 60 10 false = .ok (cached, gaps) ∧
        cached = [flat "BTC" 20 40, flat "BTC" 50 60] ∧ gaps = [⟨0, 20⟩, ⟨40, 50⟩] ∧
        Partition (lookUp patchy "BTC" false) "BTC" 0 60 10 cached gaps ∧
        ∀ t ∈ grid 0 60 10, Hit (lookUp patchy "BTC" false) "BTC" t →
          ∃ c ∈ cached, c.asset = "BTC" ∧ (∃ k, patchy.get? k = some c) ∧ c.start ≤ t ∧ t < c.stop := by
  have hvalue : collect? patchy "BTC" 0 60 10 false =
      .ok ([flat "BTC" 20 40, flat "BTC" 50 60], [⟨0, 20⟩, ⟨40, 50⟩]) := by
    rw [collect?, if_neg (by decide), collect, lookUp, if_neg (by decide), sorted_patchy]
    exact congrArg Except.ok (by decide +kernel)
  obtain ⟨cached, gaps, hcollect, hpartition, -, hheld⟩ :=
    collect_partitions patchy "BTC" false (by decide : (0 : Int) < 10) (by decide : (0 : Int) < 60)
      (by decide)
  obtain ⟨rfl, rfl⟩ := Prod.mk.inj (Except.ok.inj (hcollect.symm.trans hvalue))
  exact ⟨by decide, by decide, by decide, _, _, hcollect, rfl, rfl, hpartition, hheld rfl⟩

end Candlestick.Gaps
