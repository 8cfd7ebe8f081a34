import Mathlib.Algebra.BigOperators.Group.List.Basic
import Mathlib.Algebra.Ring.Int.Defs
import Candlestick.Proofs.Series.Clipping
import Candlestick.Proofs.Series.Quality

set_option autoImplicit false

/-! # A roll-up bucket by bucket

A roll-up has one candle for each bucket that occurs (`Series.RollsUp`), and that candle sums up the
bucket's candles in stable order of start (`Series.SumsUp`). The buckets part the candles
(`Series.flatMap_inBucket_perm`), so no trade is lost and none is counted twice; and candles that all
start at different times may come in any order. -/

namespace Candlestick.Series

/-! ## Stable order -/

/-- The candles of a list in order of start, where those that start together keep their order. -/
structure StableOrder (cs ordered : List Candle) : Prop where
  perm : ordered.Perm cs
  sorted : ordered.Pairwise fun a b => a.start ≤ b.start
  stable : ∀ k, ordered.filter (·.start = k) = cs.filter (·.start = k)

theorem perm_sort (cs : List Candle) : (sort cs).Perm cs := List.mergeSort_perm _ _

theorem stableOrder_sort (cs : List Candle) : StableOrder cs (sort cs) where
  perm := perm_sort cs
  sorted := sort_pairwise cs
  stable k := by
    -- Those that start together are in order already, and a stable sort keeps such a part together.
    have htogether : (cs.filter (·.start = k)).Pairwise fun a b => decide (a.start ≤ b.start) = true := by
      refine List.pairwise_of_forall_mem_list fun a ha b hb => ?_
      have ha := of_decide_eq_true (List.mem_filter.1 ha).2
      have hb := of_decide_eq_true (List.mem_filter.1 hb).2
      exact decide_eq_true (by omega)
    have hsub : (cs.filter (·.start = k)).Sublist (sort cs) :=
      List.sublist_mergeSort (fun a b c => by simpa using Int.le_trans)
        (fun a b => by simpa using Int.le_total _ _) htogether List.filter_sublist
    have hkept : (cs.filter (·.start = k)).Sublist ((sort cs).filter (·.start = k)) := by
      have hfilter := hsub.filter (·.start = k)
      rwa [List.filter_filter, show (fun c : Candle => decide (c.start = k) && decide (c.start = k)) =
        fun c => decide (c.start = k) from funext fun c => Bool.and_self _] at hfilter
    exact (hkept.eq_of_length ((perm_sort cs).filter _).length_eq.symm).symm

/-- A part of a list is in stable order where the list is. -/
theorem StableOrder.filter {cs ordered : List Candle} (h : StableOrder cs ordered)
    (p : Candle → Bool) : StableOrder (cs.filter p) (ordered.filter p) where
  perm := h.perm.filter p
  sorted := h.sorted.filter p
  stable k := by rw [List.filter_comm, h.stable, List.filter_comm]

/-! ## The buckets of a roll-up -/

section RollUp

variable {width : Int} {asset label : String} {cs : List Candle}

theorem exists_bucketCandle (start : Int) (asset label : String) {c : Candle} (hc : c ∈ cs) :
    ∃ d, bucketCandle width start asset label cs = some d := by
  cases cs with
  | nil => exact absurd hc List.not_mem_nil
  | cons first rest => exact ⟨_, rfl⟩

/-- Every candle is in the bucket of some candle of the roll-up. -/
theorem exists_mem_rollUp (hw : 0 < width) (asset label : String) {c : Candle} (hc : c ∈ cs) :
    ∃ d ∈ rollUp width asset label cs, d.start = bucketStart width c.start := by
  have hin : c ∈ inBucket width (bucketStart width c.start) (sort cs) :=
    List.mem_filter.2 ⟨mem_sort.2 hc, decide_eq_true rfl⟩
  obtain ⟨d, hd⟩ := exists_bucketCandle (bucketStart width c.start) asset label hin
  have hstart := start_of_bucketCandle hd
  exact ⟨d, (mem_rollUp hw).2 (hstart ▸ hd), hstart⟩

/-- A candle of the roll-up is made of the candles of its bucket, of which there is a first one. -/
theorem exists_bucket_of_mem_rollUp (hw : 0 < width) {d : Candle}
    (hd : d ∈ rollUp width asset label cs) :
    ∃ first rest, StableOrder (inBucket width d.start cs) (first :: rest) ∧
      bucketCandle width d.start asset label (first :: rest) = some d := by
  have hmade := (mem_rollUp hw).1 hd
  have hstable : StableOrder (inBucket width d.start cs) (inBucket width d.start (sort cs)) :=
    (stableOrder_sort cs).filter _
  cases hbucket : inBucket width d.start (sort cs) with
  | nil => exact absurd (hbucket ▸ hmade) (by simp [bucketCandle])
  | cons first rest => exact ⟨first, rest, hbucket ▸ hstable, hbucket ▸ hmade⟩

/-- Distinct buckets that all candles are in part the candles. -/
theorem flatMap_inBucket_perm {ks : List Int} (hks : ks.Nodup)
    (hall : ∀ c ∈ cs, bucketStart width c.start ∈ ks) :
    (ks.flatMap fun k => inBucket width k cs).Perm cs := by
  induction ks generalizing cs with
  | nil =>
    cases cs with
    | nil => exact List.Perm.refl _
    | cons c cs => exact absurd (hall c List.mem_cons_self) List.not_mem_nil
  | cons k ks ih =>
    obtain ⟨hk, hks⟩ := List.nodup_cons.1 hks
    -- The other buckets are those of the candles that are not in the first one.
    let others := cs.filter fun c => !decide (bucketStart width c.start = k)
    have hsame : ks.flatMap (fun k' => inBucket width k' cs) =
        ks.flatMap fun k' => inBucket width k' others := by
      refine List.flatMap_congr fun k' hk' => ?_
      rw [inBucket, inBucket, List.filter_filter]
      refine List.filter_congr fun c _ => ?_
      by_cases hc : bucketStart width c.start = k'
      · have hne : k' ≠ k := fun heq => hk (heq ▸ hk')
        simp [hc, hne]
      · simp [hc]
    have hothers : ∀ c ∈ others, bucketStart width c.start ∈ ks := by
      intro c hc
      obtain ⟨hmem, hnot⟩ := List.mem_filter.1 hc
      exact (List.mem_cons.1 (hall c hmem)).resolve_left (by simpa using hnot)
    rw [List.flatMap_cons, hsame]
    exact ((ih hks hothers).append_left _).trans (List.filter_append_perm _ cs)

/-- The buckets of a roll-up part the candles. -/
theorem flatMap_rollUp_perm (hw : 0 < width) (asset label : String) (cs : List Candle) :
    ((rollUp width asset label cs).flatMap fun d => inBucket width d.start cs).Perm cs := by
  have hnodup : ((rollUp width asset label cs).map (·.start)).Nodup :=
    List.pairwise_map.2 ((ascending_rollUp hw cs).imp Int.ne_of_lt)
  have hall : ∀ c ∈ cs, bucketStart width c.start ∈ (rollUp width asset label cs).map (·.start) := by
    intro c hc
    obtain ⟨d, hd, hstart⟩ := exists_mem_rollUp hw asset label hc
    exact List.mem_map.2 ⟨d, hd, hstart⟩
  have hperm := flatMap_inBucket_perm hnodup hall
  rwa [List.flatMap_map] at hperm

/-! ## What a bucket's candle sums up -/

/-- A candle sums up a bucket's candles in their order: it opens with the first of them and closes with the
    last, its high and low are prices of theirs that bound all the others, volumes are added up from the
    left, and so are trades. -/
structure SumsUp (first : Candle) (rest : List Candle) (d : Candle) : Prop where
  opening : d.opening = first.opening
  closing : d.closing = ((first :: rest).getLast (List.cons_ne_nil _ _)).closing
  highest : ∃ c ∈ first :: rest, d.highest = c.highest
  le_highest : ∀ c ∈ first :: rest, c.highest.le d.highest = true
  lowest : ∃ c ∈ first :: rest, d.lowest = c.lowest
  lowest_le : ∀ c ∈ first :: rest, d.lowest.le c.lowest = true
  volume : d.volume = (rest.map (·.volume)).foldl (· + ·) first.volume
  trades : d.trades = ((first :: rest).map (·.trades)).sum

theorem not_isNaN_of_lacksPrice {c : Candle} (h : lacksPrice c = false) :
    c.highest.isNaN = false ∧ c.lowest.isNaN = false := by
  simp only [lacksPrice, Bool.or_eq_false_iff] at h
  exact ⟨h.1.1.2, h.1.2⟩

theorem sumsUp_of_bucketCandle {start : Int} {first d : Candle} {rest : List Candle}
    (h : bucketCandle width start asset label (first :: rest) = some d)
    (hprices : ∀ c ∈ first :: rest, lacksPrice c = false) : SumsUp first rest d := by
  obtain rfl := Option.some.inj h
  obtain ⟨hhighest, hle⟩ := Double.selects_max.foldl (·.highest) fun c hc =>
    (not_isNaN_of_lacksPrice (hprices c hc)).1
  obtain ⟨hlowest, hge⟩ := Double.selects_min.foldl (·.lowest) fun c hc =>
    (not_isNaN_of_lacksPrice (hprices c hc)).2
  exact {
    opening := rfl
    closing := foldl_closing first rest
    highest := hhighest
    le_highest := hle
    lowest := hlowest
    lowest_le := hge
    volume := List.foldl_map.symm
    trades := by
      rw [List.sum_eq_foldl, List.map_cons, List.foldl_cons, List.foldl_map, Int.zero_add] }

/-! ## The roll-up as a whole -/

/-- The candles of some buckets sum up the candles given: one for each bucket that occurs, in order of
    start, and each made of the bucket's candles in stable order of start. -/
structure RollsUp (width : Int) (asset label : String) (cs out : List Candle) : Prop where
  ascending : Ascending out
  occurs : ∀ k, k ∈ out.map (·.start) ↔ k ∈ cs.map fun c => bucketStart width c.start
  stop : ∀ d ∈ out, d.stop = d.start + width
  tags : ∀ d ∈ out, d.asset = asset ∧ d.label = label
  members : ∀ d ∈ out, ∃ first rest,
    StableOrder (inBucket width d.start cs) (first :: rest) ∧ SumsUp first rest d
  trades : (out.map (·.trades)).sum = (cs.map (·.trades)).sum

theorem exists_sumsUp_of_mem_rollUp (hw : 0 < width) (hcs : ∀ c ∈ cs, lacksPrice c = false) {d : Candle}
    (hd : d ∈ rollUp width asset label cs) :
    ∃ first rest, StableOrder (inBucket width d.start cs) (first :: rest) ∧ SumsUp first rest d := by
  obtain ⟨first, rest, hstable, hmade⟩ := exists_bucket_of_mem_rollUp hw hd
  refine ⟨first, rest, hstable, sumsUp_of_bucketCandle hmade fun c hc => ?_⟩
  exact hcs c (List.mem_filter.1 (hstable.perm.mem_iff.1 hc)).1

/-- No trade is lost, and none is counted twice. -/
theorem sum_trades_rollUp (hw : 0 < width) (hcs : ∀ c ∈ cs, lacksPrice c = false) :
    ((rollUp width asset label cs).map (·.trades)).sum = (cs.map (·.trades)).sum := by
  have hparts := ((flatMap_rollUp_perm hw asset label cs).map (·.trades)).sum_eq
  rw [List.map_flatMap, List.flatMap_def, List.sum_flatten, List.map_map] at hparts
  rw [← hparts]
  refine congrArg List.sum (List.map_congr_left fun d hd => ?_)
  obtain ⟨first, rest, hstable, hsum⟩ := exists_sumsUp_of_mem_rollUp hw hcs hd
  exact hsum.trades.trans (hstable.perm.map _).sum_eq

theorem rollsUp_rollUp (hw : 0 < width) (hcs : ∀ c ∈ cs, lacksPrice c = false) :
    RollsUp width asset label cs (rollUp width asset label cs) where
  ascending := ascending_rollUp hw cs
  occurs k := by
    rw [List.mem_map, List.mem_map]
    constructor
    · rintro ⟨d, hd, rfl⟩
      exact exists_mem_of_mem_rollUp hw hd
    · rintro ⟨c, hc, rfl⟩
      exact exists_mem_rollUp hw asset label hc
  stop d hd := stop_of_bucketCandle ((mem_rollUp hw).1 hd)
  tags d hd := tags_of_bucketCandle ((mem_rollUp hw).1 hd)
  members d hd := exists_sumsUp_of_mem_rollUp hw hcs hd
  trades := sum_trades_rollUp hw hcs

theorem rollUp?_of_pos (hw : 0 < width) (cs : List Candle) :
    rollUp? width asset label cs = .ok (rollUp width asset label cs) :=
  if_neg fun h => Int.ne_of_gt hw h.1

theorem rollUp?_nil (width : Int) (asset label : String) : rollUp? width asset label [] = .ok [] := by
  rw [rollUp?, if_neg (by simp), rollUp_nil]

/-- Rolling candles up sums up the buckets that occur, and where all candles start at different times their
    order does not matter. -/
theorem rollUp_sums (hw : 0 < width) (asset label : String)
    (hcs : ∀ c ∈ cs, lacksPrice c = false) :
    ∃ out, rollUp? width asset label cs = .ok out ∧ RollsUp width asset label cs out ∧
      (cs.Pairwise (fun a b => a.start ≠ b.start) →
        ∀ other, cs.Perm other → rollUp? width asset label other = .ok out) := by
  refine ⟨rollUp width asset label cs, rollUp?_of_pos hw cs, rollsUp_rollUp hw hcs, ?_⟩
  intro hdistinct other hperm
  have hdistinct' : other.Pairwise fun a b => a.start ≠ b.start :=
    (hperm.pairwise_iff fun hab => Ne.symm hab).1 hdistinct
  have hsort : sort other = sort cs := (ascending_sort hdistinct').ext (ascending_sort hdistinct)
    fun c => by rw [mem_sort, mem_sort, hperm.mem_iff]
  rw [rollUp?_of_pos hw, rollUp, hsort, rollUp]

end RollUp

/-- Candles out of order on both sides of 1970, none of which starts from 1970 on and before 5. -/
def scattered : List Candle :=
  [flat 7 8 4, flat (-2) (-1) 5, flat (-6) (-5) 2, flat (-9) (-8) 1, flat (-7) (-6) 3]

/-- Three of the candles are of the bucket that ends at -5. -/
def gathered : List Candle :=
  [⟨-10, -5, .ofInt 1, .ofInt 3, .ofInt 1, .ofInt 2, .ofInt 3, 3, "ETH", "5ms"⟩,
    ⟨-5, 0, .ofInt 5, .ofInt 5, .ofInt 5, .ofInt 5, .ofInt 1, 1, "ETH", "5ms"⟩,
    ⟨5, 10, .ofInt 4, .ofInt 4, .ofInt 4, .ofInt 4, .ofInt 1, 1, "ETH", "5ms"⟩]

theorem distinct_scattered : scattered.Pairwise fun a b => a.start ≠ b.start := by decide

/-- The order that the candles are walked through in. -/
theorem sort_scattered : sort scattered =
    [flat (-9) (-8) 1, flat (-7) (-6) 3, flat (-6) (-5) 2, flat (-2) (-1) 5, flat 7 8 4] := by
  have hordered : Ascending
      [flat (-9) (-8) 1, flat (-7) (-6) 3, flat (-6) (-5) 2, flat (-2) (-1) 5, flat 7 8 4] := by
    unfold Ascending
    decide
  have hperm : scattered.Perm
      [flat (-9) (-8) 1, flat (-7) (-6) 3, flat (-6) (-5) 2, flat (-2) (-1) 5, flat 7 8 4] := by
    decide
  exact (ascending_sort distinct_scattered).ext hordered fun c => by rw [mem_sort, hperm.mem_iff]

theorem rollUp_scattered : rollUp? 5 "ETH" "5ms" scattered = .ok gathered := by
  rw [rollUp?_of_pos (by decide), rollUp, sort_scattered]
  exact congrArg Except.ok (by decide +kernel)

theorem rollUp_sums_scattered :
    (0 : Int) < 5 ∧ (∀ c ∈ scattered, lacksPrice c = false) ∧
      RollsUp 5 "ETH" "5ms" scattered gathered ∧
      rollUp? 5 "ETH" "5ms" scattered.reverse = .ok gathered := by
  have hprices : ∀ c ∈ scattered, lacksPrice c = false := by decide
  obtain ⟨out, hout, hrolls, hperm⟩ := rollUp_sums (show (0 : Int) < 5 by decide) "ETH" "5ms" hprices
  obtain rfl := Except.ok.inj (rollUp_scattered.symm.trans hout)
  exact ⟨by decide, hprices, hrolls,
    hperm distinct_scattered _ (List.reverse_perm scattered).symm⟩

end Candlestick.Series
