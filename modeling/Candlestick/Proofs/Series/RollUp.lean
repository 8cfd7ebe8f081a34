import Candlestick.Proofs.Series.Order
import Candlestick.Series.RollUp

set_option autoImplicit false

/-! # Rolling up against its definition

`Series.bucketCandle` says what one bucket's candles amount to. `Series.rollUp` is a walk with an
open bucket; `Series.mem_rollUp` says that it gives exactly the candles of the buckets that occur,
and `Series.ascending_rollUp` that it gives them in order. -/

namespace Candlestick.Series

/-- The candle that the candles of one bucket make, which are given in order of start. -/
def bucketCandle (width start : Int) (asset label : String) : List Candle → Option Candle
  | [] => none
  | first :: rest => some {
      start
      stop := start + width
      opening := first.opening
      highest := rest.foldl (fun highest c => highest.max c.highest) first.highest
      lowest := rest.foldl (fun lowest c => lowest.min c.lowest) first.lowest
      closing := rest.foldl (fun _ c => c.closing) first.closing
      volume := rest.foldl (fun volume c => volume + c.volume) first.volume
      trades := rest.foldl (fun trades c => trades + c.trades) first.trades
      asset
      label }

theorem start_of_bucketCandle {width start : Int} {asset label : String} {cs : List Candle}
    {d : Candle} (h : bucketCandle width start asset label cs = some d) : d.start = start := by
  cases cs with
  | nil => exact absurd h (by simp [bucketCandle])
  | cons first rest =>
    obtain rfl := Option.some.inj h
    rfl

theorem stop_of_bucketCandle {width start : Int} {asset label : String} {cs : List Candle}
    {d : Candle} (h : bucketCandle width start asset label cs = some d) : d.stop = start + width := by
  cases cs with
  | nil => exact absurd h (by simp [bucketCandle])
  | cons first rest =>
    obtain rfl := Option.some.inj h
    rfl

theorem tags_of_bucketCandle {width start : Int} {asset label : String} {cs : List Candle}
    {d : Candle} (h : bucketCandle width start asset label cs = some d) :
    d.asset = asset ∧ d.label = label := by
  cases cs with
  | nil => exact absurd h (by simp [bucketCandle])
  | cons first rest =>
    obtain rfl := Option.some.inj h
    exact ⟨rfl, rfl⟩

theorem exists_mem_of_bucketCandle {width start : Int} {asset label : String} {cs : List Candle}
    {d : Candle} (h : bucketCandle width start asset label cs = some d) : ∃ c, c ∈ cs := by
  cases cs with
  | nil => exact absurd h (by simp [bucketCandle])
  | cons first rest => exact ⟨first, List.mem_cons_self⟩

/-- The candles of a list whose bucket starts at a given time. -/
def inBucket (width start : Int) (cs : List Candle) : List Candle :=
  cs.filter fun c => bucketStart width c.start = start

/-! ## Buckets -/

theorem bucketStart_eq {width : Int} (hw : 0 < width) (t : Int) :
    bucketStart width t = t / width * width := by
  rw [bucketStart, Int.fdiv_eq_ediv_of_nonneg _ (Int.le_of_lt hw)]

theorem bucketStart_nonneg {width t : Int} (hw : 0 < width) (ht : 0 ≤ t) : 0 ≤ bucketStart width t := by
  rw [bucketStart_eq hw]
  exact Int.mul_nonneg (Int.ediv_nonneg ht (Int.le_of_lt hw)) (Int.le_of_lt hw)

theorem bucketStart_mono {width s t : Int} (hw : 0 < width) (h : s ≤ t) :
    bucketStart width s ≤ bucketStart width t := by
  rw [bucketStart_eq hw, bucketStart_eq hw]
  exact Int.mul_le_mul_of_nonneg_right (Int.ediv_le_ediv hw h) (Int.le_of_lt hw)

/-- A time lies in the bucket that starts at a multiple of the width exactly if it is no earlier than
    that and less than one width later. -/
theorem bucketStart_eq_iff {width k t : Int} (hw : 0 < width) (hk : width ∣ k) :
    bucketStart width t = k ↔ k ≤ t ∧ t < k + width := by
  obtain ⟨n, rfl⟩ := hk
  rw [bucketStart_eq hw]
  have hmod := Int.emod_nonneg t (Int.ne_of_gt hw)
  have hlt := Int.emod_lt_of_pos t hw
  have hsplit := Int.emod_add_mul_ediv t width
  constructor
  · intro h
    rw [Int.mul_comm] at h
    omega
  · rintro ⟨hge, hless⟩
    have hn : t / width = n := by
      rw [Int.ediv_eq_iff_of_pos hw, Int.mul_comm]
      exact ⟨hge, hless⟩
    rw [hn, Int.mul_comm]

/-- A bucket starts at a multiple of the width. -/
theorem dvd_bucketStart (width t : Int) : width ∣ bucketStart width t := Int.dvd_mul_left _ _

theorem bucketStart_le {width : Int} (hw : 0 < width) (t : Int) : bucketStart width t ≤ t :=
  ((bucketStart_eq_iff hw (dvd_bucketStart width t)).1 rfl).1

/-- The bucket of a time before a border of buckets ends by the border. -/
theorem bucketStart_lt_iff {width first t : Int} (hw : 0 < width) (hfirst : width ∣ first) :
    bucketStart width t < first ↔ t < first := by
  refine ⟨fun h => Int.not_le.1 fun hle => ?_, fun h => Int.lt_of_le_of_lt (bucketStart_le hw t) h⟩
  have hself : bucketStart width first = first :=
    (bucketStart_eq_iff hw hfirst).2 ⟨Int.le_refl _, by omega⟩
  have := bucketStart_mono hw hle
  omega

/-! ## The walk -/

theorem start_foldl_extendBucket (cs : List Candle) (bucket : Candle) :
    (cs.foldl extendBucket bucket).start = bucket.start := by
  induction cs generalizing bucket with
  | nil => rfl
  | cons c cs ih => exact ih (extendBucket bucket c)

/-- A bucket that has been opened with its first candle and extended by the others is their candle. -/
theorem bucketCandle_cons (width : Int) (asset label : String) (first : Candle)
    (rest : List Candle) :
    bucketCandle width (bucketStart width first.start) asset label (first :: rest) =
      some (rest.foldl extendBucket (openBucket width asset label first)) := by
  have hfold : ∀ (cs : List Candle) (b : Candle), cs.foldl extendBucket b = { b with
      highest := cs.foldl (fun highest c => highest.max c.highest) b.highest
      lowest := cs.foldl (fun lowest c => lowest.min c.lowest) b.lowest
      closing := cs.foldl (fun _ c => c.closing) b.closing
      volume := cs.foldl (fun volume c => volume + c.volume) b.volume
      trades := cs.foldl (fun trades c => trades + c.trades) b.trades } := by
    intro cs
    induction cs with
    | nil => intro b; rfl
    | cons c cs ih => intro b; rw [List.foldl_cons, ih]; rfl
  rw [hfold]
  rfl

section Walk

variable {width : Int} {asset label : String}

/-- The candle of a bucket among candles in order: the first one's bucket, or a later bucket that the
    first one is not in. -/
theorem bucketCandle_inBucket_cons {c d : Candle} {cs : List Candle}
    (hfrom : ∀ c' ∈ cs, bucketStart width c.start ≤ bucketStart width c'.start) :
    bucketCandle width d.start asset label (inBucket width d.start (c :: cs)) = some d ↔
      d = (inBucket width (bucketStart width c.start) cs).foldl extendBucket
          (openBucket width asset label c) ∨
        (bucketStart width c.start < d.start ∧
          bucketCandle width d.start asset label (inBucket width d.start cs) = some d) := by
  by_cases hd : d.start = bucketStart width c.start
  · have hfirst : inBucket width d.start (c :: cs) =
        c :: inBucket width (bucketStart width c.start) cs := by
      rw [hd]
      exact List.filter_cons_of_pos (by simp)
    rw [hfirst, hd, bucketCandle_cons]
    simp only [Int.lt_irrefl, false_and, or_false, Option.some.injEq]
    exact eq_comm
  · have hskip : inBucket width d.start (c :: cs) = inBucket width d.start cs :=
      List.filter_cons_of_neg (by simpa using fun he => hd he.symm)
    rw [hskip]
    constructor
    · intro hcandle
      refine Or.inr ⟨?_, hcandle⟩
      -- The bucket holds a candle, and that one is in no earlier bucket than the first.
      obtain ⟨c', hc'⟩ : ∃ c', c' ∈ inBucket width d.start cs := by
        cases hcs : inBucket width d.start cs with
        | nil => exact absurd hcandle (by simp [hcs, bucketCandle])
        | cons c' rest => exact ⟨c', List.mem_cons_self⟩
      obtain ⟨hmem, hstart⟩ := List.mem_filter.1 hc'
      have hge := hfrom c' hmem
      rw [of_decide_eq_true hstart] at hge
      exact Int.lt_iff_le_and_ne.2 ⟨hge, fun he => hd he.symm⟩
    · rintro (hopen | ⟨-, hcandle⟩)
      · refine absurd ?_ hd
        rw [hopen, start_foldl_extendBucket]
        rfl
      · exact hcandle

/-- The walk gives the open bucket with its own candles, and the candles of the later buckets. -/
theorem mem_rollFrom (hw : 0 < width) (bucket : Candle) {d : Candle} {cs : List Candle}
    (hsorted : cs.Pairwise fun a b => a.start ≤ b.start)
    (hfrom : ∀ c ∈ cs, bucket.start ≤ bucketStart width c.start) :
    d ∈ rollFrom width asset label bucket cs ↔
      d = (inBucket width bucket.start cs).foldl extendBucket bucket ∨
        (bucket.start < d.start ∧
          bucketCandle width d.start asset label (inBucket width d.start cs) = some d) := by
  induction cs generalizing bucket with
  | nil => simp [rollFrom, inBucket, bucketCandle]
  | cons c cs ih =>
    obtain ⟨hhead, hsorted⟩ := List.pairwise_cons.1 hsorted
    have hfrom' : ∀ c' ∈ cs, bucketStart width c.start ≤ bucketStart width c'.start :=
      fun c' hc' => bucketStart_mono hw (hhead c' hc')
    have hc := hfrom c List.mem_cons_self
    rw [rollFrom]
    by_cases hsame : bucketStart width c.start = bucket.start
    · have hown : inBucket width bucket.start (c :: cs) = c :: inBucket width bucket.start cs :=
        List.filter_cons_of_pos (by simpa using hsame)
      rw [if_pos hsame, ih (extendBucket bucket c) hsorted
        (fun c' hc' => hfrom c' (List.mem_cons_of_mem _ hc')), hown]
      refine or_congr Iff.rfl (and_congr_right fun hlt => ?_)
      have hlater : inBucket width d.start (c :: cs) = inBucket width d.start cs :=
        List.filter_cons_of_neg (by
          have hlt : bucket.start < d.start := hlt
          simp only [hsame, decide_eq_true_eq]
          omega)
      rw [hlater]
    · have hless : bucket.start < bucketStart width c.start :=
        Int.lt_iff_le_and_ne.2 ⟨hc, Ne.symm hsame⟩
      -- The candles come in order, so the open bucket gets none of those that are left.
      have hnone : inBucket width bucket.start (c :: cs) = [] := by
        refine List.filter_eq_nil_iff.2 fun c' hc' => ?_
        have hge : bucketStart width c.start ≤ bucketStart width c'.start := by
          rcases List.mem_cons.1 hc' with rfl | hc'
          · exact Int.le_refl _
          · exact hfrom' c' hc'
        simp only [decide_eq_true_eq]
        omega
      rw [if_neg hsame, List.mem_cons, ih (openBucket width asset label c) hsorted hfrom',
        hnone, List.foldl_nil, bucketCandle_inBucket_cons hfrom']
      refine or_congr Iff.rfl ⟨fun h => ⟨?_, h⟩, And.right⟩
      rcases h with hopen | ⟨hlt, -⟩
      · rw [hopen, start_foldl_extendBucket]
        exact hless
      · exact Int.lt_trans hless hlt

/-- The candles of the walk start one after the other, from the open bucket on. -/
theorem ascending_rollFrom (hw : 0 < width) (bucket : Candle) {cs : List Candle}
    (hsorted : cs.Pairwise fun a b => a.start ≤ b.start)
    (hfrom : ∀ c ∈ cs, bucket.start ≤ bucketStart width c.start) :
    Ascending (rollFrom width asset label bucket cs) := by
  induction cs generalizing bucket with
  | nil => exact List.pairwise_singleton _ _
  | cons c cs ih =>
    obtain ⟨hhead, hsorted⟩ := List.pairwise_cons.1 hsorted
    have hfrom' : ∀ c' ∈ cs, bucketStart width c.start ≤ bucketStart width c'.start :=
      fun c' hc' => bucketStart_mono hw (hhead c' hc')
    have hc := hfrom c List.mem_cons_self
    rw [rollFrom]
    by_cases hsame : bucketStart width c.start = bucket.start
    · rw [if_pos hsame]
      exact ih (extendBucket bucket c) hsorted
        fun c' hc' => hfrom c' (List.mem_cons_of_mem _ hc')
    · rw [if_neg hsame]
      refine List.pairwise_cons.2
        ⟨fun d hd => ?_, ih (openBucket width asset label c) hsorted hfrom'⟩
      have hless : bucket.start < bucketStart width c.start :=
        Int.lt_iff_le_and_ne.2 ⟨hc, Ne.symm hsame⟩
      rcases (mem_rollFrom hw (openBucket width asset label c) hsorted hfrom').1 hd with
        hopen | ⟨hlt, -⟩
      · rw [hopen, start_foldl_extendBucket]
        exact hless
      · exact Int.lt_trans hless hlt

/-- Rolling up gives a candle exactly if its bucket occurs and the bucket's candles make it. -/
theorem mem_rollUp (hw : 0 < width) {cs : List Candle} {d : Candle} :
    d ∈ rollUp width asset label cs ↔
      bucketCandle width d.start asset label (inBucket width d.start (sort cs)) = some d := by
  have hsorted := sort_pairwise cs
  rw [rollUp]
  cases hsort : sort cs with
  | nil => simp [inBucket, bucketCandle]
  | cons c rest =>
    rw [hsort] at hsorted
    obtain ⟨hhead, hsorted⟩ := List.pairwise_cons.1 hsorted
    have hfrom : ∀ c' ∈ rest, bucketStart width c.start ≤ bucketStart width c'.start :=
      fun c' hc' => bucketStart_mono hw (hhead c' hc')
    rw [bucketCandle_inBucket_cons hfrom]
    exact mem_rollFrom hw (openBucket width asset label c) hsorted hfrom

theorem ascending_rollUp (hw : 0 < width) (cs : List Candle) :
    Ascending (rollUp width asset label cs) := by
  have hsorted := sort_pairwise cs
  rw [rollUp]
  cases hsort : sort cs with
  | nil => exact List.Pairwise.nil
  | cons c rest =>
    rw [hsort] at hsorted
    obtain ⟨hhead, hsorted⟩ := List.pairwise_cons.1 hsorted
    exact ascending_rollFrom hw (openBucket width asset label c) hsorted
      fun c' hc' => bucketStart_mono hw (hhead c' hc')

/-- Every candle of a roll-up is of a bucket that holds one of the candles. -/
theorem exists_mem_of_mem_rollUp (hw : 0 < width) {cs : List Candle} {c : Candle}
    (hc : c ∈ rollUp width asset label cs) : ∃ d ∈ cs, bucketStart width d.start = c.start := by
  obtain ⟨d, hd⟩ := exists_mem_of_bucketCandle ((mem_rollUp hw).1 hc)
  obtain ⟨hsort, hstart⟩ := List.mem_filter.1 hd
  exact ⟨d, mem_sort.1 hsort, of_decide_eq_true hstart⟩

/-- At the border of a bucket, rolling up commutes with leaving out the candles from there on. -/
theorem rollUp_filter_lt {first : Int} (hw : 0 < width) (hfirst : width ∣ first) {cs : List Candle}
    (hcs : Ascending cs) :
    rollUp width asset label (cs.filter (·.start < first)) =
      (rollUp width asset label cs).filter (·.start < first) := by
  refine (ascending_rollUp hw _).eq_filter_lt (ascending_rollUp hw _) (fun c hc => ?_) fun c hlt => ?_
  · obtain ⟨d, hd, hstart⟩ := exists_mem_of_mem_rollUp hw hc
    have hd := of_decide_eq_true (List.mem_filter.1 hd).2
    exact hstart ▸ (bucketStart_lt_iff hw hfirst).2 hd
  · have hsame : inBucket width c.start (cs.filter (·.start < first)) = inBucket width c.start cs := by
      rw [inBucket, List.filter_filter]
      refine List.filter_congr fun d _ => ?_
      by_cases hd : bucketStart width d.start = c.start
      · have hlt : d.start < first := (bucketStart_lt_iff hw hfirst).1 (hd ▸ hlt)
        simp [hlt]
      · simp [hd]
    rw [mem_rollUp hw, mem_rollUp hw, sort_of_ascending hcs, sort_of_ascending (hcs.filter _), hsame]

end Walk

end Candlestick.Series
