import Mathlib.Data.List.Sort
import Candlestick.Proofs.Series.Keyed

set_option autoImplicit false

/-! # Lists of candles in order of start

A list whose candles start one after the other (`Series.Ascending`) is determined by its members.
Sorting makes one of any list without two candles of one start, and `Series.normalize` makes one of
any list whatever: of the candles that overlap the range and start together it keeps the last. -/

namespace Candlestick.Series

/-- Each candle starts after the one before it. -/
def Ascending (cs : List Candle) : Prop := cs.Pairwise fun a b => a.start < b.start

theorem Ascending.filter {cs : List Candle} (h : Ascending cs) (p : Candle → Bool) :
    Ascending (cs.filter p) :=
  List.Pairwise.filter p h

/-- Lists in order of start are equal as soon as they have the same members. -/
theorem Ascending.ext {cs ds : List Candle} (hcs : Ascending cs) (hds : Ascending ds)
    (h : ∀ c, c ∈ cs ↔ c ∈ ds) : cs = ds := by
  have : Std.Irrefl fun a b : Candle => a.start < b.start := ⟨fun a => Int.lt_irrefl a.start⟩
  exact List.Pairwise.eq_of_mem_iff hcs hds h

theorem Ascending.eq_of_start_eq {cs : List Candle} (h : Ascending cs) {c d : Candle} (hc : c ∈ cs)
    (hd : d ∈ cs) (heq : c.start = d.start) : c = d :=
  List.inj_on_of_nodup_map (List.pairwise_map.2 (h.imp Int.ne_of_lt)) hc hd heq

theorem ascending_sort {cs : List Candle} (h : cs.Pairwise fun a b => a.start ≠ b.start) :
    Ascending (sort cs) := by
  have hne : (sort cs).Pairwise fun a b => a.start ≠ b.start :=
    ((List.mergeSort_perm _ _).pairwise_iff fun hab => Ne.symm hab).2 h
  refine ((sort_pairwise cs).and hne).imp ?_
  rintro a b ⟨hle, hab⟩
  exact Int.lt_iff_le_and_ne.2 ⟨hle, hab⟩

/-- A list that is in order already stays as it is. -/
theorem sort_of_ascending {cs : List Candle} (h : Ascending cs) : sort cs = cs :=
  List.mergeSort_of_pairwise (h.imp fun hab => by simpa using Int.le_of_lt hab)

/-! ## Duplicates and clipping -/

theorem mem_dedupe {cs : List Candle} {c : Candle} :
    c ∈ dedupe cs ↔ cs.reverse.find? (·.start = c.start) = some c := by
  rw [dedupe, (CandleMap.byStart_empty.storeAll cs).mem_values, CandleMap.get?_storeAll,
    CandleMap.get?_empty, Option.or_none]

/-- A candle is left by `normalize` exactly if it is the last candle of its start among those that
    overlap the range. -/
theorem mem_normalize {start stop : Int} {raw : List Candle} {c : Candle} :
    c ∈ normalize start stop raw ↔
      (raw.filter (Candle.overlaps start stop)).reverse.find? (·.start = c.start) = some c := by
  rw [normalize, mem_sort, mem_dedupe]

theorem ascending_normalize (start stop : Int) (raw : List Candle) :
    Ascending (normalize start stop raw) :=
  ascending_sort (CandleMap.byStart_empty.storeAll _).values_pairwise

/-- What `normalize` leaves was there and overlaps the range. -/
theorem mem_of_mem_normalize {start stop : Int} {raw : List Candle} {c : Candle}
    (h : c ∈ normalize start stop raw) : c ∈ raw ∧ c.overlaps start stop = true := by
  have hmem := List.mem_of_find?_eq_some (mem_normalize.1 h)
  exact List.mem_filter.1 (List.mem_reverse.1 hmem)

/-- Where candles that overlap the range and start together are equal, none of them is lost. -/
theorem mem_normalize_of_unique {start stop : Int} {raw : List Candle}
    (hunique : ∀ a ∈ raw, ∀ b ∈ raw, a.start = b.start → a = b) {c : Candle} :
    c ∈ normalize start stop raw ↔ c ∈ raw ∧ c.overlaps start stop = true := by
  refine ⟨mem_of_mem_normalize, fun ⟨hraw, hover⟩ => ?_⟩
  rw [mem_normalize]
  cases hfind : (raw.filter (Candle.overlaps start stop)).reverse.find? (·.start = c.start) with
  | none =>
    have hmem : c ∈ (raw.filter (Candle.overlaps start stop)).reverse :=
      List.mem_reverse.2 (List.mem_filter.2 ⟨hraw, hover⟩)
    exact absurd (List.find?_eq_none.1 hfind c hmem) (by simp)
  | some d =>
    have hd := List.mem_filter.1 (List.mem_reverse.1 (List.mem_of_find?_eq_some hfind))
    have hstart : d.start = c.start := by simpa using List.find?_some hfind
    rw [hunique d hd.1 c hraw hstart]

/-- Then their order does not matter. -/
theorem normalize_perm {start stop : Int} {raw other : List Candle} (hperm : raw.Perm other)
    (hunique : ∀ a ∈ raw, ∀ b ∈ raw, a.start = b.start → a = b) :
    normalize start stop raw = normalize start stop other := by
  have hunique' : ∀ a ∈ other, ∀ b ∈ other, a.start = b.start → a = b := fun a ha b hb =>
    hunique a (hperm.mem_iff.2 ha) b (hperm.mem_iff.2 hb)
  refine (ascending_normalize start stop raw).ext (ascending_normalize start stop other) fun c => ?_
  rw [mem_normalize_of_unique hunique, mem_normalize_of_unique hunique', hperm.mem_iff]

/-- Of candles in order `normalize` keeps those that overlap the range. -/
theorem normalize_of_ascending {start stop : Int} {raw : List Candle} (h : Ascending raw) :
    normalize start stop raw = raw.filter (Candle.overlaps start stop) := by
  refine (ascending_normalize start stop raw).ext (h.filter _) fun c => ?_
  rw [mem_normalize_of_unique fun a ha b hb => h.eq_of_start_eq ha hb, List.mem_filter]

/-- Candles of distinct starts that all overlap the range are only put in order. -/
theorem normalize_eq_sort {start stop : Int} {raw : List Candle}
    (hdistinct : raw.Pairwise fun a b => a.start ≠ b.start)
    (hover : ∀ c ∈ raw, c.overlaps start stop = true) : normalize start stop raw = sort raw := by
  have hunique : ∀ a ∈ raw, ∀ b ∈ raw, a.start = b.start → a = b := fun a ha b hb =>
    List.inj_on_of_nodup_map (List.pairwise_map.2 hdistinct) ha hb
  refine (ascending_normalize start stop raw).ext (ascending_sort hdistinct) fun c => ?_
  rw [mem_normalize_of_unique hunique, mem_sort, and_iff_left_of_imp (hover c)]

/-! ## The candles before a time -/

/-- Looking up a start before a time needs the candles before that time only. -/
theorem find?_filter_lt {k first : Int} (hk : k < first) (cs : List Candle) :
    (cs.filter (·.start < first)).find? (·.start = k) = cs.find? (·.start = k) := by
  rw [List.find?_filter]
  congr 1
  funext c
  by_cases hc : c.start = k <;> simp [hc, hk]

/-- A list in order is the part of another before a time, if it ends before that time and the two have
    the same members until then. -/
theorem Ascending.eq_filter_lt {cs ds : List Candle} {first : Int} (hcs : Ascending cs)
    (hds : Ascending ds) (hbefore : ∀ c ∈ cs, c.start < first)
    (hsame : ∀ c, c.start < first → (c ∈ cs ↔ c ∈ ds)) : cs = ds.filter (·.start < first) := by
  refine hcs.ext (hds.filter _) fun c => ?_
  rw [List.mem_filter, decide_eq_true_eq]
  constructor
  · intro hc
    exact ⟨(hsame c (hbefore c hc)).1 hc, hbefore c hc⟩
  · rintro ⟨hc, hlt⟩
    exact (hsame c hlt).2 hc

/-- Clipping commutes with leaving out the candles from a time on. -/
theorem normalize_filter_lt (first start stop : Int) (raw : List Candle) :
    normalize start stop (raw.filter (·.start < first)) =
      (normalize start stop raw).filter (·.start < first) := by
  refine (ascending_normalize ..).eq_filter_lt (ascending_normalize ..) (fun c hc => ?_) fun c hlt => ?_
  · exact of_decide_eq_true (List.mem_filter.1 (mem_of_mem_normalize hc).1).2
  · rw [mem_normalize, mem_normalize, List.filter_comm, ← List.filter_reverse, find?_filter_lt hlt]

end Candlestick.Series
