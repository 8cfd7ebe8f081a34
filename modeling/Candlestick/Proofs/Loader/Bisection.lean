import Candlestick.Proofs.Loader.Partition

set_option autoImplicit false

/-! # One binary search and one comparison

To find the candle that holds a moment, no candle is looked at but the last one that starts by then. In an
ordered list a binary search finds the place after it. Where the ends are in order too, the comparison with
its end settles whether any candle at all holds the moment. -/

namespace Candlestick.Gaps

/-! ## The place that parts an ordered list -/

/-- A place of a list with the candles that start by a moment before it, and the others from it on. -/
structure Parts (cs : List Candle) (t : Int) (place : Nat) : Prop where
  le_length : place ≤ cs.length
  before : ∀ i (hi : i < cs.length), i < place → cs[i].start ≤ t
  after : ∀ i (hi : i < cs.length), place ≤ i → t < cs[i].start

/-- Halve the range from `lo` up to `hi` in which the place may still be. -/
def bisect (cs : Array Candle) (t : Int) (lo hi : Nat) (hle : hi ≤ cs.size) : Nat :=
  if hlt : lo < hi then
    let mid := (lo + hi) / 2
    have hmid : mid < cs.size := by omega
    if t < cs[mid].start then bisect cs t lo mid (Nat.le_of_lt hmid)
    else bisect cs t (mid + 1) hi hle
  else lo
termination_by hi - lo

theorem start_le_of_le {cs : Array Candle} (hordered : cs.toList.Pairwise fun a b => a.start ≤ b.start)
    {i j : Nat} (hj : j < cs.size) (hij : i ≤ j) : cs[i].start ≤ cs[j].start := by
  rcases Nat.eq_or_lt_of_le hij with rfl | hlt
  · exact Int.le_refl _
  · exact List.pairwise_iff_getElem.1 hordered i j (Nat.lt_of_le_of_lt hij hj) hj hlt

/-- What the search keeps: before `lo` the candles start by the moment, and from `hi` on they do not. Where
    the two meet is the place. -/
theorem parts_of_bisect {cs : Array Candle} {t : Int}
    (hordered : cs.toList.Pairwise fun a b => a.start ≤ b.start) {lo hi : Nat} (hle : hi ≤ cs.size)
    (hlohi : lo ≤ hi) (hbefore : ∀ i (hi : i < cs.size), i < lo → cs[i].start ≤ t)
    (hafter : ∀ i (hi' : i < cs.size), hi ≤ i → t < cs[i].start) :
    Parts cs.toList t (bisect cs t lo hi hle) := by
  fun_induction bisect cs t lo hi hle with
  | case1 lo hi hle hlt mid hmid hlater ih =>
    have hmid_eq : mid = (lo + hi) / 2 := rfl
    refine ih (by omega) hbefore fun i hi' hge => ?_
    exact Int.lt_of_lt_of_le hlater (start_le_of_le hordered hi' hge)
  | case2 lo hi hle hlt mid hmid hearlier ih =>
    have hmid_eq : mid = (lo + hi) / 2 := rfl
    refine ih (by omega) (fun i hi' hlt' => ?_) hafter
    exact Int.le_trans (start_le_of_le hordered hmid (by omega)) (Int.not_lt.1 hearlier)
  | case3 lo hi hle hge =>
    obtain rfl : lo = hi := by omega
    exact ⟨hle, hbefore, hafter⟩

section Search

variable {cs : List Candle} {t : Int} {place : Nat}

theorem parts_bisect (hordered : cs.Pairwise fun a b => a.start ≤ b.start) :
    Parts cs t (bisect cs.toArray t 0 cs.length (Nat.le_refl _)) := by
  have hordered : cs.toArray.toList.Pairwise fun a b => a.start ≤ b.start := hordered
  refine parts_of_bisect hordered (Nat.le_refl _) (Nat.zero_le _) (fun i _ hlt => ?_) fun i hi hge => ?_
  · exact absurd hlt (Nat.not_lt_zero i)
  · exact absurd hi (Nat.not_lt.2 hge)

theorem Parts.of_mem_take (h : Parts cs t place) {c : Candle} (hc : c ∈ cs.take place) : c.start ≤ t := by
  obtain ⟨i, hi, rfl⟩ := List.mem_iff_getElem.1 hc
  rw [List.length_take] at hi
  rw [List.getElem_take]
  exact h.before i (by omega) (by omega)

theorem Parts.of_mem_drop (h : Parts cs t place) {c : Candle} (hc : c ∈ cs.drop place) : t < c.start := by
  obtain ⟨i, hi, rfl⟩ := List.mem_iff_getElem.1 hc
  rw [List.length_drop] at hi
  rw [List.getElem_drop]
  exact h.after (place + i) (by omega) (Nat.le_add_right _ _)

/-- Whatever place parts a list, the candle before it is the latest that starts by the moment. -/
theorem Parts.find?_reverse (h : Parts cs t place) :
    cs.reverse.find? (·.start ≤ t) = (cs.take place).getLast? := by
  have hlater : (cs.drop place).reverse.find? (·.start ≤ t) = none := by
    rw [List.find?_eq_none]
    intro c hc
    have hafter := h.of_mem_drop (List.mem_reverse.1 hc)
    simpa using hafter
  have hearlier : (cs.take place).reverse.find? (·.start ≤ t) = (cs.take place).getLast? := by
    rw [← List.head?_reverse]
    cases hreverse : (cs.take place).reverse with
    | nil => rfl
    | cons c rest =>
      have hc : c ∈ cs.take place := List.mem_reverse.1 (hreverse ▸ List.mem_cons_self)
      have hbefore := h.of_mem_take hc
      rw [List.find?_cons_of_pos (by simpa using hbefore), List.head?_cons]
  have hsplit : cs.reverse = (cs.drop place).reverse ++ (cs.take place).reverse := by
    rw [← List.reverse_append, List.take_append_drop]
  rw [hsplit, List.find?_append, hlater, Option.none_or, hearlier]

end Search

/-- The candle that a binary search finds for a moment: the one before the place, unless it has ended. -/
def bisected (cs : List Candle) (t : Int) : Option Candle :=
  match bisect cs.toArray t 0 cs.length (Nat.le_refl _) with
  | 0 => none
  | place + 1 => (cs[place]?).filter (t < ·.stop)

theorem covering_eq_bisected {cs : List Candle} (hordered : cs.Pairwise fun a b => a.start ≤ b.start)
    (t : Int) : covering cs.reverse t = bisected cs t := by
  have hparts := parts_bisect hordered (t := t)
  rw [covering, hparts.find?_reverse, bisected]
  cases hplace : bisect cs.toArray t 0 cs.length (Nat.le_refl _) with
  | zero => rfl
  | succ place =>
    rw [hplace] at hparts
    have hlength : (cs.take (place + 1)).length = place + 1 := List.length_take_of_le hparts.le_length
    have hlast : (cs.take (place + 1)).getLast? = cs[place]? := by
      rw [List.getLast?_eq_getElem?, hlength, Nat.add_sub_cancel,
        List.getElem?_take_of_lt (Nat.lt_succ_self place)]
    rw [hlast]

/-- Of one asset's candles the look-up takes the one that a binary search finds. -/
theorem lookUp_eq_bisected (m : CandleMap) (asset : String) (t : Int) :
    lookUp m asset false t = bisected (m.sorted asset) t :=
  covering_eq_bisected (Series.sort_pairwise _) t

/-! ## The candle that is found -/

/-- A candle of an asset in a map. -/
def Cached (m : CandleMap) (asset : String) (c : Candle) : Prop :=
  (∃ k, m.get? k = some c) ∧ c.asset = asset

/-- Each candle starts after the one before it, and ends no earlier. -/
def EndsInOrder (cs : List Candle) : Prop :=
  cs.Pairwise fun a b => a.start < b.start ∧ a.stop ≤ b.stop

/-- The look-up of a moment gives a candle of the asset that holds the moment, and none of the asset's
    candles starts between the two. It gives one whenever there is one, if the ends are in the order of the
    starts. It takes one binary search. -/
theorem lookUp_holds (m : CandleMap) (asset : String) (t : Int) :
    (∀ c, lookUp m asset false t = some c →
      Cached m asset c ∧ c.start ≤ t ∧ t < c.stop ∧
        ∀ d, Cached m asset d → ¬ (c.start < d.start ∧ d.start ≤ t)) ∧
    (EndsInOrder (m.sorted asset) →
      ((∃ c, lookUp m asset false t = some c) ↔ ∃ c, Cached m asset c ∧ c.start ≤ t ∧ t < c.stop)) ∧
    lookUp m asset false t = bisected (m.sorted asset) t := by
  have hspec : ∀ c, lookUp m asset false t = some c → c ∈ m.sorted asset ∧ c.start ≤ t ∧ t < c.stop := by
    intro c hc
    obtain ⟨hmem, hheld⟩ := covering_spec hc
    exact ⟨List.mem_reverse.1 hmem, hheld⟩
  refine ⟨fun c hc => ?_, fun hends => ⟨?_, ?_⟩, lookUp_eq_bisected m asset t⟩
  · obtain ⟨hmem, hfrom, hto⟩ := hspec c hc
    refine ⟨mem_sorted.1 hmem, hfrom, hto, fun d hd ⟨hafter, hby⟩ => ?_⟩
    have hfind := (Option.filter_eq_some_iff.1 hc).1
    rcases rel_of_find?_reverse (Series.sort_pairwise _) hfind (mem_sorted.2 hd)
      (decide_eq_true hby) with rfl | hle
    · exact Int.lt_irrefl _ hafter
    · omega
  · rintro ⟨c, hc⟩
    obtain ⟨hmem, hheld⟩ := hspec c hc
    exact ⟨c, mem_sorted.1 hmem, hheld⟩
  · rintro ⟨c, hcached, hfrom, hto⟩
    exact exists_covering (hends.imp And.right) (mem_sorted.2 hcached) hfrom hto

/-! ## Candles of uneven length -/

/-- Candles that are stored in order are there in order. -/
theorem sorted_storeAll {cs : List Candle} (h : Series.Ascending cs) (asset : String) :
    (CandleMap.storeAll {} cs).sorted asset = cs.filter (·.asset = asset) := by
  have hget : ∀ k, (CandleMap.storeAll {} cs).get? k = cs.reverse.find? (·.start = k) := fun k => by
    rw [CandleMap.get?_storeAll, CandleMap.get?_empty, Option.or_none]
  have hsorted : Series.Ascending ((CandleMap.storeAll {} cs).sorted asset) :=
    Series.ascending_sort ((CandleMap.byStart_empty.storeAll cs).values_pairwise.filter _)
  refine hsorted.ext (h.filter _) fun c => ?_
  rw [mem_sorted, List.mem_filter, decide_eq_true_eq]
  refine and_congr_left fun _ => ⟨?_, fun hc => ⟨c.start, ?_⟩⟩
  · rintro ⟨k, hk⟩
    rw [hget] at hk
    exact List.mem_reverse.1 (List.mem_of_find?_eq_some hk)
  · rw [hget]
    cases hfind : cs.reverse.find? (·.start = c.start) with
    | none => exact absurd (List.find?_eq_none.1 hfind c (List.mem_reverse.2 hc)) (by simp)
    | some d =>
      have hd : d ∈ cs := List.mem_reverse.1 (List.mem_of_find?_eq_some hfind)
      have hstart : d.start = c.start := by simpa using List.find?_some hfind
      rw [h.eq_of_start_eq hd hc hstart]

/-- Three candles that overlap, a hole after them, and another asset's candle that fills it. -/
def uneven : List Candle :=
  [flat "BTC" 0 30, flat "BTC" 10 30, flat "ETH" 12 100, flat "BTC" 20 50]

/-- Of the three candles that hold the moment 25 the last one is found, and in the hole there is none. -/
theorem lookUp_holds_uneven :
    let m := CandleMap.storeAll {} uneven
    EndsInOrder (m.sorted "BTC") ∧ lookUp m "BTC" false 25 = some (flat "BTC" 20 50) ∧
      ¬ ∃ c, lookUp m "BTC" false 60 = some c := by
  intro m
  have hsorted : m.sorted "BTC" = [flat "BTC" 0 30, flat "BTC" 10 30, flat "BTC" 20 50] :=
    sorted_storeAll (by unfold uneven Series.Ascending; decide) "BTC"
  have hends : EndsInOrder (m.sorted "BTC") := by
    rw [hsorted]
    unfold EndsInOrder
    decide
  have hcached : ∀ {c}, Cached m "BTC" c ↔ c ∈ m.sorted "BTC" := mem_sorted.symm
  obtain ⟨hlatest, hfound, -⟩ := lookUp_holds m "BTC" 25
  obtain ⟨-, hnone, -⟩ := lookUp_holds m "BTC" 60
  have hlast : Cached m "BTC" (flat "BTC" 20 50) := hcached.2 (by rw [hsorted]; decide)
  refine ⟨hends, ?_, fun hsome => ?_⟩
  · obtain ⟨c, hc⟩ := (hfound hends).2 ⟨_, hlast, by decide, by decide⟩
    obtain ⟨hmem, -, -, hbetween⟩ := hlatest c hc
    have hafter := hbetween _ hlast
    rw [hcached, hsorted] at hmem
    rcases List.mem_cons.1 hmem with rfl | hmem
    · exact absurd ⟨by decide, by decide⟩ hafter
    · rcases List.mem_pair.1 hmem with rfl | rfl
      · exact absurd ⟨by decide, by decide⟩ hafter
      · exact hc
  · obtain ⟨c, hmem, -, hto⟩ := (hnone hends).1 hsome
    rw [hcached, hsorted] at hmem
    revert hto
    revert c
    decide

end Candlestick.Gaps
