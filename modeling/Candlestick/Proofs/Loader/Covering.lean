import Candlestick.Proofs.Loader.Gaps
import Candlestick.Proofs.Series.Order

set_option autoImplicit false

/-! # Looking a bucket up by the candle that holds its start

Candles that stand off the grid are found by a moment: the latest that starts by then, unless it has
ended. Where candles end in the order in which they start, this finds one whenever one is there. -/

namespace Candlestick.Gaps

theorem mem_sorted {m : CandleMap} {asset : String} {c : Candle} :
    c ∈ m.sorted asset ↔ (∃ k, m.get? k = some c) ∧ c.asset = asset := by
  rw [CandleMap.sorted, Series.mem_sort, List.mem_filter, CandleMap.mem_values, decide_eq_true_eq]

theorem covering_spec {cs : List Candle} {t : Int} {c : Candle} (h : covering cs t = some c) :
    c ∈ cs ∧ c.start ≤ t ∧ t < c.stop := by
  obtain ⟨hfind, hto⟩ := Option.filter_eq_some_iff.1 h
  exact ⟨List.mem_of_find?_eq_some hfind, by simpa using List.find?_some hfind, of_decide_eq_true hto⟩

/-- What is searched for from the end of an ordered list: whatever else it could have been stands in order
    before it. -/
theorem rel_of_find?_reverse {R : Candle → Candle → Prop} {cs : List Candle} (h : cs.Pairwise R)
    {p : Candle → Bool} {c d : Candle} (hd : cs.reverse.find? p = some d) (hc : c ∈ cs)
    (hp : p c = true) : c = d ∨ R c d := by
  obtain ⟨-, later, earlier, hsplit, hlater⟩ := List.find?_eq_some_iff_append.1 hd
  have hmem : c ∈ later ++ d :: earlier := hsplit ▸ List.mem_reverse.2 hc
  rw [← List.pairwise_reverse, hsplit] at h
  rcases List.mem_append.1 hmem with hmem | hmem
  · exact absurd hp (by simpa using hlater c hmem)
  · rcases List.mem_cons.1 hmem with rfl | hmem
    · exact Or.inl rfl
    · exact Or.inr (List.rel_of_pairwise_cons (List.pairwise_append.1 h).2.1 hmem)

theorem exists_covering {cs : List Candle} (hends : cs.Pairwise fun c d => c.stop ≤ d.stop) {t : Int}
    {c : Candle} (hc : c ∈ cs) (hfrom : c.start ≤ t) (hto : t < c.stop) :
    ∃ d, covering cs.reverse t = some d := by
  cases hfind : cs.reverse.find? (·.start ≤ t) with
  | none => exact absurd (List.find?_eq_none.1 hfind c (List.mem_reverse.2 hc)) (by simpa using hfrom)
  | some d =>
    refine ⟨d, Option.filter_eq_some_iff.2 ⟨hfind, decide_eq_true ?_⟩⟩
    rcases rel_of_find?_reverse hends hfind hc (decide_eq_true hfrom) with rfl | hle
    · exact hto
    · omega

/-- A bucket whose start a candle of the asset holds counts as cached. -/
theorem hit_of_held {m : CandleMap} {asset : String}
    (hends : ∀ c ∈ m.sorted asset, ∀ d ∈ m.sorted asset, c.start ≤ d.start → c.stop ≤ d.stop) {t : Int}
    {c : Candle} (hc : c ∈ m.sorted asset) (hfrom : c.start ≤ t) (hto : t < c.stop) :
    Hit (lookUp m asset false) asset t := by
  have hpairwise : (m.sorted asset).Pairwise fun c d => c.stop ≤ d.stop :=
    (Series.sort_pairwise _).imp_of_mem fun {c d} hc hd hle => hends c hc d hd hle
  obtain ⟨d, hd⟩ := exists_covering hpairwise hc hfrom hto
  exact ⟨d, hd, (mem_sorted.1 (List.mem_reverse.1 (covering_spec hd).1)).2⟩

/-- A bucket also counts as cached if a candle of the asset holds its start and no other starts between
    the two. -/
theorem hit_of_latest {m : CandleMap} {asset : String} {t : Int} {c : Candle}
    (hc : c ∈ m.sorted asset) (hfrom : c.start ≤ t) (hto : t < c.stop)
    (hlast : ∀ d ∈ m.sorted asset, c.start ≤ d.start → d.start ≤ t → d = c) :
    Hit (lookUp m asset false) asset t := by
  cases hfind : (m.sorted asset).reverse.find? (·.start ≤ t) with
  | none => exact absurd (List.find?_eq_none.1 hfind c (List.mem_reverse.2 hc)) (by simpa using hfrom)
  | some d =>
    have hd := List.mem_reverse.1 (List.mem_of_find?_eq_some hfind)
    have hdt : d.start ≤ t := by simpa using List.find?_some hfind
    obtain rfl : c = d := by
      rcases rel_of_find?_reverse (Series.sort_pairwise _) hfind hc (decide_eq_true hfrom) with rfl | hle
      · rfl
      · exact (hlast d hd hle hdt).symm
    exact ⟨c, Option.filter_eq_some_iff.2 ⟨hfind, decide_eq_true hto⟩, (mem_sorted.1 hc).2⟩

/-- A bucket that counts as cached is held by a candle of the asset. -/
theorem held_of_hit {m : CandleMap} {asset : String} {t : Int}
    (h : Hit (lookUp m asset false) asset t) : ∃ c ∈ m.sorted asset, c.start ≤ t ∧ t < c.stop := by
  obtain ⟨c, hc, -⟩ := h
  obtain ⟨hmem, hheld⟩ := covering_spec hc
  exact ⟨c, List.mem_reverse.1 hmem, hheld⟩

/-- In an empty map no bucket counts as cached. -/
theorem not_hit_empty {asset : String} {exact : Bool} {t : Int} :
    ¬ Hit (lookUp {} asset exact) asset t := by
  intro hhit
  cases exact with
  | true =>
    obtain ⟨c, hc, -⟩ := hhit
    exact absurd hc (by simp [lookUp])
  | false =>
    obtain ⟨c, hc, -⟩ := held_of_hit hhit
    obtain ⟨⟨k, hk⟩, -⟩ := mem_sorted.1 hc
    exact absurd hk (by simp)

end Candlestick.Gaps
