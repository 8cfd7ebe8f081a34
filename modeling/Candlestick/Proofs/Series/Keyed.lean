import Candlestick.Series.Order

set_option autoImplicit false

/-! # What a map of candles holds

The view of a `CandleMap` is `get?`. Storing a list of candles overlays the map: under each key the
last candle of the list that starts there wins, and the other keys keep what they held. The values
are exactly the candles under the keys, and where each candle lies under its own start
(`CandleMap.ByStart`) no two of them start at the same time. -/

namespace Candlestick

namespace CandleMap

/-! ## Storing lists -/

@[simp] theorem storeAll_nil (m : CandleMap) : m.storeAll [] = m := rfl

@[simp] theorem storeAll_cons (m : CandleMap) (c : Candle) (cs : List Candle) :
    m.storeAll (c :: cs) = (m.store c).storeAll cs := rfl

/-- After a list has been stored, the last candle of it that starts at a key stands under that key. -/
theorem get?_storeAll (m : CandleMap) (cs : List Candle) (k : Int) :
    (m.storeAll cs).get? k = (cs.reverse.find? (·.start = k)).or (m.get? k) := by
  induction cs generalizing m with
  | nil => simp
  | cons c cs ih =>
    rw [storeAll_cons, ih, List.reverse_cons, List.find?_append, Option.or_assoc, get?_store]
    congr 1
    by_cases h : k = c.start
    · simp [h]
    · have hne : ¬ c.start = k := fun he => h he.symm
      simp [h, hne]

/-- What stands under a key after a list has been stored comes from the list or was there before. -/
theorem get?_storeAll_cases {m : CandleMap} {cs : List Candle} {k : Int} {c : Candle}
    (h : (m.storeAll cs).get? k = some c) : (c ∈ cs ∧ c.start = k) ∨ m.get? k = some c := by
  rw [get?_storeAll, Option.or_eq_some_iff] at h
  rcases h with hfind | ⟨-, hold⟩
  · refine Or.inl ⟨?_, by simpa using List.find?_some hfind⟩
    exact List.mem_reverse.1 (List.mem_of_find?_eq_some hfind)
  · exact Or.inr hold

/-- Storing takes no key away. -/
theorem isSome_get?_storeAll {m : CandleMap} {k : Int} (cs : List Candle)
    (h : (m.get? k).isSome = true) : ((m.storeAll cs).get? k).isSome = true := by
  rw [get?_storeAll, Option.isSome_or, h, Bool.or_true]

/-- Store several lists one after the other. -/
def overlay (m : CandleMap) (lists : List (List Candle)) : CandleMap := lists.foldl storeAll m

@[simp] theorem overlay_nil (m : CandleMap) : m.overlay [] = m := rfl

@[simp] theorem overlay_cons (m : CandleMap) (cs : List Candle) (lists : List (List Candle)) :
    m.overlay (cs :: lists) = (m.storeAll cs).overlay lists := rfl

theorem overlay_append (m : CandleMap) (lists others : List (List Candle)) :
    m.overlay (lists ++ others) = (m.overlay lists).overlay others :=
  List.foldl_append

/-- Laying lists over a map is storing what is in them. -/
theorem get?_overlay (m : CandleMap) (lists : List (List Candle)) (k : Int) :
    (m.overlay lists).get? k = (lists.flatten.reverse.find? (·.start = k)).or (m.get? k) := by
  rw [← get?_storeAll]
  exact congrArg (get? · k) List.foldl_flatten.symm

theorem get?_overlay_cases {m : CandleMap} {lists : List (List Candle)} {k : Int} {c : Candle}
    (h : (m.overlay lists).get? k = some c) :
    (∃ cs ∈ lists, c ∈ cs ∧ c.start = k) ∨ m.get? k = some c := by
  induction lists generalizing m with
  | nil => exact Or.inr h
  | cons cs lists ih =>
    rcases ih h with ⟨cs', hcs', hc⟩ | hc
    · exact Or.inl ⟨cs', List.mem_cons_of_mem _ hcs', hc⟩
    · rcases get?_storeAll_cases hc with hc | hc
      · exact Or.inl ⟨cs, List.mem_cons_self, hc⟩
      · exact Or.inr hc

theorem isSome_get?_overlay {m : CandleMap} {k : Int} (lists : List (List Candle))
    (h : (m.get? k).isSome = true) : ((m.overlay lists).get? k).isSome = true := by
  induction lists generalizing m with
  | nil => exact h
  | cons cs lists ih => exact ih (isSome_get?_storeAll cs h)

/-! ## Values -/

theorem mem_toList_entries {m : CandleMap} {k : Int} {v : Nat × Candle} :
    (k, v) ∈ m.entries.toList ↔ m.entries[k]? = some v :=
  Std.TreeMap.mem_toList_iff_getElem?_eq_some

/-- The values are the candles under the keys. -/
theorem mem_values {m : CandleMap} {c : Candle} : c ∈ m.values ↔ ∃ k, m.get? k = some c := by
  simp only [values, List.mem_map, List.mem_mergeSort]
  constructor
  · rintro ⟨v, ⟨⟨k, v'⟩, hmem, rfl⟩, rfl⟩
    refine ⟨k, ?_⟩
    rw [get?, mem_toList_entries.1 hmem, Option.map_some]
  · rintro ⟨k, hk⟩
    obtain ⟨v, hv, rfl⟩ := Option.map_eq_some_iff.1 hk
    exact ⟨v, ⟨(k, v), mem_toList_entries.2 hv, rfl⟩, rfl⟩

/-- Each candle lies under its own start. -/
def ByStart (m : CandleMap) : Prop := ∀ k c, m.get? k = some c → c.start = k

theorem byStart_empty : ({} : CandleMap).ByStart := by
  intro k c h
  simp at h

theorem ByStart.storeAll {m : CandleMap} (h : m.ByStart) (cs : List Candle) :
    (m.storeAll cs).ByStart := by
  intro k c hc
  rcases get?_storeAll_cases hc with ⟨-, hk⟩ | hold
  · exact hk
  · exact h k c hold

theorem ByStart.mem_values {m : CandleMap} (h : m.ByStart) {c : Candle} :
    c ∈ m.values ↔ m.get? c.start = some c := by
  rw [CandleMap.mem_values]
  constructor
  · rintro ⟨k, hk⟩
    have := h k c hk
    subst this
    exact hk
  · exact fun hc => ⟨_, hc⟩

/-- Where each candle lies under its own start, no two values start at the same time. -/
theorem ByStart.values_pairwise {m : CandleMap} (h : m.ByStart) :
    m.values.Pairwise fun a b => a.start ≠ b.start := by
  have hdistinct : m.entries.toList.Pairwise fun a b => a.2.2.start ≠ b.2.2.start := by
    refine List.Pairwise.imp_of_mem ?_ Std.TreeMap.distinct_keys_toList
    rintro ⟨k, n, c⟩ ⟨k', n', c'⟩ hmem hmem' hne heq
    have hk : c.start = k := h k c (by rw [get?, mem_toList_entries.1 hmem]; rfl)
    have hk' : c'.start = k' := h k' c' (by rw [get?, mem_toList_entries.1 hmem']; rfl)
    exact hne (Std.LawfulEqCmp.compare_eq_iff_eq.2 (hk.symm.trans (heq.trans hk')))
  have harrivals : (m.entries.toList.map (·.2)).Pairwise fun a b => a.2.start ≠ b.2.start :=
    List.pairwise_map.2 hdistinct
  rw [values, List.pairwise_map]
  exact ((List.mergeSort_perm _ _).pairwise_iff fun hab => Ne.symm hab).2 harrivals

end CandleMap

end Candlestick
