import Mathlib.Data.Finset.Sort

set_option autoImplicit false

/-! # What a page of bounded length shows

An endpoint that has more to show than fits on a page shows the newest times (`newest`) or the oldest
(`oldest`). What a page leaves out then lies beyond everything that it shows, and the page is full. -/

namespace Candlestick

/-- The newest times of a set, at most `cap` of them. -/
def newest (cap : Nat) (ks : Finset Int) : List Int := (ks.sort (· ≥ ·)).take cap

/-- The oldest times of a set, at most `cap` of them. -/
def oldest (cap : Nat) (ks : Finset Int) : List Int := (ks.sort (· ≥ ·)).reverse.take cap

/-- Of an ordered list the first `n` are followed by what is left out. -/
theorem length_take_of_left_out {R : Int → Int → Prop} {l : List Int} {n : Nat} {k : Int}
    (hl : l.Pairwise R) (hk : k ∈ l) (hout : k ∉ l.take n) :
    (l.take n).length = n ∧ ∀ s ∈ l.take n, R s k := by
  have hdrop : k ∈ l.drop n := by
    rw [← List.take_append_drop n l] at hk
    exact (List.mem_append.1 hk).resolve_left hout
  constructor
  · have hpos := List.length_pos_of_mem hdrop
    rw [List.length_drop] at hpos
    rw [List.length_take]
    omega
  · intro s hs
    rw [← List.take_append_drop n l] at hl
    exact (List.pairwise_append.1 hl).2.2 s hs k hdrop

variable {cap : Nat} {ks : Finset Int} {k : Int}

theorem mem_of_mem_newest (h : k ∈ newest cap ks) : k ∈ ks :=
  (Finset.mem_sort _).1 (List.mem_of_mem_take h)

theorem nodup_newest (cap : Nat) (ks : Finset Int) : (newest cap ks).Nodup :=
  (Finset.sort_nodup ks _).sublist (List.take_sublist cap _)

theorem newest_of_left_out (hk : k ∈ ks) (hout : k ∉ newest cap ks) :
    (newest cap ks).length = cap ∧ ∀ s ∈ newest cap ks, k < s :=
  length_take_of_left_out ks.sortedGT_sort.pairwise ((Finset.mem_sort _).2 hk) hout

/-- A time is one of the newest if no more than so many stand from it on. -/
theorem mem_newest : k ∈ newest cap ks ↔ k ∈ ks ∧ (ks.filter (k ≤ ·)).card ≤ cap := by
  constructor
  · intro hk
    refine ⟨mem_of_mem_newest hk, ?_⟩
    have hsub : ks.filter (k ≤ ·) ⊆ (newest cap ks).toFinset := by
      intro s hs
      obtain ⟨hmem, hle⟩ := Finset.mem_filter.1 hs
      by_contra hout
      have hlt := (newest_of_left_out hmem fun hin => hout (List.mem_toFinset.2 hin)).2 k hk
      omega
    calc (ks.filter (k ≤ ·)).card ≤ (newest cap ks).toFinset.card := Finset.card_le_card hsub
      _ ≤ (newest cap ks).length := List.toFinset_card_le _
      _ ≤ cap := List.length_take_le cap _
  · rintro ⟨hk, hcard⟩
    by_contra hout
    obtain ⟨hlength, hbefore⟩ := newest_of_left_out hk hout
    have hsub : insert k (newest cap ks).toFinset ⊆ ks.filter (k ≤ ·) := by
      refine Finset.insert_subset (Finset.mem_filter.2 ⟨hk, Int.le_refl k⟩) fun s hs => ?_
      have hs := List.mem_toFinset.1 hs
      exact Finset.mem_filter.2 ⟨mem_of_mem_newest hs, Int.le_of_lt (hbefore s hs)⟩
    have hle := Finset.card_le_card hsub
    rw [Finset.card_insert_of_notMem (by simpa using hout),
      List.toFinset_card_of_nodup (nodup_newest cap ks), hlength] at hle
    omega

theorem mem_of_mem_oldest (h : k ∈ oldest cap ks) : k ∈ ks :=
  (Finset.mem_sort _).1 (List.mem_reverse.1 (List.mem_of_mem_take h))

theorem pairwise_oldest (cap : Nat) (ks : Finset Int) : (oldest cap ks).Pairwise (· < ·) :=
  (List.pairwise_reverse.2 ks.sortedGT_sort.pairwise).sublist (List.take_sublist cap _)

theorem oldest_of_left_out (hk : k ∈ ks) (hout : k ∉ oldest cap ks) :
    (oldest cap ks).length = cap ∧ ∀ s ∈ oldest cap ks, s < k :=
  length_take_of_left_out (List.pairwise_reverse.2 ks.sortedGT_sort.pairwise)
    (List.mem_reverse.2 ((Finset.mem_sort _).2 hk)) hout

/-! ## The earliest of a page -/

/-- The earliest of some times that come at a cursor; the cursor where there are none. -/
def earliest (cursor : Int) (ks : List Int) : Int := ks.foldl min cursor

theorem le_earliest_iff {cursor m : Int} {ks : List Int} :
    m ≤ earliest cursor ks ↔ m ≤ cursor ∧ ∀ k ∈ ks, m ≤ k := by
  unfold earliest
  induction ks generalizing cursor with
  | nil => simp
  | cons k ks ih =>
    rw [List.foldl_cons, ih, List.forall_mem_cons, le_min_iff, and_assoc]

theorem earliest_le {cursor k : Int} {ks : List Int} (h : k ∈ ks) : earliest cursor ks ≤ k :=
  (le_earliest_iff.1 (Int.le_refl (earliest cursor ks))).2 k h

end Candlestick
