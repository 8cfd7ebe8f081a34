import Mathlib.Data.List.TakeWhile
import Candlestick.Market.Symbol
import Candlestick.Proofs.Text.Upper

set_option autoImplicit false

/-! # Legs are normal

A leg is a text without blanks at its ends and in upper case. The two steps do not undo each other, so a
leg is its own leg: to normalise an asset once more changes nothing. -/

namespace Candlestick

namespace Text

/-! ## Trimming -/

/-- No character of a class stands at either end. -/
structure Trimmed (blank : Char → Bool) (cs : List Char) : Prop where
  head : ∀ c ∈ cs.head?, blank c = false
  last : ∀ c ∈ cs.getLast?, blank c = false

theorem dropWhile_of_head {blank : Char → Bool} {cs : List Char}
    (h : ∀ c ∈ cs.head?, blank c = false) : cs.dropWhile blank = cs := by
  cases cs with
  | nil => rfl
  | cons c rest => rw [List.dropWhile_cons_of_neg (by simp [h c rfl])]

theorem trimBy_of_trimmed {blank : Char → Bool} {cs : List Char} (h : Trimmed blank cs) :
    trimBy blank cs = cs := by
  have hlast : ∀ c ∈ cs.reverse.head?, blank c = false := by
    rw [List.head?_reverse]
    exact h.last
  rw [trimBy, dropWhile_of_head h.head, dropWhile_of_head hlast, List.reverse_reverse]

/-- What is blank around a text is trimmed off before anything of the text itself. -/
theorem trimBy_append {blank : Char → Bool} {before cs after : List Char}
    (hbefore : ∀ c ∈ before, blank c = true) (hafter : ∀ c ∈ after, blank c = true) :
    trimBy blank (before ++ cs ++ after) = trimBy blank cs := by
  rw [trimBy, trimBy, List.append_assoc, List.dropWhile_append_of_pos hbefore, List.dropWhile_append]
  split
  · -- The text is blank as well.
    rename_i hempty
    rw [List.isEmpty_iff.1 hempty, List.dropWhile_eq_nil_iff.2 hafter]
  · have hlast : ∀ c ∈ after.reverse, blank c = true := fun c hc => hafter c (List.mem_reverse.1 hc)
    rw [List.reverse_append, List.dropWhile_append_of_pos hlast]

theorem head_dropWhile (blank : Char → Bool) (cs : List Char) :
    ∀ c ∈ (cs.dropWhile blank).head?, blank c = false := by
  induction cs with
  | nil => simp
  | cons c rest ih =>
    by_cases hc : blank c = true
    · rwa [List.dropWhile_cons_of_pos hc]
    · rw [List.dropWhile_cons_of_neg hc]
      simpa using hc

theorem trimmed_trimBy (blank : Char → Bool) (cs : List Char) : Trimmed blank (trimBy blank cs) where
  head := by
    -- The first character that is left was the first one before the end was trimmed.
    intro c hc
    rw [trimBy, List.head?_reverse] at hc
    obtain ⟨before, hbefore⟩ := List.dropWhile_suffix blank (l := (cs.dropWhile blank).reverse)
    refine head_dropWhile blank cs c ?_
    rw [← List.getLast?_reverse, ← hbefore, List.getLast?_append, Option.mem_def.1 hc]
    rfl
  last := by
    rw [trimBy, List.getLast?_reverse]
    exact head_dropWhile blank _

theorem trimmed_append {blank : Char → Bool} {cs ds : List Char} (hcs : Trimmed blank cs)
    (hds : Trimmed blank ds) : Trimmed blank (cs ++ ds) where
  head := by
    intro c hc
    rw [List.head?_append, Option.mem_def, Option.or_eq_some_iff] at hc
    exact hc.elim (hcs.head c) fun h => hds.head c h.2
  last := by
    intro c hc
    rw [List.getLast?_append, Option.mem_def, Option.or_eq_some_iff] at hc
    exact hc.elim (hds.last c) fun h => hcs.last c h.2

/-- Behind a text that is trimmed, only the end of another one is trimmed off: the blanks that it begins
    with stay where they are. -/
theorem trimBy_append_of_trimmed {blank : Char → Bool} {cs ds : List Char} (hcs : Trimmed blank cs)
    (hne : cs ≠ []) (hds : trimBy blank ds ≠ []) :
    trimBy blank (cs ++ ds) = cs ++ ds.takeWhile blank ++ trimBy blank ds := by
  have hhead : ∀ c ∈ (cs ++ ds).head?, blank c = false := by
    intro c hc
    rw [List.head?_append, List.head?_eq_some_head hne, Option.some_or] at hc
    exact hcs.head c ((List.head?_eq_some_head hne).trans hc)
  have hsplit : (cs ++ ds).reverse = (ds.dropWhile blank).reverse ++ (cs ++ ds.takeWhile blank).reverse := by
    rw [← List.reverse_append, List.append_assoc, List.takeWhile_append_dropWhile]
  have hrest : ((ds.dropWhile blank).reverse.dropWhile blank).isEmpty = false := by
    rw [List.isEmpty_eq_false_iff]
    exact fun h => hds (by rw [trimBy, h, List.reverse_nil])
  rw [trimBy, dropWhile_of_head hhead, hsplit, List.dropWhile_append, hrest, if_neg Bool.false_ne_true,
    List.reverse_append, List.reverse_reverse, trimBy]

theorem mem_of_mem_trimBy {blank : Char → Bool} {cs : List Char} {c : Char} (h : c ∈ trimBy blank cs) :
    c ∈ cs := by
  rw [trimBy, List.mem_reverse] at h
  exact (List.dropWhile_sublist blank).mem (List.mem_reverse.1 ((List.dropWhile_sublist blank).mem h))

theorem trimmed_map {blank : Char → Bool} {f : Char → Char} {cs : List Char}
    (hf : ∀ c ∈ cs, blank (f c) = blank c) (h : Trimmed blank cs) : Trimmed blank (cs.map f) where
  head := by
    intro d hd
    rw [List.head?_map] at hd
    obtain ⟨c, hc, rfl⟩ := Option.map_eq_some_iff.1 hd
    rw [hf c (List.mem_of_mem_head? hc), h.head c hc]
  last := by
    intro d hd
    rw [List.getLast?_map] at hd
    obtain ⟨c, hc, rfl⟩ := Option.map_eq_some_iff.1 hd
    rw [hf c (List.mem_of_mem_getLast? hc), h.last c hc]

/-- The blanks that a text begins with. -/
def lead (s : String) : String := String.ofList (s.toList.takeWhile isBlank)

/-! ## Upper case of a trimmed text -/

theorem trimmed_flatMap_upperChar {cs : List Char} (h : Trimmed isBlank cs) :
    Trimmed isBlank (cs.flatMap upperChar) where
  head := by
    cases cs with
    | nil => simp
    | cons c rest =>
      obtain ⟨hne, hupper⟩ := upperChar_spec c
      intro d hd
      rw [List.flatMap_cons, List.head?_append, List.head?_eq_some_head hne] at hd
      obtain rfl := Option.some.inj hd
      exact (hupper _ (List.head_mem hne)).2 (h.head c rfl)
  last := by
    rcases List.eq_nil_or_concat cs with rfl | ⟨before, c, rfl⟩
    · simp
    · obtain ⟨hne, hupper⟩ := upperChar_spec c
      intro d hd
      rw [List.concat_eq_append, List.flatMap_append, List.flatMap_singleton, List.getLast?_append,
        List.getLast?_eq_some_getLast hne] at hd
      obtain rfl := Option.some.inj hd
      exact (hupper _ (List.getLast_mem hne)).2 (h.last c (by simp))

end Text

namespace Symbol

open Text

theorem toList_leg (s : String) : (leg s).toList = (trimBy isBlank s.toList).flatMap upperChar := by
  rw [leg, upper, String.toList_ofList, strip, String.toList_ofList]

/-- A text without blanks at its ends and in upper case. -/
structure IsLeg (s : String) : Prop where
  trimmed : Trimmed isBlank s.toList
  upper : ∀ c ∈ s.toList, upperChar c = [c]

theorem isLeg_leg (s : String) : IsLeg (leg s) where
  trimmed := by
    rw [toList_leg]
    exact trimmed_flatMap_upperChar (trimmed_trimBy isBlank _)
  upper := by
    intro d hd
    rw [toList_leg] at hd
    exact upperChar_of_mem hd

theorem leg_of_isLeg {s : String} (h : IsLeg s) : leg s = s := by
  refine String.toList_injective ?_
  rw [toList_leg, trimBy_of_trimmed h.trimmed, flatMap_upperChar h.upper]

/-- A leg has no blanks at its ends, -/
theorem strip_leg (s : String) : strip (leg s) = leg s := by
  rw [strip, trimBy_of_trimmed (isLeg_leg s).trimmed, String.ofList_toList]

/-- is in upper case, -/
theorem upper_leg (s : String) : upper (leg s) = leg s := by
  rw [leg, upper_upper]

/-- and is its own leg. -/
theorem leg_leg (s : String) : leg (leg s) = leg s :=
  leg_of_isLeg (isLeg_leg s)

/-- The leg of a text that is not blank is not empty. -/
theorem leg_ne_empty {s : String} (hs : strip s ≠ "") : leg s ≠ "" := by
  intro hleg
  have hlist := congrArg String.toList hleg
  rw [toList_leg, String.toList_empty, List.flatMap_eq_nil_iff] at hlist
  have hnil : trimBy isBlank s.toList = [] :=
    List.eq_nil_iff_forall_not_mem.2 fun c hc => (upperChar_spec c).1 (hlist c hc)
  exact hs (by rw [strip, hnil, String.ofList_nil])

end Symbol

end Candlestick
