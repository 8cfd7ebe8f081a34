import Mathlib.Data.List.Forall2
import Candlestick.Network.Paging
import Candlestick.Proofs.Network.Dialogue

set_option autoImplicit false

/-! # Two runs side by side

A dialogue may treat two answers alike that are not equal. If two worlds give answers that differ in no
other way, its runs in them ask the same questions, make the same remarks, and come to results that are
alike or to the same failure. -/

namespace Candlestick

variable {α β γ δ σ τ : Type}

/-- Two computations fail for the same cause, or they give results of which `R` holds. -/
inductive Agree (R : α → β → Prop) : Except Failure α → Except Failure β → Prop where
  | ok {x : α} {y : β} (h : R x y) : Agree R (.ok x) (.ok y)
  | error (cause : Failure) : Agree R (.error cause) (.error cause)

namespace Agree

variable {R : α → β → Prop} {S : γ → δ → Prop} {x : Except Failure α} {y : Except Failure β}

theorem refl {R : α → α → Prop} (hrefl : ∀ x, R x x) (x : Except Failure α) : Agree R x x := by
  cases x with
  | ok x => exact .ok (hrefl x)
  | error cause => exact .error cause

theorem mono {R' : α → β → Prop} (h : Agree R x y) (himp : ∀ a b, R a b → R' a b) : Agree R' x y := by
  cases h with
  | ok h => exact .ok (himp _ _ h)
  | error cause => exact .error cause

theorem error_or_ok (h : Agree R x y) :
    (∃ cause, x = .error cause ∧ y = .error cause) ∨ ∃ a b, x = .ok a ∧ y = .ok b ∧ R a b := by
  cases h with
  | ok h => exact Or.inr ⟨_, _, rfl, rfl, h⟩
  | error cause => exact Or.inl ⟨cause, rfl, rfl⟩

theorem bind {f : α → Except Failure γ} {g : β → Except Failure δ} (h : Agree R x y)
    (hfg : ∀ a b, x = .ok a → R a b → Agree S (f a) (g b)) : Agree S (x >>= f) (y >>= g) := by
  cases h with
  | ok h => exact hfg _ _ rfl h
  | error cause => exact .error cause

end Agree

/-! ## Dialogues -/

namespace Dialogue

/-- Two dialogues ask the same questions and make the same remarks, and after answers that are alike
    they come to results of which `R` holds. -/
inductive Parallel (alike : Json → Json → Prop) (R : α → β → Prop) : Dialogue α → Dialogue β → Prop where
  | done {x : α} {y : β} (h : R x y) : Parallel alike R (done x) (done y)
  | fail (cause : Failure) : Parallel alike R (fail cause) (fail cause)
  | check {d : Dialogue α} {e : Dialogue β} (h : Parallel alike R d e) :
    Parallel alike R (check d) (check e)
  | note (remark : Note) {d : Dialogue α} {e : Dialogue β} (h : Parallel alike R d e) :
    Parallel alike R (note remark d) (note remark e)
  | ask (call : Call) {next : Json → Dialogue α} {other : Json → Dialogue β}
    (h : ∀ a b, alike a b → Parallel alike R (next a) (other b)) :
    Parallel alike R (ask call next) (ask call other)

namespace Parallel

variable {alike : Json → Json → Prop} {R : α → β → Prop} {d : Dialogue α} {e : Dialogue β}

theorem notes (remarks : List Note) (h : Parallel alike R d e) :
    Parallel alike R (Dialogue.notes remarks d) (Dialogue.notes remarks e) := by
  induction remarks with
  | nil => exact h
  | cons remark rest ih => exact .note remark ih

theorem map {S : γ → δ → Prop} {f : α → γ} {g : β → δ} (h : Parallel alike R d e)
    (hfg : ∀ x y, R x y → S (f x) (g y)) : Parallel alike S (d.map f) (e.map g) := by
  induction h with
  | done h => exact .done (hfg _ _ h)
  | fail cause => exact .fail cause
  | check _ ih => exact .check ih
  | note remark _ ih => exact .note remark ih
  | ask call _ ih => exact .ask call ih

end Parallel

end Dialogue

/-! ## Runs -/

/-- As long as two states belong together, the request stands withdrawn in both or in neither, and the
    answers are alike. -/
structure World.Lockstep (alike : Json → Json → Prop) (beside : σ → τ → Prop) (world : World σ)
    (other : World τ) : Prop where
  withdrawn : ∀ s t, beside s t → world.withdrawn s = other.withdrawn t
  answer : ∀ s t, beside s t → ∀ call, Agree alike (world.answer s call).1 (other.answer t call).1
  next : ∀ s t, beside s t → ∀ call, beside (world.answer s call).2 (other.answer t call).2

/-- Two runs with the same calls and remarks, and outcomes that agree. -/
structure Run.Parallel (R : α → β → Prop) (run : Run σ α) (other : Run τ β) : Prop where
  outcome : Agree R run.outcome other.outcome
  calls : run.calls = other.calls
  notes : run.notes = other.notes

theorem Dialogue.Parallel.run {alike : Json → Json → Prop} {R : α → β → Prop} {d : Dialogue α}
    {e : Dialogue β} (h : d.Parallel alike R e) {beside : σ → τ → Prop} {world : World σ}
    {other : World τ} (hworlds : world.Lockstep alike beside other) {s : σ} {t : τ} (hst : beside s t) :
    (d.run world s).Parallel R (e.run other t) := by
  induction h generalizing s t with
  | done h => exact ⟨.ok h, rfl, rfl⟩
  | fail cause => exact ⟨.error cause, rfl, rfl⟩
  | check _ ih =>
    have hwithdrawn := hworlds.withdrawn s t hst
    simp only [Dialogue.run, hwithdrawn]
    split
    · exact ⟨.error _, rfl, rfl⟩
    · exact ih hst
  | note remark _ ih =>
    obtain ⟨houtcome, hcalls, hnotes⟩ := ih hst
    exact ⟨houtcome, hcalls, congrArg (remark :: ·) hnotes⟩
  | ask call _ ih =>
    by_cases hwithdrawn : other.withdrawn t = true
    · simp only [Dialogue.run, hworlds.withdrawn s t hst, hwithdrawn, if_true]
      exact ⟨.error _, rfl, rfl⟩
    · have hgoing := Bool.eq_false_iff.2 hwithdrawn
      rw [run_ask ((hworlds.withdrawn s t hst).trans hgoing), run_ask hgoing]
      have hnext := hworlds.next s t hst call
      rcases (hworlds.answer s t hst call).error_or_ok with ⟨cause, ha, hb⟩ | ⟨a, b, ha, hb, halike⟩
      · rw [ha, hb]
        exact ⟨.error cause, rfl, rfl⟩
      · rw [ha, hb]
        obtain ⟨houtcome, hcalls, hnotes⟩ := ih a b halike hnext
        exact ⟨houtcome, congrArg (call :: ·) hcalls, hnotes⟩

/-! ## Pages -/

/-- The same candles, of which `P` holds, in an order of their own. -/
structure Rearranged (P : Candle → Prop) (cs ds : List Candle) : Prop where
  perm : cs.Perm ds
  owned : ∀ c ∈ cs, P c

/-- Two pages with the same candles that lead on in the same way. -/
structure Page.Rearranged (P : Candle → Prop) (page other : Page) : Prop where
  candles : Candlestick.Rearranged P page.candles other.candles
  notes : page.notes = other.notes
  next : page.next = other.next

variable {P : Candle → Prop}

theorem Rearranged.nil : Rearranged P [] [] :=
  ⟨.nil, fun _ hc => absurd hc List.not_mem_nil⟩

theorem Rearranged.append {cs ds cs' ds' : List Candle} (h : Rearranged P cs ds)
    (h' : Rearranged P cs' ds') : Rearranged P (cs ++ cs') (ds ++ ds') where
  perm := h.perm.append h'.perm
  owned c hc := (List.mem_append.1 hc).elim (h.owned c) (h'.owned c)

theorem Rearranged.mono {Q : Candle → Prop} {cs ds : List Candle} (h : Rearranged P cs ds)
    (himp : ∀ c, P c → Q c) : Rearranged Q cs ds where
  perm := h.perm
  owned c hc := himp c (h.owned c hc)

theorem Page.Rearranged.mono {Q : Candle → Prop} {page other : Page} (h : Page.Rearranged P page other)
    (himp : ∀ c, P c → Q c) : Page.Rearranged Q page other where
  candles := h.candles.mono himp
  notes := h.notes
  next := h.next

theorem Page.Rearranged.last : Page.Rearranged P .last .last := ⟨.nil, rfl, rfl⟩

namespace Pager

variable {pager : Pager} {alike : Json → Json → Prop}

/-- If the pages of answers that are alike hold the same candles and lead on in the same way, the whole
    reading does. -/
theorem parallel_forward
    (h : ∀ cursor a b, alike a b →
      Agree (Page.Rearranged P) (pager.read cursor a) (pager.read cursor b)) (stop cursor : Int) :
    (pager.forward stop cursor).Parallel alike (Rearranged P) (pager.forward stop cursor) := by
  rw [forward]
  by_cases hrange : cursor < stop
  · rw [if_pos hrange]
    refine .check (.ask _ fun a b halike => ?_)
    rcases (h cursor a b halike).error_or_ok with ⟨cause, ha, hb⟩ | ⟨page, other, ha, hb, hpage⟩
    · rw [ha, hb]
      exact .fail cause
    · rw [ha, hb]
      simp only [hpage.notes, hpage.next]
      refine .notes _ ?_
      split
      · exact .done hpage.candles
      · split
        · exact (parallel_forward h stop _).map fun _ _ hrest => hpage.candles.append hrest
        · exact .done hpage.candles
  · rw [if_neg hrange]
    exact .done .nil
termination_by (stop - cursor).toNat

theorem parallel_backward
    (h : ∀ cursor a b, alike a b →
      Agree (Page.Rearranged P) (pager.read cursor a) (pager.read cursor b)) (start cursor : Int) :
    (pager.backward start cursor).Parallel alike (Rearranged P) (pager.backward start cursor) := by
  rw [backward]
  by_cases hrange : start < cursor
  · rw [if_pos hrange]
    refine .check (.ask _ fun a b halike => ?_)
    rcases (h cursor a b halike).error_or_ok with ⟨cause, ha, hb⟩ | ⟨page, other, ha, hb, hpage⟩
    · rw [ha, hb]
      exact .fail cause
    · rw [ha, hb]
      simp only [hpage.notes, hpage.next]
      refine .notes _ ?_
      split
      · exact .done hpage.candles
      · split
        · exact (parallel_backward h start _).map fun _ _ hrest => hpage.candles.append hrest
        · exact .done hpage.candles
  · rw [if_neg hrange]
    exact .done .nil
termination_by (cursor - start).toNat

end Pager

/-! ## Scripts -/

/-- The replies that are left. -/
abbrev Script := List (Except Failure Json)

/-- The world that gives the replies of a script one after the other. The request may be withdrawn when
    some number of them is left; a call after the last one fails. -/
def Script.world (withdrawn : Nat → Bool) (spent : Call → Failure) : World Script where
  withdrawn script := withdrawn script.length
  answer script call :=
    match script with
    | [] => (.error (spent call), [])
    | reply :: rest => (reply, rest)

theorem Script.lockstep (withdrawn : Nat → Bool) (spent : Call → Failure)
    (alike : Json → Json → Prop) :
    (world withdrawn spent).Lockstep alike (List.Forall₂ (Agree alike)) (world withdrawn spent) where
  withdrawn _ _ h := congrArg withdrawn h.length_eq
  answer _ _ h call := by
    cases h with
    | nil => exact .error _
    | cons hreply _ => exact hreply
  next _ _ h call := by
    cases h with
    | nil => exact .nil
    | cons _ hrest => exact hrest

/-- An answer of a script is one of its replies. -/
theorem Script.alike_mem {alike : Json → Json → Prop} {script other : Script}
    (h : List.Forall₂ (Agree alike) script other) :
    List.Forall₂ (Agree fun a b => alike a b ∧ .ok a ∈ script) script other := by
  induction h with
  | nil => exact .nil
  | cons hreply _ ih =>
    refine .cons ?_ (ih.imp fun _ _ hrest => hrest.mono fun _ _ ⟨halike, hmem⟩ =>
      ⟨halike, List.mem_cons_of_mem _ hmem⟩)
    cases hreply with
    | ok halike => exact .ok ⟨halike, List.mem_cons_self⟩
    | error cause => exact .error cause

end Candlestick
