import Mathlib.Data.Int.Interval
import Candlestick.Proofs.Network.Dialogue

set_option autoImplicit false

/-! # The cursors of a run

Whatever a world answers, the questions of a paged reading go out at cursors that move strictly on and
stay in the range. So no two of them are the same, and there are no more of them than the range is
long. -/

namespace Candlestick

namespace Pager

/-- The questions went out one after the other at cursors that move onward and stay inside a range. -/
def AskedAt (pager : Pager) (onward : Int → Int → Prop) (inside : Int → Prop) (calls : List Call) :
    Prop :=
  ∃ cursors : List Int, calls = cursors.map pager.call ∧ cursors.Pairwise onward ∧
    ∀ c ∈ cursors, inside c

variable {σ : Type} {world : World σ} {pager : Pager} {onward : Int → Int → Prop}
  {inside later : Int → Prop} {cursor : Int} {calls : List Call}

theorem askedAt_nil : pager.AskedAt onward inside [] :=
  ⟨[], rfl, List.Pairwise.nil, by simp⟩

theorem AskedAt.mono (h : pager.AskedAt onward later calls) (hinside : ∀ c, later c → inside c) :
    pager.AskedAt onward inside calls := by
  obtain ⟨cursors, hcalls, hpairs, hlater⟩ := h
  exact ⟨cursors, hcalls, hpairs, fun c hc => hinside c (hlater c hc)⟩

/-- One question, followed by questions that are all asked further on. -/
theorem AskedAt.cons (h : pager.AskedAt onward later calls) (hcursor : inside cursor)
    (hlater : ∀ c, later c → onward cursor c ∧ inside c) :
    pager.AskedAt onward inside (pager.call cursor :: calls) := by
  obtain ⟨cursors, rfl, hpairs, hinside⟩ := h
  refine ⟨cursor :: cursors, rfl, List.pairwise_cons.2 ⟨fun c hc => ?_, hpairs⟩,
    List.forall_mem_cons.2 ⟨hcursor, fun c hc => ?_⟩⟩
  · exact (hlater c (hinside c hc)).1
  · exact (hlater c (hinside c hc)).2

/-- A question that goes out goes out at its cursor; what follows is asked further on. -/
theorem askedAt_question {α : Type} {next : Json → Dialogue α} (hcursor : inside cursor)
    (hlater : ∀ c, later c → onward cursor c ∧ inside c)
    (hnext : ∀ answer state, pager.AskedAt onward later ((next answer).run world state).calls)
    (state : σ) :
    pager.AskedAt onward inside
      ((Dialogue.check (.ask (pager.call cursor) next)).run world state).calls := by
  rw [Dialogue.run]
  by_cases hwithdrawn : world.withdrawn state = true
  · rw [if_pos hwithdrawn]
    exact askedAt_nil
  rw [if_neg hwithdrawn, Dialogue.run_ask (Bool.eq_false_of_not_eq_true hwithdrawn)]
  cases (world.answer state (pager.call cursor)).1 with
  | error cause => exact AskedAt.cons askedAt_nil hcursor hlater
  | ok answer => exact (hnext answer _).cons hcursor hlater

/-- Forward, the cursors grow from the first one up to the end of the range. -/
theorem askedAt_forward (pager : Pager) (world : World σ) (stop : Int) (state : σ) (cursor : Int) :
    pager.AskedAt (· < ·) (fun c => cursor ≤ c ∧ c < stop)
      ((pager.forward stop cursor).run world state).calls := by
  rw [forward]
  by_cases hcursor : cursor < stop
  swap
  · rw [if_neg hcursor]
    exact askedAt_nil
  rw [if_pos hcursor]
  have hlater : ∀ c, cursor < c ∧ c < stop → cursor < c ∧ cursor ≤ c ∧ c < stop := by
    intro c hc
    omega
  refine askedAt_question ⟨Int.le_refl cursor, hcursor⟩ hlater (fun answer state => ?_) state
  cases pager.read cursor answer with
  | error cause => exact askedAt_nil
  | ok page =>
    simp only [Dialogue.run_notes]
    cases page.next with
    | none => exact askedAt_nil
    | some next =>
      by_cases hgrows : cursor < next
      · simp only [if_pos hgrows, Dialogue.run_map]
        exact (askedAt_forward pager world stop state next).mono fun c hc => by omega
      · simp only [if_neg hgrows]
        exact askedAt_nil
termination_by (stop - cursor).toNat

/-- Backward, they fall from the first one down to the start of the range. -/
theorem askedAt_backward (pager : Pager) (world : World σ) (start : Int) (state : σ) (cursor : Int) :
    pager.AskedAt (fun earlier later => later < earlier) (fun c => start < c ∧ c ≤ cursor)
      ((pager.backward start cursor).run world state).calls := by
  rw [backward]
  by_cases hcursor : start < cursor
  swap
  · rw [if_neg hcursor]
    exact askedAt_nil
  rw [if_pos hcursor]
  have hlater : ∀ c, start < c ∧ c < cursor → c < cursor ∧ start < c ∧ c ≤ cursor := by
    intro c hc
    omega
  refine askedAt_question ⟨hcursor, Int.le_refl cursor⟩ hlater (fun answer state => ?_) state
  cases pager.read cursor answer with
  | error cause => exact askedAt_nil
  | ok page =>
    simp only [Dialogue.run_notes]
    cases page.next with
    | none => exact askedAt_nil
    | some next =>
      by_cases hfalls : next < cursor
      · simp only [if_pos hfalls, Dialogue.run_map]
        exact (askedAt_backward pager world start state next).mono fun c hc => by omega
      · simp only [if_neg hfalls]
        exact askedAt_nil
termination_by (cursor - start).toNat

end Pager

/-- Different cursors of a range are at most as many as the range is long. -/
theorem length_le_of_nodup {start stop : Int} {cursors : List Int} {inside : Finset Int}
    (hnodup : cursors.Nodup) (hinside : ∀ c ∈ cursors, c ∈ inside)
    (hcard : inside.card = (stop - start).toNat) : cursors.length ≤ (stop - start).toNat := by
  rw [← List.toFinset_card_of_nodup hnodup, ← hcard]
  exact Finset.card_le_card fun c hc => hinside c (List.mem_toFinset.1 hc)

end Candlestick
