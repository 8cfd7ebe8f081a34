import Candlestick.Network.Paging
import Candlestick.Proofs.Network.Dialogue

set_option autoImplicit false

/-! # Dialogues that come to a result

A dialogue may fail for an answer that it cannot read. If it does not fail for any answer of a kind, a run
that gets only such answers comes to a result. -/

namespace Candlestick

/-- Whatever the answers, if they are good ones the dialogue ends with a result. -/
def Dialogue.Answerable {α : Type} (good : Json → Prop) : Dialogue α → Prop
  | .done _ => True
  | .fail _ => False
  | .check next => next.Answerable good
  | .note _ next => next.Answerable good
  | .ask _ next => ∀ answer, good answer → (next answer).Answerable good

namespace Dialogue

variable {α β : Type} {good : Json → Prop}

theorem answerable_check {next : Dialogue α} :
    (check next).Answerable good ↔ next.Answerable good := Iff.rfl

theorem answerable_ask {call : Call} {next : Json → Dialogue α} :
    (ask call next).Answerable good ↔ ∀ answer, good answer → (next answer).Answerable good := Iff.rfl

theorem answerable_map {f : α → β} {d : Dialogue α} (h : d.Answerable good) :
    (d.map f).Answerable good := by
  induction d with
  | done x => trivial
  | fail cause => exact h
  | check next ih => exact ih h
  | note remark next ih => exact ih h
  | ask call next ih => exact fun answer hgood => ih answer (h answer hgood)

theorem answerable_notes {remarks : List Note} {d : Dialogue α} (h : d.Answerable good) :
    (notes remarks d).Answerable good := by
  induction remarks with
  | nil => exact h
  | cons remark rest ih => exact ih

theorem answerable_request {call : Call} {read : Json → Except Failure α}
    (h : ∀ answer, good answer → ∃ x, read answer = .ok x) : (request call read).Answerable good := by
  rw [request, answerable_check, answerable_ask]
  intro answer hgood
  obtain ⟨x, hx⟩ := h answer hgood
  rw [hx]
  trivial

/-- A run that gets nothing but such answers comes to a result. -/
theorem Answerable.run {d : Dialogue α} (h : d.Answerable good) {σ : Type} {world : World σ}
    (hpatient : ∀ state, world.withdrawn state = false)
    (hgood : ∀ state call, ∃ answer, good answer ∧ (world.answer state call).1 = .ok answer) (state : σ) :
    ∃ x, (d.run world state).outcome = .ok x := by
  induction d generalizing state with
  | done x => exact ⟨x, rfl⟩
  | fail cause => exact h.elim
  | check next ih =>
    rw [run_check (hpatient state)]
    exact ih h state
  | note remark next ih => exact ih h state
  | ask call next ih =>
    obtain ⟨answer, hanswer, hreply⟩ := hgood state call
    rw [run_ask (hpatient state), hreply]
    exact ih answer (h answer hanswer) _

end Dialogue

namespace Pager

variable {pager : Pager} {good : Json → Prop}

theorem answerable_forward
    (h : ∀ cursor answer, good answer → ∃ cs, (pager.read cursor answer).map Page.candles = .ok cs)
    (stop cursor : Int) : (pager.forward stop cursor).Answerable good := by
  unfold forward
  split
  · rw [Dialogue.answerable_check, Dialogue.answerable_ask]
    intro answer hgood
    obtain ⟨_, hread⟩ := h cursor answer hgood
    obtain ⟨page, hpage, -⟩ := exists_of_map_eq_ok hread
    rw [hpage]
    refine Dialogue.answerable_notes ?_
    split
    · trivial
    · split
      · exact Dialogue.answerable_map (answerable_forward h stop _)
      · trivial
  · trivial
termination_by (stop - cursor).toNat

theorem answerable_backward
    (h : ∀ cursor answer, good answer → ∃ cs, (pager.read cursor answer).map Page.candles = .ok cs)
    (start cursor : Int) : (pager.backward start cursor).Answerable good := by
  unfold backward
  split
  · rw [Dialogue.answerable_check, Dialogue.answerable_ask]
    intro answer hgood
    obtain ⟨_, hread⟩ := h cursor answer hgood
    obtain ⟨page, hpage, -⟩ := exists_of_map_eq_ok hread
    rw [hpage]
    refine Dialogue.answerable_notes ?_
    split
    · trivial
    · split
      · exact Dialogue.answerable_map (answerable_backward h start _)
      · trivial
  · trivial
termination_by (cursor - start).toNat

end Pager

end Candlestick
