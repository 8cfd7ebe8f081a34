import Candlestick.Proofs.Network.Dialogue

set_option autoImplicit false

/-! # How a dialogue can fail

`Failing P` says of a computation that every failure it can end with has a property, and
`Dialogue.Failing P` says so of all ends of a dialogue, whatever is answered. Both are proved along the way
in which computations and dialogues are put together. A run adds the failures of its world and the
withdrawal of its request. -/

namespace Candlestick

/-- Every failure of a computation has a property. -/
def Failing {α : Type} (P : Failure → Prop) (x : Except Failure α) : Prop := ∀ cause, x = .error cause → P cause

section Computations

variable {α β : Type} {P Q : Failure → Prop} {x : Except Failure α}

theorem failing_ok (result : α) : Failing P (.ok result : Except Failure α) := by
  intro cause h
  cases h

theorem failing_error {cause : Failure} (h : P cause) : Failing P (.error cause : Except Failure α) := by
  intro other heq
  cases heq
  exact h

theorem Failing.mono (hx : Failing P x) (h : ∀ cause, P cause → Q cause) : Failing Q x :=
  fun cause hcause => h cause (hx cause hcause)

theorem Failing.bind {f : α → Except Failure β} (hx : Failing P x) (hf : ∀ a, Failing P (f a)) :
    Failing P (x >>= f) := by
  cases x with
  | error cause => exact failing_error (hx cause rfl)
  | ok a => exact hf a

theorem Failing.map (f : α → β) (hx : Failing P x) : Failing P (f <$> x) := by
  cases x with
  | error cause => exact failing_error (hx cause rfl)
  | ok a => exact failing_ok (f a)

end Computations

namespace Dialogue

variable {α β σ : Type} {P Q : Failure → Prop}

/-- Every failure at an end of a dialogue has a property, whatever is answered. -/
def Failing (P : Failure → Prop) : Dialogue α → Prop
  | done _ => True
  | fail cause => P cause
  | check next => next.Failing P
  | note _ next => next.Failing P
  | ask _ next => ∀ answer, (next answer).Failing P

theorem failing_check {next : Dialogue α} : (check next).Failing P ↔ next.Failing P := Iff.rfl

theorem failing_ask {call : Call} {next : Json → Dialogue α} :
    (ask call next).Failing P ↔ ∀ answer, (next answer).Failing P := Iff.rfl

theorem Failing.mono (h : ∀ cause, P cause → Q cause) {d : Dialogue α} (hd : d.Failing P) : d.Failing Q := by
  induction d with
  | done result => trivial
  | fail cause => exact h cause hd
  | check next ih => exact ih hd
  | note remark next ih => exact ih hd
  | ask call next ih => exact fun answer => ih answer (hd answer)

theorem failing_map {f : α → β} {d : Dialogue α} : (d.map f).Failing P ↔ d.Failing P := by
  induction d with
  | done result => exact Iff.rfl
  | fail cause => exact Iff.rfl
  | check next ih => exact ih
  | note remark next ih => exact ih
  | ask call next ih => exact forall_congr' ih

theorem Failing.bind {f : α → Dialogue β} {d : Dialogue α} (hd : d.Failing P) (hf : ∀ x, (f x).Failing P) :
    (d.bind f).Failing P := by
  induction d with
  | done result => exact hf result
  | fail cause => exact hd
  | check next ih => exact ih hd
  | note remark next ih => exact ih hd
  | ask call next ih => exact fun answer => ih answer (hd answer)

theorem failing_notes {remarks : List Note} {d : Dialogue α} : (notes remarks d).Failing P ↔ d.Failing P := by
  induction remarks with
  | nil => exact Iff.rfl
  | cons remark rest ih => exact ih

theorem failing_ofExcept {x : Except Failure α} (h : Candlestick.Failing P x) : (ofExcept x).Failing P := by
  cases x with
  | ok result => trivial
  | error cause => exact h cause rfl

theorem failing_request {call : Call} {read : Json → Except Failure α}
    (h : ∀ answer, Candlestick.Failing P (read answer)) : (request call read).Failing P :=
  fun answer => failing_ofExcept (h answer)

/-- A run fails as its dialogue does, or as its world, or because its request stands withdrawn. -/
theorem Failing.run {d : Dialogue α} (hd : d.Failing P) {world : World σ}
    (hworld : ∀ state call, Candlestick.Failing P (world.answer state call).1) (haborted : P .aborted)
    (state : σ) : Candlestick.Failing P (d.run world state).outcome := by
  induction d generalizing state with
  | done result => exact failing_ok result
  | fail cause => exact failing_error hd
  | check next ih =>
    simp only [Dialogue.run]
    split
    · exact failing_error haborted
    · exact ih hd state
  | note remark next ih => exact ih hd state
  | ask call next ih =>
    have hanswer := hworld state call
    simp only [Dialogue.run]
    split
    · exact failing_error haborted
    · split
      · rename_i cause state' heq
        rw [heq] at hanswer
        exact failing_error (hanswer cause rfl)
      · rename_i answer state' heq
        exact ih answer (hd answer) state'

end Dialogue

namespace Pager

variable {P : Failure → Prop} {pager : Pager}

/-- A range read forward fails as one of its pages does. -/
theorem failing_forward (h : ∀ cursor answer, Failing P (pager.read cursor answer)) (stop cursor : Int) :
    (pager.forward stop cursor).Failing P := by
  unfold forward
  split
  · rw [Dialogue.failing_check, Dialogue.failing_ask]
    intro answer
    split
    · rename_i cause hcause
      exact h cursor answer cause hcause
    · rw [Dialogue.failing_notes]
      split
      · trivial
      · split
        · exact Dialogue.failing_map.2 (failing_forward h stop _)
        · trivial
  · trivial
termination_by (stop - cursor).toNat

/-- A range read backward fails as one of its pages does. -/
theorem failing_backward (h : ∀ cursor answer, Failing P (pager.read cursor answer)) (start cursor : Int) :
    (pager.backward start cursor).Failing P := by
  unfold backward
  split
  · rw [Dialogue.failing_check, Dialogue.failing_ask]
    intro answer
    split
    · rename_i cause hcause
      exact h cursor answer cause hcause
    · rw [Dialogue.failing_notes]
      split
      · trivial
      · split
        · exact Dialogue.failing_map.2 (failing_backward h start _)
        · trivial
  · trivial
termination_by (cursor - start).toNat

end Pager

end Candlestick
