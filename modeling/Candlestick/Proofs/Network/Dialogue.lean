import Candlestick.Network.Paging

set_option autoImplicit false

/-! # What a dialogue yields, and what its run comes to

`Dialogue.Yields P` says that every result at the end of a dialogue has a property, whatever the
answers are. It is proved along the way in which a dialogue is put together, and it holds of every
run in every world. -/

namespace Candlestick

section Results

variable {ε α β : Type}

theorem eq_ok_of_toOption {x : Except ε α} {y : α} (h : x.toOption = some y) : x = .ok y := by
  cases x with
  | error cause => exact absurd h (by simp [Except.toOption])
  | ok z => exact congrArg Except.ok (Option.some.inj h)

theorem exists_of_isOk {x : Except ε α} (h : x.isOk = true) : ∃ y, x = .ok y := by
  cases x with
  | error cause => exact absurd h (by simp [Except.isOk, Except.toBool])
  | ok y => exact ⟨y, rfl⟩

theorem exists_of_not_isOk {x : Except ε α} (h : x.isOk = false) : ∃ cause, x = .error cause := by
  cases x with
  | error cause => exact ⟨cause, rfl⟩
  | ok y => exact absurd h (by simp [Except.isOk, Except.toBool])

/-- What a computation with two steps gives, its second step gives of a value of the first. -/
theorem exists_of_bind_eq_ok {x : Except ε α} {f : α → Except ε β} {y : β} (h : x >>= f = .ok y) :
    ∃ a, x = .ok a ∧ f a = .ok y := by
  cases x with
  | error cause => exact absurd h (by simp [bind, Except.bind])
  | ok a => exact ⟨a, rfl, h⟩

/-- As `exists_of_bind_eq_ok`, where the second step cannot fail. -/
theorem exists_of_map_eq_ok {x : Except ε α} {f : α → β} {y : β} (h : f <$> x = .ok y) :
    ∃ a, x = .ok a ∧ f a = y := by
  cases x with
  | error cause => exact absurd h (by simp [Functor.map, Except.map])
  | ok a =>
    simp only [Functor.map, Except.map, Except.ok.injEq] at h
    exact ⟨a, rfl, h⟩

/-- To say more of an error leaves values alone. -/
theorem eq_ok_of_mapError {ε' : Type} {x : Except ε α} {f : ε → ε'} {y : α} (h : x.mapError f = .ok y) :
    x = .ok y := by
  cases x with
  | error cause => cases h
  | ok z => exact congrArg Except.ok (Except.ok.inj h)

end Results

namespace Dialogue

variable {α β σ : Type}

/-- Every result of a dialogue has a property, whatever is answered. -/
def Yields (P : α → Prop) : Dialogue α → Prop
  | done result => P result
  | fail _ => True
  | check next => next.Yields P
  | note _ next => next.Yields P
  | ask _ next => ∀ answer, (next answer).Yields P

theorem yields_check {P : α → Prop} {next : Dialogue α} :
    (check next).Yields P ↔ next.Yields P := Iff.rfl

theorem yields_ask {P : α → Prop} {call : Call} {next : Json → Dialogue α} :
    (ask call next).Yields P ↔ ∀ answer, (next answer).Yields P := Iff.rfl

theorem Yields.mono {P Q : α → Prop} (h : ∀ x, P x → Q x) {d : Dialogue α} (hd : d.Yields P) :
    d.Yields Q := by
  induction d with
  | done result => exact h result hd
  | fail cause => trivial
  | check next ih => exact ih hd
  | note remark next ih => exact ih hd
  | ask call next ih => exact fun answer => ih answer (hd answer)

theorem yields_map {P : β → Prop} {f : α → β} {d : Dialogue α} :
    (d.map f).Yields P ↔ d.Yields (P ∘ f) := by
  induction d with
  | done result => exact Iff.rfl
  | fail cause => exact Iff.rfl
  | check next ih => exact ih
  | note remark next ih => exact ih
  | ask call next ih => exact forall_congr' ih

theorem yields_notes {P : α → Prop} {remarks : List Note} {d : Dialogue α} :
    (notes remarks d).Yields P ↔ d.Yields P := by
  induction remarks with
  | nil => exact Iff.rfl
  | cons remark rest ih => exact ih

theorem yields_ofExcept {P : α → Prop} {x : Except Failure α} (h : ∀ y, x = .ok y → P y) :
    (ofExcept x).Yields P := by
  cases x with
  | ok y => exact h y rfl
  | error cause => trivial

theorem yields_request {P : α → Prop} {call : Call} {read : Json → Except Failure α}
    (h : ∀ answer y, read answer = .ok y → P y) : (request call read).Yields P :=
  fun answer => yields_ofExcept (h answer)

/-- What a dialogue yields is what its runs end with. -/
theorem Yields.run {P : α → Prop} {d : Dialogue α} (hd : d.Yields P) (world : World σ) (state : σ)
    {x : α} (hx : (d.run world state).outcome = .ok x) : P x := by
  induction d generalizing state with
  | done result =>
    cases hx
    exact hd
  | fail cause => exact absurd hx (by simp [Dialogue.run])
  | check next ih =>
    simp only [Dialogue.run] at hx
    split at hx
    · exact absurd hx (by simp)
    · exact ih hd state hx
  | note remark next ih => exact ih hd state hx
  | ask call next ih =>
    simp only [Dialogue.run] at hx
    split at hx
    · exact absurd hx (by simp)
    · split at hx
      · exact absurd hx (by simp)
      · rename_i answer state' _
        exact ih answer (hd answer) state' hx

/-! ## Runs -/

section Going

variable {world : World σ} {state : σ}

theorem run_check (h : world.withdrawn state = false) (next : Dialogue α) :
    (check next).run world state = next.run world state := by
  rw [run, h]
  rfl

/-- A question is asked, and where there is an answer the run goes on from it. -/
theorem run_ask (h : world.withdrawn state = false) (call : Call) (next : Json → Dialogue α) :
    (ask call next).run world state =
      match (world.answer state call).1 with
      | .error cause => ⟨.error cause, [call], [], (world.answer state call).2⟩
      | .ok reply =>
        let rest := (next reply).run world (world.answer state call).2
        { rest with calls := call :: rest.calls } := by
  rw [run, h]
  rcases world.answer state call with ⟨cause | reply, state'⟩ <;> rfl

/-- What a question comes to where nothing withdraws it. -/
theorem outcome_request (h : world.withdrawn state = false) {call : Call} {answer : Json}
    (hanswer : (world.answer state call).1 = .ok answer) (read : Json → Except Failure α) :
    ((request call read).run world state).outcome = read answer := by
  rw [request, run_check h, run_ask h]
  simp only [hanswer]
  cases read answer <;> rfl

theorem run_notes (remarks : List Note) (next : Dialogue α) :
    (notes remarks next).run world state =
      { next.run world state with notes := remarks ++ (next.run world state).notes } := by
  induction remarks with
  | nil => rfl
  | cons remark rest ih =>
    change (note remark (notes rest next)).run world state = _
    simp only [run, ih, List.cons_append]

end Going

theorem calls_ofExcept (world : World σ) (state : σ) (x : Except Failure α) :
    ((ofExcept x).run world state).calls = [] := by
  cases x <;> rfl

/-- A single request asks nothing but its question. -/
theorem mem_calls_request {world : World σ} {state : σ} {call asked : Call} {read : Json → Except Failure α}
    (h : asked ∈ ((request call read).run world state).calls) : asked = call := by
  by_cases hwithdrawn : world.withdrawn state = true
  · rw [request, run, if_pos hwithdrawn] at h
    exact absurd h List.not_mem_nil
  · have hgoing := eq_false_of_ne_true hwithdrawn
    rw [request, run_check hgoing, run_ask hgoing] at h
    cases hanswer : (world.answer state call).1 with
    | error cause =>
      simp only [hanswer] at h
      exact List.mem_singleton.1 h
    | ok answer =>
      simp only [hanswer, calls_ofExcept] at h
      exact List.mem_singleton.1 h

/-- A run of one dialogue after another: the second starts where the first has left the world. -/
theorem run_bind (world : World σ) (f : α → Dialogue β) (d : Dialogue α) (state : σ) :
    (d.bind f).run world state =
      let first := d.run world state
      match first.outcome with
      | .error cause => ⟨.error cause, first.calls, first.notes, first.state⟩
      | .ok x =>
        let second := (f x).run world first.state
        { second with
          calls := first.calls ++ second.calls
          notes := first.notes ++ second.notes } := by
  induction d generalizing state with
  | done result => rfl
  | fail cause => rfl
  | check next ih =>
    simp only [Dialogue.bind, Dialogue.run]
    split
    · rfl
    · exact ih state
  | note remark next ih =>
    simp only [Dialogue.bind, Dialogue.run, ih state]
    split <;> rfl
  | ask call next ih =>
    simp only [Dialogue.bind, Dialogue.run]
    split
    · rfl
    · split
      · rfl
      · rename_i answer state' _
        simp only [ih answer state']
        split <;> rfl

theorem run_bind_of_ok {world : World σ} {d : Dialogue α} {state : σ} {x : α}
    (h : (d.run world state).outcome = .ok x) (f : α → Dialogue β) :
    (d.bind f).run world state =
      { (f x).run world (d.run world state).state with
        calls := (d.run world state).calls ++ ((f x).run world (d.run world state).state).calls
        notes := (d.run world state).notes ++ ((f x).run world (d.run world state).state).notes } := by
  simp only [run_bind, h]

theorem outcome_run_bind_of_error {world : World σ} {d : Dialogue α} {state : σ} {cause : Failure}
    (h : (d.run world state).outcome = .error cause) (f : α → Dialogue β) :
    ((d.bind f).run world state).outcome = .error cause := by
  simp only [run_bind, h]

end Dialogue

namespace Pager

/-- What every page holds, reading forward yields. -/
theorem yields_forward {pager : Pager} {P : Candle → Prop}
    (h : ∀ cursor answer page, pager.read cursor answer = .ok page → ∀ c ∈ page.candles, P c)
    (stop cursor : Int) : (pager.forward stop cursor).Yields fun cs => ∀ c ∈ cs, P c := by
  unfold forward
  split
  · rw [Dialogue.yields_check, Dialogue.yields_ask]
    intro answer
    split
    · trivial
    · rename_i page hpage
      have hcandles := h cursor answer page hpage
      rw [Dialogue.yields_notes]
      split
      · exact hcandles
      · split
        · rename_i next _ hnext
          rw [Dialogue.yields_map]
          refine (yields_forward h stop next).mono fun cs hcs c hc => ?_
          exact (List.mem_append.1 hc).elim (hcandles c) (hcs c)
        · exact hcandles
  · intro c hc
    exact absurd hc (by simp)
termination_by (stop - cursor).toNat

/-- What every page holds, reading backward yields. -/
theorem yields_backward {pager : Pager} {P : Candle → Prop}
    (h : ∀ cursor answer page, pager.read cursor answer = .ok page → ∀ c ∈ page.candles, P c)
    (start cursor : Int) : (pager.backward start cursor).Yields fun cs => ∀ c ∈ cs, P c := by
  unfold backward
  split
  · rw [Dialogue.yields_check, Dialogue.yields_ask]
    intro answer
    split
    · trivial
    · rename_i page hpage
      have hcandles := h cursor answer page hpage
      rw [Dialogue.yields_notes]
      split
      · exact hcandles
      · split
        · rename_i next _ hnext
          rw [Dialogue.yields_map]
          refine (yields_backward h start next).mono fun cs hcs c hc => ?_
          exact (List.mem_append.1 hc).elim (hcandles c) (hcs c)
        · exact hcandles
  · intro c hc
    exact absurd hc (by simp)
termination_by (cursor - start).toNat

end Pager

end Candlestick
