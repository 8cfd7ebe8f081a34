import Candlestick.Proofs.Network.Paging

set_option autoImplicit false

/-! # A run that is withdrawn is the beginning of the run that is not

Two worlds give the same answers. In the one the request is never withdrawn; in the other it is, as a
certain call goes out. A dialogue that looks for a withdrawal only when it is about to ask takes no
notice of one that comes with its last call; every other withdrawal cuts it off after that call. -/

namespace Candlestick

variable {σ α β : Type}

/-- The world in which no request is withdrawn. -/
def World.patient (answer : σ → Call → Except Failure Json × σ) : World σ where
  withdrawn _ := false
  answer := answer

/-- The world that withdraws the request as call number `n` goes out, or beforehand for `0`. Its state
    counts the calls. -/
def World.impatient (answer : σ → Call → Except Failure Json × σ) (n : Nat) : World (σ × Nat) where
  withdrawn state := n ≤ state.2
  answer state call := ((answer state.1 call).1, (answer state.1 call).2, state.2 + 1)

namespace Dialogue

/-- The dialogue comes straight to a question. -/
def Asks : Dialogue α → Prop
  | check next => next.Asks
  | ask _ _ => True
  | _ => False

/-- The dialogue looks for a withdrawal only when it is about to ask. -/
def Attentive : Dialogue α → Prop
  | done _ => True
  | fail _ => True
  | check next => next.Asks ∧ next.Attentive
  | note _ next => next.Attentive
  | ask _ next => ∀ answer, (next answer).Attentive

/-- The dialogue asks, and looks for a withdrawal only when it is about to. -/
def Prompt (d : Dialogue α) : Prop := d.Asks ∧ d.Attentive

theorem attentive_check {next : Dialogue α} :
    (check next).Attentive ↔ next.Asks ∧ next.Attentive := Iff.rfl

theorem attentive_ask {call : Call} {next : Json → Dialogue α} :
    (ask call next).Attentive ↔ ∀ answer, (next answer).Attentive := Iff.rfl

theorem asks_map {f : α → β} {d : Dialogue α} : (d.map f).Asks ↔ d.Asks := by
  induction d with
  | check next ih => exact ih
  | done _ => exact Iff.rfl
  | fail _ => exact Iff.rfl
  | note _ _ => exact Iff.rfl
  | ask _ _ => exact Iff.rfl

theorem Asks.bind {f : α → Dialogue β} {d : Dialogue α} (h : d.Asks) : (d.bind f).Asks := by
  induction d with
  | check next ih => exact ih h
  | ask _ _ => trivial
  | done _ => exact h.elim
  | fail _ => exact h.elim
  | note _ _ => exact h.elim

theorem attentive_map {f : α → β} {d : Dialogue α} : (d.map f).Attentive ↔ d.Attentive := by
  induction d with
  | done _ => exact Iff.rfl
  | fail _ => exact Iff.rfl
  | check next ih => exact and_congr asks_map ih
  | note _ next ih => exact ih
  | ask _ next ih => exact forall_congr' ih

theorem Attentive.bind {f : α → Dialogue β} {d : Dialogue α} (h : d.Attentive)
    (hf : ∀ x, (f x).Attentive) : (d.bind f).Attentive := by
  induction d with
  | done result => exact hf result
  | fail _ => trivial
  | check next ih => exact ⟨h.1.bind, ih h.2⟩
  | note _ next ih => exact ih h
  | ask _ next ih => exact fun answer => ih answer (h answer)

theorem attentive_notes {remarks : List Note} {d : Dialogue α} :
    (notes remarks d).Attentive ↔ d.Attentive := by
  induction remarks with
  | nil => exact Iff.rfl
  | cons remark rest ih => exact ih

theorem attentive_ofExcept (x : Except Failure α) : (ofExcept x).Attentive := by
  cases x <;> trivial

theorem Prompt.map {f : α → β} {d : Dialogue α} (h : d.Prompt) : (d.map f).Prompt :=
  ⟨asks_map.2 h.1, attentive_map.2 h.2⟩

theorem prompt_request (call : Call) (read : Json → Except Failure α) : (request call read).Prompt :=
  ⟨trivial, trivial, fun answer => attentive_ofExcept (read answer)⟩

/-! ## The two runs -/

variable {answer : σ → Call → Except Failure Json × σ}

@[simp] theorem answer_patient (state : σ) (call : Call) :
    (World.patient answer).answer state call = answer state call := rfl

@[simp] theorem answer_impatient (n made : Nat) (state : σ) (call : Call) :
    (World.impatient answer n).answer (state, made) call =
      ((answer state call).1, (answer state call).2, made + 1) := rfl

theorem going_patient (state : σ) : (World.patient answer).withdrawn state = false := rfl

theorem going_impatient {n made : Nat} (h : made < n) (state : σ) :
    (World.impatient answer n).withdrawn (state, made) = false :=
  decide_eq_false (Nat.not_le.2 h)

theorem withdrawn_impatient {n made : Nat} (h : n ≤ made) (state : σ) :
    (World.impatient answer n).withdrawn (state, made) = true :=
  decide_eq_true h

/-- A dialogue that comes straight to a question asks it, if the request is not withdrawn. -/
theorem Asks.calls_pos {d : Dialogue α} (h : d.Asks) {world : World σ} {state : σ}
    (hgoing : world.withdrawn state = false) : 0 < (d.run world state).calls.length := by
  induction d with
  | check next ih =>
    rw [run_check hgoing]
    exact ih h
  | ask call next =>
    rw [run_ask hgoing]
    split <;> simp
  | done _ => exact h.elim
  | fail _ => exact h.elim
  | note _ _ => exact h.elim

/-- With its last call the one run is past every withdrawal, and the other is no different. -/
theorem Attentive.run_impatient {d : Dialogue α} (h : d.Attentive)
    (answer : σ → Call → Except Failure Json × σ) {n : Nat} (state : σ) (made : Nat)
    (hmade : made + (d.run (World.patient answer) state).calls.length ≤ n) :
    d.run (World.impatient answer n) (state, made) =
      let full := d.run (World.patient answer) state
      ⟨full.outcome, full.calls, full.notes, (full.state, made + full.calls.length)⟩ := by
  induction d generalizing state made with
  | done _ => rfl
  | fail _ => rfl
  | check next ih =>
    have hgoing : (World.patient answer).withdrawn state = false := going_patient state
    have hpos := h.1.calls_pos hgoing
    rw [run_check (going_patient state)] at hmade ⊢
    rw [run_check (going_impatient (by omega) state), ih h.2 state made hmade]
  | note remark next ih => simp only [run, ih h state made hmade]
  | ask call next ih =>
    rw [run_ask (going_patient state), answer_patient] at hmade ⊢
    cases hreply : (answer state call).1 with
    | error cause =>
      simp only [hreply, List.length_singleton] at hmade
      rw [run_ask (going_impatient (by omega) state), answer_impatient]
      simp only [hreply, List.length_singleton]
    | ok reply =>
      simp only [hreply, List.length_cons] at hmade
      have hrest := ih reply (h reply) (answer state call).2 (made + 1) (by omega)
      rw [run_ask (going_impatient (by omega) state), answer_impatient]
      simp only [hreply, List.length_cons, hrest]
      congr 2
      omega

/-- A withdrawal before that cuts the run off. -/
theorem Attentive.run_impatient_of_lt {d : Dialogue α} (h : d.Attentive)
    (answer : σ → Call → Except Failure Json × σ) {n : Nat} (state : σ) (made : Nat) (hmade : made ≤ n)
    (hlt : n < made + (d.run (World.patient answer) state).calls.length) :
    (d.run (World.impatient answer n) (state, made)).outcome = .error .aborted ∧
      (d.run (World.impatient answer n) (state, made)).calls =
        (d.run (World.patient answer) state).calls.take (n - made) := by
  induction d generalizing state made with
  | done _ => exact absurd hlt (Nat.not_lt.2 hmade)
  | fail _ => exact absurd hlt (Nat.not_lt.2 hmade)
  | note remark next ih => exact ih h state made hmade hlt
  | check next ih =>
    rw [run_check (going_patient state)] at hlt ⊢
    rcases Nat.eq_or_lt_of_le hmade with rfl | hgoing
    · rw [run, if_pos (withdrawn_impatient (Nat.le_refl made) state), Nat.sub_self]
      exact ⟨rfl, rfl⟩
    · rw [run_check (going_impatient hgoing state)]
      exact ih h.2 state made hmade hlt
  | ask call next ih =>
    rw [run_ask (going_patient state), answer_patient] at hlt ⊢
    rcases Nat.eq_or_lt_of_le hmade with rfl | hgoing
    · rw [run, if_pos (withdrawn_impatient (Nat.le_refl made) state), Nat.sub_self]
      exact ⟨rfl, rfl⟩
    rw [run_ask (going_impatient hgoing state), answer_impatient]
    cases hreply : (answer state call).1 with
    | error cause =>
      simp only [hreply, List.length_singleton] at hlt
      omega
    | ok reply =>
      simp only [hreply, List.length_cons] at hlt ⊢
      obtain ⟨houtcome, hcalls⟩ := ih reply (h reply) (answer state call).2 (made + 1) hgoing
        (by omega)
      obtain ⟨k, hk⟩ : ∃ k, n - made = k + 1 := ⟨n - made - 1, by omega⟩
      rw [hcalls, hk, List.take_succ_cons, show n - (made + 1) = k by omega]
      exact ⟨houtcome, rfl⟩

/-- What a run comes to although it may be withdrawn, the other comes to as well. -/
theorem outcome_of_impatient {d : Dialogue α} {n : Nat} {state : σ} {made : Nat} {x : α}
    (h : (d.run (World.impatient answer n) (state, made)).outcome = .ok x) :
    (d.run (World.patient answer) state).outcome = .ok x := by
  induction d generalizing state made with
  | done _ => exact h
  | fail _ => exact absurd h (by simp [run])
  | check next ih =>
    rw [run] at h
    split at h
    · exact absurd h (by simp)
    · exact ih h
  | note remark next ih => exact ih h
  | ask call next ih =>
    rcases Nat.lt_or_ge made n with hgoing | hover
    · rw [run_ask (going_impatient hgoing state), answer_impatient] at h
      rw [run_ask (going_patient state), answer_patient]
      cases hreply : (answer state call).1 with
      | error cause =>
        rw [hreply] at h
        exact absurd h (by simp)
      | ok reply =>
        rw [hreply] at h
        exact ih reply h
    · rw [run, if_pos (withdrawn_impatient hover state)] at h
      exact absurd h (by simp)

end Dialogue

/-! ## Pages -/

namespace Pager

/-- Before each page there is one look for a withdrawal, and none after the last. -/
theorem attentive_forward (pager : Pager) (stop cursor : Int) :
    (pager.forward stop cursor).Attentive := by
  unfold forward
  split
  · rw [Dialogue.attentive_check, Dialogue.attentive_ask]
    refine ⟨trivial, fun answer => ?_⟩
    split
    · trivial
    · rw [Dialogue.attentive_notes]
      split
      · trivial
      · split
        · rw [Dialogue.attentive_map]
          exact pager.attentive_forward stop _
        · trivial
  · trivial
termination_by (stop - cursor).toNat

theorem attentive_backward (pager : Pager) (start cursor : Int) :
    (pager.backward start cursor).Attentive := by
  unfold backward
  split
  · rw [Dialogue.attentive_check, Dialogue.attentive_ask]
    refine ⟨trivial, fun answer => ?_⟩
    split
    · trivial
    · rw [Dialogue.attentive_notes]
      split
      · trivial
      · split
        · rw [Dialogue.attentive_map]
          exact pager.attentive_backward start _
        · trivial
  · trivial
termination_by (cursor - start).toNat

theorem prompt_forward (pager : Pager) {stop cursor : Int} (h : cursor < stop) :
    (pager.forward stop cursor).Prompt := by
  refine ⟨?_, pager.attentive_forward stop cursor⟩
  rw [forward, if_pos h]
  trivial

theorem prompt_backward (pager : Pager) {start cursor : Int} (h : start < cursor) :
    (pager.backward start cursor).Prompt := by
  refine ⟨?_, pager.attentive_backward start cursor⟩
  rw [backward, if_pos h]
  trivial

end Pager

end Candlestick
