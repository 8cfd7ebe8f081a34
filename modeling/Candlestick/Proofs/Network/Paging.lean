import Candlestick.Proofs.Network.Dialogue

set_option autoImplicit false

/-! # What a run reads, page after page

One page at a time: where a page ends the reading, the run ends with its candles; where it leads on,
the run goes on at the next cursor, in the state that the answer left.

What is wanted at a cursor is never lost (`Pager.Covers`) if each page shows it or leads on to a cursor
at which it is wanted still. Only the pages that a run asks for have to do so. -/

namespace Candlestick

variable {σ : Type} {world : World σ} {state : σ}

namespace Pager

variable {pager : Pager} {stop cursor : Int} {answer : Json} {page : Page}

/-- A page that does not lead on ends the reading. -/
theorem outcome_forward_of_last (hcursor : cursor < stop) (hworld : world.withdrawn state = false)
    (hanswer : (world.answer state (pager.call cursor)).1 = .ok answer)
    (hread : pager.read cursor answer = .ok page) (hnext : page.next = none) :
    ((pager.forward stop cursor).run world state).outcome = .ok page.candles := by
  rw [forward, if_pos hcursor, Dialogue.run_check hworld, Dialogue.run_ask hworld]
  simp only [hanswer, hread, Dialogue.run_notes, hnext, Dialogue.run]

/-- A page that leads on is followed by what is read from the next cursor. -/
theorem outcome_forward_of_next {next : Int} (hcursor : cursor < stop)
    (hworld : world.withdrawn state = false)
    (hanswer : (world.answer state (pager.call cursor)).1 = .ok answer)
    (hread : pager.read cursor answer = .ok page) (hnext : page.next = some next)
    (hgrows : cursor < next) :
    ((pager.forward stop cursor).run world state).outcome =
      ((pager.forward stop next).run world (world.answer state (pager.call cursor)).2).outcome.map
        (page.candles ++ ·) := by
  rw [forward, if_pos hcursor, Dialogue.run_check hworld, Dialogue.run_ask hworld]
  simp only [hanswer, hread, Dialogue.run_notes, hnext, if_pos hgrows, Dialogue.run_map]

theorem outcome_forward_of_le (hcursor : stop ≤ cursor) :
    ((pager.forward stop cursor).run world state).outcome = .ok [] := by
  rw [forward, if_neg (Int.not_lt.2 hcursor)]
  rfl

/-- A page that does not lead onward ends the reading. -/
theorem outcome_forward_of_stalled (hcursor : cursor < stop) (hworld : world.withdrawn state = false)
    (hanswer : (world.answer state (pager.call cursor)).1 = .ok answer)
    (hread : pager.read cursor answer = .ok page) (hnext : ∀ next ∈ page.next, ¬ cursor < next) :
    ((pager.forward stop cursor).run world state).outcome = .ok page.candles := by
  cases hpage : page.next with
  | none => exact outcome_forward_of_last hcursor hworld hanswer hread hpage
  | some next =>
    rw [forward, if_pos hcursor, Dialogue.run_check hworld, Dialogue.run_ask hworld]
    simp only [hanswer, hread, Dialogue.run_notes, hpage, if_neg (hnext next hpage), Dialogue.run]

/-- Where nothing stands on the page after the first one, the first one is all that is read. -/
theorem outcome_forward_of_single (hcursor : cursor < stop)
    (hpatient : ∀ state, world.withdrawn state = false)
    (hanswer : (world.answer state (pager.call cursor)).1 = .ok answer)
    (hread : pager.read cursor answer = .ok page)
    (hlater : ∀ next ∈ page.next, ∃ answer' page',
      (world.answer (world.answer state (pager.call cursor)).2 (pager.call next)).1 = .ok answer' ∧
      pager.read next answer' = .ok page' ∧ page'.candles = [] ∧ page'.next = none) :
    ((pager.forward stop cursor).run world state).outcome = .ok page.candles := by
  by_cases hstalled : ∀ next ∈ page.next, ¬ cursor < next
  · exact outcome_forward_of_stalled hcursor (hpatient state) hanswer hread hstalled
  obtain ⟨next, hnext, hgrows⟩ : ∃ next, page.next = some next ∧ cursor < next := by simpa using hstalled
  rw [outcome_forward_of_next hcursor (hpatient state) hanswer hread hnext hgrows]
  by_cases hend : stop ≤ next
  · rw [outcome_forward_of_le hend, Except.map, List.append_nil]
  · obtain ⟨answer', page', hanswer', hread', hempty, hlast⟩ := hlater next hnext
    rw [outcome_forward_of_last (Int.not_le.1 hend) (hpatient _) hanswer' hread' hlast, hempty, Except.map,
      List.append_nil]

/-- A question at a cursor in the range goes out. -/
theorem mem_calls_forward (hcursor : cursor < stop) (hworld : world.withdrawn state = false) :
    pager.call cursor ∈ ((pager.forward stop cursor).run world state).calls := by
  rw [forward, if_pos hcursor, Dialogue.run_check hworld, Dialogue.run_ask hworld]
  cases (world.answer state (pager.call cursor)).1 with
  | error cause => exact List.mem_cons_self
  | ok answer => exact List.mem_cons_self

/-- After a page that leads on come the questions from the next cursor. -/
theorem calls_forward_of_next {next : Int} (hcursor : cursor < stop)
    (hworld : world.withdrawn state = false)
    (hanswer : (world.answer state (pager.call cursor)).1 = .ok answer)
    (hread : pager.read cursor answer = .ok page) (hnext : page.next = some next)
    (hgrows : cursor < next) :
    ((pager.forward stop cursor).run world state).calls = pager.call cursor ::
      ((pager.forward stop next).run world (world.answer state (pager.call cursor)).2).calls := by
  rw [forward, if_pos hcursor, Dialogue.run_check hworld, Dialogue.run_ask hworld]
  simp only [hanswer, hread, Dialogue.run_notes, hnext, if_pos hgrows, Dialogue.run_map]

variable {start : Int}

theorem outcome_backward_of_stalled (hcursor : start < cursor) (hworld : world.withdrawn state = false)
    (hanswer : (world.answer state (pager.call cursor)).1 = .ok answer)
    (hread : pager.read cursor answer = .ok page) (hnext : ∀ next ∈ page.next, ¬ next < cursor) :
    ((pager.backward start cursor).run world state).outcome = .ok page.candles := by
  rw [backward, if_pos hcursor, Dialogue.run_check hworld, Dialogue.run_ask hworld]
  cases hpage : page.next with
  | none => simp only [hanswer, hread, Dialogue.run_notes, hpage, Dialogue.run]
  | some next =>
    simp only [hanswer, hread, Dialogue.run_notes, hpage, if_neg (hnext next hpage), Dialogue.run]

theorem outcome_backward_of_next {next : Int} (hcursor : start < cursor)
    (hworld : world.withdrawn state = false)
    (hanswer : (world.answer state (pager.call cursor)).1 = .ok answer)
    (hread : pager.read cursor answer = .ok page) (hnext : page.next = some next)
    (hfalls : next < cursor) :
    ((pager.backward start cursor).run world state).outcome =
      ((pager.backward start next).run world
        (world.answer state (pager.call cursor)).2).outcome.map (page.candles ++ ·) := by
  rw [backward, if_pos hcursor, Dialogue.run_check hworld, Dialogue.run_ask hworld]
  simp only [hanswer, hread, Dialogue.run_notes, hnext, if_pos hfalls, Dialogue.run_map]

theorem outcome_backward_of_le (hcursor : cursor ≤ start) :
    ((pager.backward start cursor).run world state).outcome = .ok [] := by
  rw [backward, if_neg (Int.not_lt.2 hcursor)]
  rfl

theorem outcome_backward_of_single (hcursor : start < cursor)
    (hpatient : ∀ state, world.withdrawn state = false)
    (hanswer : (world.answer state (pager.call cursor)).1 = .ok answer)
    (hread : pager.read cursor answer = .ok page)
    (hlater : ∀ next ∈ page.next, ∃ answer' page',
      (world.answer (world.answer state (pager.call cursor)).2 (pager.call next)).1 = .ok answer' ∧
      pager.read next answer' = .ok page' ∧ page'.candles = [] ∧ page'.next = none) :
    ((pager.backward start cursor).run world state).outcome = .ok page.candles := by
  by_cases hstalled : ∀ next ∈ page.next, ¬ next < cursor
  · exact outcome_backward_of_stalled hcursor (hpatient state) hanswer hread hstalled
  obtain ⟨next, hnext, hfalls⟩ : ∃ next, page.next = some next ∧ next < cursor := by simpa using hstalled
  rw [outcome_backward_of_next hcursor (hpatient state) hanswer hread hnext hfalls]
  by_cases hend : next ≤ start
  · rw [outcome_backward_of_le hend, Except.map, List.append_nil]
  · obtain ⟨answer', page', hanswer', hread', hempty, hlast⟩ := hlater next hnext
    have hstalled' : ∀ after ∈ page'.next, ¬ after < next := by simp [hlast]
    rw [outcome_backward_of_stalled (Int.not_le.1 hend) (hpatient _) hanswer' hread' hstalled', hempty,
      Except.map, List.append_nil]

theorem mem_calls_backward (hcursor : start < cursor) (hworld : world.withdrawn state = false) :
    pager.call cursor ∈ ((pager.backward start cursor).run world state).calls := by
  rw [backward, if_pos hcursor, Dialogue.run_check hworld, Dialogue.run_ask hworld]
  cases (world.answer state (pager.call cursor)).1 with
  | error cause => exact List.mem_cons_self
  | ok answer => exact List.mem_cons_self

theorem calls_backward_of_next {next : Int} (hcursor : start < cursor)
    (hworld : world.withdrawn state = false)
    (hanswer : (world.answer state (pager.call cursor)).1 = .ok answer)
    (hread : pager.read cursor answer = .ok page) (hnext : page.next = some next)
    (hfalls : next < cursor) :
    ((pager.backward start cursor).run world state).calls = pager.call cursor ::
      ((pager.backward start next).run world (world.answer state (pager.call cursor)).2).calls := by
  rw [backward, if_pos hcursor, Dialogue.run_check hworld, Dialogue.run_ask hworld]
  simp only [hanswer, hread, Dialogue.run_notes, hnext, if_pos hfalls, Dialogue.run_map]

/-! ## Nothing is lost between pages -/

section Covering

variable {asks : Int → Prop} {onward : Int → Int → Prop} {wanted : Int → Int → Prop}
  {good : Candle → Prop} {shows : Int → Candle → Prop}

/-- A page has good candles only, and each time that is wanted at its cursor it either shows or hands on
    to the next page. -/
structure HandsOn (asks : Int → Prop) (onward : Int → Int → Prop) (wanted : Int → Int → Prop)
    (good : Candle → Prop) (shows : Int → Candle → Prop) (cursor : Int) (page : Page) : Prop where
  good : ∀ c ∈ page.candles, good c
  wanted : ∀ k, wanted cursor k → (∃ c ∈ page.candles, shows k c) ∨
    ∃ next ∈ page.next, onward cursor next ∧ asks next ∧ wanted next k

namespace HandsOn

variable (h : HandsOn asks onward wanted good shows cursor page)
include h

theorem exists_of_stalled (hstalled : ∀ next ∈ page.next, ¬ onward cursor next) {k : Int}
    (hk : wanted cursor k) : ∃ c ∈ page.candles, shows k c := by
  rcases h.wanted k hk with hshown | ⟨next, hnext, honward, -, -⟩
  · exact hshown
  · exact absurd honward (hstalled next hnext)

theorem exists_of_next {next : Int} {cs : List Candle} (hnext : page.next = some next)
    (hcs : asks next → ∀ k, wanted next k → ∃ c ∈ cs, shows k c) {k : Int} (hk : wanted cursor k) :
    ∃ c ∈ page.candles ++ cs, shows k c := by
  rcases h.wanted k hk with ⟨c, hc, hshows⟩ | ⟨next', hnext', -, hasks, hlater⟩
  · exact ⟨c, List.mem_append_left _ hc, hshows⟩
  · obtain rfl : next = next' := Option.some.inj (hnext.symm.trans hnext')
    obtain ⟨c, hc, hshows⟩ := hcs hasks k hlater
    exact ⟨c, List.mem_append_right _ hc, hshows⟩

end HandsOn

/-- In a world that never withdraws a request, every question is answered with a page that hands on, if
    its call is among those that are made. -/
structure Covers (made : Call → Prop) (pager : Pager) (world : World σ) (asks : Int → Prop)
    (onward : Int → Int → Prop) (wanted : Int → Int → Prop) (good : Candle → Prop)
    (shows : Int → Candle → Prop) : Prop where
  patient : ∀ state, world.withdrawn state = false
  page : ∀ state cursor, asks cursor → made (pager.call cursor) → ∃ answer page,
    (world.answer state (pager.call cursor)).1 = .ok answer ∧
    pager.read cursor answer = .ok page ∧ HandsOn asks onward wanted good shows cursor page

variable {made : Call → Prop}

/-- Reading forward shows all that is wanted at the first cursor, if the calls of the run are among those
    that are made. -/
theorem Covers.outcome_forward_of_made
    (h : Covers made pager world (· < stop) (· < ·) wanted good shows) (state : σ) (cursor : Int)
    (hmade : ∀ call ∈ ((pager.forward stop cursor).run world state).calls, made call) :
    ∃ cs, ((pager.forward stop cursor).run world state).outcome = .ok cs ∧ (∀ c ∈ cs, good c) ∧
      (cursor < stop → ∀ k, wanted cursor k → ∃ c ∈ cs, shows k c) := by
  by_cases hend : stop ≤ cursor
  · exact ⟨[], outcome_forward_of_le hend, by simp, fun hlt => absurd hlt (Int.not_lt.2 hend)⟩
  have hcursor : cursor < stop := Int.not_le.1 hend
  obtain ⟨answer, page, hanswer, hread, hpage⟩ :=
    h.page state cursor hcursor (hmade _ (mem_calls_forward hcursor (h.patient state)))
  by_cases hstalled : ∀ next ∈ page.next, ¬ cursor < next
  · exact ⟨page.candles, outcome_forward_of_stalled hcursor (h.patient state) hanswer hread hstalled,
      hpage.good, fun _ _ => hpage.exists_of_stalled hstalled⟩
  · obtain ⟨next, hnext, hgrows⟩ : ∃ next, page.next = some next ∧ cursor < next := by
      simpa using hstalled
    have hcalls := calls_forward_of_next hcursor (h.patient state) hanswer hread hnext hgrows
    obtain ⟨cs, hcs, hgood, hlater⟩ := h.outcome_forward_of_made
      (world.answer state (pager.call cursor)).2 next fun call hcall =>
        hmade call (hcalls ▸ List.mem_cons_of_mem _ hcall)
    refine ⟨page.candles ++ cs, ?_, ?_, fun _ _ => hpage.exists_of_next hnext hlater⟩
    · rw [outcome_forward_of_next hcursor (h.patient state) hanswer hread hnext hgrows, hcs]
      rfl
    · exact List.forall_mem_append.2 ⟨hpage.good, hgood⟩
termination_by (stop - cursor).toNat

theorem Covers.outcome_forward
    (h : Covers (fun _ => True) pager world (· < stop) (· < ·) wanted good shows) (state : σ)
    (cursor : Int) :
    ∃ cs, ((pager.forward stop cursor).run world state).outcome = .ok cs ∧ (∀ c ∈ cs, good c) ∧
      (cursor < stop → ∀ k, wanted cursor k → ∃ c ∈ cs, shows k c) :=
  h.outcome_forward_of_made state cursor fun _ _ => trivial

/-- Reading backward shows all that is wanted at the first cursor. -/
theorem Covers.outcome_backward_of_made
    (h : Covers made pager world (start < ·) (fun cursor next => next < cursor) wanted good shows)
    (state : σ) (cursor : Int)
    (hmade : ∀ call ∈ ((pager.backward start cursor).run world state).calls, made call) :
    ∃ cs, ((pager.backward start cursor).run world state).outcome = .ok cs ∧ (∀ c ∈ cs, good c) ∧
      (start < cursor → ∀ k, wanted cursor k → ∃ c ∈ cs, shows k c) := by
  by_cases hend : cursor ≤ start
  · exact ⟨[], outcome_backward_of_le hend, by simp, fun hlt => absurd hlt (Int.not_lt.2 hend)⟩
  have hcursor : start < cursor := Int.not_le.1 hend
  obtain ⟨answer, page, hanswer, hread, hpage⟩ :=
    h.page state cursor hcursor (hmade _ (mem_calls_backward hcursor (h.patient state)))
  by_cases hstalled : ∀ next ∈ page.next, ¬ next < cursor
  · exact ⟨page.candles, outcome_backward_of_stalled hcursor (h.patient state) hanswer hread hstalled,
      hpage.good, fun _ _ => hpage.exists_of_stalled hstalled⟩
  · obtain ⟨next, hnext, hfalls⟩ : ∃ next, page.next = some next ∧ next < cursor := by
      simpa using hstalled
    have hcalls := calls_backward_of_next hcursor (h.patient state) hanswer hread hnext hfalls
    obtain ⟨cs, hcs, hgood, hlater⟩ := h.outcome_backward_of_made
      (world.answer state (pager.call cursor)).2 next fun call hcall =>
        hmade call (hcalls ▸ List.mem_cons_of_mem _ hcall)
    refine ⟨page.candles ++ cs, ?_, ?_, fun _ _ => hpage.exists_of_next hnext hlater⟩
    · rw [outcome_backward_of_next hcursor (h.patient state) hanswer hread hnext hfalls, hcs]
      rfl
    · exact List.forall_mem_append.2 ⟨hpage.good, hgood⟩
termination_by (cursor - start).toNat

end Covering

end Pager

end Candlestick
