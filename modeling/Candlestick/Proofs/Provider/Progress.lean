import Candlestick.Proofs.Network.Cursors
import Candlestick.Provider.Directory

set_option autoImplicit false

/-! # Paging comes to an end against any provider

The cursor of the next page comes out of the last answer, and an answer may be anything: no rows at
all, times that cannot be read, the same page again, times outside of the range. Six loops turn an
answer into the next cursor, each with a test of its own for a cursor that does not move. None of them
leads on to a cursor that is not strictly further, and so every reading asks at most as often as its
range is long and never asks the same question twice. -/

namespace Candlestick

/-- Which way the pages of a range are read. -/
inductive Direction where
  | forward | backward

/-- A reading page after page: the pages, which way they go, the parameter of a question that is its
    cursor, and the range of the cursor. -/
structure Paging where
  pager : Pager
  direction : Direction
  key : String
  start : Int
  stop : Int

namespace Paging

/-- The pages of the whole range. -/
def dialogue (p : Paging) : Dialogue (List Candle) :=
  match p.direction with
  | .forward => p.pager.forward p.stop p.start
  | .backward => p.pager.backward p.start p.stop

/-- A later cursor is strictly further on than an earlier one. -/
def Onward (p : Paging) (earlier later : Int) : Prop :=
  match p.direction with
  | .forward => earlier < later
  | .backward => later < earlier

/-- A cursor is in the range, which a reading forward begins at its start and a reading backward at its
    end. -/
def Inside (p : Paging) (cursor : Int) : Prop :=
  match p.direction with
  | .forward => p.start ≤ cursor ∧ cursor < p.stop
  | .backward => p.start < cursor ∧ cursor ≤ p.stop

theorem askedAt_dialogue {σ : Type} (p : Paging) (world : World σ) (state : σ) :
    p.pager.AskedAt p.Onward p.Inside (p.dialogue.run world state).calls := by
  obtain ⟨pager, direction, key, start, stop⟩ := p
  cases direction with
  | forward => exact pager.askedAt_forward world stop state start
  | backward => exact pager.askedAt_backward world start state stop

theorem ne_of_onward {p : Paging} {earlier later : Int} (h : p.Onward earlier later) :
    earlier ≠ later := by
  obtain ⟨pager, direction, key, start, stop⟩ := p
  cases direction with
  | forward => exact Int.ne_of_lt h
  | backward => exact (Int.ne_of_lt h).symm

/-- Different cursors of the range are at most as many as the range is long. -/
theorem length_le {p : Paging} {cursors : List Int} (hnodup : cursors.Nodup)
    (hinside : ∀ c ∈ cursors, p.Inside c) : cursors.length ≤ (p.stop - p.start).toNat := by
  obtain ⟨pager, direction, key, start, stop⟩ := p
  cases direction with
  | forward =>
    exact length_le_of_nodup hnodup (fun c hc => Finset.mem_Ico.2 (hinside c hc))
      (Int.card_Ico start stop)
  | backward =>
    exact length_le_of_nodup hnodup (fun c hc => Finset.mem_Ioc.2 (hinside c hc))
      (Int.card_Ioc start stop)

end Paging

/-- How an exchange reads a request page after page, if it does. -/
def Exchange.paging? (exchange : Exchange) (r : FetchRequest) : Option Paging :=
  let symbol := Symbol.join r.asset r.quote ""
  match exchange with
  | .binance =>
    some ⟨Klines.pager (if r.isSpot then Binance.spot else Binance.futures) symbol r, .forward,
      "startTime", r.start, r.stop⟩
  | .mexc =>
    if r.isSpot then
      some ⟨Klines.pager Mexc.spot symbol r, .forward, "startTime", r.start, r.stop⟩
    else none
  | .bybit => some ⟨Bybit.pager r, .backward, "end", r.start, r.stop⟩
  | .okx => some ⟨Okx.pager r, .backward, "after", r.start, r.stop⟩
  | .kucoin =>
    some ⟨Kucoin.pager r, .backward, if r.isSpot then "endAt" else "to", r.startSecond,
      r.stopSecond⟩
  | .gateio => some ⟨Gateio.pager r, .backward, "to", r.startSecond, r.stopSecond⟩
  | .kraken =>
    if r.isSpot then some ⟨Kraken.pager r, .forward, "since", r.startSecond, r.stopSecond⟩ else none
  | .coinbase | .bitget | .htx => none

/-! ## Every page leads strictly onward -/

section Onward

variable {r : FetchRequest} {cursor next : Int} {answer : Json} {p : Page}

theorem not_next_last (hnext : Page.last.next = some next) : False :=
  absurd hnext (by simp [Page.last])

theorem Klines.lt_next {e : Endpoint} (h : page e r cursor answer = .ok p) (hnext : p.next = some next) :
    cursor < next := by
  unfold page at h
  split at h
  · cases h
    exact (not_next_last hnext).elim
  · obtain ⟨candles, _, h⟩ := exists_of_bind_eq_ok h
    obtain ⟨last, _, h⟩ := exists_of_bind_eq_ok h
    cases h
    cases last with
    | none => cases hnext
    | some last =>
      simp only at hnext
      split at hnext
      · cases hnext
      · cases hnext
        omega
  · split at h
    · cases h
      exact (not_next_last hnext).elim
    · cases h
  · cases h
    exact (not_next_last hnext).elim

theorem Bybit.next_lt (h : page r cursor answer = .ok p) (hnext : p.next = some next) :
    next < cursor := by
  unfold page at h
  split at h
  · cases h
    exact (not_next_last hnext).elim
  · split at h
    · cases h
    · obtain ⟨rows, _, h⟩ := exists_of_bind_eq_ok h
      split at h
      · obtain ⟨candles, _, h⟩ := exists_of_bind_eq_ok h
        extract_lets earliest at h
        split at h
        · cases h
          cases hnext
        · split at h
          · cases h
            cases hnext
          · cases h
            cases hnext
            omega
      · cases h
        exact (not_next_last hnext).elim

theorem Okx.next_lt (h : page r cursor answer = .ok p) (hnext : p.next = some next) :
    next < cursor := by
  unfold page at h
  split at h
  · cases h
    exact (not_next_last hnext).elim
  · split at h
    · cases h
    · split at h
      · obtain ⟨candles, _, h⟩ := exists_of_bind_eq_ok h
        extract_lets earliest at h
        split at h
        · cases h
          cases hnext
        · cases h
          cases hnext
          omega
      · cases h
        exact (not_next_last hnext).elim

theorem Kucoin.next_lt (h : page r cursor answer = .ok p) (hnext : p.next = some next) :
    next < cursor := by
  unfold page at h
  split at h
  · cases h
    exact (not_next_last hnext).elim
  · split at h
    · cases h
    · split at h
      · obtain ⟨candles, _, h⟩ := exists_of_bind_eq_ok h
        extract_lets earliest at h
        cases h
        simp only at hnext
        split at hnext
        · cases hnext
        · cases hnext
          omega
      · cases h
        exact (not_next_last hnext).elim

theorem Gateio.next_lt (h : page r cursor answer = .ok p) (hnext : p.next = some next) :
    next < cursor := by
  unfold page at h
  split at h
  · obtain ⟨candles, _, h⟩ := exists_of_bind_eq_ok h
    extract_lets earliest at h
    split at h
    · cases h
      cases hnext
    · cases h
      cases hnext
      omega
  · split at h
    · cases h
    · cases h
      exact (not_next_last hnext).elim

theorem Kraken.lt_next (h : page r cursor answer = .ok p) (hnext : p.next = some next) :
    cursor < next := by
  unfold page at h
  split at h
  · cases h
    exact (not_next_last hnext).elim
  · obtain ⟨errors, _, h⟩ := exists_of_bind_eq_ok h
    split at h
    · cases h
    · obtain ⟨rows, _, h⟩ := exists_of_bind_eq_ok h
      split at h
      · obtain ⟨candles, _, h⟩ := exists_of_bind_eq_ok h
        obtain ⟨last, _, h⟩ := exists_of_bind_eq_ok h
        cases h
        simpa using Option.filter_eq_some_iff.1 hnext |>.2
      · cases h
        exact (not_next_last hnext).elim

end Onward

/-- An exchange reads a request as a paging says: each page leads strictly onward, and the cursor of
    each question stands under the key. -/
structure Paging.Describes (p : Paging) (exchange : Exchange) (r : FetchRequest) : Prop where
  fetch_eq : exchange.fetch r = p.dialogue
  onward : ∀ cursor answer page, p.pager.read cursor answer = .ok page →
    ∀ next ∈ page.next, p.Onward cursor next
  lookup : ∀ cursor, (p.pager.call cursor).params.lookup p.key = some (.int cursor)

theorem Exchange.describes_of_paging? {exchange : Exchange} {r : FetchRequest} {p : Paging}
    (h : exchange.paging? r = some p) : p.Describes exchange r := by
  cases exchange with
  | binance =>
    cases h
    exact ⟨rfl, fun _ _ _ hpage _ => Klines.lt_next hpage, fun _ => rfl⟩
  | mexc =>
    by_cases hspot : r.isSpot = true
    · simp only [paging?, if_pos hspot, Option.some.injEq] at h
      subst h
      exact ⟨if_pos hspot, fun _ _ _ hpage _ => Klines.lt_next hpage, fun _ => rfl⟩
    · simp only [paging?, if_neg hspot] at h
      cases h
  | bybit =>
    cases h
    exact ⟨rfl, fun _ _ _ hpage _ => Bybit.next_lt hpage, fun _ => rfl⟩
  | okx =>
    cases h
    exact ⟨rfl, fun _ _ _ hpage _ => Okx.next_lt hpage, fun _ => rfl⟩
  | kucoin =>
    cases h
    refine ⟨rfl, fun _ _ _ hpage _ => Kucoin.next_lt hpage, fun cursor => ?_⟩
    by_cases hspot : r.isSpot = true
    · simp only [Kucoin.pager, if_pos hspot]
      rfl
    · simp only [Kucoin.pager, if_neg hspot]
      rfl
  | gateio =>
    cases h
    refine ⟨rfl, fun _ _ _ hpage _ => Gateio.next_lt hpage, fun cursor => ?_⟩
    by_cases hspot : r.isSpot = true
    · simp only [Gateio.pager, if_pos hspot]
      rfl
    · simp only [Gateio.pager, if_neg hspot]
      rfl
  | kraken =>
    by_cases hspot : r.isSpot = true
    · simp only [paging?, if_pos hspot, Option.some.injEq] at h
      subst h
      exact ⟨if_pos hspot, fun _ _ _ hpage _ => Kraken.lt_next hpage, fun _ => rfl⟩
    · simp only [paging?, if_neg hspot] at h
      cases h
  | coinbase => cases h
  | bitget => cases h
  | htx => cases h

/-- Paging ends against any provider. No page leads on to a cursor that is not strictly further, so no
    reading depends on being stopped; and in any world whatever the questions of a run carry cursors
    that move strictly onward inside the range, so that they are no more than the range is long and no
    two of them are the same. -/
theorem Exchange.fetch_progress {exchange : Exchange} {r : FetchRequest} {p : Paging}
    (h : exchange.paging? r = some p) :
    (∀ cursor answer page, p.pager.read cursor answer = .ok page →
      ∀ next ∈ page.next, p.Onward cursor next) ∧
    ∀ {σ : Type} (world : World σ) (state : σ), ∃ cursors : List Int,
      ((exchange.fetch r).run world state).calls.map (·.params.lookup p.key) =
        (cursors.map fun cursor => some (Json.int cursor)) ∧
      cursors.Pairwise p.Onward ∧ (∀ cursor ∈ cursors, p.Inside cursor) ∧
      ((exchange.fetch r).run world state).calls.length ≤ (p.stop - p.start).toNat ∧
      ((exchange.fetch r).run world state).calls.Nodup := by
  have hdescribes := describes_of_paging? h
  refine ⟨hdescribes.onward, fun world state => ?_⟩
  rw [hdescribes.fetch_eq]
  obtain ⟨cursors, hcalls, hpairs, hinside⟩ := p.askedAt_dialogue world state
  have hnodup : cursors.Nodup := hpairs.imp Paging.ne_of_onward
  refine ⟨cursors, ?_, hpairs, hinside, ?_, ?_⟩
  · rw [hcalls, List.map_map]
    exact List.map_congr_left fun cursor _ => hdescribes.lookup cursor
  · rw [hcalls, List.length_map]
    exact Paging.length_le hnodup hinside
  · -- Two questions that are the same have the same cursor under the key.
    rw [hcalls]
    refine hnodup.map_on fun c _ d _ hsame => ?_
    have hlookup := hdescribes.lookup c
    rw [hsame, hdescribes.lookup d] at hlookup
    simpa using hlookup.symm

/-! ## A provider that creeps -/

/-- A provider whose answers never end: each of them has a row that cannot be read, and a cursor one
    second after the one that was sent. -/
def creeping : World Unit where
  withdrawn _ := false
  answer _ call :=
    match call.params.lookup "since" with
    | some (.int since) =>
      (.ok (.obj [("result", .obj [("XXBTZUSD", .arr [.null]), ("last", .int (since + 1))])]), ())
    | _ => (.ok .null, ())

/-- A request for five seconds. -/
def fiveSeconds : FetchRequest :=
  ⟨⟨.kraken, .spot⟩, "BTC", "USD", 0, 5000, "1", "1m", minuteMs⟩

theorem Exchange.fetch_progress_creeping : ∃ cursors : List Int,
    ((Exchange.kraken.fetch fiveSeconds).run creeping ()).calls.map (·.params.lookup "since") =
      (cursors.map fun cursor => some (Json.int cursor)) ∧
    cursors.Pairwise (· < ·) ∧ (∀ cursor ∈ cursors, 0 ≤ cursor ∧ cursor < 5) ∧
    ((Exchange.kraken.fetch fiveSeconds).run creeping ()).calls.length ≤ 5 ∧
    ((Exchange.kraken.fetch fiveSeconds).run creeping ()).calls.Nodup := by
  have hpaging : Exchange.kraken.paging? fiveSeconds =
      some ⟨Kraken.pager fiveSeconds, .forward, "since", 0, 5⟩ := rfl
  exact (Exchange.fetch_progress hpaging).2 creeping ()

end Candlestick
