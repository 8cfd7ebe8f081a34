import Candlestick.Proofs.Network.Answerable
import Candlestick.Proofs.Provider.Malformed
import Candlestick.Provider.Directory

set_option autoImplicit false

/-! # Answers with anything in their cells, source by source

A success of a provider is an envelope with rows in it. It is refused for a broken row and for nothing
else, and a fetch that meets no broken row comes to a result. -/

namespace Candlestick

open Reading

/-! ## Sources -/

/-- What a source makes of one answer, where it reads page after page at the given cursor. -/
def FetchRequest.readAnswer (r : FetchRequest) (cursor : Int) (answer : Json) :
    Except Failure (List Candle) :=
  match r.source.exchange with
  | .binance =>
    (Klines.page (if r.isSpot then Binance.spot else Binance.futures) r cursor answer).map Page.candles
  | .bybit => (Bybit.page r cursor answer).map Page.candles
  | .okx => (Okx.page r cursor answer).map Page.candles
  | .coinbase => Coinbase.read r answer
  | .kraken =>
    if r.isSpot then (Kraken.page r cursor answer).map Page.candles else Kraken.readFutures r answer
  | .kucoin => (Kucoin.page r cursor answer).map Page.candles
  | .bitget => Bitget.read r answer
  | .gateio => (Gateio.page r cursor answer).map Page.candles
  | .htx => Htx.read r answer
  | .mexc =>
    if r.isSpot then (Klines.page Mexc.spot r cursor answer).map Page.candles
    else Mexc.readContract r answer

/-- An answer in its provider's envelope, and the cells of its rows. There is none of Coinbase
    futures. -/
def FetchRequest.Carries (r : FetchRequest) (cells : List Cells) (answer : Json) : Prop :=
  match r.source.exchange with
  | .binance => ∃ rows, answer = .arr rows ∧ cells = rows.map Klines.cells
  | .bybit => ∃ rows, Bybit.archive.wraps rows answer ∧ cells = rows.map (.ofList 1 [1, 2, 3, 4, 5])
  | .okx => ∃ rows, Okx.archive.wraps rows answer ∧ cells = rows.map (.ofList 1 [1, 2, 3, 4, 5])
  | .coinbase => r.isSpot ∧ ∃ rows, (answer.member "error").isPresent = false ∧
      answer.member "candles" = .arr rows ∧ cells = rows.map Coinbase.cells
  | .kraken =>
    if r.isSpot then
      ∃ rows last, Kraken.Wraps rows last answer ∧ last.natAbs ≤ 2 ^ 53 ∧ cells = rows.map Kraken.cells
    else
      ∃ rows, ((answer.member "result").member "candles" = .arr rows ∨
        (answer.member "result").isObject = false ∧ answer.member "candles" = .arr rows) ∧
        cells = (rows.filter Json.isObject).map
          (.ofObject 1000 "time" ["open", "high", "low", "close", "volume"])
  | .kucoin => ∃ rows, answer.member "code" = .str "200000" ∧
      (answer.member "data" = .arr rows ∨ (answer.member "data").member "data" = .arr rows) ∧
      cells = rows.map (.ofList 1000 [1, 3, 4, 2, 5])
  | .bitget => ∃ rows,
      (answer = .arr rows ∨ answer.member "code" = .str "00000" ∧ answer.member "data" = .arr rows) ∧
      cells = rows.map Bitget.cells
  | .gateio => ∃ rows, answer = .arr rows ∧ cells = rows.map Gateio.cells
  | .htx => ∃ rows, answer.member "status" = .str "ok" ∧ answer.member "data" = .arr rows ∧
      cells = (rows.filter Json.isObject).map Htx.cells
  | .mexc =>
    if r.isSpot then ∃ rows, answer = .arr rows ∧ cells = rows.map Klines.cells
    else ∃ times, answer.member "success" = .bool true ∧
      (answer.member "data").member "time" = .arr times ∧
      cells = times.zipIdx.map (Mexc.cells (answer.member "data"))

theorem RefusedIff.of_rows {α β : Type} {row : α → Cells} {rows : List α} {x : Except Failure β}
    (h : RefusedIff (∃ item ∈ rows, (row item).Broken) x) :
    RefusedIff (∃ c ∈ rows.map row, c.Broken) x :=
  h.congr (by simp)

/-- An answer is refused if a row of it is. -/
theorem FetchRequest.readAnswer_refusedIff (r : FetchRequest) (cursor : Int) {cells : List Cells}
    {answer : Json} (h : r.Carries cells answer) :
    RefusedIff (∃ c ∈ cells, c.Broken) (r.readAnswer cursor answer) := by
  unfold Carries at h
  unfold readAnswer
  cases hexchange : r.source.exchange <;> simp only [hexchange] at h ⊢
  case binance =>
    obtain ⟨rows, rfl, rfl⟩ := h
    exact RefusedIff.of_rows ((Klines.page_refusedIff cursor _).map _)
  case bybit =>
    obtain ⟨rows, hwraps, rfl⟩ := h
    exact RefusedIff.of_rows ((Bybit.page_refusedIff cursor hwraps).map _)
  case okx =>
    obtain ⟨rows, hwraps, rfl⟩ := h
    exact RefusedIff.of_rows ((Okx.page_refusedIff cursor hwraps).map _)
  case coinbase =>
    obtain ⟨-, rows, herror, hcandles, rfl⟩ := h
    rw [Coinbase.read_eq herror hcandles]
    exact RefusedIff.of_rows (readRows_refusedIff (Coinbase.row_refusedIff r) rows)
  case kraken =>
    split at h
    · next hspot =>
      obtain ⟨rows, last, hwraps, hlast, rfl⟩ := h
      rw [if_pos hspot]
      exact RefusedIff.of_rows ((Kraken.page_refusedIff cursor hwraps hlast).map _)
    · next hfutures =>
      obtain ⟨rows, hanswer, rfl⟩ := h
      rw [if_neg hfutures, Kraken.readFutures_eq hanswer]
      exact RefusedIff.of_rows (readRows_refusedIff
        (fun row => r.memberCandle_refusedIff (by decide) _ _ _ _ _ _ row) _)
  case kucoin =>
    obtain ⟨rows, hcode, hdata, rfl⟩ := h
    exact RefusedIff.of_rows ((Kucoin.page_refusedIff cursor hcode (Kucoin.rows_eq hdata)).map _)
  case bitget =>
    obtain ⟨rows, hanswer, rfl⟩ := h
    rw [Bitget.read_eq hanswer]
    exact RefusedIff.of_rows (readRows_refusedIff (Bitget.row_refusedIff r) rows)
  case gateio =>
    obtain ⟨rows, rfl, rfl⟩ := h
    exact RefusedIff.of_rows ((Gateio.page_refusedIff cursor).map _)
  case htx =>
    obtain ⟨rows, hstatus, hdata, rfl⟩ := h
    rw [Htx.read_eq hstatus hdata]
    exact RefusedIff.of_rows (readRows_refusedIff (Htx.row_refusedIff r) _)
  case mexc =>
    split at h
    · next hspot =>
      obtain ⟨rows, rfl, rfl⟩ := h
      rw [if_pos hspot]
      exact RefusedIff.of_rows ((Klines.page_refusedIff cursor _).map _)
    · next hfutures =>
      obtain ⟨times, hsuccess, htimes, rfl⟩ := h
      rw [if_neg hfutures, Mexc.readContract_eq hsuccess htimes]
      exact RefusedIff.of_rows (Mexc.readColumns_refusedIff r _ times 0)

/-! ## Fetches -/

/-- The answer holds rows, none of which is broken. -/
def FetchRequest.Unbroken (r : FetchRequest) (answer : Json) : Prop :=
  ∃ cells, r.Carries cells answer ∧ ¬ ∃ c ∈ cells, c.Broken

section Fetches

variable {r : FetchRequest}

theorem FetchRequest.Unbroken.exists_readAnswer {answer : Json} (h : r.Unbroken answer) (cursor : Int) :
    ∃ cs, r.readAnswer cursor answer = .ok cs :=
  h.elim fun _ hcells => (r.readAnswer_refusedIff cursor hcells.1).read hcells.2

/-- A fetch gives up before it asks, or it comes to a result if no row is broken. -/
theorem Exchange.fetch_answerable (r : FetchRequest) :
    (r.source.exchange.fetch r).Answerable r.Unbroken ∨
      ∃ cause, r.source.exchange.fetch r = .fail cause ∨
        r.source.exchange.fetch r = .check (.fail cause) := by
  have hread := fun cursor answer (h : r.Unbroken answer) => h.exists_readAnswer cursor
  unfold FetchRequest.readAnswer at hread
  cases hexchange : r.source.exchange <;> simp only [hexchange] at hread
  case binance => exact Or.inl (Pager.answerable_forward hread _ _)
  case bybit => exact Or.inl (Pager.answerable_backward hread _ _)
  case okx => exact Or.inl (Pager.answerable_backward hread _ _)
  case coinbase =>
    rw [Exchange.fetch, Coinbase.fetch]
    split
    · cases Coinbase.call r with
      | error cause => exact Or.inr ⟨cause, Or.inr rfl⟩
      | ok call => exact Or.inl (Dialogue.answerable_request (hread 0))
    · exact Or.inr ⟨_, Or.inl rfl⟩
  case kraken =>
    rw [Exchange.fetch, Kraken.fetch]
    by_cases hspot : r.isSpot = true
    · simp only [if_pos hspot] at hread ⊢
      exact Or.inl (Pager.answerable_forward hread _ _)
    · simp only [if_neg hspot] at hread ⊢
      exact Or.inl (Dialogue.answerable_request (hread 0))
  case kucoin => exact Or.inl (Pager.answerable_backward hread _ _)
  case bitget => exact Or.inl (Dialogue.answerable_request (hread 0))
  case gateio => exact Or.inl (Pager.answerable_backward hread _ _)
  case htx =>
    rw [Exchange.fetch, Htx.fetch]
    cases Htx.historySize r with
    | error cause => exact Or.inr ⟨cause, Or.inl rfl⟩
    | ok size => exact Or.inl (Dialogue.answerable_request (hread 0))
  case mexc =>
    rw [Exchange.fetch, Mexc.fetch]
    by_cases hspot : r.isSpot = true
    · simp only [if_pos hspot] at hread ⊢
      exact Or.inl (Pager.answerable_forward hread _ _)
    · simp only [if_neg hspot] at hread ⊢
      exact Or.inl (Dialogue.answerable_request (hread 0))

/-- So a fetch that asks at all, and gets no other answers, comes to a result. -/
theorem Exchange.exists_fetch {σ : Type} {world : World σ}
    (hpatient : ∀ state, world.withdrawn state = false)
    (hunbroken : ∀ state call, ∃ answer, r.Unbroken answer ∧ (world.answer state call).1 = .ok answer)
    (state : σ) (hasked : ((r.source.exchange.fetch r).run world state).calls ≠ []) :
    ∃ cs, ((r.source.exchange.fetch r).run world state).outcome = .ok cs := by
  rcases Exchange.fetch_answerable r with hanswerable | ⟨cause, hfails | hfails⟩
  · exact hanswerable.run hpatient hunbroken state
  · rw [hfails] at hasked
    exact absurd rfl hasked
  · rw [hfails, Dialogue.run_check (hpatient state)] at hasked
    exact absurd rfl hasked

end Fetches

/-! ## Whatever stands in the cells -/

/-- Every value, every answer of a source, and every fetch of it that asks: what is refused, and what
    becomes of the rest. -/
theorem FetchRequest.fetch_lenient (r : FetchRequest) :
    (∀ value, Lenient value) ∧
    (∀ (cursor : Int) {cells : List Cells} {answer : Json}, r.Carries cells answer →
      RefusedIff (∃ c ∈ cells, c.Broken) (r.readAnswer cursor answer)) ∧
    ∀ {σ : Type} {world : World σ}, (∀ state, world.withdrawn state = false) →
      (∀ state call, ∃ answer, r.Unbroken answer ∧ (world.answer state call).1 = .ok answer) →
      ∀ state, ((r.source.exchange.fetch r).run world state).calls ≠ [] →
        ∃ cs, ((r.source.exchange.fetch r).run world state).outcome = .ok cs :=
  ⟨lenient, fun cursor _ _ => r.readAnswer_refusedIff cursor, Exchange.exists_fetch⟩

namespace Bitget

/-- A request for the first minute. -/
def firstMinute : FetchRequest :=
  ⟨⟨.bitget, .spot⟩, "BTC", "USDT", 0, minuteMs, "1min", "1m", minuteMs⟩

/-- A row in which only the time is a number, and one in which nothing is. -/
def unrulyRows : List Json :=
  [.arr [.int 0, .null, .str "junk", .bool true, .arr [], .obj []],
    .obj [("ts", .str "never"), ("open", .obj [])]]

theorem not_broken_unruly : ¬ ∃ c ∈ unrulyRows.map cells, c.Broken := by
  rintro ⟨c, hc, hbroken⟩
  obtain rfl | rfl : c = .ofList 1 [1, 2, 3, 4, 5] _ ∨
      c = .ofObject 1 "ts" ["open", "high", "low", "close", "baseVol"] _ := by
    simpa [unrulyRows, cells, Json.isObject] using hc
  · obtain hfar | ⟨-, value, hvalue, n, rfl, -⟩ := hbroken
    · exact not_excessive_zero (tooFar_one_iff.1 hfar)
    · simp [Cells.ofList, item] at hvalue
  · obtain hfar | ⟨-, value, hvalue, n, rfl, -⟩ := hbroken
    · obtain ⟨n, heq, -⟩ := tooFar_one_iff.1 hfar
      cases heq
    · simp [Cells.ofObject, Json.member, Json.member?, List.lookup_cons] at hvalue

/-- A world that has this answer only. -/
def unruly : World Unit where
  withdrawn _ := false
  answer _ _ := (.ok (.arr unrulyRows), ())

/-- The first row has a candle and the second one none. -/
theorem fetch_lenient_unruly :
    Lenient (.str "junk") ∧
    firstMinute.Carries (unrulyRows.map cells) (.arr unrulyRows) ∧
    (∃ cs, firstMinute.readAnswer 0 (.arr unrulyRows) = .ok cs ∧ cs.map (·.start) = [0]) ∧
    ∃ cs, ((Exchange.bitget.fetch firstMinute).run unruly ()).outcome = .ok cs := by
  obtain ⟨hvalues, hanswers, hfetches⟩ := FetchRequest.fetch_lenient firstMinute
  have hcarries : firstMinute.Carries (unrulyRows.map cells) (.arr unrulyRows) :=
    ⟨unrulyRows, Or.inl rfl, rfl⟩
  obtain ⟨cs, hcs⟩ := (hanswers 0 hcarries).read not_broken_unruly
  refine ⟨hvalues _, hcarries, ⟨cs, hcs, ?_⟩, ?_⟩
  · have hstarts : (firstMinute.readAnswer 0 (.arr unrulyRows)).toOption.map (·.map (·.start)) =
        some [0] := by decide +kernel
    rw [hcs] at hstarts
    exact Option.some.inj hstarts
  · refine @hfetches Unit unruly (fun _ => rfl)
      (fun _ _ => ⟨_, ⟨_, hcarries, not_broken_unruly⟩, rfl⟩) () ?_
    rw [show firstMinute.source.exchange = .bitget from rfl, Exchange.fetch, fetch, Dialogue.request,
      Dialogue.run_check rfl, Dialogue.run_ask rfl]
    exact List.cons_ne_nil _ _

/-- A row with an integer that is too large. -/
def excessiveRow : Json := .arr [.int 0, .int (10 ^ 400), .int 1, .int 1, .int 1, .int 1]

/-- One excessive integer costs the whole answer, and a time may be too large in milliseconds only. -/
theorem not_lenient_excessive :
    number (.int (10 ^ 400)) = .error .tooLarge ∧ volume (.int (10 ^ 400)) = .error .tooLarge ∧
    count (.int (10 ^ 400)) = .error .tooLarge ∧ time (.int (10 ^ 400)) = .error .tooLarge ∧
    time (.str "1e306") 1000 = .error .tooLarge ∧
    firstMinute.Carries ((excessiveRow :: unrulyRows).map cells) (.arr (excessiveRow :: unrulyRows)) ∧
    firstMinute.readAnswer 0 (.arr (excessiveRow :: unrulyRows)) = .error .tooLarge := by
  have hexcessive : Excessive (.int (10 ^ 400)) := ⟨_, rfl, by decide +kernel⟩
  have hfar : TooFar 1000 (.str "1e306") := by
    by_contra hnear
    obtain ⟨t, ht⟩ := (time_refusedIff (by decide) _).read hnear
    have hnone : (time (.str "1e306") 1000).toOption = none := by decide +kernel
    rw [ht] at hnone
    cases hnone
  have hcarries : firstMinute.Carries ((excessiveRow :: unrulyRows).map cells)
      (.arr (excessiveRow :: unrulyRows)) := ⟨_, Or.inl rfl, rfl⟩
  refine ⟨(number_refusedIff _).refused hexcessive, (volume_refusedIff _).refused hexcessive,
    (count_refusedIff _).refused hexcessive, (time_refusedIff (by decide) _).refused (Or.inl hexcessive),
    (time_refusedIff (by decide) _).refused hfar, hcarries,
    (firstMinute.readAnswer_refusedIff 0 hcarries).refused ?_⟩
  refine ⟨cells excessiveRow, List.mem_cons_self, Or.inr ⟨Or.inl ⟨Double.ofInt 0, rfl, by decide⟩,
    .int (10 ^ 400), List.mem_cons_self, hexcessive⟩⟩

end Bitget

end Candlestick
