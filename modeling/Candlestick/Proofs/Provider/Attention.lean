import Candlestick.Proofs.Calendar.Moment
import Candlestick.Proofs.Network.Withdrawal
import Candlestick.Provider.Directory

set_option autoImplicit false

/-! # Every exchange looks for a withdrawal right before it asks, and asks

For a range of a second or more, in years that the calendar can write, no provider gives up before its
first question, and none looks for a withdrawal when it has nothing left to ask. A range that a chart can
ask for begins and ends on whole minutes and is such a range. -/

namespace Candlestick

/-- The ends of a range of a second or more are in different seconds. -/
theorem FetchRequest.second_lt_of_le {r : FetchRequest} (h : r.start + 1000 ≤ r.stop) :
    r.startSecond < r.stopSecond := by
  rw [startSecond, stopSecond, Int.fdiv_eq_ediv_of_nonneg _ (by decide),
    Int.fdiv_eq_ediv_of_nonneg _ (by decide)]
  omega

/-- A range of whole minutes is of a second or more. -/
theorem FetchRequest.second_le_of_dvd {r : FetchRequest} (hstart : minuteMs ∣ r.start)
    (hstop : minuteMs ∣ r.stop) (hlt : r.start < r.stop) : r.start + 1000 ≤ r.stop := by
  have hle := Int.le_of_dvd (by omega) (Int.dvd_sub hstop hstart)
  have hminute : minuteMs = 60000 := rfl
  omega

/-- A range of a second or more, from 1970 on, and candles of a usable length. -/
structure FetchRequest.Dated (r : FetchRequest) : Prop where
  nonneg : 0 ≤ r.start
  second_le : r.start + 1000 ≤ r.stop
  stop_le : r.stop ≤ Calendar.yearStart 9500
  width_pos : 0 < r.width
  width_le : r.width ≤ 2 ^ 53

namespace FetchRequest.Dated

variable {r : FetchRequest} (h : r.Dated)
include h

theorem lt : r.start < r.stop := by
  have hsecond := h.second_le
  omega

theorem startSecond_lt_stopSecond : r.startSecond < r.stopSecond := second_lt_of_le h.second_le

theorem stop_le_two_pow : r.stop ≤ 2 ^ 53 := Int.le_trans h.stop_le (by decide)

/-- The ends of the range can be written as dates and times. -/
theorem exists_coinbase_call : ∃ call, Coinbase.call r = .ok call := by
  have hbegin : Calendar.yearStart 1 ≤ 0 := by decide
  have hroom : Calendar.yearStart 9500 ≤ Calendar.yearStart 10000 - 1000 := by decide
  have hlt := h.lt
  have hnonneg := h.nonneg
  have hend := h.stop_le
  have hwritable : Calendar.Writable r.start ∧ Calendar.Writable r.stop := by
    unfold Calendar.Writable
    omega
  obtain ⟨start, hstart, -⟩ := Calendar.exists_moment hwritable.1
  obtain ⟨stop, hstop, -⟩ := Calendar.exists_moment hwritable.2
  simp only [Coinbase.call, Calendar.zuluOfMs, hstart, hstop]
  exact ⟨_, rfl⟩

theorem prompt_coinbase (hspot : r.isSpot = true) : (Coinbase.fetch r).Prompt := by
  obtain ⟨call, hcall⟩ := h.exists_coinbase_call
  rw [Coinbase.fetch, if_pos hspot, hcall]
  exact Dialogue.prompt_request call (Coinbase.read r)

/-- The number of bars to ask for can be formed. -/
theorem exists_historySize : ∃ size, Htx.historySize r = .ok size := by
  have hlt := h.lt
  have hnonneg := h.nonneg
  have hstop := h.stop_le_two_pow
  have hwidth := h.width_pos
  have hceil := Double.ceil?_ofQuotient (by omega : 0 ≤ r.stop - r.start) (by omega) hwidth h.width_le
  rw [Htx.historySize, if_neg (by omega), hceil]
  exact ⟨_, rfl⟩

theorem prompt_htx : (Htx.fetch r).Prompt := by
  obtain ⟨size, hsize⟩ := h.exists_historySize
  rw [Htx.fetch, hsize]
  exact Dialogue.prompt_request _ _

theorem prompt_kraken : (Kraken.fetch r).Prompt := by
  unfold Kraken.fetch
  split
  · exact Pager.prompt_forward _ h.startSecond_lt_stopSecond
  · exact Dialogue.prompt_request _ _

theorem prompt_mexc : (Mexc.fetch r).Prompt := by
  unfold Mexc.fetch
  split
  · exact Pager.prompt_forward _ h.lt
  · exact Dialogue.prompt_request _ _

/-- Coinbase has a spot market only; every other exchange answers for both of its markets. -/
theorem prompt_fetch (registry : Registry) (hfetched : registry.fetched r.source.exchange = true)
    (hspot : r.source.exchange = .coinbase → r.source.market = .spot) : (registry.fetch r).Prompt := by
  rw [Registry.fetch, if_pos hfetched]
  cases hexchange : r.source.exchange with
  | binance => exact Pager.prompt_forward _ h.lt
  | bybit => exact Pager.prompt_backward _ h.lt
  | okx => exact Pager.prompt_backward _ h.lt
  | coinbase => exact h.prompt_coinbase (decide_eq_true (hspot hexchange))
  | kraken => exact h.prompt_kraken
  | kucoin => exact Pager.prompt_backward _ h.startSecond_lt_stopSecond
  | bitget => exact Dialogue.prompt_request _ _
  | gateio => exact Pager.prompt_backward _ h.startSecond_lt_stopSecond
  | htx => exact h.prompt_htx
  | mexc => exact h.prompt_mexc

end FetchRequest.Dated

/-- A range of whole minutes that is not empty, from 1970 on, and candles of a usable length. -/
structure FetchRequest.Timely (r : FetchRequest) : Prop where
  start_dvd : minuteMs ∣ r.start
  stop_dvd : minuteMs ∣ r.stop
  nonneg : 0 ≤ r.start
  lt : r.start < r.stop
  stop_le : r.stop ≤ Calendar.yearStart 9500
  width_pos : 0 < r.width
  width_le : r.width ≤ 2 ^ 53

theorem FetchRequest.Timely.dated {r : FetchRequest} (h : r.Timely) : r.Dated where
  nonneg := h.nonneg
  second_le := FetchRequest.second_le_of_dvd h.start_dvd h.stop_dvd h.lt
  stop_le := h.stop_le
  width_pos := h.width_pos
  width_le := h.width_le

/-! ## Fetches that cannot be asked for -/

/-- A fetch of a range of seconds comes straight to a question, or it fails without one. -/
theorem Registry.asks_or_fails (registry : Registry) {r : FetchRequest} (hlt : r.start < r.stop)
    (hseconds : r.startSecond < r.stopSecond) :
    (registry.fetch r).Asks ∨ ∃ cause, registry.fetch r = .fail cause ∨
      registry.fetch r = .check (.fail cause) := by
  unfold Registry.fetch
  split
  · cases r.source.exchange with
    | binance => exact Or.inl (Pager.prompt_forward _ hlt).1
    | bybit => exact Or.inl (Pager.prompt_backward _ hlt).1
    | okx => exact Or.inl (Pager.prompt_backward _ hlt).1
    | coinbase =>
      simp only [Exchange.fetch, Coinbase.fetch]
      split
      · cases Coinbase.call r with
        | error cause => exact Or.inr ⟨cause, Or.inr rfl⟩
        | ok call => exact Or.inl trivial
      · exact Or.inr ⟨_, Or.inl rfl⟩
    | kraken =>
      simp only [Exchange.fetch, Kraken.fetch]
      split
      · exact Or.inl (Pager.prompt_forward _ hseconds).1
      · exact Or.inl (Dialogue.prompt_request _ _).1
    | kucoin => exact Or.inl (Pager.prompt_backward _ hseconds).1
    | bitget => exact Or.inl (Dialogue.prompt_request _ _).1
    | gateio => exact Or.inl (Pager.prompt_backward _ hseconds).1
    | htx =>
      simp only [Exchange.fetch, Htx.fetch]
      cases Htx.historySize r with
      | error cause => exact Or.inr ⟨cause, Or.inl rfl⟩
      | ok size => exact Or.inl (Dialogue.prompt_request _ _).1
    | mexc =>
      simp only [Exchange.fetch, Mexc.fetch]
      split
      · exact Or.inl (Pager.prompt_forward _ hlt).1
      · exact Or.inl (Dialogue.prompt_request _ _).1
  · exact Or.inr ⟨_, Or.inl rfl⟩

/-- So if it comes to an end it has asked. -/
theorem Registry.calls_pos (registry : Registry) {r : FetchRequest} (hlt : r.start < r.stop)
    (hseconds : r.startSecond < r.stopSecond) {σ : Type} {world : World σ} {state : σ}
    (hgoing : world.withdrawn state = false) {raw : List Candle}
    (hraw : ((registry.fetch r).run world state).outcome = .ok raw) :
    0 < ((registry.fetch r).run world state).calls.length := by
  rcases registry.asks_or_fails hlt hseconds with hasks | ⟨cause, hfails | hfails⟩
  · exact hasks.calls_pos hgoing
  · rw [hfails] at hraw
    exact absurd hraw (by simp [Dialogue.run])
  · rw [hfails, Dialogue.run_check hgoing] at hraw
    exact absurd hraw (by simp [Dialogue.run])

end Candlestick
