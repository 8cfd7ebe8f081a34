import Candlestick.Loader.Fetch
import Candlestick.Proofs.Network.Failing

set_option autoImplicit false

/-! # How a provider can fail

A provider may not serve a market, refuse a request or not answer it, and its answer may hold numbers that
are too large and values of the wrong kind. A range whose ends cannot be written or counted is not asked
for at all. Nothing else goes wrong in a fetch (`Registry.failing_fetch`): above all no provider finds
fault with the candles that it has sent. -/

namespace Candlestick

/-- Failures that come from a provider or from the connection to it. -/
def Failure.Remote : Failure → Prop
  | .unsupportedSource .. | .provider .. | .cancelled _ | .yearOutOfRange _ | .instantUnknown | .tooLarge
  | .divisionByZero | .notCollection | .notObject => True
  | _ => False

open Failure (Remote)

/-- The form that every reader of a row has: a time, and what is made of it where there is one. -/
theorem Failing.timed {α : Type} {P : Failure → Prop} {time : Except Failure (Option Int)}
    {make : Int → Except Failure (Option α)} (htime : Failing P time) (hmake : ∀ start, Failing P (make start)) :
    Failing P (do
      match ← time with
      | none => return none
      | some start => make start) := by
  refine htime.bind fun start? => ?_
  cases start? with
  | none => exact failing_ok none
  | some start => exact hmake start

/-! ## Values -/

namespace Reading

theorem failing_number (value : Json) : Failing Remote (number value) := by
  unfold number
  split
  · exact failing_ok _
  · extract_lets x
    split
    · exact failing_ok x
    · exact failing_error trivial
  all_goals exact failing_ok _

theorem failing_volume (value : Json) : Failing Remote (volume value) := (failing_number value).map _

theorem failing_count (value : Json) : Failing Remote (count value) := (failing_number value).map _

theorem failing_time (value : Json) (scale : Int) : Failing Remote (time value scale) := by
  refine (failing_number value).bind fun x => ?_
  split
  · extract_lets factor
    split
    · exact failing_ok _
    · exact failing_error trivial
  · exact failing_ok none

theorem failing_startTime (value : Json) : Failing Remote (startTime value) := by
  unfold startTime
  split
  · refine (failing_time _ 1000).bind fun ms? => ?_
    split
    · exact failing_ok _
    · split <;> exact failing_ok _
  · exact failing_time _ 1000

theorem failing_items (value : Json) : Failing Remote (items value) := by
  unfold items
  split
  · exact failing_ok _
  · exact failing_ok _
  · exact failing_ok _
  · exact failing_error trivial

theorem failing_itemsIfPresent (value : Json) : Failing Remote (itemsIfPresent value) := by
  unfold itemsIfPresent
  split
  · exact failing_items value
  · exact failing_ok []

end Reading

/-! ## Rows -/

section Rows

variable (r : FetchRequest)

theorem FetchRequest.failing_candle (start : Int)
    (opening highest lowest closing volume trades : Json) (stop : Option Int) :
    Failing Remote (r.candle start opening highest lowest closing volume trades stop) := by
  unfold candle
  extract_lets build
  have hbuild : ∀ ends, Failing Remote (build ends) := by
    intro ends
    exact (Reading.failing_number opening).bind fun _ => (Reading.failing_number highest).bind fun _ =>
      (Reading.failing_number lowest).bind fun _ => (Reading.failing_number closing).bind fun _ =>
      (Reading.failing_volume volume).bind fun _ => (Reading.failing_count trades).bind fun _ => failing_ok _
  cases stop with
  | none => exact hbuild none
  | some ms => exact (Reading.failing_time _ 1).bind hbuild

theorem FetchRequest.failing_rowCandle (scale : Int) (opening highest lowest closing volume : Nat) (row : Json) :
    Failing Remote (r.rowCandle scale opening highest lowest closing volume row) :=
  .timed (Reading.failing_time _ scale) fun start => (r.failing_candle start _ _ _ _ _ _ _).map some

theorem FetchRequest.failing_memberCandle (scale : Int) (time opening highest lowest closing volume : String)
    (row : Json) : Failing Remote (r.memberCandle scale time opening highest lowest closing volume row) :=
  .timed (Reading.failing_time _ scale) fun start => (r.failing_candle start _ _ _ _ _ _ _).map some

theorem failing_readRows {P : Failure → Prop} {read : Json → Except Failure (Option Candle)}
    (hread : ∀ row, Failing P (read row)) (rows : List Json) : Failing P (readRows read rows) := by
  induction rows with
  | nil => exact failing_ok []
  | cons row rest ih => exact (hread row).bind fun candle => ih.bind fun others => failing_ok _

theorem Klines.failing_row (row : Json) : Failing Remote (Klines.row r row) :=
  .timed (Reading.failing_time _ 1) fun start => (Reading.failing_time _ 1).bind fun _ =>
    (r.failing_candle start _ _ _ _ _ _ _).map some

theorem Gateio.failing_row (row : Json) : Failing Remote (Gateio.row r row) := by
  unfold Gateio.row
  split
  · exact r.failing_memberCandle _ _ _ _ _ _ _ row
  · exact r.failing_rowCandle _ _ _ _ _ _ row

theorem Coinbase.failing_row (row : Json) : Failing Remote (Coinbase.row r row) := by
  unfold Coinbase.row
  split
  · exact .timed (Reading.failing_startTime _) fun start => (r.failing_candle start _ _ _ _ _ _ _).map some
  · exact r.failing_rowCandle _ _ _ _ _ _ row

theorem Kraken.failing_row (row : Json) : Failing Remote (Kraken.row r row) :=
  .timed (Reading.failing_time _ 1000) fun start => (r.failing_candle start _ _ _ _ _ _ _).map some

theorem Bitget.failing_row (row : Json) : Failing Remote (Bitget.row r row) := by
  unfold Bitget.row
  split
  · exact r.failing_memberCandle _ _ _ _ _ _ _ row
  · exact r.failing_rowCandle _ _ _ _ _ _ row

theorem Htx.failing_row (row : Json) : Failing Remote (Htx.row r row) :=
  .timed (Reading.failing_time _ 1000) fun start => (r.failing_candle start _ _ _ _ _ _ _).map some

theorem Mexc.failing_readColumns (data : Json) (times : List Json) (place : Nat) :
    Failing Remote (readColumns r data place times) := by
  induction times generalizing place with
  | nil => exact failing_ok []
  | cons time rest ih =>
    unfold readColumns
    extract_lets cell build
    have hbuild : ∀ candle, Failing Remote (build candle) := fun candle =>
      (ih (place + 1)).bind fun others => failing_ok _
    refine (Reading.failing_time time 1000).bind fun start? => ?_
    cases start? with
    | none => exact (failing_ok none).bind hbuild
    | some start => exact ((r.failing_candle start _ _ _ _ _ _ _).map some).bind hbuild

end Rows

/-! ## The exchanges -/

section Exchanges

variable (r : FetchRequest)

theorem Klines.failing_fetch (e : Endpoint) (symbol : String) : (Klines.fetch e symbol r).Failing Remote := by
  refine Pager.failing_forward (fun cursor answer => ?_) _ _
  change Failing Remote (page e r cursor answer)
  unfold page
  split
  · exact failing_ok _
  · exact (failing_readRows (failing_row r) _).bind fun candles => (Reading.failing_time _ 1).bind fun last =>
      failing_ok _
  · split
    · exact failing_ok _
    · exact failing_error trivial
  · exact failing_ok _

theorem Bybit.failing_rows (answer : Json) : Failing Remote (rows answer) := by
  unfold rows
  extract_lets result
  split
  · exact failing_ok _
  · split
    · exact failing_ok _
    · exact failing_error trivial

theorem Bybit.failing_fetch : (Bybit.fetch r).Failing Remote := by
  refine Pager.failing_backward (fun cursor answer => ?_) _ _
  change Failing Remote (page r cursor answer)
  unfold page
  split
  · exact failing_ok _
  · split
    · exact failing_error trivial
    · refine (failing_rows answer).bind fun found => ?_
      split
      · refine (failing_readRows (r.failing_rowCandle 1 1 2 3 4 5) _).bind fun candles => ?_
        extract_lets earliest
        split
        · exact failing_ok _
        · split <;> exact failing_ok _
      · exact failing_ok _

theorem Okx.failing_fetch : (Okx.fetch r).Failing Remote := by
  refine Pager.failing_backward (fun cursor answer => ?_) _ _
  change Failing Remote (page r cursor answer)
  unfold page
  split
  · exact failing_ok _
  · split
    · exact failing_error trivial
    · split
      · refine (failing_readRows (r.failing_rowCandle 1 1 2 3 4 5) _).bind fun candles => ?_
        extract_lets earliest
        split <;> exact failing_ok _
      · exact failing_ok _

theorem Kucoin.failing_fetch : (Kucoin.fetch r).Failing Remote := by
  refine Pager.failing_backward (fun cursor answer => ?_) _ _
  change Failing Remote (page r cursor answer)
  unfold page
  split
  · exact failing_ok _
  · split
    · exact failing_error trivial
    · split
      · exact (failing_readRows (r.failing_rowCandle 1000 1 3 4 2 5) _).bind fun candles => failing_ok _
      · exact failing_ok _

theorem Gateio.failing_fetch : (Gateio.fetch r).Failing Remote := by
  refine Pager.failing_backward (fun cursor answer => ?_) _ _
  change Failing Remote (page r cursor answer)
  unfold page
  split
  · refine (failing_readRows (failing_row r) _).bind fun candles => ?_
    extract_lets earliest
    split <;> exact failing_ok _
  · split
    · exact failing_error trivial
    · exact failing_ok _

theorem Calendar.failing_zuluOfMs (ms : Int) : Failing Remote (zuluOfMs ms) := by
  refine Failing.map _ ?_
  unfold Moment.ofMs
  extract_lets seconds
  split
  · exact failing_error trivial
  · split
    · exact failing_error trivial
    · extract_lets moment year
      split
      · exact failing_error trivial
      · split
        · exact failing_error trivial
        · exact failing_ok _

theorem Coinbase.failing_call : Failing Remote (call r) :=
  (Calendar.failing_zuluOfMs r.start).bind fun _ => (Calendar.failing_zuluOfMs r.stop).bind fun _ =>
    failing_ok _

theorem Coinbase.failing_fetch : (Coinbase.fetch r).Failing Remote := by
  unfold Coinbase.fetch
  split
  · rw [Dialogue.failing_check]
    split
    · rename_i cause hcause
      exact failing_call r cause hcause
    · rw [Dialogue.failing_ask]
      refine fun answer => Dialogue.failing_ofExcept ?_
      unfold read
      split
      · exact failing_ok _
      · split
        · exact failing_error trivial
        · exact (Reading.failing_itemsIfPresent _).bind fun rows => failing_readRows (failing_row r) rows
  · trivial

theorem Kraken.failing_errors (answer : Json) : Failing Remote (errors answer) := by
  unfold errors
  extract_lets errors
  split
  · exact (Reading.failing_items _).bind fun items => failing_ok _
  · exact failing_ok none

theorem Kraken.failing_rows (result : Json) : Failing Remote (rows result) := by
  unfold rows
  split
  · exact failing_ok _
  · refine (Reading.failing_items result).bind fun keys => ?_
    split
    · exact failing_ok _
    · split
      · exact failing_ok _
      · split
        · exact failing_ok _
        · exact failing_error trivial

theorem Kraken.failing_fetch : (Kraken.fetch r).Failing Remote := by
  unfold Kraken.fetch
  split
  · refine Pager.failing_forward (fun cursor answer => ?_) _ _
    change Failing Remote (page r cursor answer)
    unfold page
    split
    · exact failing_ok _
    · refine (failing_errors answer).bind fun text? => ?_
      split
      · exact failing_error trivial
      · extract_lets result
        refine (failing_rows result).bind fun found => ?_
        split
        · exact (failing_readRows (failing_row r) _).bind fun candles =>
            (Reading.failing_time _ 1).bind fun last => failing_ok _
        · exact failing_ok _
  · refine Dialogue.failing_request fun answer => ?_
    unfold readFutures
    split
    · exact failing_ok _
    · exact (Reading.failing_itemsIfPresent _).bind fun rows =>
        failing_readRows (r.failing_memberCandle 1000 _ _ _ _ _ _) _

theorem Bitget.failing_fetch : (Bitget.fetch r).Failing Remote := by
  refine Dialogue.failing_request fun answer => ?_
  unfold read
  split
  · exact failing_readRows (failing_row r) _
  · split
    · split
      · exact failing_readRows (failing_row r) _
      · exact failing_ok []
    · exact failing_error trivial
  · exact failing_ok []

theorem Htx.failing_historySize : Failing Remote (historySize r) := by
  unfold historySize
  split
  · exact failing_error trivial
  · split
    · exact failing_error trivial
    · exact failing_ok _

theorem Htx.failing_fetch : (Htx.fetch r).Failing Remote := by
  unfold Htx.fetch
  split
  · rename_i cause hcause
    exact failing_historySize r cause hcause
  · refine Dialogue.failing_request fun answer => ?_
    unfold read
    split
    · exact failing_ok _
    · split
      · exact failing_error trivial
      · exact (Reading.failing_itemsIfPresent _).bind fun rows => failing_readRows (failing_row r) _

theorem Mexc.failing_fetch : (Mexc.fetch r).Failing Remote := by
  unfold Mexc.fetch
  split
  · exact Klines.failing_fetch r _ _
  · refine Dialogue.failing_request fun answer => ?_
    unfold readContract
    split
    · exact failing_error trivial
    · extract_lets data
      split
      · exact failing_readColumns r data _ 0
      · exact failing_ok []

/-- Whatever is answered, every failure of a fetch is the provider's. -/
theorem Exchange.failing_fetch (exchange : Exchange) : (exchange.fetch r).Failing Remote := by
  cases exchange with
  | binance => exact Klines.failing_fetch r _ _
  | bybit => exact Bybit.failing_fetch r
  | okx => exact Okx.failing_fetch r
  | coinbase => exact Coinbase.failing_fetch r
  | kraken => exact Kraken.failing_fetch r
  | kucoin => exact Kucoin.failing_fetch r
  | bitget => exact Bitget.failing_fetch r
  | gateio => exact Gateio.failing_fetch r
  | htx => exact Htx.failing_fetch r
  | mexc => exact Mexc.failing_fetch r

end Exchanges

theorem Registry.failing_fetch (registry : Registry) (r : FetchRequest) :
    (registry.fetch r).Failing Remote := by
  unfold Registry.fetch
  split
  · exact Exchange.failing_fetch r _
  · trivial

end Candlestick
