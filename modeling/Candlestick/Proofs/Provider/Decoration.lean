import Mathlib.Logic.Function.Iterate
import Candlestick.Proofs.Market.Symbol
import Candlestick.Proofs.Network.Cursors
import Candlestick.Proofs.Network.Withdrawal
import Candlestick.Provider.Directory

set_option autoImplicit false

/-! # Symbols that are marked after they are put together

A whole symbol that is given as the asset stands for itself (`Symbol.join`). The swaps of OKX and the
futures of Kraken put a mark around what that rule gives. The rule does recognise a marked symbol as whole,
but the mark is put around it once more, and so a symbol gains one mark at each turn. -/

namespace Candlestick

open Text

/-- Contracts whose symbols carry a mark of their exchange. -/
structure Decoration where
  exchange : Exchange
  /-- The parameter of a question that holds the symbol. -/
  key : String
  /-- The symbol of a request without the mark. -/
  bare : FetchRequest → String
  mark : String → String

namespace Decoration

/-- OKX's swaps. -/
def swaps : Decoration where
  exchange := .okx
  key := "instId"
  bare r := Symbol.join r.asset r.quote "-"
  mark s := s ++ "-SWAP"

/-- Kraken's futures. -/
def futures : Decoration where
  exchange := .kraken
  key := "symbol"
  bare := Kraken.symbol
  mark s := "PI_" ++ s

def all : List Decoration := [swaps, futures]

/-- The symbol that a request for such a contract asks for. -/
def symbol (d : Decoration) (r : FetchRequest) : String := d.mark (d.bare r)

/-- The same request with its symbol in place of the asset. -/
def again (d : Decoration) (r : FetchRequest) : FetchRequest := { r with asset := d.symbol r }

variable {d : Decoration} {r : FetchRequest}

/-! ## Marked symbols are recognised -/

theorem isLeg_join {asset quote separator : String} (hseparator : Symbol.IsLeg separator) :
    Symbol.IsLeg (Symbol.join asset quote separator) := by
  rw [Symbol.join_eq_whole, if_neg Bool.false_ne_true]
  exact Symbol.isLeg_whole hseparator (Symbol.isLeg_of_settled (by simp))

/-- A text in normal form with a hyphen or an underscore is a whole symbol. -/
theorem join_of_separated {s quote separator : String} (hs : Symbol.IsLeg s)
    (hsep : '-' ∈ s.toList ∨ '_' ∈ s.toList) : Symbol.join s quote separator = s := by
  have hleg := Symbol.leg_of_isLeg hs
  have hcompound : Symbol.isCompound (Symbol.leg s) (Symbol.leg quote) = true := by
    rw [hleg, Symbol.isCompound_iff]
    exact hsep.imp_right Or.inl
  rw [Symbol.join_of_isCompound hcompound, if_neg Bool.false_ne_true, hleg]

theorem symbol_swaps (r : FetchRequest) :
    swaps.symbol r = Symbol.join r.asset r.quote "-" ++ "-SWAP" := by
  simp only [symbol, swaps]

theorem symbol_futures (r : FetchRequest) :
    futures.symbol r = "PI_" ++ Symbol.join (Kraken.asset r.asset) r.quote "" := by
  simp only [symbol, futures, Kraken.symbol]

theorem isLeg_symbol_swaps (r : FetchRequest) : Symbol.IsLeg (swaps.symbol r) := by
  have hhyphen : Symbol.IsLeg "-" := Symbol.isLeg_of_settled (Symbol.isSettled_of_separator (by decide))
  have hmark : ∀ c ∈ "-SWAP".toList, IsSettled c := Symbol.isSettled_of_all (by decide +kernel)
  rw [symbol_swaps]
  exact Symbol.isLeg_append (isLeg_join hhyphen) (Symbol.isLeg_of_settled hmark)

theorem isLeg_symbol_futures (r : FetchRequest) : Symbol.IsLeg (futures.symbol r) := by
  have hempty : Symbol.IsLeg "" := Symbol.isLeg_of_settled (Symbol.isSettled_of_separator (by decide))
  have hmark : ∀ c ∈ "PI_".toList, IsSettled c := Symbol.isSettled_of_all (by decide +kernel)
  rw [symbol_futures]
  exact Symbol.isLeg_append (Symbol.isLeg_of_settled hmark) (isLeg_join hempty)

/-- Asked for once more, a symbol comes out of the rule for whole symbols as it is. -/
theorem bare_again (hd : d ∈ all) (r : FetchRequest) : d.bare (d.again r) = d.symbol r := by
  rcases List.mem_cons.1 hd with rfl | hd
  · have hhyphen : '-' ∈ (swaps.symbol r).toList := by
      rw [symbol_swaps, String.toList_append]
      exact List.mem_append_right _ (by decide)
    have hbare : swaps.bare (swaps.again r) = Symbol.join (swaps.symbol r) r.quote "-" := by
      simp only [again, swaps]
    rw [hbare]
    exact join_of_separated (isLeg_symbol_swaps r) (Or.inl hhyphen)
  · obtain rfl := List.mem_singleton.1 hd
    have hunderscore : '_' ∈ (futures.symbol r).toList := by
      rw [symbol_futures, String.toList_append]
      exact List.mem_append_left _ (by decide)
    -- A marked symbol is not bitcoin's name, which Kraken would replace.
    have hname : futures.symbol r ≠ "BTC" := by
      intro hbtc
      rw [hbtc] at hunderscore
      exact absurd hunderscore (by decide)
    have hasset : Kraken.asset (futures.symbol r) = futures.symbol r := by
      rw [Kraken.asset, Symbol.leg_of_isLeg (isLeg_symbol_futures r)]
      exact if_neg hname
    have hbare : futures.bare (futures.again r) = Symbol.join (futures.symbol r) r.quote "" := by
      simp only [again, futures, Kraken.symbol] at hasset ⊢
      rw [hasset]
    rw [hbare]
    exact join_of_separated (isLeg_symbol_futures r) (Or.inr hunderscore)

/-! ## One more mark at each turn -/

/-- What was asked for is marked once more. -/
theorem symbol_again (hd : d ∈ all) (r : FetchRequest) : d.symbol (d.again r) = d.mark (d.symbol r) := by
  rw [symbol, bare_again hd]

theorem symbol_iterate (hd : d ∈ all) (r : FetchRequest) (n : Nat) :
    d.symbol (d.again^[n] r) = d.mark^[n] (d.symbol r) := by
  induction n with
  | zero => rfl
  | succ n ih =>
    rw [Function.iterate_succ_apply', Function.iterate_succ_apply', symbol_again hd, ih]

theorem length_lt_mark (hd : d ∈ all) (s : String) : s.length < (d.mark s).length := by
  rcases List.mem_cons.1 hd with rfl | hd
  · rw [swaps, String.length_append]
    exact Nat.lt_add_of_pos_right (by decide)
  · obtain rfl := List.mem_singleton.1 hd
    rw [futures, String.length_append]
    exact Nat.lt_add_of_pos_left (by decide)

theorem length_lt_iterate (hd : d ∈ all) (s : String) (n : Nat) :
    s.length < (d.mark^[n + 1] s).length := by
  induction n with
  | zero => exact length_lt_mark hd s
  | succ n ih =>
    rw [Function.iterate_succ_apply']
    exact Nat.lt_trans ih (length_lt_mark hd _)

end Decoration

/-! ## The questions -/

/-- All questions of a fetch carry a symbol, whatever is answered, and where there is a range there is a
    question. -/
structure Exchange.AsksFor (exchange : Exchange) (r : FetchRequest) (key symbol : String) : Prop where
  asks : r.start < r.stop → (exchange.fetch r).Asks
  carries : ∀ {σ : Type} (world : World σ) (state : σ),
    ∀ call ∈ ((exchange.fetch r).run world state).calls, call.params.lookup key = some (.str symbol)

/-- There is one symbol that a fetch asks for. -/
theorem Exchange.AsksFor.unique {exchange : Exchange} {r : FetchRequest} {key s t : String}
    (hs : exchange.AsksFor r key s) (ht : exchange.AsksFor r key t) (hlt : r.start < r.stop) : s = t := by
  let world : World Unit := World.patient fun state _ => (.ok .null, state)
  have hgoing : world.withdrawn () = false := rfl
  obtain ⟨call, hcall⟩ := List.exists_mem_of_length_pos ((hs.asks hlt).calls_pos hgoing)
  have hcarried := (hs.carries world () call hcall).symm.trans (ht.carries world () call hcall)
  exact Json.str.inj (Option.some.inj hcarried)

namespace Decoration

variable {d : Decoration} {r : FetchRequest}

theorem asksFor_swaps (h : r.isSpot = false) :
    Exchange.okx.AsksFor r swaps.key (swaps.symbol r) where
  asks hlt := (Pager.prompt_backward _ hlt).1
  carries world state call hcall := by
    have hinstrument : Okx.instrument r = swaps.symbol r := by
      simp only [Okx.instrument, h, symbol_swaps, Bool.false_eq_true, if_false]
    obtain ⟨cursors, hcalls, -, -⟩ := (Okx.pager r).askedAt_backward world r.start state r.stop
    have hcall : call ∈ (((Okx.pager r).backward r.start r.stop).run world state).calls := hcall
    rw [hcalls] at hcall
    obtain ⟨cursor, -, rfl⟩ := List.mem_map.1 hcall
    simp only [Okx.pager, hinstrument, swaps, List.lookup_cons_self]

theorem asksFor_futures (h : r.isSpot = false) :
    Exchange.kraken.AsksFor r futures.key (futures.symbol r) := by
  have hfetch : Exchange.kraken.fetch r = Kraken.fetchFutures r := by
    simp only [Exchange.fetch, Kraken.fetch, h, Bool.false_eq_true, if_false]
  refine ⟨fun _ => ?_, fun world state call hcall => ?_⟩
  · rw [hfetch]
    exact (Dialogue.prompt_request _ _).1
  · rw [hfetch] at hcall
    obtain rfl := Dialogue.mem_calls_request hcall
    simp only [symbol, futures, List.lookup_cons_self]

/-- A request for such a contract asks for the marked symbol. -/
theorem asksFor (hd : d ∈ all) (h : r.isSpot = false) : d.exchange.AsksFor r d.key (d.symbol r) := by
  rcases List.mem_cons.1 hd with rfl | hd
  · exact asksFor_swaps h
  · obtain rfl := List.mem_singleton.1 hd
    exact asksFor_futures h

/-- Only the asset is replaced. -/
theorem again_iterate_unchanged (d : Decoration) (r : FetchRequest) (n : Nat) :
    (d.again^[n] r).source = r.source ∧ (d.again^[n] r).start = r.start ∧
      (d.again^[n] r).stop = r.stop := by
  induction n with
  | zero => exact ⟨rfl, rfl, rfl⟩
  | succ n ih =>
    rw [Function.iterate_succ_apply']
    exact ih

/-- The symbol of a future, given as the asset over and over again, is whole to the rule at each turn and is
    asked for with one more mark at each turn; so no later turn asks for it as it was. -/
theorem marks_again (hd : d ∈ all) (hfutures : r.isSpot = false) :
    (∀ n, d.exchange.AsksFor (d.again^[n] r) d.key (d.mark^[n] (d.symbol r))) ∧
    (∀ n, d.bare (d.again^[n + 1] r) = d.mark^[n] (d.symbol r)) ∧
    (r.start < r.stop → ∀ n, ¬ d.exchange.AsksFor (d.again^[n + 1] r) d.key (d.symbol r)) := by
  have hasks : ∀ n, d.exchange.AsksFor (d.again^[n] r) d.key (d.mark^[n] (d.symbol r)) := by
    intro n
    obtain ⟨hsource, -, -⟩ := again_iterate_unchanged d r n
    have hfutures' : (d.again^[n] r).isSpot = false := by
      rw [FetchRequest.isSpot, hsource]
      exact hfutures
    rw [← symbol_iterate hd]
    exact asksFor hd hfutures'
  refine ⟨hasks, fun n => ?_, fun hlt n hagain => ?_⟩
  · rw [Function.iterate_succ_apply', bare_again hd, symbol_iterate hd]
  · obtain ⟨-, hstart, hstop⟩ := again_iterate_unchanged d r (n + 1)
    have hsame := (hasks (n + 1)).unique hagain (by rwa [hstart, hstop])
    have hlonger := length_lt_iterate hd (d.symbol r) n
    rw [hsame] at hlonger
    exact Nat.lt_irrefl _ hlonger

/-! ## Bitcoin -/

/-- A request for an hour of a future. -/
def ofFuture (exchange : Exchange) (asset quote : String) : FetchRequest where
  source := ⟨exchange, .futures⟩
  asset := asset
  quote := quote
  start := 0
  stop := 3600000
  interval := "1H"
  label := "1h"
  width := 3600000

theorem symbol_ofFuture_okx : swaps.symbol (ofFuture .okx "BTC" "USDT") = "BTC-USDT-SWAP" := by
  decide +kernel

theorem symbol_ofFuture_kraken : futures.symbol (ofFuture .kraken "BTC" "USD") = "PI_XBTUSD" := by
  decide +kernel

/-- At the third turn OKX is asked for a swap of a swap of a swap, and not for the swap. -/
theorem marks_again_swap :
    let r := ofFuture .okx "BTC" "USDT"
    swaps ∈ all ∧ r.isSpot = false ∧ r.start < r.stop ∧
      Exchange.okx.AsksFor (swaps.again (swaps.again r)) "instId" "BTC-USDT-SWAP-SWAP-SWAP" ∧
      swaps.bare (swaps.again (swaps.again r)) = "BTC-USDT-SWAP-SWAP" ∧
      ¬ Exchange.okx.AsksFor (swaps.again (swaps.again r)) "instId" "BTC-USDT-SWAP" := by
  intro r
  have hlt : r.start < r.stop := by decide
  obtain ⟨hasks, hwhole, hother⟩ := marks_again (d := swaps) (r := r) List.mem_cons_self rfl
  have hasks := hasks 2
  have hwhole := hwhole 1
  have hother := hother hlt 1
  rw [symbol_ofFuture_okx] at hasks hwhole hother
  exact ⟨List.mem_cons_self, rfl, hlt, hasks, hwhole, hother⟩

/-- OKX and Kraken are asked for another symbol when they are given the one that they were asked for. -/
theorem bitcoin_marked_twice :
    let okx := ofFuture .okx "BTC" "USDT"
    let kraken := ofFuture .kraken "BTC" "USD"
    (IsAscii okx.asset ∧ IsAscii okx.quote ∧ strip okx.quote ≠ "" ∧
      Exchange.okx.AsksFor okx "instId" "BTC-USDT-SWAP" ∧
      ¬ Exchange.okx.AsksFor { okx with asset := "BTC-USDT-SWAP" } "instId" "BTC-USDT-SWAP") ∧
    (IsAscii kraken.asset ∧ IsAscii kraken.quote ∧ strip kraken.quote ≠ "" ∧
      Exchange.kraken.AsksFor kraken "symbol" "PI_XBTUSD" ∧
      ¬ Exchange.kraken.AsksFor { kraken with asset := "PI_XBTUSD" } "symbol" "PI_XBTUSD") := by
  intro okx kraken
  have hswap : Exchange.okx.AsksFor okx swaps.key (swaps.symbol okx) := asksFor_swaps rfl
  have hfuture : Exchange.kraken.AsksFor kraken futures.key (futures.symbol kraken) := asksFor_futures rfl
  have hswap' : Exchange.okx.AsksFor (swaps.again okx) swaps.key (swaps.symbol (swaps.again okx)) :=
    asksFor_swaps rfl
  have hfuture' : Exchange.kraken.AsksFor (futures.again kraken) futures.key
      (futures.symbol (futures.again kraken)) := asksFor_futures rfl
  have hlt : okx.start < okx.stop := by decide
  rw [symbol_again List.mem_cons_self, again, symbol_ofFuture_okx] at hswap'
  rw [symbol_again (List.mem_cons_of_mem _ List.mem_cons_self), again, symbol_ofFuture_kraken] at hfuture'
  rw [symbol_ofFuture_okx] at hswap
  rw [symbol_ofFuture_kraken] at hfuture
  refine ⟨⟨by decide +kernel, by decide +kernel, by decide +kernel, hswap, fun hsame => ?_⟩,
    by decide +kernel, by decide +kernel, by decide +kernel, hfuture, fun hsame => ?_⟩
  · exact absurd (hswap'.unique hsame hlt) (by decide +kernel)
  · exact absurd (hfuture'.unique hsame hlt) (by decide +kernel)

end Decoration

end Candlestick
