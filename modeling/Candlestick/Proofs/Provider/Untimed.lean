import Candlestick.Provider.Directory
import Candlestick.Proofs.Network.Dialogue

set_option autoImplicit false

/-! # Candles of rows that carry no time of their end

Only the rows of the klines kind carry the time at which their candle ends. What holds of every candle
that a request makes without such a time holds of everything that the other sources yield, whatever they
answer: each candle ends when the request's interval is over, however long it was in fact. -/

namespace Candlestick

/-- Whether the rows of a source carry no time at which their candles end. -/
def Source.isUntimed (source : Source) : Bool :=
  match source.exchange with
  | .binance => false
  | .mexc => source.market ≠ .spot
  | _ => true

/-- Every candle that a request makes of a row without a time of its end has a property. -/
def FetchRequest.Makes (r : FetchRequest) (P : Candle → Prop) : Prop :=
  ∀ {start : Int} {opening highest lowest closing volume trades : Json} {c : Candle},
    r.candle start opening highest lowest closing volume trades = .ok c → P c

namespace FetchRequest

variable {r : FetchRequest} {P : Candle → Prop} {c : Candle}

/-- The form that every reader of a row has: a time, and a candle where the time is usable. -/
theorem of_timed {time : Except Failure (Option Int)} {make : Int → Except Failure Candle}
    (hmake : ∀ start c, make start = .ok c → P c)
    (h : (do
      match ← time with
      | none => return none
      | some start => some <$> make start) = .ok (some c)) : P c := by
  obtain ⟨start?, _, h⟩ := exists_of_bind_eq_ok h
  cases start? with
  | none => exact absurd h (by simp [pure, Except.pure])
  | some start =>
    obtain ⟨made, hmade, heq⟩ := exists_of_map_eq_ok h
    cases heq
    exact hmake start c hmade

theorem Makes.of_rowCandle (hP : r.Makes P) {scale : Int} {opening highest lowest closing volume : Nat}
    {row : Json} (h : r.rowCandle scale opening highest lowest closing volume row = .ok (some c)) : P c :=
  of_timed (fun _ _ => hP) h

theorem Makes.of_memberCandle (hP : r.Makes P) {scale : Int}
    {time opening highest lowest closing volume : String} {row : Json}
    (h : r.memberCandle scale time opening highest lowest closing volume row = .ok (some c)) : P c :=
  of_timed (fun _ _ => hP) h

end FetchRequest

/-- What every row's candle has, every candle of the rows has. -/
theorem forall_of_readRows {P : Candle → Prop} {read : Json → Except Failure (Option Candle)}
    (hread : ∀ row c, read row = .ok (some c) → P c) :
    ∀ {rows : List Json} {cs : List Candle}, readRows read rows = .ok cs → ∀ c ∈ cs, P c
  | [], cs, h, c, hc => by
    cases h
    exact absurd hc (by simp)
  | row :: rest, cs, h, c, hc => by
    unfold readRows at h
    obtain ⟨candle, hcandle, h⟩ := exists_of_bind_eq_ok h
    obtain ⟨others, hothers, h⟩ := exists_of_bind_eq_ok h
    cases h
    rcases List.mem_append.1 hc with hmem | hmem
    · rw [Option.mem_toList] at hmem
      exact hread row c (hcandle.trans (congrArg Except.ok hmem))
    · exact forall_of_readRows hread hothers c hmem

/-- A page of no candles has none without a property. -/
theorem forall_page_last {P : Candle → Prop} : ∀ c ∈ Page.last.candles, P c :=
  fun _ hc => absurd hc (by simp [Page.last])

/-! ## The exchanges -/

section Exchanges

variable {r : FetchRequest} {P : Candle → Prop} (hP : r.Makes P)
include hP

theorem Bybit.yields_fetch : (fetch r).Yields fun cs => ∀ c ∈ cs, P c := by
  refine Pager.yields_backward (fun cursor answer page h => ?_) _ _
  change Bybit.page r cursor answer = .ok page at h
  unfold Bybit.page at h
  split at h
  · cases h
    exact forall_page_last
  · split at h
    · cases h
    · obtain ⟨rows, _, h⟩ := exists_of_bind_eq_ok h
      split at h
      · obtain ⟨candles, hcandles, h⟩ := exists_of_bind_eq_ok h
        have hmade := forall_of_readRows (fun _ _ => hP.of_rowCandle) hcandles
        extract_lets earliest at h
        split at h
        · cases h
          exact hmade
        · split at h <;>
          · cases h
            exact hmade
      · cases h
        exact forall_page_last

theorem Okx.yields_fetch : (fetch r).Yields fun cs => ∀ c ∈ cs, P c := by
  refine Pager.yields_backward (fun cursor answer page h => ?_) _ _
  change Okx.page r cursor answer = .ok page at h
  unfold Okx.page at h
  split at h
  · cases h
    exact forall_page_last
  · split at h
    · cases h
    · split at h
      · obtain ⟨candles, hcandles, h⟩ := exists_of_bind_eq_ok h
        have hmade := forall_of_readRows (fun _ _ => hP.of_rowCandle) hcandles
        extract_lets earliest at h
        split at h <;>
        · cases h
          exact hmade
      · cases h
        exact forall_page_last

theorem Kucoin.yields_fetch : (fetch r).Yields fun cs => ∀ c ∈ cs, P c := by
  refine Pager.yields_backward (fun cursor answer page h => ?_) _ _
  change Kucoin.page r cursor answer = .ok page at h
  unfold Kucoin.page at h
  split at h
  · cases h
    exact forall_page_last
  · split at h
    · cases h
    · split at h
      · obtain ⟨candles, hcandles, h⟩ := exists_of_bind_eq_ok h
        cases h
        exact forall_of_readRows (fun _ _ => hP.of_rowCandle) hcandles
      · cases h
        exact forall_page_last

theorem Gateio.of_row {c : Candle} {item : Json} (h : row r item = .ok (some c)) : P c := by
  unfold row at h
  split at h
  · exact hP.of_memberCandle h
  · exact hP.of_rowCandle h

theorem Gateio.yields_fetch : (fetch r).Yields fun cs => ∀ c ∈ cs, P c := by
  refine Pager.yields_backward (fun cursor answer page h => ?_) _ _
  change Gateio.page r cursor answer = .ok page at h
  unfold Gateio.page at h
  split at h
  · obtain ⟨candles, hcandles, h⟩ := exists_of_bind_eq_ok h
    have hmade := forall_of_readRows (fun _ _ => of_row hP) hcandles
    extract_lets earliest at h
    split at h <;>
    · cases h
      exact hmade
  · split at h
    · cases h
    · cases h
      exact forall_page_last

theorem Coinbase.of_row {c : Candle} {item : Json} (h : row r item = .ok (some c)) : P c := by
  unfold row at h
  split at h
  · exact FetchRequest.of_timed (fun _ _ => hP) h
  · exact hP.of_rowCandle h

theorem Coinbase.yields_fetch : (fetch r).Yields fun cs => ∀ c ∈ cs, P c := by
  unfold fetch
  split
  · rw [Dialogue.yields_check]
    split
    · trivial
    · rw [Dialogue.yields_ask]
      refine fun answer => Dialogue.yields_ofExcept fun cs h => ?_
      unfold read at h
      split at h
      · cases h
        exact fun _ hc => absurd hc (by simp)
      · split at h
        · cases h
        · obtain ⟨rows, _, h⟩ := exists_of_bind_eq_ok h
          exact forall_of_readRows (fun _ _ => of_row hP) h
  · trivial

theorem Kraken.of_row {c : Candle} {item : Json} (h : row r item = .ok (some c)) : P c :=
  FetchRequest.of_timed (fun _ _ => hP) h

theorem Kraken.yields_fetch : (fetch r).Yields fun cs => ∀ c ∈ cs, P c := by
  unfold fetch
  split
  · refine Pager.yields_forward (fun cursor answer page h => ?_) _ _
    change Kraken.page r cursor answer = .ok page at h
    unfold Kraken.page at h
    split at h
    · cases h
      exact forall_page_last
    · obtain ⟨errors, _, h⟩ := exists_of_bind_eq_ok h
      split at h
      · cases h
      · obtain ⟨rows, _, h⟩ := exists_of_bind_eq_ok h
        split at h
        · obtain ⟨candles, hcandles, h⟩ := exists_of_bind_eq_ok h
          obtain ⟨last, _, h⟩ := exists_of_bind_eq_ok h
          cases h
          exact forall_of_readRows (fun _ _ => of_row hP) hcandles
        · cases h
          exact forall_page_last
  · refine Dialogue.yields_request fun answer cs h => ?_
    unfold readFutures at h
    split at h
    · cases h
      exact fun _ hc => absurd hc (by simp)
    · obtain ⟨rows, _, h⟩ := exists_of_bind_eq_ok h
      exact forall_of_readRows (fun _ _ => hP.of_memberCandle) h

theorem Bitget.of_row {c : Candle} {item : Json} (h : row r item = .ok (some c)) : P c := by
  unfold row at h
  split at h
  · exact hP.of_memberCandle h
  · exact hP.of_rowCandle h

theorem Bitget.yields_fetch : (fetch r).Yields fun cs => ∀ c ∈ cs, P c := by
  refine Dialogue.yields_request fun answer cs h => ?_
  unfold read at h
  split at h
  · exact forall_of_readRows (fun _ _ => of_row hP) h
  · split at h
    · split at h
      · exact forall_of_readRows (fun _ _ => of_row hP) h
      · cases h
        exact fun _ hc => absurd hc (by simp)
    · cases h
  · cases h
    exact fun _ hc => absurd hc (by simp)

theorem Htx.of_row {c : Candle} {item : Json} (h : row r item = .ok (some c)) : P c :=
  FetchRequest.of_timed (fun _ _ => hP) h

theorem Htx.yields_fetch : (fetch r).Yields fun cs => ∀ c ∈ cs, P c := by
  unfold fetch
  split
  · trivial
  · refine Dialogue.yields_request fun answer cs h => ?_
    unfold read at h
    split at h
    · cases h
      exact fun _ hc => absurd hc (by simp)
    · split at h
      · cases h
      · obtain ⟨rows, _, h⟩ := exists_of_bind_eq_ok h
        exact forall_of_readRows (fun _ _ => of_row hP) h

theorem Mexc.of_readColumns {data : Json} : ∀ {times : List Json} {place : Nat} {cs : List Candle},
    readColumns r data place times = .ok cs → ∀ c ∈ cs, P c
  | [], place, cs, h, c, hc => by
    cases h
    exact absurd hc (by simp)
  | time :: rest, place, cs, h, c, hc => by
    unfold readColumns at h
    extract_lets cell build at h
    -- What stands at this place, whatever there is, is followed by the rest.
    have hbuild : ∀ {candle : Option Candle}, (∀ c ∈ candle, P c) → build candle = .ok cs → P c := by
      intro candle hcandle h
      obtain ⟨others, hothers, h⟩ := exists_of_bind_eq_ok h
      cases h
      rcases List.mem_append.1 hc with hmem | hmem
      · exact hcandle c (Option.mem_toList.1 hmem)
      · exact of_readColumns hothers c hmem
    obtain ⟨start?, _, h⟩ := exists_of_bind_eq_ok h
    cases start? with
    | none =>
      obtain ⟨candle, hcandle, h⟩ := exists_of_bind_eq_ok h
      cases hcandle
      exact hbuild (by simp) h
    | some start =>
      obtain ⟨candle, hcandle, h⟩ := exists_of_bind_eq_ok h
      obtain ⟨made, hmade, rfl⟩ := exists_of_map_eq_ok hcandle
      refine hbuild (fun c hc => ?_) h
      cases hc
      exact hP hmade

theorem Mexc.yields_fetchContract : (fetchContract r).Yields fun cs => ∀ c ∈ cs, P c := by
  refine Dialogue.yields_request fun answer cs h => ?_
  unfold readContract at h
  split at h
  · cases h
  · extract_lets data at h
    split at h
    · exact of_readColumns hP h
    · cases h
      exact fun _ hc => absurd hc (by simp)

/-- What every candle has that is made without a time of its end, an untimed source yields. -/
theorem Exchange.yields_untimed (huntimed : r.source.isUntimed = true) :
    (r.source.exchange.fetch r).Yields fun cs => ∀ c ∈ cs, P c := by
  unfold Source.isUntimed at huntimed
  cases hexchange : r.source.exchange with
  | binance => exact absurd huntimed (by simp [hexchange])
  | bybit => exact Bybit.yields_fetch hP
  | okx => exact Okx.yields_fetch hP
  | coinbase => exact Coinbase.yields_fetch hP
  | kraken => exact Kraken.yields_fetch hP
  | kucoin => exact Kucoin.yields_fetch hP
  | bitget => exact Bitget.yields_fetch hP
  | gateio => exact Gateio.yields_fetch hP
  | htx => exact Htx.yields_fetch hP
  | mexc =>
    have hfutures : r.isSpot = false := by simpa [hexchange, FetchRequest.isSpot] using huntimed
    rw [Exchange.fetch, Mexc.fetch, hfutures]
    exact Mexc.yields_fetchContract hP

end Exchanges

/-! ## The nominal end -/

/-- Without a time of its end a candle lasts as long as the request's interval. -/
theorem FetchRequest.makes_nominal (r : FetchRequest) : r.Makes fun c => c.stop = c.start + r.width := by
  intro start opening highest lowest closing volume trades c h
  unfold candle at h
  obtain ⟨stop?, hstop, h⟩ := exists_of_bind_eq_ok h
  cases hstop
  obtain ⟨_, _, h⟩ := exists_of_bind_eq_ok h
  obtain ⟨_, _, h⟩ := exists_of_bind_eq_ok h
  obtain ⟨_, _, h⟩ := exists_of_bind_eq_ok h
  obtain ⟨_, _, h⟩ := exists_of_bind_eq_ok h
  obtain ⟨_, _, h⟩ := exists_of_bind_eq_ok h
  obtain ⟨_, _, h⟩ := exists_of_bind_eq_ok h
  cases h
  rfl

/-- So do all candles of an untimed source. -/
theorem Registry.yields_nominal (registry : Registry) {r : FetchRequest}
    (huntimed : r.source.isUntimed = true) :
    (registry.fetch r).Yields fun cs => ∀ c ∈ cs, c.stop = c.start + r.width := by
  unfold Registry.fetch
  split
  · exact Exchange.yields_untimed r.makes_nominal huntimed
  · trivial

end Candlestick
