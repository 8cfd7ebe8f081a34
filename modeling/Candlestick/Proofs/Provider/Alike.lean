import Candlestick.Proofs.Provider.Attention
import Candlestick.Proofs.Provider.Written
import Candlestick.Provider.Directory

set_option autoImplicit false

/-! # All providers decode the same bars alike

Whatever the order of its columns, the unit of its times and the envelope around its rows, a provider that
shows some bars and nothing else gives the candles of these bars. Cut to a range that holds them all, they
are the bars in order, and nothing of the provider is left in them. -/

namespace Candlestick

/-- A range, and bars of one timeframe in it that start at different times. The range is a second long or
    longer, and lies in the years 1970 to 9000. -/
structure FetchRequest.Holds (r : FetchRequest) (base : TimeFrame) (bars : List Bar) : Prop where
  nonneg : 0 ≤ r.start
  second_le : r.start + 1000 ≤ r.stop
  stop_le : r.stop ≤ Calendar.yearStart 9001
  width_eq : r.width = base.ms
  sound : ∀ b ∈ bars, b.Sound base
  distinct : bars.Pairwise fun a b => a.start ≠ b.start
  inside : ∀ b ∈ bars, r.start ≤ b.start ∧ b.start < r.stop

theorem FetchRequest.Holds.dated {r : FetchRequest} {base : TimeFrame} {bars : List Bar}
    (h : r.Holds base bars) : r.Dated where
  nonneg := h.nonneg
  second_le := h.second_le
  stop_le := Int.le_trans h.stop_le (by decide)
  width_pos := h.width_eq ▸ base.ms_pos
  width_le := h.width_eq ▸ Int.le_trans base.ms_le (by decide)

/-- A world in which a source shows some bars in its first answer and none in its second, and nobody is left
    waiting. -/
structure Source.ShowsOnce {σ : Type} (source : Source) (bars : List Bar) (world : World σ) (state : σ) :
    Prop where
  patient : ∀ state, world.withdrawn state = false
  first : ∀ call, ∃ answer, (world.answer state call).1 = .ok answer ∧ source.Shows bars answer
  second : ∀ call call', ∃ answer, (world.answer (world.answer state call).2 call').1 = .ok answer ∧
    source.Shows [] answer

namespace Source.ShowsOnce

variable {σ : Type} {world : World σ} {state : σ} {source : Source} {base : TimeFrame} {bars : List Bar}
  (h : source.ShowsOnce bars world state)
include h

/-! ## One page, and one without rows -/

section Pages

variable {pager : Pager} (hpage : ∀ {bars : List Bar} {answer : Json} {cursor : Int},
  (∀ b ∈ bars, b.Sound base) → source.Shows bars answer →
    ∃ p, pager.read cursor answer = .ok p ∧ p.Draws bars)
include hpage

/-- The page after the first one has no candle and does not lead on. -/
theorem exists_second (call : Call) (next : Int) : ∃ answer page,
    (world.answer (world.answer state call).2 (pager.call next)).1 = .ok answer ∧
      pager.read next answer = .ok page ∧ page.candles = [] ∧ page.next = none := by
  obtain ⟨answer, hanswer, hshows⟩ := h.second call (pager.call next)
  obtain ⟨page, hread, hdraws⟩ := hpage (by simp) hshows
  exact ⟨answer, page, hanswer, hread, List.map_eq_nil_iff.1 hdraws.drawn, hdraws.last rfl⟩

variable (hsound : ∀ b ∈ bars, b.Sound base)
include hsound

theorem exists_forward {stop cursor : Int} (hcursor : cursor < stop) :
    ∃ cs, ((pager.forward stop cursor).run world state).outcome = .ok cs ∧ cs.map Candle.bar = bars := by
  obtain ⟨answer, hanswer, hshows⟩ := h.first (pager.call cursor)
  obtain ⟨page, hread, hdraws⟩ := hpage hsound hshows
  exact ⟨page.candles, Pager.outcome_forward_of_single hcursor h.patient hanswer hread fun next _ =>
    h.exists_second hpage _ next, hdraws.drawn⟩

theorem exists_backward {start cursor : Int} (hcursor : start < cursor) :
    ∃ cs, ((pager.backward start cursor).run world state).outcome = .ok cs ∧ cs.map Candle.bar = bars := by
  obtain ⟨answer, hanswer, hshows⟩ := h.first (pager.call cursor)
  obtain ⟨page, hread, hdraws⟩ := hpage hsound hshows
  exact ⟨page.candles, Pager.outcome_backward_of_single hcursor h.patient hanswer hread fun next _ =>
    h.exists_second hpage _ next, hdraws.drawn⟩

end Pages

/-- A provider that asks once. -/
theorem exists_request {read : Json → Except Failure (List Candle)}
    (hread : ∀ {answer}, source.Shows bars answer → ∃ cs, read answer = .ok cs ∧ cs.map Candle.bar = bars)
    (call : Call) :
    ∃ cs, ((Dialogue.request call read).run world state).outcome = .ok cs ∧ cs.map Candle.bar = bars := by
  obtain ⟨answer, hanswer, hshows⟩ := h.first call
  obtain ⟨cs, hcs, hbars⟩ := hread hshows
  exact ⟨cs, (Dialogue.outcome_request (h.patient state) hanswer read).trans hcs, hbars⟩

end Source.ShowsOnce

/-! ## All providers -/

section Providers

variable {σ : Type} {world : World σ} {state : σ} {r : FetchRequest} {base : TimeFrame} {bars : List Bar}

theorem FetchRequest.isSpot_of_source {exchange : Exchange} (h : r.source = ⟨exchange, .spot⟩) :
    r.isSpot = true := by
  simp [FetchRequest.isSpot, h]

theorem FetchRequest.not_isSpot_of_source {exchange : Exchange} (h : r.source = ⟨exchange, .futures⟩) :
    ¬ r.isSpot = true := by
  simp [FetchRequest.isSpot, h]

/-- Every provider gives the candles of the bars that its source shows, in the order of its rows. -/
theorem Source.ShowsOnce.exists_fetch (h : r.source.ShowsOnce bars world state) (hbars : r.Holds base bars) :
    ∃ cs, ((r.source.exchange.fetch r).run world state).outcome = .ok cs ∧
      cs.map Candle.bar = bars := by
  have hdated := hbars.dated
  have hwidth := hbars.width_eq
  have hsound := hbars.sound
  rcases hsource : r.source with ⟨exchange, market⟩
  rw [hsource] at h
  cases exchange with
  | binance =>
    exact h.exists_forward (fun hsound hshows => hshows.exists_page hwidth hsound _) hsound hdated.lt
  | bybit =>
    exact h.exists_backward (fun hsound hshows => hshows.exists_page hwidth hsound) hsound hdated.lt
  | okx =>
    exact h.exists_backward (fun hsound hshows => hshows.exists_page hwidth hsound) hsound hdated.lt
  | coinbase =>
    cases market with
    | spot =>
      obtain ⟨call, hcall⟩ := hdated.exists_coinbase_call
      simp only [Exchange.fetch, Coinbase.fetch, if_pos (FetchRequest.isSpot_of_source hsource), hcall]
      exact h.exists_request (fun hshows => hshows.exists_read hwidth hsound) call
    | futures =>
      obtain ⟨_, -, hnone⟩ := h.first ⟨"", "", []⟩
      exact hnone.elim
  | kraken =>
    cases market with
    | spot =>
      simp only [Exchange.fetch, Kraken.fetch, if_pos (FetchRequest.isSpot_of_source hsource)]
      exact h.exists_forward (fun hsound hshows => hshows.exists_page hwidth hsound) hsound
        hdated.startSecond_lt_stopSecond
    | futures =>
      simp only [Exchange.fetch, Kraken.fetch, if_neg (FetchRequest.not_isSpot_of_source hsource)]
      exact h.exists_request (fun hshows => hshows.exists_read hwidth hsound) _
  | kucoin =>
    exact h.exists_backward (fun hsound hshows => hshows.exists_page hwidth hsound) hsound
      hdated.startSecond_lt_stopSecond
  | bitget => exact h.exists_request (fun hshows => hshows.exists_read hwidth hsound) _
  | gateio =>
    exact h.exists_backward (fun hsound hshows => hshows.exists_page hwidth hsound) hsound
      hdated.startSecond_lt_stopSecond
  | htx =>
    obtain ⟨size, hsize⟩ := hdated.exists_historySize
    simp only [Exchange.fetch, Htx.fetch, hsize]
    exact h.exists_request (fun hshows => hshows.exists_read hwidth hsound) _
  | mexc =>
    cases market with
    | spot =>
      simp only [Exchange.fetch, Mexc.fetch, if_pos (FetchRequest.isSpot_of_source hsource)]
      exact h.exists_forward (fun hsound hshows => hshows.exists_page hwidth hsound _) hsound hdated.lt
    | futures =>
      simp only [Exchange.fetch, Mexc.fetch, if_neg (FetchRequest.not_isSpot_of_source hsource)]
      exact h.exists_request (fun hshows => hshows.exists_read hwidth hsound) _

/-- Fetching some bars and cutting them to a range that holds them gives the bars in order, whichever source
    shows them and in whichever of its layouts. -/
theorem Exchange.fetch_alike (h : r.source.ShowsOnce bars world state) (hbars : r.Holds base bars) :
    ∃ cs, ((r.source.exchange.fetch r).run world state).outcome = .ok cs ∧
      (Series.normalize r.start r.stop cs).map Candle.bar = Bar.sort bars := by
  obtain ⟨cs, hcs, rfl⟩ := h.exists_fetch hbars
  refine ⟨cs, hcs, Bar.map_normalize hbars.distinct fun b hb => ?_⟩
  obtain ⟨hstart, hstop⟩ := hbars.inside b hb
  exact ⟨hstart, hstop, (hbars.sound b hb).lt_stop⟩

end Providers

/-! ## Two minutes -/

/-- The world that shows some bars in its first answer and none in the later ones. -/
def Source.once (source : Source) (bars : List Bar) : World Bool where
  withdrawn _ := false
  answer shown _ := (.ok (source.written (if shown then [] else bars)), true)

theorem Source.showsOnce_once (source : Source) (bars : List Bar)
    (hspot : source.exchange = .coinbase → source.market = .spot) :
    source.ShowsOnce bars (source.once bars) false where
  patient _ := rfl
  first _ := ⟨_, rfl, source.shows_written bars hspot⟩
  second _ _ := ⟨_, rfl, source.shows_written [] hspot⟩

/-- A bar of one minute. -/
def Bar.ofMinute (start : Int) (opening highest lowest closing volume : Nat) : Bar :=
  ⟨start, start + minuteMs, Double.ofInt opening, Double.ofInt highest, Double.ofInt lowest,
    Double.ofInt closing, Double.ofInt volume⟩

theorem Bar.sound_ofMinute {start : Int} {opening highest lowest closing volume : Nat}
    (hsecond : 1000 ∣ start) (hpos : 0 < start) (hle : start ≤ 2 ^ 47)
    (hvalues : ∀ n ∈ [opening, highest, lowest, closing, volume], n ≤ 2 ^ 53) :
    (ofMinute start opening highest lowest closing volume).Sound .min1 where
  second := hsecond
  pos := hpos
  le := hle
  stop_eq := rfl
  finite x hx := by
    have hcells : x ∈ [opening, highest, lowest, closing, volume].map fun n : Nat => Double.ofInt n := hx
    obtain ⟨n, hn, rfl⟩ := List.mem_map.1 hcells
    exact Double.isFinite_ofInt (hvalues n hn)

/-- The second minute and the first. -/
def twoMinutes : List Bar := [.ofMinute 120000 12 14 11 13 7, .ofMinute 60000 10 15 9 12 5]

/-- A request for the first three minutes of a source. -/
def Source.threeMinutes (source : Source) : FetchRequest :=
  ⟨source, "BTC", "USDT", 0, 180000, "1m", "1m", minuteMs⟩

theorem Source.holds_twoMinutes (source : Source) : source.threeMinutes.Holds .min1 twoMinutes where
  nonneg := Int.le_refl 0
  second_le := (by decide : (0 : Int) + 1000 ≤ 180000)
  stop_le := (by decide : (180000 : Int) ≤ Calendar.yearStart 9001)
  width_eq := rfl
  sound := List.forall_mem_cons.2 ⟨Bar.sound_ofMinute (by decide) (by decide) (by decide) (by decide),
    List.forall_mem_singleton.2 (Bar.sound_ofMinute (by decide) (by decide) (by decide) (by decide))⟩
  distinct := by decide
  inside := (by decide : ∀ b ∈ twoMinutes, (0 : Int) ≤ b.start ∧ b.start < 180000)

/-- The newest minute comes first in KuCoin's lists, whose close is their third item, and in MEXC's
    columns. Both give the two minutes in order. -/
theorem Exchange.fetch_alike_twoMinutes :
    (∃ cs, ((Exchange.kucoin.fetch (Source.threeMinutes ⟨.kucoin, .spot⟩)).run
          (Source.once ⟨.kucoin, .spot⟩ twoMinutes) false).outcome = .ok cs ∧
        (Series.normalize 0 180000 cs).map Candle.bar = Bar.sort twoMinutes) ∧
    ∃ cs, ((Exchange.mexc.fetch (Source.threeMinutes ⟨.mexc, .futures⟩)).run
          (Source.once ⟨.mexc, .futures⟩ twoMinutes) false).outcome = .ok cs ∧
        (Series.normalize 0 180000 cs).map Candle.bar = Bar.sort twoMinutes :=
  ⟨Exchange.fetch_alike (r := Source.threeMinutes ⟨.kucoin, .spot⟩)
      (Source.showsOnce_once ⟨.kucoin, .spot⟩ twoMinutes nofun) (Source.holds_twoMinutes ⟨.kucoin, .spot⟩),
    Exchange.fetch_alike (r := Source.threeMinutes ⟨.mexc, .futures⟩)
      (Source.showsOnce_once ⟨.mexc, .futures⟩ twoMinutes nofun)
      (Source.holds_twoMinutes ⟨.mexc, .futures⟩)⟩

end Candlestick
