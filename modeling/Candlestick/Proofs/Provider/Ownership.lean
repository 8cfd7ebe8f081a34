import Candlestick.Proofs.Provider.Untimed

set_option autoImplicit false

/-! # Every candle of a provider is the request's own

Whatever a provider answers, each candle that is read from its rows carries the asset and the label
of the request, and so does everything that a fetch yields. -/

namespace Candlestick

/-- A candle carries the asset and the label of a request. -/
def FetchRequest.Owns (r : FetchRequest) (c : Candle) : Prop := c.asset = r.asset ∧ c.label = r.label

variable {r : FetchRequest} {c : Candle}

theorem FetchRequest.owns_candle {start : Int} {opening highest lowest closing volume trades : Json}
    {stop : Option Int} (h : r.candle start opening highest lowest closing volume trades stop = .ok c) :
    r.Owns c := by
  unfold candle at h
  extract_lets build at h
  have hbuild : ∀ {stop}, build stop = .ok c → r.Owns c := by
    intro stop h
    obtain ⟨_, _, h⟩ := exists_of_bind_eq_ok h
    obtain ⟨_, _, h⟩ := exists_of_bind_eq_ok h
    obtain ⟨_, _, h⟩ := exists_of_bind_eq_ok h
    obtain ⟨_, _, h⟩ := exists_of_bind_eq_ok h
    obtain ⟨_, _, h⟩ := exists_of_bind_eq_ok h
    obtain ⟨_, _, h⟩ := exists_of_bind_eq_ok h
    cases h
    exact ⟨rfl, rfl⟩
  cases stop <;>
  · obtain ⟨_, _, h⟩ := exists_of_bind_eq_ok h
    exact hbuild h

/-! ## Rows with a time of their end -/

theorem Klines.owns_row {item : Json} (h : row r item = .ok (some c)) : r.Owns c := by
  unfold row at h
  obtain ⟨start?, _, h⟩ := exists_of_bind_eq_ok h
  cases start? with
  | none => exact absurd h (by simp [pure, Except.pure])
  | some start =>
    obtain ⟨_, _, h⟩ := exists_of_bind_eq_ok h
    obtain ⟨made, hmade, heq⟩ := exists_of_map_eq_ok h
    cases heq
    exact FetchRequest.owns_candle hmade

theorem Klines.yields_fetch (e : Endpoint) (symbol : String) (r : FetchRequest) :
    (fetch e symbol r).Yields fun cs => ∀ c ∈ cs, r.Owns c := by
  refine Pager.yields_forward (fun cursor answer page h => ?_) _ _
  change Klines.page e r cursor answer = .ok page at h
  unfold Klines.page at h
  split at h
  · cases h
    exact forall_page_last
  · obtain ⟨candles, hcandles, h⟩ := exists_of_bind_eq_ok h
    obtain ⟨last, _, h⟩ := exists_of_bind_eq_ok h
    cases h
    exact forall_of_readRows (fun _ _ => owns_row) hcandles
  · split at h
    · cases h
      exact forall_page_last
    · cases h
  · cases h
    exact forall_page_last

/-! ## All rows -/

/-- Every exchange yields the request's own candles only. -/
theorem Registry.yields_fetch (registry : Registry) (r : FetchRequest) :
    (registry.fetch r).Yields fun cs => ∀ c ∈ cs, r.Owns c := by
  unfold Registry.fetch
  split
  · cases huntimed : r.source.isUntimed with
    | true => exact Exchange.yields_untimed FetchRequest.owns_candle huntimed
    | false =>
      unfold Source.isUntimed at huntimed
      split at huntimed
      · rename_i hexchange
        rw [hexchange]
        exact Klines.yields_fetch _ _ r
      · rename_i hexchange
        have hspot : r.isSpot = true := by simpa [FetchRequest.isSpot] using huntimed
        rw [hexchange, Exchange.fetch, Mexc.fetch, if_pos hspot]
        exact Klines.yields_fetch _ _ r
      · exact absurd huntimed (by simp)
  · trivial

end Candlestick
