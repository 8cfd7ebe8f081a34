import Candlestick.Market.Interval

set_option autoImplicit false

/-! # What a plan promises

A plan that is direct asks for the timeframe itself; any other asks for candles whose length divides
the timeframe's. -/

namespace Candlestick

theorem TimeFrame.ms_injective {s t : TimeFrame} (h : s.ms = t.ms) : s = t := by
  have hall : ∀ s ∈ all, ∀ t ∈ all, s.ms = t.ms → s = t := by decide
  exact hall s (mem_all s) t (mem_all t) h

/-- No timeframe is longer than thirty days. -/
theorem TimeFrame.ms_le (t : TimeFrame) : t.ms ≤ 2592000000 := by cases t <;> decide

/-- All timeframes last whole seconds. -/
theorem TimeFrame.second_dvd_ms (t : TimeFrame) : 1000 ∣ t.ms :=
  Int.dvd_mul_of_dvd_right (by decide)

/-- Weeks make up no other timeframe. -/
theorem TimeFrame.eq_week_of_dvd {t : TimeFrame} (h : week.ms ∣ t.ms) : t = .week := by
  have hall : ∀ t ∈ all, week.ms ∣ t.ms → t = .week := by decide
  exact hall t (mem_all t) h

namespace IntervalTable

theorem mem_of_foldl_longer {table : IntervalTable} {best : Option (TimeFrame × String)}
    {x : TimeFrame × String} (h : table.foldl longer best = some x) : best = some x ∨ x ∈ table := by
  induction table generalizing best with
  | nil => exact Or.inl h
  | cons candidate rest ih =>
    rcases ih h with hlonger | hrest
    · unfold longer at hlonger
      split at hlonger
      · exact Or.inr (List.mem_cons.2 (Or.inl (Option.some.inj hlonger).symm))
      · split at hlonger
        · exact Or.inr (List.mem_cons.2 (Or.inl (Option.some.inj hlonger).symm))
        · exact Or.inl hlonger
    · exact Or.inr (List.mem_cons_of_mem _ hrest)

/-- The base of a plan divides the timeframe, and it is the timeframe exactly in direct plans. -/
theorem resolve_spec {table : IntervalTable} {t : TimeFrame} {plan : IntervalPlan}
    (h : table.resolve t = some plan) :
    plan.base.ms ∣ t.ms ∧ (plan.isDirect = true ↔ plan.base = t) := by
  unfold resolve at h
  split at h
  · cases h
    exact ⟨Int.dvd_refl _, by simp [IntervalPlan.isDirect]⟩
  · obtain ⟨⟨base, interval⟩, hbase, rfl⟩ := Option.map_eq_some_iff.1 h
    unfold base? at hbase
    have hmem := (mem_of_foldl_longer hbase).resolve_left (by simp)
    have hfilter := (List.mem_filter.1 hmem).2
    simp only [Bool.and_eq_true, decide_eq_true_eq] at hfilter
    have hdvd : base.ms ∣ t.ms := Int.dvd_of_emod_eq_zero hfilter.2
    refine ⟨hdvd, ?_⟩
    simp only [IntervalPlan.isDirect, decide_eq_true_eq]
    constructor
    · intro hone
      obtain ⟨n, hn⟩ := hdvd
      rw [hn, Int.mul_ediv_cancel_left _ (Int.ne_of_gt base.ms_pos)] at hone
      rw [hone, Int.mul_one] at hn
      exact TimeFrame.ms_injective hn.symm
    · rintro rfl
      exact Int.ediv_self (Int.ne_of_gt base.ms_pos)

end IntervalTable

theorem Registry.plan_spec {registry : Registry} {source : Source} {t : TimeFrame}
    {plan : IntervalPlan} (h : registry.plan source t = .ok plan) :
    plan.base.ms ∣ t.ms ∧ (plan.isDirect = true ↔ plan.base = t) := by
  unfold Registry.plan at h
  split at h
  · rename_i plan' hresolve
    cases h
    obtain ⟨table, -, htable⟩ := Option.bind_eq_some_iff.1 hresolve
    exact IntervalTable.resolve_spec htable
  · split at h <;> exact absurd h (by simp)

end Candlestick
