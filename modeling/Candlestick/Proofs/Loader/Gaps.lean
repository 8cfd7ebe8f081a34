import Mathlib.Data.List.Pairwise
import Mathlib.Data.List.Sort
import Candlestick.Loader.Gaps

set_option autoImplicit false

/-! # The gaps of a window are its maximal runs of missing buckets

`Gaps.collect` walks through the buckets of a window. `Gaps.splits_collect` says what its gaps are:
each bucket is found or lies in a gap but not both, the gaps stand on the grid and inside the window,
and one ends strictly before the next begins. -/

namespace Candlestick.Gaps

/-! ## The grid -/

theorem stepCount_of_pos {start stop step : Int} (hstep : 0 < step) :
    stepCount start stop step = ((stop - start + step - 1) / step).toNat :=
  if_pos hstep

/-- The grid's times are those of the range that are whole steps after its start. -/
theorem mem_grid {start stop step t : Int} (hstep : 0 < step) :
    t ∈ grid start stop step ↔ start ≤ t ∧ t < stop ∧ step ∣ t - start := by
  simp only [grid, List.mem_map, List.mem_range, stepCount_of_pos hstep]
  constructor
  · rintro ⟨i, hi, rfl⟩
    have hi' : (i : Int) < (stop - start + step - 1) / step := by omega
    have hmul := (Int.le_ediv_iff_mul_le hstep).1 (Int.add_one_le_of_lt hi')
    rw [Int.add_mul] at hmul
    have hnonneg : 0 ≤ (i : Int) * step := Int.mul_nonneg (by omega) (Int.le_of_lt hstep)
    refine ⟨by omega, by omega, ?_⟩
    rw [show start + (i : Int) * step - start = i * step by omega]
    exact Int.dvd_mul_left _ _
  · rintro ⟨hge, hlt, n, hn⟩
    have hn0 : 0 ≤ n := by
      refine Int.not_lt.1 fun hneg => ?_
      have := Int.mul_le_mul_of_nonneg_left (Int.add_one_le_of_lt hneg) (Int.le_of_lt hstep)
      rw [Int.mul_add] at this
      omega
    refine ⟨n.toNat, ?_, ?_⟩
    · have hle : n + 1 ≤ (stop - start + step - 1) / step := by
        rw [Int.le_ediv_iff_mul_le hstep, Int.add_mul, Int.mul_comm n]
        omega
      omega
    · rw [Int.toNat_of_nonneg hn0, Int.mul_comm]
      omega

theorem pairwise_grid {start stop step : Int} (hstep : 0 < step) :
    (grid start stop step).Pairwise (· < ·) := by
  refine List.pairwise_map.2 (List.pairwise_lt_range.imp fun {i j} hij => ?_)
  have hmul := Int.mul_lt_mul_of_pos_right (Int.ofNat_lt.2 hij) hstep
  omega

/-- Of two times on one grid the earlier one is at least a step before the later one. -/
theorem lt_of_lt_add_step {start step s t : Int} (hs : step ∣ s - start) (ht : step ∣ t - start)
    (h : s < t + step) (hne : s ≠ t) : s < t := by
  have hdvd : step ∣ s - t := by
    have := Int.dvd_sub hs ht
    rwa [show s - start - (t - start) = s - t by omega] at this
  refine Int.not_le.1 fun hle => ?_
  have := Int.le_of_dvd (by omega) hdvd
  omega

/-! ## The walk -/

/-- Whether a bucket counts as cached: the look-up finds a candle of the asset. -/
def Hit (look : Int → Option Candle) (asset : String) (t : Int) : Prop :=
  ∃ c, look t = some c ∧ c.asset = asset

theorem filter_eq_some_iff_hit {look : Int → Option Candle} {asset : String} {t : Int} :
    (∃ c, (look t).filter (·.asset = asset) = some c) ↔ Hit look asset t := by
  simp [Hit, Option.filter_eq_some_iff]

/-- What a walk from `start` has seen when it has come to the time `now`. -/
structure Scan.Inv (hit : Int → Prop) (start step now : Int) (scan : Scan) : Prop where
  covers : ∀ t, start ≤ t → t < now → step ∣ t - start → hit t ∨
    (∃ g ∈ scan.gaps, g.start ≤ t ∧ t < g.stop) ∨ ∃ first, scan.opened = some first ∧ first ≤ t
  missed : ∀ g ∈ scan.gaps, ∀ t, step ∣ t - start → g.start ≤ t → t < g.stop → ¬ hit t
  within : ∀ g ∈ scan.gaps, start ≤ g.start ∧ g.start < g.stop ∧ g.stop < now
  aligned : ∀ g ∈ scan.gaps, step ∣ g.start - start ∧ step ∣ g.stop - start
  apart : scan.gaps.Pairwise fun g g' => g'.stop < g.start
  openMissed : ∀ first, scan.opened = some first →
    ∀ t, step ∣ t - start → first ≤ t → t < now → ¬ hit t
  openWithin : ∀ first, scan.opened = some first → start ≤ first ∧ first < now
  openAligned : ∀ first, scan.opened = some first → step ∣ first - start
  openApart : ∀ first, scan.opened = some first → ∀ g ∈ scan.gaps, g.stop < first

theorem Scan.Inv.init (hit : Int → Prop) (start step : Int) : Scan.Inv hit start step start {} where
  covers t hge hlt _ := by omega
  missed g hg := by simp at hg
  within g hg := by simp at hg
  aligned g hg := by simp at hg
  apart := List.Pairwise.nil
  openMissed first hfirst := by simp at hfirst
  openWithin first hfirst := by simp at hfirst
  openAligned first hfirst := by simp at hfirst
  openApart first hfirst := by simp at hfirst

section Step

variable {look : Int → Option Candle} {asset : String} {start step now : Int} {scan : Scan}

/-- A bucket that is found ends the open gap. -/
theorem Scan.Inv.step_hit (h : Scan.Inv (Hit look asset) start step now scan) (hstep : 0 < step)
    (hnow : step ∣ now - start) {c : Candle} (hc : (look now).filter (·.asset = asset) = some c) :
    Scan.Inv (Hit look asset) start step (now + step) (scan.step look asset now) := by
  have hhit : Hit look asset now := filter_eq_some_iff_hit.1 ⟨c, hc⟩
  simp only [Scan.step, hc]
  cases hopen : scan.opened with
  | none =>
    refine ⟨fun t htge htlt ht => ?_, h.missed, fun g hg => ?_, h.aligned, h.apart, ?_, ?_, ?_, ?_⟩
    · by_cases hne : t = now
      · exact Or.inl (hne ▸ hhit)
      · rcases h.covers t htge (lt_of_lt_add_step ht hnow htlt hne) ht with
          hcov | hcov | ⟨first, hfirst, -⟩
        · exact Or.inl hcov
        · exact Or.inr (Or.inl hcov)
        · exact absurd (hopen ▸ hfirst) (by simp)
    · have := h.within g hg
      omega
    all_goals exact fun first hfirst => absurd hfirst (by simp)
  | some first =>
    have hfirst := h.openWithin first hopen
    refine ⟨fun t htge htlt ht => ?_, fun g hg t ht => ?_, fun g hg => ?_, fun g hg => ?_, ?_,
      ?_, ?_, ?_, ?_⟩
    · by_cases hne : t = now
      · exact Or.inl (hne ▸ hhit)
      · have hlt := lt_of_lt_add_step ht hnow htlt hne
        rcases h.covers t htge hlt ht with hcov | ⟨g, hg, hcov⟩ | ⟨first', hfirst', hle⟩
        · exact Or.inl hcov
        · exact Or.inr (Or.inl ⟨g, List.mem_cons_of_mem _ hg, hcov⟩)
        · obtain rfl : first = first' := Option.some.inj (hopen ▸ hfirst')
          exact Or.inr (Or.inl ⟨_, List.mem_cons_self, hle, hlt⟩)
    · rcases List.mem_cons.1 hg with rfl | hg
      · exact h.openMissed first hopen t ht
      · exact h.missed g hg t ht
    · rcases List.mem_cons.1 hg with rfl | hg
      · exact ⟨hfirst.1, hfirst.2, by show now < now + step; omega⟩
      · have := h.within g hg
        omega
    · rcases List.mem_cons.1 hg with rfl | hg
      · exact ⟨h.openAligned first hopen, hnow⟩
      · exact h.aligned g hg
    · exact List.pairwise_cons.2 ⟨h.openApart first hopen, h.apart⟩
    all_goals exact fun first hfirst => absurd hfirst (by simp)

/-- A bucket that is missing opens a gap, or belongs to the one that is open. -/
theorem Scan.Inv.step_miss (h : Scan.Inv (Hit look asset) start step now scan) (hstep : 0 < step)
    (hnow : step ∣ now - start) (hge : start ≤ now)
    (hc : (look now).filter (·.asset = asset) = none) :
    Scan.Inv (Hit look asset) start step (now + step) (scan.step look asset now) := by
  have hmiss : ¬ Hit look asset now := by
    rw [← filter_eq_some_iff_hit, hc]
    simp
  have hwithin : ∀ g ∈ scan.gaps, start ≤ g.start ∧ g.start < g.stop ∧ g.stop < now + step := by
    intro g hg
    have := h.within g hg
    omega
  simp only [Scan.step, hc]
  cases hopen : scan.opened with
  | none =>
    refine ⟨fun t htge htlt ht => ?_, h.missed, hwithin, h.aligned, h.apart, ?_, ?_, ?_, ?_⟩
    · by_cases hne : t = now
      · exact Or.inr (Or.inr ⟨now, rfl, Int.le_of_eq hne.symm⟩)
      · rcases h.covers t htge (lt_of_lt_add_step ht hnow htlt hne) ht with
          hcov | hcov | ⟨first, hfirst, -⟩
        · exact Or.inl hcov
        · exact Or.inr (Or.inl hcov)
        · exact absurd (hopen ▸ hfirst) (by simp)
    all_goals
      intro first hfirst
      obtain rfl : now = first := Option.some.inj hfirst
    · intro t ht hle hlt
      by_cases hne : t = now
      · exact hne ▸ hmiss
      · have := lt_of_lt_add_step ht hnow hlt hne
        omega
    · omega
    · exact hnow
    · exact fun g hg => (h.within g hg).2.2
  | some first =>
    refine ⟨fun t htge htlt ht => ?_, h.missed, hwithin, h.aligned, h.apart, ?_, ?_, ?_, ?_⟩
    · by_cases hne : t = now
      · exact Or.inr (Or.inr ⟨first, rfl, by have := h.openWithin first hopen; omega⟩)
      · rcases h.covers t htge (lt_of_lt_add_step ht hnow htlt hne) ht with
          hcov | hcov | ⟨first', hfirst', hle⟩
        · exact Or.inl hcov
        · exact Or.inr (Or.inl hcov)
        · obtain rfl : first = first' := Option.some.inj (hopen ▸ hfirst')
          exact Or.inr (Or.inr ⟨_, rfl, hle⟩)
    all_goals
      intro first' hfirst
      obtain rfl : first = first' := Option.some.inj hfirst
    · intro t ht hle hlt
      by_cases hne : t = now
      · exact hne ▸ hmiss
      · exact h.openMissed first hopen t ht hle (lt_of_lt_add_step ht hnow hlt hne)
    · have := h.openWithin first hopen
      omega
    · exact h.openAligned first hopen
    · exact h.openApart first hopen

theorem Scan.Inv.next (h : Scan.Inv (Hit look asset) start step now scan) (hstep : 0 < step)
    (hnow : step ∣ now - start) (hge : start ≤ now) :
    Scan.Inv (Hit look asset) start step (now + step) (scan.step look asset now) := by
  cases hc : (look now).filter (·.asset = asset) with
  | none => exact h.step_miss hstep hnow hge hc
  | some c => exact h.step_hit hstep hnow hc

/-- After so many steps the walk has seen so many buckets. -/
theorem Scan.inv_foldl (hstep : 0 < step) (n : Nat) :
    Scan.Inv (Hit look asset) start step (start + n * step)
      (((List.range n).map fun i : Nat => start + (i : Int) * step).foldl (Scan.step look asset) {}) := by
  induction n with
  | zero => simpa using Scan.Inv.init (Hit look asset) start step
  | succ n ih =>
    have hdvd : step ∣ start + n * step - start := by
      rw [show start + (n : Int) * step - start = n * step by omega]
      exact Int.dvd_mul_left _ _
    have hge : start ≤ start + n * step := by
      have : 0 ≤ (n : Int) * step := Int.mul_nonneg (by omega) (Int.le_of_lt hstep)
      omega
    have hnext : start + ((n + 1 : Nat) : Int) * step = start + n * step + step := by
      rw [Int.natCast_add, Int.add_mul]
      omega
    rw [List.range_succ, List.map_append, List.foldl_append, hnext]
    exact ih.next hstep hdvd hge

end Step

/-! ## The result -/

/-- How gaps split a window into buckets that are found and buckets that are missing. -/
structure Splits (hit : Int → Prop) (start stop step : Int) (gaps : List Gap) : Prop where
  /-- Each bucket is found or lies in a gap, -/
  covers : ∀ t ∈ grid start stop step, hit t ∨ ∃ g ∈ gaps, g.start ≤ t ∧ t < g.stop
  /-- and no bucket of a gap is found. -/
  missed : ∀ g ∈ gaps, ∀ t ∈ grid start stop step, g.start ≤ t → t < g.stop → ¬ hit t
  within : ∀ g ∈ gaps, start ≤ g.start ∧ g.start < g.stop ∧ g.stop ≤ stop
  aligned : ∀ g ∈ gaps, step ∣ g.start - start ∧ step ∣ g.stop - start
  apart : gaps.Pairwise fun g g' => g.stop < g'.start

/-- A window whose buckets are all found has no gaps. -/
theorem Splits.eq_nil {hit : Int → Prop} {start stop step : Int} {gaps : List Gap}
    (h : Splits hit start stop step gaps) (hstep : 0 < step)
    (hall : ∀ t ∈ grid start stop step, hit t) : gaps = [] := by
  refine List.eq_nil_iff_forall_not_mem.2 fun g hg => ?_
  obtain ⟨hfrom, hlt, hto⟩ := h.within g hg
  have hgrid : g.start ∈ grid start stop step :=
    (mem_grid hstep).2 ⟨hfrom, by omega, (h.aligned g hg).1⟩
  exact h.missed g hg g.start hgrid (Int.le_refl _) hlt (hall g.start hgrid)

/-- Only what is found of the window's buckets counts. -/
theorem Splits.congr {hit hit' : Int → Prop} {start stop step : Int} {gaps : List Gap}
    (h : Splits hit start stop step gaps) (hsame : ∀ t ∈ grid start stop step, hit t ↔ hit' t) :
    Splits hit' start stop step gaps :=
  { h with
    covers := fun t ht => (h.covers t ht).imp_left (hsame t ht).1
    missed := fun g hg t ht hge hlt hhit => h.missed g hg t ht hge hlt ((hsame t ht).2 hhit) }

/-- When the first gaps have been filled the others are what is left. -/
theorem Splits.rest {hit : Int → Prop} {start stop step : Int} {done rest : List Gap}
    (h : Splits hit start stop step (done ++ rest)) :
    Splits (fun t => hit t ∨ ∃ g ∈ done, g.start ≤ t ∧ t < g.stop) start stop step rest where
  covers t ht := by
    rcases h.covers t ht with hhit | ⟨g, hg, hcov⟩
    · exact Or.inl (Or.inl hhit)
    · rcases List.mem_append.1 hg with hg | hg
      · exact Or.inl (Or.inr ⟨g, hg, hcov⟩)
      · exact Or.inr ⟨g, hg, hcov⟩
  missed := by
    rintro g hg t ht hge hlt (hhit | ⟨g', hg', hge', hlt'⟩)
    · exact h.missed g (List.mem_append_right _ hg) t ht hge hlt hhit
    · have := (List.pairwise_append.1 h.apart).2.2 g' hg' g hg
      omega
  within g hg := h.within g (List.mem_append_right _ hg)
  aligned g hg := h.aligned g (List.mem_append_right _ hg)
  apart := (List.pairwise_append.1 h.apart).2.1

section Compare

variable {hit hit' : Int → Prop} {start stop step : Int} {gaps gaps' : List Gap} {g g' : Gap}

/-- Gaps of one window that meet are the same. -/
theorem Splits.eq_of_meet (h : Splits hit start stop step gaps) (hg : g ∈ gaps) (hg' : g' ∈ gaps)
    (hle : g.start ≤ g'.stop) (hle' : g'.start ≤ g.stop) : g = g' := by
  have : Std.Symm fun g g' : Gap => g.stop < g'.start ∨ g'.stop < g.start := ⟨fun _ _ => Or.symm⟩
  have hapart : gaps.Pairwise fun g g' => g.stop < g'.start ∨ g'.stop < g.start := h.apart.imp Or.inl
  by_contra hne
  have := hapart.forall hg hg' hne
  omega

/-- Where a gap ends, no gap of the same window goes on that has been split when as much or more was
    found. -/
theorem Splits.stop_le (h : Splits hit start stop step gaps) (h' : Splits hit' start stop step gaps')
    (hfound : ∀ t ∈ grid start stop step, hit t → hit' t) (hstep : 0 < step) (hg : g ∈ gaps)
    (hg' : g' ∈ gaps') (hle : g'.start ≤ g.stop) : g'.stop ≤ g.stop := by
  by_contra hlt
  have hwithin := h.within g hg
  have hwithin' := h'.within g' hg'
  have hgrid : g.stop ∈ grid start stop step :=
    (mem_grid hstep).2 ⟨by omega, by omega, (h.aligned g hg).2⟩
  have hmissed := h'.missed g' hg' g.stop hgrid hle (by omega)
  obtain ⟨next, hnext, hfrom, hto⟩ :=
    (h.covers g.stop hgrid).resolve_left fun hhit => hmissed (hfound _ hgrid hhit)
  obtain rfl := h.eq_of_meet hg hnext (by omega) hfrom
  omega

/-- Where a gap begins, no such gap has begun before. -/
theorem Splits.start_le (h : Splits hit start stop step gaps) (h' : Splits hit' start stop step gaps')
    (hfound : ∀ t ∈ grid start stop step, hit t → hit' t) (hstep : 0 < step) (hg : g ∈ gaps)
    (hg' : g' ∈ gaps') (hle : g.start ≤ g'.stop) : g.start ≤ g'.start := by
  by_contra hlt
  have hwithin := h.within g hg
  have hwithin' := h'.within g' hg'
  have haligned := (h.aligned g hg).1
  -- The bucket before the gap begins in the other one.
  have hbefore : step ∣ g.start - step - start := by
    have := Int.dvd_sub haligned (Int.dvd_refl step)
    rwa [show g.start - start - step = g.start - step - start by omega] at this
  have hroom : g'.start ≤ g.start - step := by
    have := Int.dvd_sub haligned (h'.aligned g' hg').1
    have := Int.le_of_dvd (by omega) this
    omega
  have hgrid : g.start - step ∈ grid start stop step :=
    (mem_grid hstep).2 ⟨by omega, by omega, hbefore⟩
  have hmissed := h'.missed g' hg' (g.start - step) hgrid hroom (by omega)
  obtain ⟨last, hmem, hfrom, hto⟩ :=
    (h.covers (g.start - step) hgrid).resolve_left fun hhit => hmissed (hfound _ hgrid hhit)
  have hend : g.start ≤ last.stop := by
    have := Int.dvd_sub (h.aligned last hmem).2 hbefore
    have := Int.le_of_dvd (by omega) this
    omega
  obtain rfl := h.eq_of_meet hg hmem hend (by omega)
  omega

/-- When more is found, what is left of a window's gaps lies inside them. -/
theorem Splits.exists_inside (h : Splits hit start stop step gaps)
    (h' : Splits hit' start stop step gaps') (hfound : ∀ t ∈ grid start stop step, hit t → hit' t)
    (hstep : 0 < step) (hg' : g' ∈ gaps') :
    ∃ g ∈ gaps, g.start ≤ g'.start ∧ g'.stop ≤ g.stop := by
  have hwithin := h'.within g' hg'
  have hgrid : g'.start ∈ grid start stop step :=
    (mem_grid hstep).2 ⟨hwithin.1, by omega, (h'.aligned g' hg').1⟩
  have hmissed := h'.missed g' hg' g'.start hgrid (Int.le_refl _) hwithin.2.1
  obtain ⟨g, hg, hfrom, hto⟩ :=
    (h.covers g'.start hgrid).resolve_left fun hhit => hmissed (hfound _ hgrid hhit)
  exact ⟨g, hg, hfrom, h.stop_le h' hfound hstep hg hg' (Int.le_of_lt hto)⟩

theorem Splits.mem_of_mem (h : Splits hit start stop step gaps)
    (h' : Splits hit start stop step gaps') (hstep : 0 < step) (hg : g ∈ gaps) : g ∈ gaps' := by
  have hsame : ∀ t ∈ grid start stop step, hit t → hit t := fun _ _ => id
  obtain ⟨g', hg', hfrom, hto⟩ := h'.exists_inside h hsame hstep hg
  have hlt := (h.within g hg).2.1
  have hstart := h.start_le h' hsame hstep hg hg' (by omega)
  have hstop := h.stop_le h' hsame hstep hg hg' (by omega)
  obtain ⟨gstart, gstop⟩ := g
  obtain ⟨gstart', gstop'⟩ := g'
  obtain rfl : gstart = gstart' := Int.le_antisymm hstart hfrom
  obtain rfl : gstop = gstop' := Int.le_antisymm hto hstop
  exact hg'

/-- A window is split in one way only. -/
theorem Splits.unique (h : Splits hit start stop step gaps) (h' : Splits hit start stop step gaps')
    (hstep : 0 < step) : gaps = gaps' := by
  have hordered : ∀ {gaps}, Splits hit start stop step gaps →
      gaps.Pairwise fun g g' => g.start < g'.start := fun h =>
    h.apart.imp_of_mem fun hg _ hlt => Int.lt_trans (h.within _ hg).2.1 hlt
  have : Std.Irrefl fun g g' : Gap => g.start < g'.start := ⟨fun g => Int.lt_irrefl g.start⟩
  exact List.Pairwise.eq_of_mem_iff (hordered h) (hordered h') fun g =>
    ⟨h.mem_of_mem h' hstep, h'.mem_of_mem h hstep⟩

end Compare

theorem Scan.Inv.finish {hit : Int → Prop} {start stop step : Int} {scan : Scan}
    (h : Scan.Inv hit start step stop scan) (hstep : 0 < step) (hdvd : step ∣ stop - start) :
    Splits hit start stop step (scan.finish stop).2 := by
  simp only [Scan.finish]
  cases hopen : scan.opened with
  | none =>
    refine ⟨fun t ht => ?_, fun g hg t ht => ?_, fun g hg => ?_, fun g hg => ?_, ?_⟩
    · obtain ⟨hge, hlt, ht⟩ := (mem_grid hstep).1 ht
      rcases h.covers t hge hlt ht with hcov | ⟨g, hg, hcov⟩ | ⟨first, hfirst, -⟩
      · exact Or.inl hcov
      · exact Or.inr ⟨g, List.mem_reverse.2 hg, hcov⟩
      · exact absurd (hopen ▸ hfirst) (by simp)
    · exact h.missed g (List.mem_reverse.1 hg) t ((mem_grid hstep).1 ht).2.2
    · have := h.within g (List.mem_reverse.1 hg)
      omega
    · exact h.aligned g (List.mem_reverse.1 hg)
    · exact List.pairwise_reverse.2 h.apart
  | some first =>
    refine ⟨fun t ht => ?_, fun g hg t ht => ?_, fun g hg => ?_, fun g hg => ?_, ?_⟩
    · obtain ⟨hge, hlt, ht⟩ := (mem_grid hstep).1 ht
      rcases h.covers t hge hlt ht with hcov | ⟨g, hg, hcov⟩ | ⟨first', hfirst', hle⟩
      · exact Or.inl hcov
      · exact Or.inr ⟨g, List.mem_reverse.2 (List.mem_cons_of_mem _ hg), hcov⟩
      · obtain rfl : first = first' := Option.some.inj (hopen ▸ hfirst')
        exact Or.inr ⟨_, List.mem_reverse.2 List.mem_cons_self, hle, hlt⟩
    · have ht' := ((mem_grid hstep).1 ht).2.2
      rcases List.mem_cons.1 (List.mem_reverse.1 hg) with rfl | hg
      · exact h.openMissed first hopen t ht'
      · exact h.missed g hg t ht'
    · rcases List.mem_cons.1 (List.mem_reverse.1 hg) with rfl | hg
      · have := h.openWithin first hopen
        exact ⟨this.1, this.2, Int.le_refl _⟩
      · have := h.within g hg
        omega
    · rcases List.mem_cons.1 (List.mem_reverse.1 hg) with rfl | hg
      · exact ⟨h.openAligned first hopen, hdvd⟩
      · exact h.aligned g hg
    · exact List.pairwise_reverse.2 (List.pairwise_cons.2 ⟨h.openApart first hopen, h.apart⟩)

/-- The gaps of a window that is a whole number of buckets wide. -/
theorem splits_collect (m : CandleMap) (asset : String) {start stop step : Int} (exact : Bool)
    (hstep : 0 < step) (hle : start ≤ stop) (hdvd : step ∣ stop - start) :
    Splits (Hit (lookUp m asset exact) asset) start stop step
      (collect m asset start stop step exact).2 := by
  have hwalk : Scan.Inv (Hit (lookUp m asset exact) asset) start step _
      ((grid start stop step).foldl (Scan.step (lookUp m asset exact) asset) {}) :=
    Scan.inv_foldl hstep (stepCount start stop step)
  have hlast : start + (stepCount start stop step : Int) * step = stop := by
    obtain ⟨n, hn⟩ := hdvd
    have hcount : (stop - start + step - 1) / step = n := by
      rw [Int.ediv_eq_iff_of_pos hstep, hn, Int.mul_comm step]
      omega
    have hn0 : 0 ≤ n := by
      refine Int.not_lt.1 fun hneg => ?_
      have := Int.mul_le_mul_of_nonneg_left (Int.add_one_le_of_lt hneg) (Int.le_of_lt hstep)
      rw [Int.mul_add] at this
      omega
    rw [stepCount_of_pos hstep, hcount, Int.toNat_of_nonneg hn0, Int.mul_comm]
    omega
  rw [hlast] at hwalk
  exact hwalk.finish hstep hdvd

end Candlestick.Gaps
