import Candlestick.Config.Settings
import Candlestick.Loader.Window
import Candlestick.Proofs.Market.Interval
import Candlestick.Proofs.Number.Rounding

set_option autoImplicit false

/-! # The window of a load is sound

Up to `2 ^ 53` milliseconds the division that snaps a window outward rounds nothing away. There every
load has a window: whole buckets, at least one of them, from no time before 1970 to the end of the
bucket of the present at the latest. -/

namespace Candlestick

/-- The settings that pass the checks of a configuration. -/
structure LoaderSettings.Accepted (settings : LoaderSettings) : Prop where
  prefetch : 0 ≤ settings.prefetchBuckets
  window : 1 ≤ settings.windowDays

theorem LoaderSettings.accepted_default : ({} : LoaderSettings).Accepted where
  prefetch := by decide
  window := by decide

namespace Window

/-- The quotient is formed as a binary64 number, and still its ceiling is the exact one. -/
theorem ceilQuotient_eq {a b : Int} (ha : 0 ≤ a) (ha' : a ≤ 2 ^ 53) (hb : 0 < b) (hb' : b ≤ 2 ^ 53) :
    ceilQuotient a b = .ok (-((-a).fdiv b)) := by
  rw [ceilQuotient, if_neg (by omega), Double.ceil?_ofQuotient ha ha' hb hb']

/-- However far it reaches, a window that has been snapped outward consists of whole buckets. -/
theorem dvd_of_align {first last bucket start stop : Int} (hbucket : 0 < bucket)
    (h : align first last bucket = .ok (start, stop)) :
    bucket ∣ start ∧ bucket ∣ stop ∧ start < stop := by
  rw [align, if_neg (Int.ne_of_gt hbucket)] at h
  obtain ⟨buckets, h⟩ : ∃ buckets, ((max 0 first - (max 0 first).fmod bucket),
      max (max 0 first - (max 0 first).fmod bucket + bucket) (buckets * bucket)) = (start, stop) := by
    cases hceil : ceilQuotient last bucket with
    | error cause =>
      rw [hceil] at h
      exact absurd h (by simp [bind, Except.bind])
    | ok buckets =>
      rw [hceil] at h
      exact ⟨buckets, Except.ok.inj h⟩
  cases h
  have hstart : bucket ∣ max 0 first - (max 0 first).fmod bucket := by
    rw [Int.fmod_eq_emod_of_nonneg _ (Int.le_of_lt hbucket)]
    exact Int.dvd_self_sub_emod
  refine ⟨hstart, ?_, by omega⟩
  rcases Int.le_total (max 0 first - (max 0 first).fmod bucket + bucket) (buckets * bucket) with h | h
  · rw [Int.max_eq_right h]
    exact Int.dvd_mul_left _ _
  · rw [Int.max_eq_left h]
    exact Int.dvd_add hstart (Int.dvd_refl _)

/-- The soundness of a window of buckets at a time. -/
structure Sound (now bucket start stop : Int) : Prop where
  start_dvd : bucket ∣ start
  stop_dvd : bucket ∣ stop
  nonneg : 0 ≤ start
  lt : start < stop
  /-- The last bucket has begun before the present. -/
  begun : stop - bucket < now

/-- The range that is snapped outward is not empty and does not reach past the present. -/
theorem expand_bounds {settings : LoaderSettings} (hset : settings.Accepted) {now : Int}
    (hnow : 1 ≤ now) (start stop bucket : Int) :
    (expand settings now start stop bucket).1 < (expand settings now start stop bucket).2 ∧
      0 < (expand settings now start stop bucket).2 ∧
      (expand settings now start stop bucket).2 ≤ now := by
  have hdays := hset.window
  unfold expand dayMs minuteMs
  simp only
  split
  · simp only
    omega
  · simp only
    omega

/-- A window of buckets that is no wider than its range needs: each bound is less than one bucket outside
    of the range, as far as that lies after 1970. -/
structure Snug (first last bucket start stop : Int) : Prop where
  start_le : start ≤ max 0 first
  lt_start_add : max 0 first < start + bucket
  stop_sub_lt : stop - bucket < last
  le_stop : last ≤ stop

/-- Snapping a range that ends by the present. -/
theorem align_sound {now first last bucket : Int} (hlt : first < last) (hpos : 0 < last)
    (hlast : last ≤ now) (hnow : now ≤ 2 ^ 53) (hbucket : 0 < bucket) (hbucket' : bucket ≤ 2 ^ 53) :
    ∃ start stop, align first last bucket = .ok (start, stop) ∧ Sound now bucket start stop ∧
      Snug first last bucket start stop := by
  have hceil := ceilQuotient_eq (Int.le_of_lt hpos) (by omega : last ≤ 2 ^ 53) hbucket hbucket'
  rw [Int.fdiv_eq_ediv_of_nonneg _ (Int.le_of_lt hbucket)] at hceil
  have hbegin : max 0 first - (max 0 first).fmod bucket = bucket * (max 0 first / bucket) := by
    have := Int.mul_ediv_add_emod (max 0 first) bucket
    rw [Int.fmod_eq_emod_of_nonneg _ (Int.le_of_lt hbucket)]
    omega
  have hmod := Int.emod_nonneg (max 0 first) (by omega : bucket ≠ 0)
  have hmodlt := Int.emod_lt_of_pos (max 0 first) hbucket
  have hsplit := Int.mul_ediv_add_emod (max 0 first) bucket
  have hquot : 0 ≤ max 0 first / bucket := Int.ediv_nonneg (by omega) (by omega)
  have hquot' := Int.mul_nonneg (Int.le_of_lt hbucket) hquot
  -- The end is the first multiple of the bucket that is not before `last`.
  have hendmod := Int.emod_nonneg (-last) (by omega : bucket ≠ 0)
  have hendlt := Int.emod_lt_of_pos (-last) hbucket
  have hendsplit := Int.mul_ediv_add_emod (-last) bucket
  have hend : -(-last / bucket) * bucket = -(bucket * (-last / bucket)) := by
    rw [Int.neg_mul, Int.mul_comm]
  have halign : align first last bucket = .ok (bucket * (max 0 first / bucket),
      max (bucket * (max 0 first / bucket) + bucket) (-(-last / bucket) * bucket)) := by
    rw [align, if_neg (by omega : bucket ≠ 0)]
    simp only [hceil, hbegin]
    rfl
  obtain ⟨hstart, hstop, hlt⟩ := dvd_of_align hbucket halign
  exact ⟨_, _, halign, ⟨hstart, hstop, hquot', hlt, by omega⟩,
    ⟨by omega, by omega, by omega, by omega⟩⟩

/-- Every range has a sound window. -/
theorem align_expand {settings : LoaderSettings} (hset : settings.Accepted) {now : Int}
    (hnow : 1 ≤ now) (hnow' : now ≤ 2 ^ 53) {bucket : Int} (hbucket : 0 < bucket)
    (hbucket' : bucket ≤ 2 ^ 53) (start stop : Int) :
    ∃ first last, align (expand settings now start stop bucket).1
        (expand settings now start stop bucket).2 bucket = .ok (first, last) ∧
      Sound now bucket first last := by
  obtain ⟨hlt, hpos, hle⟩ := expand_bounds hset hnow start stop bucket
  obtain ⟨first, last, heq, hsound, -⟩ := align_sound hlt hpos hle hnow' hbucket hbucket'
  exact ⟨first, last, heq, hsound⟩

/-- Every range, be it empty, before 1970 or beyond all bounds, has a window that is sound and that fits
    the range to be loaded. -/
theorem align_expand_snug {settings : LoaderSettings} (hset : settings.Accepted) {now : Int}
    (hnow : 1 ≤ now) (hnow' : now ≤ 2 ^ 53) (t : TimeFrame) (start stop : Int) :
    ∃ first last, align (expand settings now start stop t.ms).1
        (expand settings now start stop t.ms).2 t.ms = .ok (first, last) ∧
      Sound now t.ms first last ∧
      Snug (expand settings now start stop t.ms).1 (expand settings now start stop t.ms).2 t.ms
        first last := by
  have hms : t.ms ≤ 2 ^ 53 := Int.le_trans t.ms_le (by decide)
  obtain ⟨hlt, hpos, hle⟩ := expand_bounds hset hnow start stop t.ms
  exact align_sound hlt hpos hle hnow' t.ms_pos hms

/-- At the last moment for which the division is known to be exact, a range the wrong way round and far
    outside of all time leaves the last days. They do not end with a whole minute. -/
theorem align_expand_snug_inverted :
    let settings : LoaderSettings := {}
    let range := expand settings (2 ^ 53) (10 ^ 30) (-10 ^ 30) TimeFrame.min1.ms
    settings.Accepted ∧ (1 : Int) ≤ 2 ^ 53 ∧ (2 ^ 53 : Int) ≤ 2 ^ 53 ∧
      range = (9007199254740992 - 30 * dayMs, 9007199254740992) ∧
      ∃ first last, align range.1 range.2 TimeFrame.min1.ms = .ok (first, last) ∧
        Sound (2 ^ 53) TimeFrame.min1.ms first last ∧
        Snug range.1 range.2 TimeFrame.min1.ms first last :=
  ⟨LoaderSettings.accepted_default, by decide, by decide, by decide,
    align_expand_snug LoaderSettings.accepted_default (by decide) (by decide) .min1 (10 ^ 30) (-10 ^ 30)⟩

theorem Sound.mono {now now' bucket start stop : Int} (h : Sound now bucket start stop)
    (hle : now ≤ now') : Sound now' bucket start stop :=
  { h with begun := Int.lt_of_lt_of_le h.begun hle }

/-- At the very beginning of 1970 the window is the bucket that begins there. -/
theorem align_expand_zero {settings : LoaderSettings} (hset : settings.Accepted) {bucket : Int}
    (hbucket : 0 < bucket) (hbucket' : bucket ≤ 2 ^ 53) (start stop : Int) :
    align (expand settings 0 start stop bucket).1 (expand settings 0 start stop bucket).2 bucket =
      .ok (0, bucket) := by
  have hdays := hset.window
  have hexpand : expand settings 0 start stop bucket = (0 - settings.windowDays * dayMs, 0) :=
    if_pos (by omega)
  have hbegin : max 0 (0 - settings.windowDays * dayMs) = 0 := by
    unfold dayMs minuteMs
    omega
  have hend : max bucket (0 * bucket) = bucket := by
    rw [Int.zero_mul]
    exact Int.max_eq_left (Int.le_of_lt hbucket)
  rw [hexpand, align, if_neg (by omega : bucket ≠ 0)]
  simp only [hbegin, ceilQuotient_eq (Int.le_refl 0) (by decide) hbucket hbucket', Int.zero_fmod,
    Int.neg_zero, Int.zero_fdiv, Int.sub_zero, Int.zero_add]
  exact congrArg (fun last => Except.ok ((0 : Int), last)) hend

/-- A window is sound at its clock; at the very beginning of 1970 its bucket begins just then. -/
theorem sound_of_align_expand {settings : LoaderSettings} (hset : settings.Accepted) {now : Int}
    (hnow : 0 ≤ now) (hnow' : now ≤ 2 ^ 53) {bucket : Int} (hbucket : 0 < bucket)
    (hbucket' : bucket ≤ 2 ^ 53) {start stop first last : Int}
    (h : align (expand settings now start stop bucket).1 (expand settings now start stop bucket).2
      bucket = .ok (first, last)) : Sound (now + 1) bucket first last := by
  rcases (by omega : now = 0 ∨ 1 ≤ now) with rfl | hpos
  · rw [align_expand_zero hset hbucket hbucket'] at h
    cases h
    exact ⟨Int.dvd_zero _, Int.dvd_refl _, Int.le_refl _, hbucket, by omega⟩
  · obtain ⟨first', last', hwindow, hsound⟩ :=
      align_expand hset hpos hnow' hbucket hbucket' start stop
    rw [h] at hwindow
    cases hwindow
    exact hsound.mono (by omega)

end Window

end Candlestick
