import Candlestick.Proofs.Network.Dialogue
import Candlestick.Proofs.Number.Range
import Candlestick.Provider.Request

set_option autoImplicit false

/-! # What becomes of values that are no numbers

Whatever stands in a cell, a reading of it gives a number, a volume, a count or a time, with two
exceptions: an integer that no finite number is near to, and a time that is finite in the provider's unit
but not in milliseconds. `RefusedIff` says of a reading exactly when it is refused. -/

namespace Candlestick

/-- A reading is refused for a number that is too large under a condition, and else gives a result. -/
structure RefusedIff {α : Type} (p : Prop) (x : Except Failure α) : Prop where
  refused : p → x = .error .tooLarge
  read : ¬ p → ∃ y, x = .ok y

namespace RefusedIff

variable {α β : Type} {p q : Prop} {x : Except Failure α} {y : α}

theorem ok (y : α) : RefusedIff False (.ok y : Except Failure α) := ⟨nofun, fun _ => ⟨y, rfl⟩⟩

theorem congr (h : RefusedIff p x) (hpq : p ↔ q) : RefusedIff q x :=
  ⟨fun hq => h.refused (hpq.2 hq), fun hq => h.read fun hp => hq (hpq.1 hp)⟩

theorem not_of_ok (h : RefusedIff p x) (hx : x = .ok y) : ¬ p := fun hp =>
  nomatch (h.refused hp).symm.trans hx

theorem bind {f : α → Except Failure β} (h : RefusedIff p x)
    (hf : ∀ y, x = .ok y → RefusedIff q (f y)) : RefusedIff (p ∨ q) (x >>= f) := by
  by_cases hp : p
  · refine ⟨fun _ => ?_, fun hpq => absurd (Or.inl hp) hpq⟩
    rw [h.refused hp]
    rfl
  · obtain ⟨y, rfl⟩ := h.read hp
    exact (hf y rfl).congr (by simp [hp])

theorem map (f : α → β) (h : RefusedIff p x) : RefusedIff p (x.map f) where
  refused hp := by rw [h.refused hp]; rfl
  read hp := by
    obtain ⟨y, rfl⟩ := h.read hp
    exact ⟨f y, rfl⟩

/-- What gives a result where a reading does, and hands on its failure, is refused when the reading is. -/
theorem of_read {page : Except Failure β} (h : RefusedIff p x)
    (herror : ∀ cause, x = .error cause → page = .error cause)
    (hok : ∀ y, x = .ok y → ∃ z, page = .ok z) : RefusedIff p page where
  refused hp := herror _ (h.refused hp)
  read hp := by
    obtain ⟨y, hy⟩ := h.read hp
    exact hok y hy

/-- The form that every reader of a row has: a time, and what is made of it where there is one. -/
theorem timed {time : Except Failure (Option Int)} {make : Int → Except Failure (Option α)}
    {usable : Prop} (htime : RefusedIff p time) (hnone : ∀ t, time = .ok t → (t = none ↔ ¬ usable))
    (hmake : ∀ start, time = .ok (some start) → RefusedIff q (make start)) :
    RefusedIff (p ∨ usable ∧ q) (do
      match ← time with
      | none => return none
      | some start => make start) := by
  refine htime.bind fun t ht => ?_
  have hnone := hnone t ht
  cases t with
  | none => exact (ok none).congr (by simp [hnone.1 rfl])
  | some start =>
    have husable : usable := not_not.1 fun hunusable => nomatch hnone.2 hunusable
    exact (hmake start ht).congr (by simp [husable])

end RefusedIff

/-- The number that a value stands for, if it stands for one. -/
def Json.number? : Json → Option Double
  | .bool b => some (Double.ofInt (if b then 1 else 0))
  | .int n => some (Double.ofInt n)
  | .double x => some x
  | .str s => Double.ofText? s
  | .null | .arr _ | .obj _ => none

namespace Reading

/-- An integer that no finite number is near to. -/
def Excessive (value : Json) : Prop := ∃ n, value = .int n ∧ Double.limit ≤ n.natAbs

/-- A value that stands for a finite number. -/
def Usable (value : Json) : Prop := ∃ x, value.number? = some x ∧ x.isFinite = true

/-- A time in units of `scale` milliseconds that no finite number of milliseconds is near to. -/
def TooFar (scale : Int) (value : Json) : Prop :=
  Excessive value ∨ ∃ x u, value.number? = some x ∧ x.toUnits? = some u ∧
    Double.limit * Double.unitsPerOne ≤ u.natAbs * scale.natAbs

variable {value : Json}

/-! ## Numbers -/

/-- Only an integer that is not finite as a number is not read. -/
theorem excessive_int_iff {n : Int} : Excessive (.int n) ↔ ¬ (Double.ofInt n).isFinite = true := by
  rw [Double.isFinite_ofInt_iff, Nat.not_lt]
  exact ⟨fun ⟨_, heq, hle⟩ => Json.int.inj heq ▸ hle, fun hle => ⟨n, rfl, hle⟩⟩

theorem number_of_not_excessive (h : ¬ Excessive value) :
    number value = .ok (value.number?.getD .nan) := by
  cases value with
  | int n => exact if_pos (not_not.1 fun hfinite => h (excessive_int_iff.2 hfinite))
  | _ => rfl

theorem number_refusedIff (value : Json) : RefusedIff (Excessive value) (number value) where
  refused := by
    rintro ⟨n, rfl, hle⟩
    exact if_neg (excessive_int_iff.1 ⟨n, rfl, hle⟩)
  read h := ⟨_, number_of_not_excessive h⟩

/-- A value is usable if it is read as a finite number. -/
theorem usable_iff_of_number {x : Double} (h : number value = .ok x) :
    Usable value ↔ x.isFinite = true := by
  have hx := (number_of_not_excessive ((number_refusedIff value).not_of_ok h)).symm.trans h
  have hx : value.number?.getD .nan = x := Except.ok.inj hx
  constructor
  · rintro ⟨y, hy, hfinite⟩
    rw [hy, Option.getD_some] at hx
    rwa [← hx]
  · intro hfinite
    cases hnumber : value.number? with
    | none =>
      rw [hnumber, Option.getD_none] at hx
      rw [← hx] at hfinite
      exact absurd hfinite (by decide)
    | some y =>
      rw [hnumber, Option.getD_some] at hx
      exact ⟨y, hnumber, hx ▸ hfinite⟩

/-! ## Volumes, counts and times -/

theorem volume_refusedIff (value : Json) : RefusedIff (Excessive value) (volume value) :=
  (number_refusedIff value).map _

theorem count_refusedIff (value : Json) : RefusedIff (Excessive value) (count value) :=
  (number_refusedIff value).map _

/-- A volume is finite. -/
theorem volume_spec {x : Double} (h : volume value = .ok x) :
    x.isFinite = true ∧ (Usable value → number value = .ok x) ∧ (¬ Usable value → x = .zero) := by
  obtain ⟨y, hy, rfl⟩ := exists_of_map_eq_ok h
  rw [usable_iff_of_number hy]
  by_cases hfinite : y.isFinite = true
  · simp [hfinite, hy]
  · have hzero : Double.zero.isFinite = true := by decide
    simp [hfinite, hzero]

theorem count_spec {n : Int} (h : count value = .ok n) (hunusable : ¬ Usable value) : n = 0 := by
  obtain ⟨y, hy, rfl⟩ := exists_of_map_eq_ok h
  rw [usable_iff_of_number hy, Double.isFinite_iff_truncate?] at hunusable
  cases htruncate : y.truncate? with
  | none => rfl
  | some n => exact absurd ⟨n, htruncate⟩ hunusable

section Time

variable {scale : Int} (hscale : scale.natAbs ≤ 2 ^ 53)
include hscale

/-- What is made of a number that is a time. -/
theorem time_of_number {x : Double} (h : number value = .ok x) :
    time value scale =
      if x.isFinite then
        match (x * Double.ofInt scale).truncate? with
        | some ms => .ok (some ms)
        | none => .error .tooLarge
      else .ok none := by
  have hfactor : (Double.ofInt scale).isFinite = true :=
    decide_eq_true (Double.nearestBits_lt_infinityBits Nat.one_pos hscale (by decide))
  unfold time
  rewrite [h]
  change (if x.isFinite then
      match (if (Double.ofInt scale).isFinite then x * Double.ofInt scale else .nan).truncate? with
      | some ms => Except.ok (some ms)
      | none => Except.error Failure.tooLarge
    else Except.ok none) = _
  rw [if_pos hfactor]

theorem time_refusedIff (value : Json) : RefusedIff (TooFar scale value) (time value scale) := by
  by_cases hexcessive : Excessive value
  · refine ⟨fun _ => ?_, fun h => absurd (Or.inl hexcessive) h⟩
    rw [time, (number_refusedIff value).refused hexcessive]
    rfl
  obtain ⟨x, hx⟩ := (number_refusedIff value).read hexcessive
  have hvalue : ∀ {y}, value.number? = some y → y = x := fun {y} hy => by
    have h := (number_of_not_excessive hexcessive).symm.trans hx
    rw [hy] at h
    exact Except.ok.inj h
  rw [time_of_number hscale hx]
  by_cases hfinite : x.isFinite = true
  · obtain ⟨u, hu⟩ := Double.isFinite_iff_toUnits?.1 hfinite
    obtain ⟨y, hy, -⟩ := (usable_iff_of_number hx).2 hfinite
    obtain rfl := hvalue hy
    have hfar : TooFar scale value ↔ ¬ (y * Double.ofInt scale).isFinite = true := by
      rw [Double.isFinite_mul_ofInt_iff hu hscale, Nat.not_lt]
      refine ⟨?_, fun hle => Or.inr ⟨y, u, hy, hu, hle⟩⟩
      rintro (h | ⟨z, v, hz, hv, hle⟩)
      · exact absurd h hexcessive
      · obtain rfl := hvalue hz
        cases hu.symm.trans hv
        exact hle
    rw [if_pos hfinite]
    refine RefusedIff.congr ?_ hfar.symm
    rw [Double.isFinite_iff_truncate?]
    cases (y * Double.ofInt scale).truncate? with
    | none => exact ⟨fun _ => rfl, fun h => absurd (by simp) h⟩
    | some ms => exact (RefusedIff.ok _).congr (by simp)
  · rw [if_neg hfinite]
    refine (RefusedIff.ok _).congr (iff_of_false id ?_)
    rintro (h | ⟨y, u, hy, hu, -⟩)
    · exact hexcessive h
    · obtain rfl := hvalue hy
      exact hfinite (Double.isFinite_iff_toUnits?.2 ⟨u, hu⟩)

/-- There is no time exactly where the value is not usable. -/
theorem time_eq_none_iff {t : Option Int} (h : time value scale = .ok t) : t = none ↔ ¬ Usable value := by
  obtain ⟨x, hx, _⟩ := exists_of_bind_eq_ok h
  rw [time_of_number hscale hx] at h
  rw [usable_iff_of_number hx]
  by_cases hfinite : x.isFinite = true
  · rw [if_pos hfinite] at h
    split at h
    · cases h
      simp [hfinite]
    · cases h
  · rw [if_neg hfinite] at h
    cases h
    simp [hfinite]

theorem usable_of_time {ms : Int} (h : time value scale = .ok (some ms)) : Usable value :=
  not_not.1 fun hunusable => Option.some_ne_none ms ((time_eq_none_iff hscale h).2 hunusable)

end Time

/-- In milliseconds only an excessive integer is too far away. -/
theorem tooFar_one_iff : TooFar 1 value ↔ Excessive value := by
  refine ⟨?_, Or.inl⟩
  rintro (h | ⟨x, u, -, hu, hle⟩)
  · exact h
  · have hsmall := Double.natAbs_le_of_toUnits? hu
    have hlt := Nat.mul_lt_mul_of_pos_right Double.greatest_lt Double.unitsPerOne_pos
    rw [Int.natAbs_one, Nat.mul_one] at hle
    exact absurd (Nat.le_trans hle hsmall) (Nat.not_le.2 hlt)

/-- The millisecond after a time is read in turn. -/
theorem exists_time_succ {ms : Int} {scale : Int} (h : time value scale = .ok (some ms)) :
    ∃ t, time (.int (ms + 1)) = .ok t := by
  refine (time_refusedIff (by decide) _).read ?_
  rw [tooFar_one_iff, excessive_int_iff, not_not]
  obtain ⟨x, -, h⟩ := exists_of_bind_eq_ok h
  simp only at h
  split at h
  · split at h
    · next htruncate =>
      cases h
      exact Double.isFinite_ofInt_succ htruncate
    · cases h
  · cases h

/-! ## Every value at once -/

/-- What becomes of a value, whatever it is: which readings of it are refused, and what the others
    give. -/
structure Lenient (value : Json) : Prop where
  number : RefusedIff (Excessive value) (number value)
  number_eq : ¬ Excessive value → Reading.number value = .ok (value.number?.getD .nan)
  volume : RefusedIff (Excessive value) (volume value)
  volume_spec : ∀ x, Reading.volume value = .ok x → x.isFinite = true ∧
    (Usable value → Reading.number value = .ok x) ∧ (¬ Usable value → x = .zero)
  count : RefusedIff (Excessive value) (count value)
  count_spec : ∀ n, Reading.count value = .ok n → ¬ Usable value → n = 0
  time : RefusedIff (Excessive value) (time value)
  time_spec : ∀ t, Reading.time value = .ok t → (t = none ↔ ¬ Usable value)
  seconds : RefusedIff (TooFar 1000 value) (Reading.time value 1000)
  seconds_spec : ∀ t, Reading.time value 1000 = .ok t → (t = none ↔ ¬ Usable value)

theorem lenient (value : Json) : Lenient value where
  number := number_refusedIff value
  number_eq := number_of_not_excessive
  volume := volume_refusedIff value
  volume_spec _ := volume_spec
  count := count_refusedIff value
  count_spec _ := count_spec
  time := (time_refusedIff (by decide) value).congr tooFar_one_iff
  time_spec _ := time_eq_none_iff (by decide)
  seconds := time_refusedIff (by decide) value
  seconds_spec _ := time_eq_none_iff (by decide)

end Reading

end Candlestick
