import Candlestick.Number.Double

set_option autoImplicit false

/-! # The greatest and the least of some numbers

Of two numbers that are there, `Double.max` and `Double.min` give one, the first where the order does
not tell them apart. So it matters in which order some numbers are taken, since the two zeros are equal,
but not how they are grouped; and the one that is left of a list bounds them all. -/

namespace Candlestick.Double

/-! ## Missing numbers -/

/-- Numbers that are compared are there. -/
theorem isNaN_of_lt {x y : Double} (h : x.lt y = true) : x.isNaN = false ∧ y.isNaN = false := by
  cases x <;> cases y <;> first | exact ⟨rfl, rfl⟩ | exact absurd h (by simp [lt, orderKey?])

theorem isNaN_max (x y : Double) : (x.max y).isNaN = x.isNaN := by
  unfold max
  split
  · rename_i hlt
    rw [(isNaN_of_lt hlt).1, (isNaN_of_lt hlt).2]
  · rfl

/-- A number that is combined with others is missing exactly if it was, where one step is like that. -/
theorem isNaN_foldl {α : Type} {f : Double → α → Double} (hf : ∀ x a, (f x a).isNaN = x.isNaN)
    (as : List α) (x : Double) : (as.foldl f x).isNaN = x.isNaN := by
  induction as generalizing x with
  | nil => rfl
  | cons a as ih => rw [List.foldl_cons, ih, hf]

/-! ## Places in the order -/

theorem exists_orderKey {x : Double} (h : x.isNaN = false) : ∃ a, x.orderKey? = some a := by
  cases x with
  | nan => exact absurd h (by simp [isNaN])
  | signed negative bits hbits => exact ⟨_, rfl⟩

section Keys

variable {x y z : Double} {a b : Int}

theorem lt_iff (hx : x.orderKey? = some a) (hy : y.orderKey? = some b) : x.lt y = true ↔ a < b := by
  simp [lt, hx, hy]

theorem le_iff (hx : x.orderKey? = some a) (hy : y.orderKey? = some b) : x.le y = true ↔ a ≤ b := by
  simp [le, hx, hy]

/-- Of numbers that are there, one is not less than another exactly if it is at least as great. -/
theorem lt_eq_false_iff (hx : x.isNaN = false) (hy : y.isNaN = false) :
    x.lt y = false ↔ y.le x = true := by
  obtain ⟨a, ha⟩ := exists_orderKey hx
  obtain ⟨b, hb⟩ := exists_orderKey hy
  rw [← Bool.not_eq_true, lt_iff ha hb, le_iff hb ha]
  exact Int.not_lt

theorem max_eq (hx : x.orderKey? = some a) (hy : y.orderKey? = some b) :
    x.max y = if a < b then y else x := by
  simp [max, lt_iff hx hy]

theorem le_trans (hxy : x.le y = true) (hyz : y.le z = true) : x.le z = true := by
  cases x <;> cases y <;> cases z <;> simp only [le, orderKey?, Bool.false_eq_true,
    decide_eq_true_eq] at hxy hyz ⊢
  exact Int.le_trans hxy hyz

end Keys

/-! ## Turning the order round -/

theorem neg_neg (x : Double) : - -x = x := by
  cases x with
  | nan => rfl
  | signed negative bits hbits => exact congrArg (signed · bits hbits) (Bool.not_not negative)

theorem isNaN_neg (x : Double) : (-x).isNaN = x.isNaN := by cases x <;> rfl

theorem orderKey?_neg (x : Double) : (-x).orderKey? = x.orderKey?.map fun a => -a := by
  cases x with
  | nan => rfl
  | signed negative bits hbits =>
    change (signed (!negative) bits hbits).orderKey? = _
    cases negative <;> simp [orderKey?]

theorem neg_lt_neg (x y : Double) : (-x).lt (-y) = y.lt x := by
  cases hx : x.orderKey? <;> cases hy : y.orderKey? <;> simp [lt, orderKey?_neg, hx, hy]

theorem neg_le_neg (x y : Double) : (-x).le (-y) = y.le x := by
  cases hx : x.orderKey? <;> cases hy : y.orderKey? <;> simp [le, orderKey?_neg, hx, hy]

/-- The least of some numbers is the greatest of their negatives. -/
theorem min_eq_neg_max (x y : Double) : x.min y = -(-x).max (-y) := by
  simp only [min, max, neg_lt_neg]
  split <;> rw [neg_neg]

theorem isNaN_min (x y : Double) : (x.min y).isNaN = x.isNaN := by
  rw [min_eq_neg_max, isNaN_neg, isNaN_max, isNaN_neg]

/-! ## Grouping -/

section Grouping

variable {x y z : Double} (hx : x.isNaN = false) (hy : y.isNaN = false) (hz : z.isNaN = false)

include hx hy hz

theorem max_assoc : (x.max y).max z = x.max (y.max z) := by
  obtain ⟨a, ha⟩ := exists_orderKey hx
  obtain ⟨b, hb⟩ := exists_orderKey hy
  obtain ⟨c, hc⟩ := exists_orderKey hz
  rw [max_eq ha hb, max_eq hb hc]
  split <;> split
  · rw [max_eq hb hc, max_eq ha hc, if_pos (by omega), if_pos (by omega)]
  · rw [max_eq hb hc, max_eq ha hb, if_neg (by omega), if_pos (by omega)]
  · rfl
  · rw [max_eq ha hc, max_eq ha hb, if_neg (by omega), if_neg (by omega)]

theorem min_assoc : (x.min y).min z = x.min (y.min z) := by
  simp only [min_eq_neg_max, neg_neg]
  rw [max_assoc] <;> rwa [isNaN_neg]

end Grouping

/-! ## Bounds -/

/-- An operation that gives one of two numbers, and of numbers that are there one that bounds both. -/
structure Selects (op : Double → Double → Double) (bounds : Double → Double → Prop) : Prop where
  either : ∀ x y, op x y = x ∨ op x y = y
  refl : ∀ {x}, x.isNaN = false → bounds x x
  trans : ∀ {x y z}, bounds x y → bounds y z → bounds x z
  left : ∀ {x y}, x.isNaN = false → y.isNaN = false → bounds x (op x y)
  right : ∀ {x y}, x.isNaN = false → y.isNaN = false → bounds y (op x y)

theorem selects_max : Selects max fun x y => x.le y = true where
  either x y := by
    unfold max
    split
    · exact Or.inr rfl
    · exact Or.inl rfl
  refl := le_refl_of_not_nan
  trans := le_trans
  left {x y} hx hy := by
    obtain ⟨a, ha⟩ := exists_orderKey hx
    obtain ⟨b, hb⟩ := exists_orderKey hy
    rw [max_eq ha hb]
    split
    · exact (le_iff ha hb).2 (by omega)
    · exact (le_iff ha ha).2 (by omega)
  right {x y} hx hy := by
    obtain ⟨a, ha⟩ := exists_orderKey hx
    obtain ⟨b, hb⟩ := exists_orderKey hy
    rw [max_eq ha hb]
    split
    · exact (le_iff hb hb).2 (by omega)
    · exact (le_iff hb ha).2 (by omega)

theorem selects_min : Selects min fun x y => y.le x = true where
  either x y := by
    unfold min
    split
    · exact Or.inr rfl
    · exact Or.inl rfl
  refl := le_refl_of_not_nan
  trans hxy hyz := le_trans hyz hxy
  left {x y} hx hy := by
    rw [min_eq_neg_max, ← neg_le_neg, neg_neg]
    exact selects_max.left ((isNaN_neg x).trans hx) ((isNaN_neg y).trans hy)
  right {x y} hx hy := by
    rw [min_eq_neg_max, ← neg_le_neg, neg_neg]
    exact selects_max.right ((isNaN_neg x).trans hx) ((isNaN_neg y).trans hy)

section Fold

variable {op : Double → Double → Double} {bounds : Double → Double → Prop}

/-- What bounds the one that is selected bounds both. -/
theorem Selects.bounds_iff (h : Selects op bounds) {x y z : Double} (hx : x.isNaN = false)
    (hy : y.isNaN = false) : bounds (op x y) z ↔ bounds x z ∧ bounds y z := by
  constructor
  · intro hop
    exact ⟨h.trans (h.left hx hy) hop, h.trans (h.right hx hy) hop⟩
  · rintro ⟨hxz, hyz⟩
    rcases h.either x y with heq | heq
    · rwa [heq]
    · rwa [heq]

/-- A number that others are brought down to stays or gives way to one of them, and the one that is left
    bounds them all. -/
theorem Selects.foldl_from (h : Selects op bounds) {α : Type} {f : α → Double} {cs : List α}
    (hcs : ∀ c ∈ cs, (f c).isNaN = false) {x : Double} (hx : x.isNaN = false) :
    (cs.foldl (fun x c => op x (f c)) x = x ∨ ∃ c ∈ cs, cs.foldl (fun x c => op x (f c)) x = f c) ∧
      bounds x (cs.foldl (fun x c => op x (f c)) x) ∧
      ∀ c ∈ cs, bounds (f c) (cs.foldl (fun x c => op x (f c)) x) := by
  induction cs generalizing x with
  | nil => exact ⟨Or.inl rfl, h.refl hx, by simp⟩
  | cons c cs ih =>
    obtain ⟨hc, hcs⟩ := List.forall_mem_cons.1 hcs
    have hnext : (op x (f c)).isNaN = false := by
      rcases h.either x (f c) with heq | heq <;> rw [heq] <;> assumption
    obtain ⟨hone, hfrom, hall⟩ := ih hcs hnext
    rw [List.foldl_cons]
    refine ⟨?_, h.trans (h.left hx hc) hfrom,
      List.forall_mem_cons.2 ⟨h.trans (h.right hx hc) hfrom, hall⟩⟩
    rcases hone with hone | ⟨d, hd, hone⟩
    · rw [hone]
      rcases h.either x (f c) with heq | heq
      · exact Or.inl heq
      · exact Or.inr ⟨c, List.mem_cons_self, heq⟩
    · exact Or.inr ⟨d, List.mem_cons_of_mem c hd, hone⟩

/-- What a list is brought down to, one number after the other, is one of the numbers and bounds all. -/
theorem Selects.foldl (h : Selects op bounds) {α : Type} (f : α → Double) {first : α} {rest : List α}
    (hthere : ∀ c ∈ first :: rest, (f c).isNaN = false) :
    (∃ c ∈ first :: rest, rest.foldl (fun x c => op x (f c)) (f first) = f c) ∧
      ∀ c ∈ first :: rest, bounds (f c) (rest.foldl (fun x c => op x (f c)) (f first)) := by
  obtain ⟨hfirst, hrest⟩ := List.forall_mem_cons.1 hthere
  obtain ⟨hone, hfrom, hall⟩ := h.foldl_from hrest hfirst
  refine ⟨?_, List.forall_mem_cons.2 ⟨hfrom, hall⟩⟩
  rcases hone with hone | ⟨c, hc, hone⟩
  · exact ⟨first, List.mem_cons_self, hone⟩
  · exact ⟨c, List.mem_cons_of_mem first hc, hone⟩

end Fold

end Candlestick.Double
