import Candlestick.Proofs.Series.Faultless
import Candlestick.Proofs.Series.RollUp

set_option autoImplicit false

/-! # Missing prices and the roll-up

The greatest and the least of some prices, taken one after the other, are missing exactly if the first
one is. So the candle of a bucket lacks a price exactly if the bucket's first candle lacks its opening
price, high or low, or the last one lacks its closing price (`Series.Exposes`). Whatever else is missing
in a bucket cannot be seen in its candle. -/

namespace Candlestick

namespace Series

/-- Whether a candle lacks a price other than the closing one. -/
def lacksBeforeClose (c : Candle) : Bool := c.opening.isNaN || c.highest.isNaN || c.lowest.isNaN

/-- A missing price that the roll-up to buckets of one width leaves to be seen: a price before the close
    in the first candle of its bucket, or the closing price in the last one. -/
def Exposes (width : Int) (cs : List Candle) : Prop :=
  ∃ c ∈ cs,
    (lacksBeforeClose c = true ∧
        ∀ d ∈ inBucket width (bucketStart width c.start) cs, c.start ≤ d.start) ∨
      (c.closing.isNaN = true ∧
        ∀ d ∈ inBucket width (bucketStart width c.start) cs, d.start ≤ c.start)

instance (width : Int) (cs : List Candle) : Decidable (Exposes width cs) :=
  inferInstanceAs (Decidable (∃ c ∈ cs, (_ ∧ ∀ d ∈ _, _) ∨ (_ ∧ ∀ d ∈ _, _)))

/-! ## The first and the last candle -/

theorem Ascending.head_le {first : Candle} {rest : List Candle} (h : Ascending (first :: rest))
    {c : Candle} (hc : c ∈ first :: rest) : first.start ≤ c.start := by
  rcases List.mem_cons.1 hc with rfl | hc
  · exact Int.le_refl _
  · exact Int.le_of_lt ((List.pairwise_cons.1 h).1 c hc)

theorem Ascending.le_getLast {cs : List Candle} (h : Ascending cs) (hne : cs ≠ []) {c : Candle}
    (hc : c ∈ cs) : c.start ≤ (cs.getLast hne).start := by
  rw [← List.dropLast_append_getLast hne] at h hc
  rcases List.mem_append.1 hc with hc | hc
  · exact Int.le_of_lt ((List.pairwise_append.1 h).2.2 c hc _ (List.mem_singleton.2 rfl))
  · rw [List.mem_singleton.1 hc]

theorem foldl_closing (first : Candle) (rest : List Candle) :
    rest.foldl (fun _ c => c.closing) first.closing =
      ((first :: rest).getLast (List.cons_ne_nil _ _)).closing := by
  induction rest generalizing first with
  | nil => rfl
  | cons c rest ih => exact ih c

/-! ## What can be seen of missing prices -/

theorem lacksPrice_of_bucketCandle {width start : Int} {asset label : String} {first d : Candle}
    {rest : List Candle} (h : bucketCandle width start asset label (first :: rest) = some d) :
    lacksPrice d = (lacksBeforeClose first ||
      ((first :: rest).getLast (List.cons_ne_nil _ _)).closing.isNaN) := by
  obtain rfl := Option.some.inj h
  have hhighest := Double.isNaN_foldl (fun x (c : Candle) => Double.isNaN_max x c.highest) rest
    first.highest
  have hlowest := Double.isNaN_foldl (fun x (c : Candle) => Double.isNaN_min x c.lowest) rest
    first.lowest
  simp only [lacksPrice, lacksBeforeClose, hhighest, hlowest, foldl_closing]

/-- Among candles that are rolled up one lacks a price exactly if a missing price is left to be seen. -/
theorem exists_lacksPrice_rollUp {width : Int} (hw : 0 < width) {asset label : String}
    {cs : List Candle} (hcs : Ascending cs) :
    (∃ d ∈ rollUp width asset label cs, lacksPrice d = true) ↔ Exposes width cs := by
  have hbucket : ∀ k, Ascending (inBucket width k cs) := fun k => hcs.filter _
  constructor
  · rintro ⟨d, hd, hlacks⟩
    rw [mem_rollUp hw, sort_of_ascending hcs] at hd
    have hasc := hbucket d.start
    have hmem : ∀ c ∈ inBucket width d.start cs, c ∈ cs ∧ bucketStart width c.start = d.start :=
      fun c hc => ⟨(List.mem_filter.1 hc).1, of_decide_eq_true (List.mem_filter.1 hc).2⟩
    generalize hown : inBucket width d.start cs = own at *
    cases own with
    | nil => exact absurd hd (by simp [bucketCandle])
    | cons first rest =>
      rw [lacksPrice_of_bucketCandle hd, Bool.or_eq_true] at hlacks
      rcases hlacks with hfirst | hlast
      · obtain ⟨hfrom, hstart⟩ := hmem first List.mem_cons_self
        refine ⟨first, hfrom, Or.inl ⟨hfirst, fun e he => ?_⟩⟩
        rw [hstart, hown] at he
        exact hasc.head_le he
      · obtain ⟨hfrom, hstart⟩ := hmem _ (List.getLast_mem (List.cons_ne_nil first rest))
        refine ⟨_, hfrom, Or.inr ⟨hlast, fun e he => ?_⟩⟩
        rw [hstart, hown] at he
        exact hasc.le_getLast _ he
  · rintro ⟨c, hc, hexposed⟩
    have hasc := hbucket (bucketStart width c.start)
    have hown : c ∈ inBucket width (bucketStart width c.start) cs :=
      List.mem_filter.2 ⟨hc, by simp⟩
    have hmade : ∀ d, bucketCandle width (bucketStart width c.start) asset label
        (inBucket width (bucketStart width c.start) cs) = some d → d ∈ rollUp width asset label cs := by
      intro d hd
      rwa [mem_rollUp hw, sort_of_ascending hcs, start_of_bucketCandle hd]
    generalize inBucket width (bucketStart width c.start) cs = own at *
    cases own with
    | nil => exact absurd hown (by simp)
    | cons first rest =>
      refine ⟨_, hmade _ rfl, ?_⟩
      rw [lacksPrice_of_bucketCandle rfl, Bool.or_eq_true]
      rcases hexposed with ⟨hlacks, hfirst⟩ | ⟨hlacks, hlast⟩
      · have hle := hfirst first List.mem_cons_self
        rw [← hasc.eq_of_start_eq hown List.mem_cons_self (Int.le_antisymm hle (hasc.head_le hown))]
        exact Or.inl hlacks
      · have hle := hlast _ (List.getLast_mem (List.cons_ne_nil first rest))
        rw [← hasc.eq_of_start_eq hown (List.getLast_mem (List.cons_ne_nil first rest))
          (Int.le_antisymm (hasc.le_getLast _ hown) hle)]
        exact Or.inr hlacks

end Series

end Candlestick
