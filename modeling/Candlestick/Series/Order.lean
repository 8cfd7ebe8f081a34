import Candlestick.Series.Keyed

set_option autoImplicit false

/-! # Order, duplicates and clipping

Lists of candles as they come from providers may overlap, repeat themselves and stand in any order.
`Series.normalize` keeps those that overlap a range, of several with one start the last, and puts
them in order of start. -/

namespace Candlestick.Series

/-- The candles in ascending order of start; equal starts keep their order. -/
def sort (cs : List Candle) : List Candle := cs.mergeSort fun a b => a.start ≤ b.start

/-- One candle for each start, the last of them in the place of the first. -/
def dedupe (cs : List Candle) : List Candle := (({} : CandleMap).storeAll cs).values

/-- The candles that overlap the range from `start` up to `stop`, one for each start, in order. -/
def normalize (start stop : Int) (cs : List Candle) : List Candle :=
  sort (dedupe (cs.filter (Candle.overlaps start stop)))

theorem mem_sort {cs : List Candle} {c : Candle} : c ∈ sort cs ↔ c ∈ cs := by
  simp [sort]

theorem sort_pairwise (cs : List Candle) : (sort cs).Pairwise fun a b => a.start ≤ b.start := by
  have h : (sort cs).Pairwise fun a b => decide (a.start ≤ b.start) = true :=
    List.pairwise_mergeSort (fun a b c => by simpa using Int.le_trans)
      (fun a b => by simpa using Int.le_total _ _) cs
  exact h.imp (by simp)

end Candlestick.Series
