import Candlestick.Market.Candle
import Std.Data.TreeMap

set_option autoImplicit false

/-! # Candles under keys

A `CandleMap` holds one candle under each integer key and remembers in which order the keys first
arrived. Look-up and storing take logarithmic time; a candle stored under a key that is already
there takes its place in the order. -/

namespace Candlestick

/-- Candles under integer keys, in the order in which the keys first arrived. -/
structure CandleMap where
  /-- The arrival number and the candle of each key. -/
  entries : Std.TreeMap Int (Nat × Candle) := ∅
  /-- How many keys have arrived. -/
  arrived : Nat := 0

namespace CandleMap

instance : Inhabited CandleMap := ⟨{}⟩

/-- The candle under a key. -/
def get? (m : CandleMap) (key : Int) : Option Candle := (m.entries[key]?).map (·.2)

/-- How many candles there are. -/
def size (m : CandleMap) : Nat := m.entries.size

/-- Store a candle under a key. -/
def insert (m : CandleMap) (key : Int) (c : Candle) : CandleMap :=
  match m.entries[key]? with
  | some (n, _) => { m with entries := m.entries.insert key (n, c) }
  | none => { entries := m.entries.insert key (m.arrived, c), arrived := m.arrived + 1 }

/-- Store a candle under its start. -/
def store (m : CandleMap) (c : Candle) : CandleMap := m.insert c.start c

/-- Store candles, one after the other, each under its start. -/
def storeAll (m : CandleMap) (cs : List Candle) : CandleMap := cs.foldl store m

/-- The candles in the order in which their keys first arrived. -/
def values (m : CandleMap) : List Candle :=
  ((m.entries.toList.map (·.2)).mergeSort fun a b => a.1 ≤ b.1).map (·.2)

@[simp] theorem get?_insert (m : CandleMap) (key k : Int) (c : Candle) :
    (m.insert key c).get? k = if k = key then some c else m.get? k := by
  have same : (compare key k = .eq) = (k = key) := by
    rw [eq_comm (a := k)]
    exact propext Std.LawfulEqCmp.compare_eq_iff_eq
  unfold insert get?
  split <;> by_cases h : k = key <;> simp [Std.TreeMap.getElem?_insert, same, h]

theorem get?_store (m : CandleMap) (c : Candle) (k : Int) :
    (m.store c).get? k = if k = c.start then some c else m.get? k :=
  get?_insert m c.start k c

@[simp] theorem get?_empty (k : Int) : ({} : CandleMap).get? k = none := by
  simp [get?]

end CandleMap

end Candlestick
