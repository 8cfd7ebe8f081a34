import Candlestick.Proofs.Calendar.Moment
import Candlestick.Proofs.Market.Interval
import Candlestick.Proofs.Provider.Rows

set_option autoImplicit false

/-! # Bars, the rows that they are written in, and the candles that come of them

A bar is what a chart draws of a candle. A row is the row of a bar if its cells spell the bar's open time
and hold its prices and its volume; how they do so (`Reading.Holds`) says nothing of where they stand.
The two plain forms of a row, a list and an object, are given by the places or the keys of the cells and
by the unit of the time. -/

namespace Candlestick

/-- A bar, from `start` up to but without `stop`: its prices and its volume. -/
structure Bar where
  start : Int
  stop : Int
  opening : Double
  highest : Double
  lowest : Double
  closing : Double
  volume : Double
  deriving DecidableEq

/-- The bar of a candle. -/
def Candle.bar (c : Candle) : Bar :=
  ⟨c.start, c.stop, c.opening, c.highest, c.lowest, c.closing, c.volume⟩

namespace Bar

/-- A bar that every provider can write: it opens on a whole second after the first one, it is as long as
    its timeframe, and its values are finite. -/
structure Sound (base : TimeFrame) (b : Bar) : Prop where
  second : 1000 ∣ b.start
  pos : 0 < b.start
  le : b.start ≤ 2 ^ 47
  stop_eq : b.stop = b.start + base.ms
  finite : ∀ x ∈ [b.opening, b.highest, b.lowest, b.closing, b.volume], x.isFinite = true

theorem Sound.lt_stop {base : TimeFrame} {b : Bar} (h : b.Sound base) : b.start < b.stop := by
  have hend := h.stop_eq
  have hbase := base.ms_pos
  omega

theorem Sound.stop_lt {base : TimeFrame} {b : Bar} (h : b.Sound base) : b.stop < 2 ^ 53 := by
  have hend := h.stop_eq
  have hsmall := h.le
  have hbase := base.ms_le
  omega

/-- Bars in order of start. -/
def sort (bars : List Bar) : List Bar := bars.mergeSort fun a b => a.start ≤ b.start

end Bar

/-! ## Cells -/

/-- A cell holds a number: as it is, as an integer, or in a text. -/
def Reading.Holds (cell : Json) (x : Double) : Prop :=
  cell = .double x ∨ (∃ n, cell = .int n ∧ Double.ofInt n = x) ∨
    ∃ s, cell = .str s ∧ Double.ofText? s = some x

theorem Reading.number_of_holds {cell : Json} {x : Double} (h : Holds cell x) (hx : x.isFinite = true) :
    number cell = .ok x := by
  rcases h with rfl | ⟨n, rfl, rfl⟩ | ⟨s, rfl, hs⟩
  · rfl
  · exact if_pos hx
  · rw [number, hs, Option.getD_some]

/-- Cells that hold the prices and the volume of a bar. -/
structure Bar.InCells (b : Bar) (opening highest lowest closing volume : Json) : Prop where
  opening : Reading.Holds opening b.opening
  highest : Reading.Holds highest b.highest
  lowest : Reading.Holds lowest b.lowest
  closing : Reading.Holds closing b.closing
  volume : Reading.Holds volume b.volume

/-- The row of a bar as a list, with the time in units of `scale` milliseconds. -/
structure Bar.AsList (scale : Int) (opening highest lowest closing volume : Nat) (row : Json) (b : Bar) :
    Prop where
  opens : Reading.Spells (Reading.item row 0) (b.start / scale)
  values : b.InCells (Reading.item row opening) (Reading.item row highest) (Reading.item row lowest)
    (Reading.item row closing) (Reading.item row volume)

/-- The row of a bar as an object. -/
structure Bar.AsObject (scale : Int) (time opening highest lowest closing volume : String) (row : Json)
    (b : Bar) : Prop where
  isObject : row.isObject = true
  opens : Reading.Spells (row.member time) (b.start / scale)
  values : b.InCells (row.member opening) (row.member highest) (row.member lowest) (row.member closing)
    (row.member volume)

/-! ## Candles -/

/-- A list that has its time in its first cell is no object. -/
theorem Bar.AsList.isObject {scale : Int} {opening highest lowest closing volume : Nat} {row : Json}
    {b : Bar} (h : Bar.AsList scale opening highest lowest closing volume row b) :
    row.isObject = false := by
  have hopens := h.opens
  cases row with
  | obj members => exact absurd hopens (by simp [Reading.item, Reading.Spells])
  | _ => rfl

section Candles

variable {base : TimeFrame} {b : Bar} {row : Json} {scale : Int}

/-- The open time of a bar is read in any unit that divides a second. -/
theorem Bar.Sound.time_of_spells {cell : Json} (hb : b.Sound base)
    (h : Reading.Spells cell (b.start / scale)) (hscale : 0 < scale) (hdvd : scale ∣ 1000) :
    Reading.time cell scale = .ok (some b.start) := by
  have hstart : b.start / scale * scale = b.start := Int.ediv_mul_cancel (Int.dvd_trans hdvd hb.second)
  have hle : scale ≤ 1000 := Int.le_of_dvd (by decide) hdvd
  have hpos := hb.pos
  have hsmall := hb.le
  have htime := Reading.time_of_spells h hscale (by rw [hstart]; omega) (by omega)
  rwa [hstart] at htime

variable {r : FetchRequest} (hb : b.Sound base) (hwidth : r.width = base.ms)
include hb hwidth

/-- Cells that hold the values of a bar make its candle, whether the end is given or not. -/
theorem Bar.InCells.exists_candle {opening highest lowest closing volume trades : Json} {stop : Option Int}
    (h : b.InCells opening highest lowest closing volume) (htrades : ∃ x, Reading.number trades = .ok x)
    (hstop : ∀ ms ∈ stop, ms = b.stop) :
    ∃ c, r.candle b.start opening highest lowest closing volume trades stop = .ok c ∧ c.bar = b := by
  obtain ⟨x, htrades⟩ := htrades
  obtain ⟨hopening, hhighest, hlowest, hclosing, hvolume⟩ :
      b.opening.isFinite = true ∧ b.highest.isFinite = true ∧ b.lowest.isFinite = true ∧
        b.closing.isFinite = true ∧ b.volume.isFinite = true := by
    simpa using hb.finite
  have hend : b.start + r.width = b.stop := by rw [hwidth, hb.stop_eq]
  simp only [FetchRequest.candle, Reading.volume, Reading.count, htrades,
    Reading.number_of_holds h.opening hopening, Reading.number_of_holds h.highest hhighest,
    Reading.number_of_holds h.lowest hlowest, Reading.number_of_holds h.closing hclosing,
    Reading.number_of_holds h.volume hvolume, Except.map, hvolume, if_true, hend]
  cases stop with
  | none => exact ⟨_, rfl, rfl⟩
  | some ms =>
    obtain rfl := hstop ms rfl
    have hpos := hb.pos
    have hlt := hb.lt_stop
    have hsmall := hb.stop_lt
    simp only [Reading.time_int (by omega : b.stop.natAbs ≤ 2 ^ 53)]
    refine ⟨_, rfl, ?_⟩
    simp only [Candle.bar, if_neg (by omega : b.stop ≠ 0)]

/-- A row as a list gives the candle of its bar, and so does one as an object. -/
theorem Bar.AsList.exists_rowCandle {opening highest lowest closing volume : Nat}
    (h : Bar.AsList scale opening highest lowest closing volume row b) (hscale : 0 < scale)
    (hdvd : scale ∣ 1000) :
    ∃ c, r.rowCandle scale opening highest lowest closing volume row = .ok (some c) ∧ c.bar = b :=
  FetchRequest.exists_of_timed (hb.time_of_spells h.opens hscale hdvd)
    (h.values.exists_candle hb hwidth Reading.number_zero nofun)

theorem Bar.AsObject.exists_memberCandle {time opening highest lowest closing volume : String}
    (h : Bar.AsObject scale time opening highest lowest closing volume row b) (hscale : 0 < scale)
    (hdvd : scale ∣ 1000) :
    ∃ c, r.memberCandle scale time opening highest lowest closing volume row = .ok (some c) ∧
      c.bar = b :=
  FetchRequest.exists_of_timed (hb.time_of_spells h.opens hscale hdvd)
    (h.values.exists_candle hb hwidth Reading.number_zero nofun)

/-- So does a row of either form, where objects are told from lists. -/
theorem Bar.exists_row_of_either {opening highest lowest closing volume : Nat}
    {time opening' highest' lowest' closing' volume' : String}
    (h : Bar.AsList scale opening highest lowest closing volume row b ∨
      Bar.AsObject scale time opening' highest' lowest' closing' volume' row b)
    (hscale : 0 < scale) (hdvd : scale ∣ 1000) :
    ∃ c, (if row.isObject then r.memberCandle scale time opening' highest' lowest' closing' volume' row
      else r.rowCandle scale opening highest lowest closing volume row) = .ok (some c) ∧ c.bar = b := by
  rcases h with hlist | hobject
  · rw [hlist.isObject]
    exact hlist.exists_rowCandle hb hwidth hscale hdvd
  · rw [hobject.isObject]
    exact hobject.exists_memberCandle hb hwidth hscale hdvd

end Candles

/-- Where each row gives the candle of its bar, the rows give the candles of the bars, in order. -/
theorem exists_readRows_bars {read : Json → Except Failure (Option Candle)} {layout : Json → Bar → Prop}
    {rows : List Json} {bars : List Bar} (h : List.Forall₂ layout rows bars)
    (hread : ∀ row, ∀ b ∈ bars, layout row b → ∃ c, read row = .ok (some c) ∧ c.bar = b) :
    ∃ cs, readRows read rows = .ok cs ∧ cs.map Candle.bar = bars := by
  induction h with
  | nil => exact ⟨[], rfl, rfl⟩
  | @cons row b rows bars hrow _ ih =>
    obtain ⟨c, hc, rfl⟩ := hread row b List.mem_cons_self hrow
    obtain ⟨cs, hcs, rfl⟩ := ih fun row b hb => hread row b (List.mem_cons_of_mem _ hb)
    exact ⟨c :: cs, by rw [readRows, hc, hcs]; rfl, rfl⟩

/-- Cutting the candles of distinct bars to a range that they all open in leaves every bar, in order. -/
theorem Bar.map_normalize {start stop : Int} {cs : List Candle}
    (hdistinct : (cs.map Candle.bar).Pairwise fun a b => a.start ≠ b.start)
    (hinside : ∀ b ∈ cs.map Candle.bar, start ≤ b.start ∧ b.start < stop ∧ b.start < b.stop) :
    (Series.normalize start stop cs).map Candle.bar = sort (cs.map Candle.bar) := by
  have hover : ∀ c ∈ cs, c.overlaps start stop = true := fun c hc => by
    obtain ⟨hstart, hstop, hlt⟩ := hinside c.bar (List.mem_map_of_mem hc)
    exact Bool.and_eq_true_iff.2 ⟨decide_eq_true (Int.lt_of_le_of_lt hstart hlt), decide_eq_true hstop⟩
  rw [List.pairwise_map] at hdistinct
  rw [Series.normalize_eq_sort hdistinct hover]
  exact List.map_mergeSort fun _ _ _ _ => rfl

end Candlestick
