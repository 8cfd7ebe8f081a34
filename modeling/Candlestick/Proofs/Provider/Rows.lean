import Mathlib.Data.Finset.Filter
import Mathlib.Data.Finset.SDiff
import Mathlib.Data.List.Forall2
import Candlestick.Proofs.Number.Reading
import Candlestick.Proofs.Series.Order
import Candlestick.Provider.Request

set_option autoImplicit false

/-! # Rows as they should be, and what becomes of them

A row as it should be spells its open time, as a number or as a text, and holds values that can be
read. It becomes a candle that starts at that time, exactly, and is one width long. A row whose time
cannot be read is passed over (`LegibleExcept`), and nothing else becomes of it.

`FetchRequest.Whole` is what is asked of all the candles of a range together: they are of kept open
times only, and none in the range is lost, neither by the reading nor when the candles are cut to the
range. -/

namespace Candlestick

/-! ## Objects -/

namespace Json

variable {answer value : Json} {key : String}

theorem isObject_of_member (h : answer.member key = value) (hvalue : value ≠ .null) :
    answer.isObject = true := by
  cases answer with
  | obj members => rfl
  | _ => exact absurd h.symm hvalue

theorem isPresent_of_member (h : answer.member key = value) (hvalue : value ≠ .null) :
    answer.isPresent = true := by
  cases answer with
  | obj members =>
    cases members with
    | nil => exact absurd h.symm hvalue
    | cons member rest => rfl
  | _ => exact absurd h.symm hvalue

end Json

/-! ## Candles of rows -/

/-- Readable values make a candle. One without an end of its own is a width long. -/
theorem FetchRequest.exists_candle {r : FetchRequest} {start : Int}
    {opening highest lowest closing volume trades : Json} {stop : Option Int}
    (hstop : ∀ ms ∈ stop, ∃ t, Reading.time (.int ms) = .ok t)
    (hvalues : ∀ value ∈ [opening, highest, lowest, closing, volume, trades],
      ∃ x, Reading.number value = .ok x) :
    ∃ c, r.candle start opening highest lowest closing volume trades stop = .ok c ∧ c.start = start ∧
      (stop = none → c.stop = start + r.width) := by
  simp only [List.forall_mem_cons] at hvalues
  obtain ⟨⟨_, hopening⟩, ⟨_, hhighest⟩, ⟨_, hlowest⟩, ⟨_, hclosing⟩, ⟨_, hvolume⟩, ⟨_, htrades⟩, -⟩ :=
    hvalues
  cases stop with
  | none =>
    simp only [candle, Reading.volume, Reading.count, hopening, hhighest, hlowest, hclosing, hvolume,
      htrades]
    exact ⟨_, rfl, rfl, fun _ => rfl⟩
  | some ms =>
    obtain ⟨t, ht⟩ := hstop ms rfl
    simp only [candle, Reading.volume, Reading.count, ht, hopening, hhighest, hlowest, hclosing, hvolume,
      htrades]
    exact ⟨_, rfl, rfl, fun hnone => absurd hnone (by simp)⟩

/-- The row of a time as it should be or, where the time is illegible, any row whose time cannot be
    read. The time of a row stands in a cell of it. -/
def LegibleExcept (illegible : Finset Int) (cell : Json → Json) (scale : Int)
    (whole : Json → Int → Prop) (row : Json) (k : Int) : Prop :=
  if k ∈ illegible then Reading.time (cell row) scale = .ok none else whole row k

theorem legibleExcept_empty {cell : Json → Json} {scale : Int} {whole : Json → Int → Prop} :
    LegibleExcept ∅ cell scale whole = whole := by
  funext row k
  exact if_neg (Finset.notMem_empty k)

/-- What stands in a row of a page is laid out in it. -/
theorem exists_of_mem_rows {α : Type} {layout : Json → α → Prop} {rows : List Json} {items : List α}
    (h : List.Forall₂ layout rows items) {row : Json} (hrow : row ∈ rows) :
    ∃ item ∈ items, layout row item := by
  induction h with
  | nil => exact absurd hrow List.not_mem_nil
  | cons hfirst _ ih =>
    rcases List.mem_cons.1 hrow with rfl | hrest
    · exact ⟨_, List.mem_cons_self, hfirst⟩
    · obtain ⟨item, hitem, hlayout⟩ := ih hrest
      exact ⟨item, List.mem_cons_of_mem _ hitem, hlayout⟩

/-- The last row of a page is one of its rows. -/
theorem exists_last_item (first : Json) (others : List Json) : ∃ last ∈ first :: others,
    Reading.item (.arr (first :: others)) ((first :: others).length - 1) = last := by
  have hne := List.cons_ne_nil first others
  refine ⟨_, List.getLast_mem hne, ?_⟩
  rw [Reading.item, ← List.getLast?_eq_getElem?, List.getLast?_eq_getLast_of_ne_nil hne, Option.getD_some]

/-- Where rows as they should be give candles and illegible ones are passed over, rows of both kinds give
    the candles of the legible ones in order. -/
theorem exists_readRows {read : Json → Except Failure (Option Candle)} {illegible : Finset Int}
    {cell : Json → Json} {scale : Int} {whole : Json → Int → Prop} {f : Int → Int}
    {good : Candle → Prop} {rows : List Json} {ks : List Int}
    (h : List.Forall₂ (LegibleExcept illegible cell scale whole) rows ks)
    (hpass : ∀ row, Reading.time (cell row) scale = .ok none → read row = .ok none)
    (hread : ∀ row, ∀ k ∈ ks, whole row k →
      ∃ c, read row = .ok (some c) ∧ c.start = f k ∧ good c) :
    ∃ cs, readRows read rows = .ok cs ∧
      cs.map (·.start) = (ks.filter (· ∉ illegible)).map f ∧ ∀ c ∈ cs, good c := by
  induction h with
  | nil => exact ⟨[], rfl, rfl, by simp⟩
  | @cons row k rows ks hrow _ ih =>
    obtain ⟨cs, hcs, hstarts, hgoods⟩ := ih fun row k hk => hread row k (List.mem_cons_of_mem _ hk)
    rw [readRows]
    by_cases hk : k ∈ illegible
    · rw [LegibleExcept, if_pos hk] at hrow
      rw [hpass row hrow, hcs]
      exact ⟨cs, rfl, by simpa [hk] using hstarts, hgoods⟩
    · rw [LegibleExcept, if_neg hk] at hrow
      obtain ⟨c, hc, hstart, hgood⟩ := hread row k List.mem_cons_self hrow
      rw [hc, hcs]
      refine ⟨c :: cs, rfl, ?_, List.forall_mem_cons.2 ⟨hgood, hgoods⟩⟩
      simpa [hk, hstart] using hstarts

section Starts

variable {cs : List Candle} {ks : List Int} {illegible : Finset Int} {f : Int → Int}
  (h : cs.map (·.start) = (ks.filter (· ∉ illegible)).map f)
include h

/-- Where the candles are those of the legible times, each of them is of such a time, -/
theorem exists_time_of_candle {c : Candle} (hc : c ∈ cs) : ∃ k ∈ ks, k ∉ illegible ∧ c.start = f k := by
  have hmem : c.start ∈ (ks.filter (· ∉ illegible)).map f := h ▸ List.mem_map_of_mem hc
  obtain ⟨k, hk, heq⟩ := List.mem_map.1 hmem
  obtain ⟨hshown, hlegible⟩ := List.mem_filter.1 hk
  exact ⟨k, hshown, of_decide_eq_true hlegible, heq.symm⟩

/-- and each such time has one. -/
theorem exists_candle_of_time {k : Int} (hk : k ∈ ks) (hlegible : k ∉ illegible) :
    ∃ c ∈ cs, c.start = f k := by
  have hread : k ∈ ks.filter (· ∉ illegible) := List.mem_filter.2 ⟨hk, decide_eq_true hlegible⟩
  have hmem : f k ∈ cs.map (·.start) := h ▸ List.mem_map_of_mem hread
  exact List.mem_map.1 hmem

end Starts

/-- Some rows give candles of the given times, each of them a width long. -/
structure FetchRequest.Gives (r : FetchRequest) (read : Json → Except Failure (Option Candle))
    (scale : Int) (rows : List Json) (ks : List Int) (cs : List Candle) : Prop where
  read_eq : readRows read rows = .ok cs
  starts : cs.map (·.start) = ks.map (· * scale)
  stops : ∀ c ∈ cs, c.stop = c.start + r.width

theorem FetchRequest.exists_gives {r : FetchRequest} {read : Json → Except Failure (Option Candle)}
    {illegible : Finset Int} {cell : Json → Json} {scale : Int} {whole : Json → Int → Prop}
    {rows : List Json} {ks : List Int}
    (h : List.Forall₂ (LegibleExcept illegible cell scale whole) rows ks)
    (hpass : ∀ row, Reading.time (cell row) scale = .ok none → read row = .ok none)
    (hread : ∀ row, ∀ k ∈ ks, whole row k →
      ∃ c, read row = .ok (some c) ∧ c.start = k * scale ∧ c.stop = c.start + r.width) :
    ∃ cs, r.Gives read scale rows (ks.filter (· ∉ illegible)) cs := by
  obtain ⟨cs, hcs, hstarts, hstops⟩ := exists_readRows h hpass hread
  exact ⟨cs, hcs, hstarts, hstops⟩

/-- Where the time of a row stands that is a list. -/
def Reading.first (row : Json) : Json := item row 0

/-- The row of an open time, as a list: the time comes first, and what stands at the given places can
    be read. -/
structure ListRow (places : List Nat) (row : Json) (k : Int) : Prop where
  opens : Reading.Spells (Reading.item row 0) k
  values : ∀ place ∈ places, ∃ x, Reading.number (Reading.item row place) = .ok x

/-- The row of an open time, as an object. -/
structure ObjectRow (time : String) (keys : List String) (row : Json) (k : Int) : Prop where
  isObject : row.isObject = true
  opens : Reading.Spells (row.member time) k
  values : ∀ key ∈ keys, ∃ x, Reading.number (row.member key) = .ok x

section Timed

variable {r : FetchRequest} {row : Json} {scale k : Int}

/-- The form that every reader of a row has: where the time is usable and the values make a candle, the
    candle is the row's. -/
theorem FetchRequest.exists_of_timed {time : Except Failure (Option Int)} {start : Int}
    {make : Int → Except Failure Candle} {P : Candle → Prop} (htime : time = .ok (some start))
    (hmake : ∃ c, make start = .ok c ∧ P c) :
    ∃ c, (do
      match ← time with
      | none => return none
      | some start => some <$> make start) = .ok (some c) ∧ P c := by
  obtain ⟨c, hc, hP⟩ := hmake
  refine ⟨c, ?_, hP⟩
  rw [htime]
  exact congrArg (some <$> ·) hc

/-- Where the time is unusable, such a reader passes the row over. -/
theorem FetchRequest.none_of_timed {time : Except Failure (Option Int)}
    {make : Int → Except Failure Candle} (htime : time = .ok none) :
    (do
      match ← time with
      | none => return none
      | some start => some <$> make start) = .ok none := by
  rw [htime]
  rfl

/-- Six readable values make a candle of one width. -/
theorem FetchRequest.exists_candle_of_width {start : Int}
    {opening highest lowest closing volume trades : Json}
    (hvalues : ∀ value ∈ [opening, highest, lowest, closing, volume, trades],
      ∃ x, Reading.number value = .ok x) :
    ∃ c, r.candle start opening highest lowest closing volume trades = .ok c ∧
      c.start = start ∧ c.stop = c.start + r.width := by
  have hnone : ∀ ms ∈ (none : Option Int), ∃ t, Reading.time (.int ms) = .ok t := by simp
  obtain ⟨c, hc, hstart, hstop⟩ := exists_candle hnone hvalues
  exact ⟨c, hc, hstart, by rw [hstart, hstop rfl]⟩

theorem Reading.number_zero : ∃ x, number (.int 0) = .ok x :=
  ⟨_, number_int (by decide : (0 : Int).natAbs ≤ 2 ^ 53)⟩

theorem FetchRequest.rowCandle_of_illegible {opening highest lowest closing volume : Nat}
    (h : Reading.time (Reading.item row 0) scale = .ok none) :
    r.rowCandle scale opening highest lowest closing volume row = .ok none :=
  none_of_timed h

theorem FetchRequest.memberCandle_of_illegible {time opening highest lowest closing volume : String}
    (h : Reading.time (row.member time) scale = .ok none) :
    r.memberCandle scale time opening highest lowest closing volume row = .ok none :=
  none_of_timed h

variable (hscale : 0 < scale) (hscale' : scale ≤ 2 ^ 53) (hk : (k * scale).natAbs ≤ 2 ^ 53)
include hscale hscale' hk

theorem ListRow.exists_rowCandle {opening highest lowest closing volume : Nat}
    (h : ListRow [opening, highest, lowest, closing, volume] row k) :
    ∃ c, r.rowCandle scale opening highest lowest closing volume row = .ok (some c) ∧
      c.start = k * scale ∧ c.stop = c.start + r.width := by
  have hvalues := h.values
  exact FetchRequest.exists_of_timed (Reading.time_of_spells h.opens hscale hk hscale')
    (FetchRequest.exists_candle_of_width (by simpa [Reading.number_zero] using hvalues))

theorem ObjectRow.exists_memberCandle {time opening highest lowest closing volume : String}
    (h : ObjectRow time [opening, highest, lowest, closing, volume] row k) :
    ∃ c, r.memberCandle scale time opening highest lowest closing volume row = .ok (some c) ∧
      c.start = k * scale ∧ c.stop = c.start + r.width := by
  have hvalues := h.values
  exact FetchRequest.exists_of_timed (Reading.time_of_spells h.opens hscale hk hscale')
    (FetchRequest.exists_candle_of_width (by simpa [Reading.number_zero] using hvalues))

end Timed

/-! ## The candles of a range -/

/-- Cutting candles to a range leaves each start once, as long as some candle starts there and ends after its
    start. -/
theorem Series.count_start_normalize {start stop t : Int} {cs : List Candle}
    (h : ∃ c ∈ cs, c.start = t ∧ t < c.stop) (hstart : start ≤ t) (hstop : t < stop) :
    ((normalize start stop cs).map (·.start)).count t = 1 := by
  obtain ⟨c, hc, rfl, hends⟩ := h
  have hnodup : ((normalize start stop cs).map (·.start)).Nodup :=
    List.pairwise_map.2 ((ascending_normalize start stop cs).imp fun hlt => Int.ne_of_lt hlt)
  refine List.count_eq_one_of_mem hnodup ?_
  cases hfind : (cs.filter (Candle.overlaps start stop)).reverse.find? (·.start = c.start) with
  | none =>
    have hmem : c ∈ (cs.filter (Candle.overlaps start stop)).reverse := by
      simp [Candle.overlaps, hc, hstop]
      omega
    exact absurd (List.find?_eq_none.1 hfind c hmem) (by simp)
  | some d =>
    have hd : d.start = c.start := by simpa using List.find?_some hfind
    exact List.mem_map.2 ⟨d, mem_normalize.2 (by rw [hd]; exact hfind), hd⟩

/-- The times of a range whose candles can be had: they are kept, and their rows are legible. -/
def FetchRequest.sought (r : FetchRequest) (scale : Int) (kept illegible : Finset Int) : Finset Int :=
  (kept \ illegible).filter fun k => r.start ≤ k * scale ∧ k * scale < r.stop

theorem FetchRequest.mem_sought {r : FetchRequest} {scale : Int} {kept illegible : Finset Int}
    {k : Int} : k ∈ r.sought scale kept illegible ↔
      (k ∈ kept ∧ k ∉ illegible) ∧ r.start ≤ k * scale ∧ k * scale < r.stop := by
  rw [sought, Finset.mem_filter, Finset.mem_sdiff]

/-- All the candles of a range, with times in units of `scale` milliseconds: each is of a kept open
    time, every open time in the range has one, and cutting them to the range leaves it exactly one. -/
structure FetchRequest.Whole (r : FetchRequest) (scale : Int) (kept : Finset Int) (cs : List Candle) :
    Prop where
  own : ∀ c ∈ cs, ∃ k ∈ kept, c.start = k * scale
  all : ∀ k ∈ kept, r.start ≤ k * scale → k * scale < r.stop → ∃ c ∈ cs, c.start = k * scale
  once : 0 < r.width → ∀ k ∈ kept, r.start ≤ k * scale → k * scale < r.stop →
    ((Series.normalize r.start r.stop cs).map (·.start)).count (k * scale) = 1

/-- Where every candle is a width long, it is enough that none of another time is there and none of the
    range's is missing. -/
theorem FetchRequest.whole_of_width {r : FetchRequest} {scale : Int} {kept : Finset Int}
    {cs : List Candle} (hgood : ∀ c ∈ cs, (∃ k ∈ kept, c.start = k * scale) ∧ c.stop = c.start + r.width)
    (hall : ∀ k ∈ kept, r.start ≤ k * scale → k * scale < r.stop → ∃ c ∈ cs, c.start = k * scale) :
    r.Whole scale kept cs where
  own c hc := (hgood c hc).1
  all := hall
  once hwidth k hk hstart hstop := by
    obtain ⟨c, hc, hcstart⟩ := hall k hk hstart hstop
    have hend := (hgood c hc).2
    exact Series.count_start_normalize ⟨c, hc, hcstart, by omega⟩ hstart hstop

end Candlestick
