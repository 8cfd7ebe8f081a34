import Candlestick.Proofs.Provider.Layouts
import Candlestick.Proofs.Provider.Lenient
import Candlestick.Proofs.Provider.Pages

set_option autoImplicit false

/-! # Pages of rows with anything in their cells

A provider's rows may hold anything. What a page of them comes to hangs on the cells that are read, the
time and the values of each row: it is refused if a time is too far away, or if an integer that is too
large stands beside a time that can be used, and else its candles are read. -/

namespace Candlestick

open Reading

/-! ## Cells -/

/-- The cells of a row that are read. The time is in units of `scale` milliseconds; where the row may be
    dated, a date and time in a text will do. -/
structure Cells where
  scale : Int
  time : Json
  values : List Json
  dated : Bool := false

namespace Cells

/-- The time first, and values at some places after it. -/
def ofList (scale : Int) (places : List Nat) (row : Json) : Cells :=
  { scale, time := item row 0, values := places.map (item row) }

/-- The time and the values under their keys. -/
def ofObject (scale : Int) (time : String) (keys : List String) (row : Json) : Cells :=
  { scale, time := row.member time, values := keys.map row.member }

/-- A date and time in a text. -/
def IsDate (value : Json) : Prop :=
  ∃ s stamp, value = .str s ∧ Calendar.Stamp.ofText (spellOutZulu s) = .ok stamp

/-- The time can be used. -/
def Timed (c : Cells) : Prop := Usable c.time ∨ c.dated = true ∧ IsDate c.time

/-- The row cannot be read: for its time, or for a value beside a time that can be used. -/
def Broken (c : Cells) : Prop :=
  TooFar c.scale c.time ∨ c.Timed ∧ ∃ value ∈ c.values, Excessive value

end Cells

/-! ## Rows -/

theorem Reading.not_excessive_zero : ¬ Excessive (.int 0) := by
  rw [excessive_int_iff, not_not]
  decide

namespace FetchRequest

variable (r : FetchRequest) (start : Int)

theorem candle_refusedIff (opening highest lowest closing volume trades : Json) {stop : Option Int}
    (hstop : ∀ ms ∈ stop, ∃ t, Reading.time (.int ms) = .ok t) :
    RefusedIff (∃ value ∈ [opening, highest, lowest, closing, volume, trades], Excessive value)
      (r.candle start opening highest lowest closing volume trades stop) := by
  unfold candle
  extract_lets build
  have hbuild : ∀ ends, RefusedIff
      (∃ value ∈ [opening, highest, lowest, closing, volume, trades], Excessive value) (build ends) := by
    intro ends
    refine RefusedIff.congr ((number_refusedIff opening).bind fun _ _ =>
      (number_refusedIff highest).bind fun _ _ => (number_refusedIff lowest).bind fun _ _ =>
      (number_refusedIff closing).bind fun _ _ => (volume_refusedIff volume).bind fun _ _ =>
      (count_refusedIff trades).bind fun _ _ => RefusedIff.ok _) ?_
    simp
  cases stop with
  | none => exact hbuild none
  | some ms =>
    obtain ⟨ends, hends⟩ := hstop ms rfl
    simp only [hends]
    exact hbuild ends

/-- A candle whose row counts no trades. -/
theorem candle_refusedIff_uncounted (opening highest lowest closing volume : Json) :
    RefusedIff (∃ value ∈ [opening, highest, lowest, closing, volume], Excessive value)
      (r.candle start opening highest lowest closing volume) :=
  (r.candle_refusedIff start opening highest lowest closing volume (.int 0) (by simp)).congr
    (by simp [not_excessive_zero])

/-- A row that is a list. -/
theorem rowCandle_refusedIff {scale : Int} (hscale : scale.natAbs ≤ 2 ^ 53)
    (opening highest lowest closing volume : Nat) (row : Json) :
    RefusedIff (Cells.ofList scale [opening, highest, lowest, closing, volume] row).Broken
      (r.rowCandle scale opening highest lowest closing volume row) :=
  (RefusedIff.timed (time_refusedIff hscale _) (fun _ => time_eq_none_iff hscale) fun start _ =>
    (r.candle_refusedIff_uncounted start _ _ _ _ _).map some).congr
    (by simp [Cells.Broken, Cells.Timed, Cells.ofList])

/-- A row that is an object. -/
theorem memberCandle_refusedIff {scale : Int} (hscale : scale.natAbs ≤ 2 ^ 53)
    (time opening highest lowest closing volume : String) (row : Json) :
    RefusedIff (Cells.ofObject scale time [opening, highest, lowest, closing, volume] row).Broken
      (r.memberCandle scale time opening highest lowest closing volume row) :=
  (RefusedIff.timed (time_refusedIff hscale _) (fun _ => time_eq_none_iff hscale) fun start _ =>
    (r.candle_refusedIff_uncounted start _ _ _ _ _).map some).congr
    (by simp [Cells.Broken, Cells.Timed, Cells.ofObject])

end FetchRequest

/-- The close time of a candle is one of its values. -/
def Klines.cells : Json → Cells := .ofList 1 [6, 1, 2, 3, 4, 5, 8]

theorem Klines.row_refusedIff (r : FetchRequest) (row : Json) :
    RefusedIff (cells row).Broken (Klines.row r row) := by
  have hsmall : (1 : Int).natAbs ≤ 2 ^ 53 := by decide
  refine (RefusedIff.timed (time_refusedIff hsmall _) (fun _ => time_eq_none_iff hsmall) fun start _ =>
    ((time_refusedIff hsmall (item row 6)).congr tooFar_one_iff).bind fun close hclose =>
      (r.candle_refusedIff start _ _ _ _ _ _ ?_).map some).congr ?_
  · intro ms hms
    obtain ⟨last, hlast, rfl⟩ := Option.map_eq_some_iff.1 hms
    exact exists_time_succ (hclose.trans (congrArg _ (Option.filter_eq_some_iff.1 hlast).1))
  · simp [Cells.Broken, Cells.Timed, cells, Cells.ofList]

def Gateio.cells (row : Json) : Cells :=
  if row.isObject then .ofObject 1000 "t" ["o", "h", "l", "c", "v"] row
  else .ofList 1000 [5, 3, 4, 2, 1] row

theorem Gateio.row_refusedIff (r : FetchRequest) (row : Json) :
    RefusedIff (cells row).Broken (Gateio.row r row) := by
  unfold cells Gateio.row
  split
  · exact r.memberCandle_refusedIff (by decide) ..
  · exact r.rowCandle_refusedIff (by decide) ..

def Bitget.cells (row : Json) : Cells :=
  if row.isObject then .ofObject 1 "ts" ["open", "high", "low", "close", "baseVol"] row
  else .ofList 1 [1, 2, 3, 4, 5] row

theorem Bitget.row_refusedIff (r : FetchRequest) (row : Json) :
    RefusedIff (cells row).Broken (Bitget.row r row) := by
  unfold cells Bitget.row
  split
  · exact r.memberCandle_refusedIff (by decide) ..
  · exact r.rowCandle_refusedIff (by decide) ..

/-- The time of an object may be a date and time. -/
def Coinbase.cells (row : Json) : Cells :=
  if row.isObject then
    { Cells.ofObject 1000 "start" ["open", "high", "low", "close", "volume"] row with dated := true }
  else .ofList 1000 [3, 2, 1, 4, 5] row

section StartTime

variable {value : Json}

theorem Reading.startTime_of_not_text (h : ∀ s, value ≠ .str s) :
    startTime value = time value 1000 := by
  cases value with
  | str s => exact absurd rfl (h s)
  | _ => rfl

theorem Reading.startTime_refusedIff (value : Json) :
    RefusedIff (TooFar 1000 value) (startTime value) := by
  have htime : RefusedIff (TooFar 1000 value) (time value 1000) := time_refusedIff (by decide) value
  by_cases htext : ∃ s, value = .str s
  · obtain ⟨s, rfl⟩ := htext
    refine (htime.bind (q := False) fun t _ => ⟨nofun, fun _ => ?_⟩).congr (by simp)
    cases t with
    | some ms => exact ⟨some ms, rfl⟩
    | none =>
      simp only
      split
      · exact ⟨_, rfl⟩
      · exact ⟨none, rfl⟩
  · rwa [startTime_of_not_text (not_exists.1 htext)]

theorem Reading.startTime_eq_none_iff {t : Option Int} (h : startTime value = .ok t) :
    t = none ↔ ¬ (Usable value ∨ Cells.IsDate value) := by
  have htime : ∀ {t}, time value 1000 = .ok t → (t = none ↔ ¬ Usable value) :=
    time_eq_none_iff (by decide)
  by_cases htext : ∃ s, value = .str s
  · obtain ⟨s, rfl⟩ := htext
    obtain ⟨seconds, hseconds, h⟩ := exists_of_bind_eq_ok h
    cases seconds with
    | some ms =>
      cases h
      have husable := usable_of_time (by decide) hseconds
      simp [husable]
    | none =>
      have hunusable := (htime hseconds).1 rfl
      simp only at h
      split at h
      · next stamp hstamp =>
        cases h
        have hdate : Cells.IsDate (.str s) := ⟨s, stamp, rfl, hstamp⟩
        simp [hdate]
      · next cause hcause =>
        cases h
        have hdate : ¬ Cells.IsDate (.str s) := by
          rintro ⟨_, stamp, heq, hstamp⟩
          cases heq
          exact nomatch hcause.symm.trans hstamp
        simp [hunusable, hdate]
  · have hdate : ¬ Cells.IsDate value := fun ⟨s, _, heq, _⟩ => htext ⟨s, heq⟩
    rw [startTime_of_not_text (not_exists.1 htext)] at h
    rw [or_iff_left hdate]
    exact htime h

end StartTime

theorem Coinbase.row_refusedIff (r : FetchRequest) (row : Json) :
    RefusedIff (cells row).Broken (Coinbase.row r row) := by
  unfold cells Coinbase.row
  split
  · exact (RefusedIff.timed (startTime_refusedIff _) (fun _ => startTime_eq_none_iff) fun start _ =>
      (r.candle_refusedIff_uncounted start _ _ _ _ _).map some).congr
      (by simp [Cells.Broken, Cells.Timed, Cells.ofObject])
  · exact r.rowCandle_refusedIff (by decide) ..

def Kraken.cells : Json → Cells := .ofList 1000 [1, 2, 3, 4, 6, 7]

theorem Kraken.row_refusedIff (r : FetchRequest) (row : Json) :
    RefusedIff (cells row).Broken (Kraken.row r row) := by
  have hsmall : (1000 : Int).natAbs ≤ 2 ^ 53 := by decide
  exact (RefusedIff.timed (time_refusedIff hsmall _) (fun _ => time_eq_none_iff hsmall) fun start _ =>
    (r.candle_refusedIff start _ _ _ _ _ _ (by simp)).map some).congr
    (by simp [Cells.Broken, Cells.Timed, cells, Cells.ofList])

/-- The volume stands under one of two keys. -/
def Htx.volume (row : Json) : Json :=
  match row.member "vol" with
  | .null => row.member "amount"
  | volume => volume

def Htx.cells (row : Json) : Cells :=
  { Cells.ofObject 1000 "id" ["open", "high", "low", "close"] row with
    values := [row.member "open", row.member "high", row.member "low", row.member "close", volume row,
      row.member "count"] }

theorem Htx.row_refusedIff (r : FetchRequest) (row : Json) :
    RefusedIff (cells row).Broken (Htx.row r row) := by
  have hsmall : (1000 : Int).natAbs ≤ 2 ^ 53 := by decide
  exact (RefusedIff.timed (time_refusedIff hsmall _) (fun _ => time_eq_none_iff hsmall) fun start _ =>
    (r.candle_refusedIff start _ _ _ _ (volume row) _ (by simp)).map some).congr
    (by simp [Cells.Broken, Cells.Timed, cells, Cells.ofObject])

/-- A time, and the values at its place in the columns. -/
def Mexc.cells (data : Json) (time : Json × Nat) : Cells where
  scale := 1000
  time := time.1
  values := ["open", "high", "low", "close", "vol"].map fun name => item (data.member name) time.2

/-- Columns are refused as rows are. -/
theorem Mexc.readColumns_refusedIff (r : FetchRequest) (data : Json) (times : List Json) (place : Nat) :
    RefusedIff (∃ time ∈ times.zipIdx place, (cells data time).Broken)
      (readColumns r data place times) := by
  induction times generalizing place with
  | nil => exact (RefusedIff.ok _).congr (by simp)
  | cons time rest ih =>
    have hsmall : (1000 : Int).natAbs ≤ 2 ^ 53 := by decide
    unfold readColumns
    extract_lets cell build
    have hbuild : ∀ candle, RefusedIff (∃ time ∈ rest.zipIdx (place + 1), (cells data time).Broken)
        (build candle) := fun candle =>
      ((ih (place + 1)).bind fun others _ => RefusedIff.ok (candle.toList ++ others)).congr
        (or_iff_left id)
    refine ((time_refusedIff hsmall time).bind
      (q := Usable time ∧ (∃ value ∈ (cells data (time, place)).values, Excessive value) ∨
        ∃ time ∈ rest.zipIdx (place + 1), (cells data time).Broken) fun t ht => ?_).congr ?_
    · cases t with
      | none =>
        have hunusable := (time_eq_none_iff hsmall ht).1 rfl
        exact (hbuild none).congr (by simp [hunusable])
      | some start =>
        have husable := usable_of_time hsmall ht
        have hcandle := (r.candle_refusedIff_uncounted start (cell "open") (cell "high") (cell "low")
          (cell "close") (cell "vol")).map some
        exact (hcandle.bind fun candle _ => hbuild candle).congr (by simp [husable, cells, cell])
    · simp [Cells.Broken, Cells.Timed, cells, or_assoc]

/-! ## Pages -/

/-- Rows are refused if one of them is. -/
theorem readRows_refusedIff {read : Json → Except Failure (Option Candle)} {broken : Json → Prop}
    (hread : ∀ row, RefusedIff (broken row) (read row)) (rows : List Json) :
    RefusedIff (∃ row ∈ rows, broken row) (readRows read rows) := by
  induction rows with
  | nil => exact (RefusedIff.ok _).congr (by simp)
  | cons row rest ih =>
    refine ((hread row).bind fun candle _ => ih.bind fun others _ => RefusedIff.ok _).congr ?_
    simp

/-- So is a page, if nothing but its rows can be refused. -/
theorem readPage_refusedIff {read : Json → Except Failure (Option Candle)} {broken : Json → Prop}
    (hread : ∀ row, RefusedIff (broken row) (read row)) {finish : List Candle → Nat → Except Failure Page}
    (hfinish : ∀ cs n, ∃ p, finish cs n = .ok p) (rows : List Json) :
    RefusedIff (∃ row ∈ rows, broken row) (readPage read finish (.arr rows)) := by
  cases rows with
  | nil => exact (RefusedIff.ok Page.last).congr (by simp)
  | cons first others =>
    refine (readRows_refusedIff hread (first :: others)).of_read (fun cause h => ?_) fun cs h => ?_
    · rw [readPage, h]
      rfl
    · rw [readPage, h]
      exact hfinish cs _

section Pages

variable {r : FetchRequest} {rows : List Json} {answer : Json} (cursor : Int)

theorem Bybit.page_refusedIff (hwraps : archive.wraps rows answer) :
    RefusedIff (∃ row ∈ rows, (Cells.ofList 1 [1, 2, 3, 4, 5] row).Broken) (page r cursor answer) := by
  rw [page_eq, Json.isObject_of_member hwraps.1 nofun, hwraps.1, rows_of_wraps hwraps]
  exact readPage_refusedIff (r.rowCandle_refusedIff (by decide) 1 2 3 4 5) (exists_finish r cursor) rows

theorem Okx.page_refusedIff (hwraps : archive.wraps rows answer) :
    RefusedIff (∃ row ∈ rows, (Cells.ofList 1 [1, 2, 3, 4, 5] row).Broken) (page r cursor answer) := by
  rw [page_eq, Json.isObject_of_member hwraps.1 nofun, hwraps.1, hwraps.2]
  exact readPage_refusedIff (r.rowCandle_refusedIff (by decide) 1 2 3 4 5) (exists_finish cursor) rows

theorem Kucoin.page_refusedIff (hcode : answer.member "code" = .str "200000")
    (hdata : Kucoin.rows answer = .arr rows) :
    RefusedIff (∃ row ∈ rows, (Cells.ofList 1000 [1, 3, 4, 2, 5] row).Broken) (page r cursor answer) := by
  rw [page_eq, Json.isObject_of_member hcode nofun, hcode, hdata]
  exact readPage_refusedIff (r.rowCandle_refusedIff (by decide) 1 3 4 2 5) (fun _ _ => ⟨_, rfl⟩) rows

theorem Gateio.page_refusedIff :
    RefusedIff (∃ row ∈ rows, (cells row).Broken) (page r cursor (.arr rows)) := by
  rw [page_eq]
  exact readPage_refusedIff (row_refusedIff r) (exists_finish cursor) rows

/-- The place where the next page starts is read too, and can be. -/
theorem Kraken.page_refusedIff {last : Int} (hwraps : Wraps rows last answer)
    (hlast : last.natAbs ≤ 2 ^ 53) :
    RefusedIff (∃ row ∈ rows, (cells row).Broken) (page r cursor answer) := by
  rw [page_eq, Json.isObject_of_member hwraps.errors nofun, hwraps.errors_eq, hwraps.rows_result,
    hwraps.time_last hlast]
  exact readPage_refusedIff (row_refusedIff r) (fun _ _ => ⟨_, rfl⟩) rows

/-- The time that the next page hangs on has been read with the last row. -/
theorem Klines.page_refusedIff (e : Endpoint) :
    RefusedIff (∃ row ∈ rows, (cells row).Broken)
      (page e r cursor (.arr rows)) := by
  have hread := readRows_refusedIff (row_refusedIff r) rows
  cases rows with
  | nil => exact ⟨fun h => absurd h (by simp), fun _ => ⟨.last, rfl⟩⟩
  | cons first others =>
    refine hread.of_read (fun cause h => ?_) fun candles h => ?_
    · simp only [page, h, bind, Except.bind]
    · obtain ⟨last, hlast, hitem⟩ := exists_last_item first others
      have hsound : ¬ TooFar 1 (item last 0) := fun hfar => hread.not_of_ok h ⟨last, hlast, Or.inl hfar⟩
      obtain ⟨t, ht⟩ := (time_refusedIff (by decide) _).read hsound
      simp only [page, h, hitem, ht, bind, Except.bind, pure, Except.pure]
      exact ⟨_, rfl⟩

end Pages

end Candlestick
