import Candlestick.Proofs.Provider.Bars
import Candlestick.Proofs.Provider.Newest
import Candlestick.Proofs.Provider.Oldest

set_option autoImplicit false

/-! # The layouts of the providers, and what is read of them

Each provider has its rows, with the unit of its times and the order of its columns, and its envelope
around them. `Source.Shows` says what an answer of a source looks like that shows some bars; reading it
gives the candles of these bars, in the order of the rows. -/

namespace Candlestick

/-! ## Layouts -/

/-- Rows of open time, prices, volume and close time, which is the last millisecond of the bar. -/
structure Klines.BarRow (row : Json) (b : Bar) : Prop where
  list : Bar.AsList 1 1 2 3 4 5 row b
  closes : Reading.Spells (Reading.item row 6) (b.stop - 1)
  trades : ∃ x, Reading.number (Reading.item row 8) = .ok x

def Klines.Shows (bars : List Bar) (answer : Json) : Prop :=
  ∃ rows, answer = .arr rows ∧ List.Forall₂ BarRow rows bars

def Bybit.Shows (bars : List Bar) (answer : Json) : Prop :=
  ∃ rows, archive.wraps rows answer ∧ List.Forall₂ (Bar.AsList 1 1 2 3 4 5) rows bars

def Okx.Shows (bars : List Bar) (answer : Json) : Prop :=
  ∃ rows, archive.wraps rows answer ∧ List.Forall₂ (Bar.AsList 1 1 2 3 4 5) rows bars

/-- The close stands before the high. The rows may be nested one level deeper. -/
def Kucoin.Shows (bars : List Bar) (answer : Json) : Prop :=
  ∃ rows, answer.member "code" = .str "200000" ∧
    (answer.member "data" = .arr rows ∨ (answer.member "data").member "data" = .arr rows) ∧
    List.Forall₂ (Bar.AsList 1000 1 3 4 2 5) rows bars

/-- Time, volume, close, high, low and open, or an object with one-letter keys. -/
def Gateio.BarRow (row : Json) (b : Bar) : Prop :=
  Bar.AsList 1000 5 3 4 2 1 row b ∨ Bar.AsObject 1000 "t" "o" "h" "l" "c" "v" row b

def Gateio.Shows (bars : List Bar) (answer : Json) : Prop :=
  ∃ rows, answer = .arr rows ∧ List.Forall₂ BarRow rows bars

def Bitget.BarRow (row : Json) (b : Bar) : Prop :=
  Bar.AsList 1 1 2 3 4 5 row b ∨ Bar.AsObject 1 "ts" "open" "high" "low" "close" "baseVol" row b

/-- Bare rows, or rows inside an envelope. -/
def Bitget.Shows (bars : List Bar) (answer : Json) : Prop :=
  ∃ rows, (answer = .arr rows ∨ answer.member "code" = .str "00000" ∧ answer.member "data" = .arr rows) ∧
    List.Forall₂ BarRow rows bars

/-- A time in seconds, or a text that is no number but the date and time. -/
def Coinbase.Starts (cell : Json) (b : Bar) : Prop :=
  Reading.Spells cell (b.start / 1000) ∨
    ∃ s stamp, cell = .str s ∧ Double.ofText? s = none ∧
      Calendar.Stamp.ofText (Reading.spellOutZulu s) = .ok stamp ∧
      stamp.moment.micros = b.start / 1000 * Calendar.microsPerSecond

/-- Time, low, high, open, close and volume, or an object. -/
def Coinbase.BarRow (row : Json) (b : Bar) : Prop :=
  Bar.AsList 1000 3 2 1 4 5 row b ∨
    row.isObject = true ∧ Starts (row.member "start") b ∧
      b.InCells (row.member "open") (row.member "high") (row.member "low") (row.member "close")
        (row.member "volume")

def Coinbase.Shows (bars : List Bar) (answer : Json) : Prop :=
  ∃ rows, (answer.member "error").isPresent = false ∧ answer.member "candles" = .arr rows ∧
    List.Forall₂ BarRow rows bars

/-- The volume stands after the mean price, and the count of trades after it. -/
structure Kraken.BarRow (row : Json) (b : Bar) : Prop where
  list : Bar.AsList 1000 1 2 3 4 6 row b
  trades : ∃ x, Reading.number (Reading.item row 7) = .ok x

def Kraken.ShowsSpot (bars : List Bar) (answer : Json) : Prop :=
  ∃ rows last, Wraps rows last answer ∧ last.natAbs ≤ 2 ^ 53 ∧ List.Forall₂ BarRow rows bars

/-- The rows stand inside a result, or at the top where there is none. -/
def Kraken.ShowsFutures (bars : List Bar) (answer : Json) : Prop :=
  ∃ rows, ((answer.member "result").member "candles" = .arr rows ∨
      (answer.member "result").isObject = false ∧ answer.member "candles" = .arr rows) ∧
    List.Forall₂ (Bar.AsObject 1000 "time" "open" "high" "low" "close" "volume") rows bars

/-- The volume stands under one of two keys. -/
structure Htx.BarRow (row : Json) (b : Bar) : Prop where
  object : Bar.AsObject 1000 "id" "open" "high" "low" "close" "vol" row b ∨
    row.member "vol" = .null ∧ Bar.AsObject 1000 "id" "open" "high" "low" "close" "amount" row b
  trades : ∃ x, Reading.number (row.member "count") = .ok x

def Htx.Shows (bars : List Bar) (answer : Json) : Prop :=
  ∃ rows, answer.member "status" = .str "ok" ∧ answer.member "data" = .arr rows ∧
    List.Forall₂ BarRow rows bars

/-- A time, and the place of a bar's values in the columns. -/
structure Mexc.InColumns (data : Json) (time : Json × Nat) (b : Bar) : Prop where
  opens : Reading.Spells time.1 (b.start / 1000)
  values : b.InCells (Reading.item (data.member "open") time.2) (Reading.item (data.member "high") time.2)
    (Reading.item (data.member "low") time.2) (Reading.item (data.member "close") time.2)
    (Reading.item (data.member "vol") time.2)

def Mexc.ShowsColumns (bars : List Bar) (answer : Json) : Prop :=
  ∃ times, answer.member "success" = .bool true ∧ (answer.member "data").member "time" = .arr times ∧
    List.Forall₂ (InColumns (answer.member "data")) times.zipIdx bars

/-- What an answer of a source looks like that shows some bars. There is none of Coinbase futures. -/
def Source.Shows (source : Source) : List Bar → Json → Prop :=
  match source.exchange, source.market with
  | .binance, _ => Klines.Shows
  | .bybit, _ => Bybit.Shows
  | .okx, _ => Okx.Shows
  | .coinbase, .spot => Coinbase.Shows
  | .coinbase, .futures => fun _ _ => False
  | .kraken, .spot => Kraken.ShowsSpot
  | .kraken, .futures => Kraken.ShowsFutures
  | .kucoin, _ => Kucoin.Shows
  | .bitget, _ => Bitget.Shows
  | .gateio, _ => Gateio.Shows
  | .htx, _ => Htx.Shows
  | .mexc, .spot => Klines.Shows
  | .mexc, .futures => Mexc.ShowsColumns

/-! ## What is read -/

/-- A page that holds the candles of some bars, and is the last one if there are none. -/
structure Page.Draws (bars : List Bar) (page : Page) : Prop where
  drawn : page.candles.map Candle.bar = bars
  last : bars = [] → page.next = none

/-- A page that is the last one where it holds no candle draws the bars of its candles. -/
theorem Page.draws_of_next {cs : List Candle} {notes : List Note} {last : Prop} [Decidable last]
    {next : Option Int} (hlast : cs = [] → last) :
    Draws (cs.map Candle.bar) { candles := cs, notes, next := if last then none else next } where
  drawn := rfl
  last hnone := if_pos (hlast (List.map_eq_nil_iff.1 hnone))

/-! ### Envelopes -/

theorem Reading.itemsIfPresent_arr (rows : List Json) : itemsIfPresent (.arr rows) = .ok rows := by
  cases rows <;> rfl

section Envelopes

variable {r : FetchRequest} {rows : List Json} {answer : Json}

theorem Kucoin.rows_eq (h : answer.member "data" = .arr rows ∨
    (answer.member "data").member "data" = .arr rows) : Kucoin.rows answer = .arr rows := by
  rcases h with hflat | hnested
  · simp only [Kucoin.rows, hflat]
    rfl
  · rw [Kucoin.rows, if_pos (Json.isObject_of_member hnested (by simp)), hnested]

theorem Bitget.read_eq (h : answer = .arr rows ∨
    answer.member "code" = .str "00000" ∧ answer.member "data" = .arr rows) :
    Bitget.read r answer = readRows (Bitget.row r) rows := by
  rcases h with rfl | ⟨hcode, hdata⟩
  · rfl
  · have hsuccess : Bitget.isSuccess (.str "00000") = true := rfl
    cases answer with
    | obj members => simp only [Bitget.read, hcode, hsuccess, if_true, hdata]
    | _ => exact absurd hcode.symm nofun

theorem Coinbase.read_eq (herror : (answer.member "error").isPresent = false)
    (hcandles : answer.member "candles" = .arr rows) :
    Coinbase.read r answer = readRows (Coinbase.row r) rows := by
  rw [Coinbase.read, Json.isObject_of_member hcandles nofun, herror, hcandles, Reading.itemsIfPresent_arr]
  rfl

/-- Rows that are no objects are passed over. -/
theorem Kraken.readFutures_eq (h : (answer.member "result").member "candles" = .arr rows ∨
    (answer.member "result").isObject = false ∧ answer.member "candles" = .arr rows) :
    Kraken.readFutures r answer =
      readRows (r.memberCandle 1000 "time" "open" "high" "low" "close" "volume")
        (rows.filter Json.isObject) := by
  rcases h with hresult | ⟨hbare, hcandles⟩
  · have hobject := Json.isObject_of_member hresult nofun
    have houter : answer.isObject = true := by
      refine Json.isObject_of_member (rfl : answer.member "result" = _) fun hnull => ?_
      rw [hnull] at hobject
      exact absurd hobject nofun
    simp only [Kraken.readFutures, houter, hobject, hresult, Bool.not_true, Bool.false_eq_true, if_true,
      if_false, Reading.itemsIfPresent_arr, bind, Except.bind]
  · simp only [Kraken.readFutures, Json.isObject_of_member hcandles nofun, hbare, hcandles, Bool.not_true,
      Bool.false_eq_true, if_false, Reading.itemsIfPresent_arr, bind, Except.bind]

theorem Htx.read_eq (hstatus : answer.member "status" = .str "ok")
    (hdata : answer.member "data" = .arr rows) :
    Htx.read r answer = readRows (Htx.row r) (rows.filter Json.isObject) := by
  have hgood : Htx.isError (.str "ok") = false := by decide
  simp only [Htx.read, Json.isObject_of_member hdata nofun, hstatus, hgood, hdata,
    Reading.itemsIfPresent_arr, bind, Except.bind]
  rfl

theorem Mexc.readContract_eq (hsuccess : answer.member "success" = .bool true)
    (htimes : (answer.member "data").member "time" = .arr rows) :
    Mexc.readContract r answer = Mexc.readColumns r (answer.member "data") 0 rows := by
  simp only [Mexc.readContract, hsuccess, htimes]

end Envelopes

section Reads

variable {base : TimeFrame} {r : FetchRequest} {b : Bar} {bars : List Bar} {answer item : Json}
  {cursor : Int} (hwidth : r.width = base.ms)
include hwidth

/-! ### Rows -/

theorem Klines.BarRow.exists_row (h : Klines.BarRow item b) (hb : b.Sound base) :
    ∃ c, Klines.row r item = .ok (some c) ∧ c.bar = b := by
  have hpos := hb.pos
  have hlt := hb.lt_stop
  have hsmall := hb.stop_lt
  have hopen := hb.time_of_spells h.list.opens Int.one_pos (by decide)
  have hclose : Reading.time (Reading.item item 6) = .ok (some (b.stop - 1)) := by
    have htime := Reading.time_of_spells h.closes Int.one_pos (by omega) (by decide)
    rwa [Int.mul_one] at htime
  have hend : ((some (b.stop - 1)).filter (· ≠ 0)).map (· + 1) = some b.stop := by
    have hnonzero : b.stop - 1 ≠ 0 := by omega
    simp [hnonzero]
  obtain ⟨c, hc, hbar⟩ := h.list.values.exists_candle hb hwidth h.trades
    (by simp : ∀ ms ∈ some b.stop, ms = b.stop)
  refine ⟨c, ?_, hbar⟩
  simp only [Klines.row, hopen, hclose, hend, bind, Except.bind, hc]
  rfl

theorem Gateio.BarRow.exists_row (h : Gateio.BarRow item b) (hb : b.Sound base) :
    ∃ c, Gateio.row r item = .ok (some c) ∧ c.bar = b :=
  Bar.exists_row_of_either hb hwidth h (by decide) (by decide)

theorem Bitget.BarRow.exists_row (h : Bitget.BarRow item b) (hb : b.Sound base) :
    ∃ c, Bitget.row r item = .ok (some c) ∧ c.bar = b :=
  Bar.exists_row_of_either hb hwidth h (by decide) (by decide)

omit hwidth in
/-- Both forms of an open time are read. -/
theorem Coinbase.Starts.startTime (h : Coinbase.Starts item b) (hb : b.Sound base) :
    Reading.startTime item = .ok (some b.start) := by
  rcases h with hspells | ⟨s, stamp, rfl, hnumber, hstamp, hmicros⟩
  · have htime := hb.time_of_spells hspells (by decide) (by decide)
    rcases hspells with rfl | rfl
    · exact htime
    · simp only [Reading.startTime, htime, bind, Except.bind]
  · have htime : Reading.time (.str s) 1000 = .ok none := by
      simp only [Reading.time, Reading.number, hnumber]
      rfl
    have hpos := hb.pos
    have hsmall := hb.le
    have hsecond : b.start / 1000 * 1000 = b.start := Int.ediv_mul_cancel hb.second
    have hms := Calendar.Moment.toMs_of_second hmicros (by omega)
    rw [hsecond] at hms
    simp only [Reading.startTime, htime, hstamp, hms, bind, Except.bind]

theorem Coinbase.BarRow.exists_row (h : Coinbase.BarRow item b) (hb : b.Sound base) :
    ∃ c, Coinbase.row r item = .ok (some c) ∧ c.bar = b := by
  rw [Coinbase.row]
  rcases h with hlist | ⟨hobject, hstart, hvalues⟩
  · rw [hlist.isObject]
    exact hlist.exists_rowCandle hb hwidth (by decide) (by decide)
  · rw [if_pos hobject]
    exact FetchRequest.exists_of_timed (hstart.startTime hb)
      (hvalues.exists_candle hb hwidth Reading.number_zero nofun)

theorem Kraken.BarRow.exists_row (h : Kraken.BarRow item b) (hb : b.Sound base) :
    ∃ c, Kraken.row r item = .ok (some c) ∧ c.bar = b :=
  FetchRequest.exists_of_timed (hb.time_of_spells h.list.opens (by decide) (by decide))
    (h.list.values.exists_candle hb hwidth h.trades nofun)

theorem Htx.BarRow.exists_row (h : Htx.BarRow item b) (hb : b.Sound base) :
    ∃ c, Htx.row r item = .ok (some c) ∧ c.bar = b := by
  rcases h.object with hvol | ⟨hnone, hamount⟩
  · have hholds := hvol.values.volume
    refine FetchRequest.exists_of_timed (hb.time_of_spells hvol.opens (by decide) (by decide)) ?_
    split
    · next hnull => exact absurd (hnull ▸ hholds) (by simp [Reading.Holds])
    · exact hvol.values.exists_candle hb hwidth h.trades nofun
  · refine FetchRequest.exists_of_timed (hb.time_of_spells hamount.opens (by decide) (by decide)) ?_
    rw [hnone]
    exact hamount.values.exists_candle hb hwidth h.trades nofun

/-! ### Pages -/

variable (hsound : ∀ b ∈ bars, b.Sound base)
include hsound

theorem Bybit.Shows.exists_page (h : Bybit.Shows bars answer) :
    ∃ p, Bybit.page r cursor answer = .ok p ∧ p.Draws bars := by
  obtain ⟨rows, hwraps, hrows⟩ := h
  obtain ⟨cs, hcs, rfl⟩ := exists_readRows_bars hrows fun _ b hb hrow =>
    hrow.exists_rowCandle (hsound b hb) hwidth (by decide) (by decide)
  obtain ⟨notes, hpage⟩ := Bybit.page_of_read cursor hwraps hcs
  refine ⟨_, hpage, Page.draws_of_next ?_⟩
  rintro rfl
  exact Or.inl (Int.le_refl cursor)

theorem Okx.Shows.exists_page (h : Okx.Shows bars answer) :
    ∃ p, Okx.page r cursor answer = .ok p ∧ p.Draws bars := by
  obtain ⟨rows, hwraps, hrows⟩ := h
  obtain ⟨cs, hcs, rfl⟩ := exists_readRows_bars hrows fun _ b hb hrow =>
    hrow.exists_rowCandle (hsound b hb) hwidth (by decide) (by decide)
  refine ⟨_, Okx.page_of_read cursor hwraps hcs, Page.draws_of_next ?_⟩
  rintro rfl
  exact Or.inl (Int.le_refl cursor)

theorem Kucoin.Shows.exists_page (h : Kucoin.Shows bars answer) :
    ∃ p, Kucoin.page r cursor answer = .ok p ∧ p.Draws bars := by
  obtain ⟨rows, hcode, hdata, hrows⟩ := h
  obtain ⟨cs, hcs, rfl⟩ := exists_readRows_bars hrows fun _ b hb hrow =>
    hrow.exists_rowCandle (hsound b hb) hwidth (by decide) (by decide)
  refine ⟨_, Kucoin.page_of_read cursor hcode (Kucoin.rows_eq hdata) hcs, Page.draws_of_next ?_⟩
  rintro rfl
  exact Int.le_refl cursor

theorem Gateio.Shows.exists_page (h : Gateio.Shows bars answer) :
    ∃ p, Gateio.page r cursor answer = .ok p ∧ p.Draws bars := by
  obtain ⟨rows, rfl, hrows⟩ := h
  obtain ⟨cs, hcs, rfl⟩ := exists_readRows_bars hrows fun _ b hb hrow =>
    hrow.exists_row hwidth (hsound b hb)
  refine ⟨_, Gateio.page_of_read cursor hcs, Page.draws_of_next ?_⟩
  rintro rfl
  exact Or.inl (Int.le_refl cursor)

theorem Kraken.ShowsSpot.exists_page (h : Kraken.ShowsSpot bars answer) :
    ∃ p, Kraken.page r cursor answer = .ok p ∧ p.Draws bars := by
  obtain ⟨rows, last, hwraps, hlast, hrows⟩ := h
  by_cases hnone : rows = []
  · subst hnone
    cases hrows
    exact ⟨.last, Kraken.page_empty hwraps, rfl, fun _ => rfl⟩
  · obtain ⟨cs, hcs, rfl⟩ := exists_readRows_bars hrows fun _ b hb hrow =>
      hrow.exists_row hwidth (hsound b hb)
    refine ⟨_, Kraken.page_of_read hnone hwraps hcs hlast, rfl, fun hempty => ?_⟩
    rw [hempty] at hrows
    exact absurd (List.forall₂_nil_right_iff.1 hrows) hnone

theorem Klines.Shows.exists_page (e : Klines.Endpoint) (h : Klines.Shows bars answer) :
    ∃ p, Klines.page e r cursor answer = .ok p ∧ p.Draws bars := by
  obtain ⟨rows, rfl, hrows⟩ := h
  cases rows with
  | nil =>
    cases hrows
    exact ⟨.last, rfl, rfl, fun _ => rfl⟩
  | cons first others =>
    -- The next page hangs on the time of the last row, which is read as all the others are.
    obtain ⟨last, hlast, hitem⟩ := exists_last_item first others
    obtain ⟨b, hb, hrow⟩ := exists_of_mem_rows hrows hlast
    have htime := (hsound b hb).time_of_spells hrow.list.opens Int.one_pos (by decide)
    obtain ⟨cs, hcs, rfl⟩ := exists_readRows_bars hrows fun _ b hb hrow =>
      hrow.exists_row hwidth (hsound b hb)
    simp only [Klines.page, hcs, hitem, htime, bind, Except.bind]
    refine ⟨_, rfl, rfl, fun hempty => ?_⟩
    rw [hempty] at hrows
    cases hrows

/-! ### Single answers -/

theorem Bitget.Shows.exists_read (h : Bitget.Shows bars answer) :
    ∃ cs, Bitget.read r answer = .ok cs ∧ cs.map Candle.bar = bars := by
  obtain ⟨rows, hanswer, hrows⟩ := h
  rw [Bitget.read_eq hanswer]
  exact exists_readRows_bars hrows fun _ b hb hrow => hrow.exists_row hwidth (hsound b hb)

theorem Coinbase.Shows.exists_read (h : Coinbase.Shows bars answer) :
    ∃ cs, Coinbase.read r answer = .ok cs ∧ cs.map Candle.bar = bars := by
  obtain ⟨rows, herror, hcandles, hrows⟩ := h
  rw [Coinbase.read_eq herror hcandles]
  exact exists_readRows_bars hrows fun _ b hb hrow => hrow.exists_row hwidth (hsound b hb)

theorem Kraken.ShowsFutures.exists_read (h : Kraken.ShowsFutures bars answer) :
    ∃ cs, Kraken.readFutures r answer = .ok cs ∧ cs.map Candle.bar = bars := by
  obtain ⟨rows, hanswer, hrows⟩ := h
  have hobjects : rows.filter Json.isObject = rows := by
    refine List.filter_eq_self.2 fun row hrow => ?_
    obtain ⟨b, -, hobject⟩ := exists_of_mem_rows hrows hrow
    exact hobject.isObject
  rw [Kraken.readFutures_eq hanswer, hobjects]
  exact exists_readRows_bars hrows fun _ b hb hrow =>
    hrow.exists_memberCandle (hsound b hb) hwidth (by decide) (by decide)

theorem Htx.Shows.exists_read (h : Htx.Shows bars answer) :
    ∃ cs, Htx.read r answer = .ok cs ∧ cs.map Candle.bar = bars := by
  obtain ⟨rows, hstatus, hdata, hrows⟩ := h
  have hobjects : rows.filter Json.isObject = rows := by
    refine List.filter_eq_self.2 fun row hrow => ?_
    obtain ⟨b, -, hshape⟩ := exists_of_mem_rows hrows hrow
    rcases hshape.object with hvol | ⟨-, hamount⟩
    · exact hvol.isObject
    · exact hamount.isObject
  rw [Htx.read_eq hstatus hdata, hobjects]
  exact exists_readRows_bars hrows fun _ b hb hrow => hrow.exists_row hwidth (hsound b hb)

/-- Columns are read as rows are, a time and its place at once. -/
theorem Mexc.exists_readColumns {data : Json} {times : List Json} {place : Nat}
    (h : List.Forall₂ (Mexc.InColumns data) (times.zipIdx place) bars) :
    ∃ cs, Mexc.readColumns r data place times = .ok cs ∧ cs.map Candle.bar = bars := by
  induction times generalizing place bars with
  | nil =>
    cases h
    exact ⟨[], rfl, rfl⟩
  | cons time times ih =>
    rw [List.zipIdx_cons] at h
    cases h with
    | @cons _ b _ bars hfirst hrest =>
      obtain ⟨cs, hcs, rfl⟩ := ih (fun b hb => hsound b (List.mem_cons_of_mem _ hb)) hrest
      have hb := hsound b List.mem_cons_self
      have hnone : ∀ ms ∈ (none : Option Int), ms = b.stop := nofun
      obtain ⟨c, hc, rfl⟩ := hfirst.values.exists_candle hb hwidth Reading.number_zero hnone
      refine ⟨c :: cs, ?_, rfl⟩
      rw [Mexc.readColumns, hb.time_of_spells hfirst.opens (by decide) (by decide), hcs]
      simp only [bind, Except.bind, hc]
      rfl

theorem Mexc.ShowsColumns.exists_read (h : Mexc.ShowsColumns bars answer) :
    ∃ cs, Mexc.readContract r answer = .ok cs ∧ cs.map Candle.bar = bars := by
  obtain ⟨times, hsuccess, htimes, hcolumns⟩ := h
  rw [Mexc.readContract_eq hsuccess htimes]
  exact Mexc.exists_readColumns hwidth hsound hcolumns

end Reads

end Candlestick
