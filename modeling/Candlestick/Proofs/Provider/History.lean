import Mathlib.Data.Finset.Sort
import Mathlib.Data.Int.Interval
import Candlestick.Proofs.Provider.Layouts

set_option autoImplicit false

/-! # How far back the newest bars reach

HTX is asked for a number of bars and answers with the newest ones that it has, wherever the range of
the request lies. The number is that of the intervals of the range and ten more, so a range is covered
as long as no more than ten bars have opened after it. -/

namespace Candlestick

/-- From a later time on there are no more bars than from an earlier one. -/
theorem card_from_le (opens : Finset Int) {t u : Int} (h : t ≤ u) :
    (opens.filter (u ≤ ·)).card ≤ (opens.filter (t ≤ ·)).card := by
  refine Finset.card_le_card fun s hs => ?_
  rw [Finset.mem_filter] at hs ⊢
  exact ⟨hs.1, Int.le_trans h hs.2⟩

namespace FetchRequest

/-- How many intervals a range is wide. -/
def intervals (r : FetchRequest) : Int := (r.stop - r.start) / r.width

/-- A range that is not empty, from one time of the grid to another. -/
structure OnGrid (r : FetchRequest) : Prop where
  start_dvd : r.width ∣ r.start
  stop_dvd : r.width ∣ r.stop
  lt : r.start < r.stop
  width_pos : 0 < r.width

namespace OnGrid

variable {r : FetchRequest} (h : r.OnGrid)
include h

theorem mul_intervals : r.width * r.intervals = r.stop - r.start :=
  Int.mul_ediv_cancel' (Int.dvd_sub h.stop_dvd h.start_dvd)

theorem intervals_pos : 0 < r.intervals := by
  have hlt := h.lt
  exact Int.pos_of_mul_pos_right (by rw [h.mul_intervals]; omega) h.width_pos

/-- A range without a missing bar holds as many bars as it is wide. -/
theorem card_inside {opens : Finset Int} (hgrid : ∀ t ∈ opens, r.width ∣ t)
    (hdense : ∀ t, r.width ∣ t → r.start ≤ t → t < r.stop → t ∈ opens) :
    (((opens.filter (r.start ≤ ·)).filter (· < r.stop)).card : Int) = r.intervals := by
  have hinside : (opens.filter (r.start ≤ ·)).filter (· < r.stop) =
      (Finset.Ico 0 r.intervals).image (r.start + r.width * ·) := by
    have hmul := h.mul_intervals
    ext t
    simp only [Finset.mem_filter, Finset.mem_image, Finset.mem_Ico]
    constructor
    · rintro ⟨⟨ht, hstart⟩, hstop⟩
      obtain ⟨k, hk⟩ := Int.dvd_sub (hgrid t ht) h.start_dvd
      refine ⟨k, ⟨?_, ?_⟩, by omega⟩
      · exact Int.nonneg_of_mul_nonneg_right (by omega) h.width_pos
      · exact Int.lt_of_mul_lt_mul_left (by omega : r.width * k < r.width * r.intervals)
          (Int.le_of_lt h.width_pos)
    · rintro ⟨k, ⟨hk, hk'⟩, rfl⟩
      have hnonneg := Int.mul_nonneg (Int.le_of_lt h.width_pos) hk
      have hlt := Int.mul_lt_mul_of_pos_left hk' h.width_pos
      have hdvd : r.width ∣ r.start + r.width * k := Int.dvd_add h.start_dvd (Int.dvd_mul_right _ _)
      exact ⟨⟨hdense _ hdvd (by omega) (by omega), by omega⟩, by omega⟩
  have hinjective : Function.Injective (r.start + r.width * ·) := fun a b hab =>
    Int.eq_of_mul_eq_mul_left (Int.ne_of_gt h.width_pos) (Int.add_left_cancel hab)
  rw [hinside, Finset.card_image_of_injective _ hinjective,
    Int.card_Ico_of_le _ _ (Int.le_of_lt h.intervals_pos), Int.sub_zero]

/-- All bars from the start of such a range on are those of its intervals and those after it. -/
theorem card_from_start {opens : Finset Int} (hgrid : ∀ t ∈ opens, r.width ∣ t)
    (hdense : ∀ t, r.width ∣ t → r.start ≤ t → t < r.stop → t ∈ opens) :
    ((opens.filter (r.start ≤ ·)).card : Int) = r.intervals + (opens.filter (r.stop ≤ ·)).card := by
  have hafter : (opens.filter (r.start ≤ ·)).filter (¬ · < r.stop) = opens.filter (r.stop ≤ ·) := by
    ext t
    have hlt := h.lt
    simp only [Finset.mem_filter, Int.not_lt, and_assoc, and_congr_right_iff, and_iff_right_iff_imp]
    omega
  rw [← Finset.card_filter_add_card_filter_not (· < r.stop), hafter, Int.natCast_add,
    h.card_inside hgrid hdense]

/-- The number of bars that is asked for. -/
theorem historySize_eq (hspan : r.stop - r.start ≤ 2 ^ 53) :
    Htx.historySize r = .ok (min Htx.maxSize (r.intervals + 10)) := by
  have hlt := h.lt
  have hpos := h.intervals_pos
  have hwidth : r.width ≤ r.stop - r.start := Int.le_of_dvd (by omega) (Int.dvd_sub h.stop_dvd h.start_dvd)
  have hceil := Double.ceil?_ofQuotient (by omega) hspan h.width_pos (Int.le_trans hwidth hspan)
  have hexact : -((-(r.stop - r.start)).fdiv r.width) = r.intervals := by
    rw [← h.mul_intervals, ← Int.mul_neg, Int.mul_fdiv_cancel_left _ (Int.ne_of_gt h.width_pos), Int.neg_neg]
  rw [Htx.historySize, if_neg (Int.ne_of_gt h.width_pos), hceil, hexact]
  simp only [Int.max_eq_right (by omega : 1 ≤ r.intervals + 10)]

end OnGrid

end FetchRequest

namespace Htx

/-- The keys of a row under which a number is looked for. -/
def numberKeys : List String := ["open", "high", "low", "close", "vol", "amount", "count"]

/-- An answer that lists the bars of some open times, in any order. -/
def Lists (opens : List Int) (answer : Json) : Prop :=
  ∃ rows times, isError (answer.member "status") = false ∧ answer.member "data" = .arr rows ∧
    List.Forall₂ (fun row t => ObjectRow "id" numberKeys row (t / 1000)) rows times ∧
    ∀ t, t ∈ times ↔ t ∈ opens

/-- The endpoint at a moment when its market has the bars of some open times. They lie on the grid of
    the request, and their times are whole seconds that a reader can make out. A question for a number
    of bars is answered with so many of the newest. -/
structure Serves {σ : Type} (r : FetchRequest) (opens : Finset Int) (world : World σ) : Prop where
  patient : ∀ state, world.withdrawn state = false
  second : 1000 ∣ r.width
  grid : ∀ t ∈ opens, r.width ∣ t
  small : ∀ t ∈ opens, t.natAbs ≤ 2 ^ 53
  answers : ∀ state size, 0 < size → size ≤ maxSize → ∃ answer,
    (world.answer state (call r size)).1 = .ok answer ∧ Lists (newest size.toNat opens) answer

variable {σ : Type} {r : FetchRequest} {opens : Finset Int} {world : World σ}

/-- A row as it should be becomes a candle of one width. -/
theorem exists_row {row : Json} {t : Int} (h : ObjectRow "id" numberKeys row (t / 1000))
    (hsecond : 1000 ∣ t) (hsmall : t.natAbs ≤ 2 ^ 53) :
    ∃ c, Htx.row r row = .ok (some c) ∧ c.start = t ∧ c.stop = c.start + r.width := by
  have hscaled : t / 1000 * 1000 = t := Int.ediv_mul_cancel hsecond
  have htime : Reading.time (row.member "id") 1000 = .ok (some t) := by
    have htime := Reading.time_of_spells h.opens (by decide : (0 : Int) < 1000) (by rwa [hscaled])
      (by decide)
    rwa [hscaled] at htime
  have hvalues : ∀ key ∈ numberKeys, ∃ x, Reading.number (row.member key) = .ok x := h.values
  simp only [numberKeys, List.forall_mem_cons] at hvalues
  obtain ⟨hopen, hhigh, hlow, hclose, hvol, hamount, hcount, -⟩ := hvalues
  refine FetchRequest.exists_of_timed htime (FetchRequest.exists_candle_of_width ?_)
  simp only [List.forall_mem_cons]
  refine ⟨hopen, hhigh, hlow, hclose, ?_, hcount, by simp⟩
  split
  · exact hamount
  · exact hvol

/-- An answer that lists the bars of some times gives their candles. -/
theorem Lists.exists_read {opens : List Int} {answer : Json} (h : Lists opens answer)
    (hsecond : ∀ t ∈ opens, 1000 ∣ t)
    (hsmall : ∀ t ∈ opens, t.natAbs ≤ 2 ^ 53) :
    ∃ cs, read r answer = .ok cs ∧ (∀ c ∈ cs, c.stop = c.start + r.width) ∧
      ∀ t, (∃ c ∈ cs, c.start = t) ↔ t ∈ opens := by
  obtain ⟨rows, times, hstatus, hdata, hrows, htimes⟩ := h
  have hread : ∀ row, ∀ t ∈ times, ObjectRow "id" numberKeys row (t / 1000) →
      ∃ c, Htx.row r row = .ok (some c) ∧ c.start = id t ∧ c.stop = c.start + r.width :=
    fun row t ht hrow => exists_row hrow (hsecond t ((htimes t).1 ht)) (hsmall t ((htimes t).1 ht))
  have hlegible : List.Forall₂ (LegibleExcept ∅ (Json.member "id") 1000
      fun row t => ObjectRow "id" numberKeys row (t / 1000)) rows times := by rwa [legibleExcept_empty]
  obtain ⟨cs, hcs, hstarts, hwidths⟩ :=
    exists_readRows hlegible (fun row hnone => FetchRequest.none_of_timed hnone) hread
  have hobjects : rows.filter Json.isObject = rows := by
    refine List.filter_eq_self.2 fun row hrow => ?_
    obtain ⟨t, -, hobject⟩ := exists_of_mem_rows hrows hrow
    exact hobject.isObject
  refine ⟨cs, ?_, hwidths, fun t => ?_⟩
  · simp only [read, Json.isObject_of_member hdata (by simp), hstatus, hdata, Reading.itemsIfPresent_arr,
      hobjects, bind, Except.bind]
    exact hcs
  · have hstart : t ∈ cs.map (·.start) ↔ t ∈ times := by simp [hstarts]
    rw [← htimes t, ← hstart, List.mem_map]

/-- A request gives the candles of the newest bars. -/
theorem exists_outcome (hgrid : r.OnGrid) (hspan : r.stop - r.start ≤ 2 ^ 53)
    (h : Serves r opens world) (state : σ) :
    ∃ cs, ((fetch r).run world state).outcome = .ok cs ∧ (∀ c ∈ cs, c.stop = c.start + r.width) ∧
      ∀ t, (∃ c ∈ cs, c.start = t) ↔ t ∈ newest (min maxSize (r.intervals + 10)).toNat opens := by
  have hpos := hgrid.intervals_pos
  have hmax : maxSize = 2000 := rfl
  obtain ⟨answer, hanswer, hlists⟩ :=
    h.answers state (min maxSize (r.intervals + 10)) (by omega) (Int.min_le_left _ _)
  obtain ⟨cs, hcs, hwidths, hstarts⟩ := hlists.exists_read (r := r)
    (fun t ht => Int.dvd_trans h.second (h.grid t (mem_of_mem_newest ht)))
    fun t ht => h.small t (mem_of_mem_newest ht)
  refine ⟨cs, ?_, hwidths, hstarts⟩
  rw [fetch, hgrid.historySize_eq hspan, Dialogue.outcome_request (h.patient state) hanswer, hcs]

/-- A request is answered with the newest bars, wherever its range lies. Where at most two thousand bars
    have opened since the start of the range, the candles are those of the bars from which on no more
    than the intervals of the range and ten have opened; so a range without a missing bar is covered just
    when no more than ten bars have opened after it. -/
theorem fetch_newest (hgrid : r.OnGrid) (hspan : r.stop - r.start ≤ 2 ^ 53)
    (h : Serves r opens world) (state : σ) (hfew : (opens.filter (r.start ≤ ·)).card ≤ 2000) :
    ∃ cs, ((fetch r).run world state).outcome = .ok cs ∧
      (∀ c ∈ cs, c.start ∈ opens ∧ c.stop = c.start + r.width) ∧
      (∀ t ∈ opens, r.start ≤ t →
        ((∃ c ∈ cs, c.start = t) ↔ ((opens.filter (t ≤ ·)).card : Int) ≤ r.intervals + 10)) ∧
      ((∀ t, r.width ∣ t → r.start ≤ t → t < r.stop → t ∈ opens) →
        ((∀ t, r.width ∣ t → r.start ≤ t → t < r.stop → ∃ c ∈ cs, c.start = t) ↔
          (opens.filter (r.stop ≤ ·)).card ≤ 10)) := by
  obtain ⟨cs, hcs, hwidths, hstarts⟩ := exists_outcome hgrid hspan h state
  have hfrom : ∀ t ∈ opens, r.start ≤ t →
      ((∃ c ∈ cs, c.start = t) ↔ ((opens.filter (t ≤ ·)).card : Int) ≤ r.intervals + 10) := by
    intro t ht hstart
    have hmax : maxSize = 2000 := rfl
    have hpos := hgrid.intervals_pos
    have hle := card_from_le opens hstart
    rw [hstarts, mem_newest, and_iff_right ht]
    omega
  refine ⟨cs, hcs, fun c hc => ⟨mem_of_mem_newest ((hstarts c.start).1 ⟨c, hc, rfl⟩), hwidths c hc⟩,
    hfrom, fun hdense => ?_⟩
  have hcount := hgrid.card_from_start h.grid hdense
  -- Since the start of the range more bars have opened than since any later time in it.
  have hfirst := hdense r.start hgrid.start_dvd (Int.le_refl _) hgrid.lt
  constructor
  · intro hall
    have hstart := (hfrom r.start hfirst (Int.le_refl _)).1
      (hall r.start hgrid.start_dvd (Int.le_refl _) hgrid.lt)
    omega
  · intro hafter t hdvd hstart hstop
    refine (hfrom t (hdense t hdvd hstart hstop) hstart).2 ?_
    have hle := card_from_le opens hstart
    omega

/-! ## A market with such an endpoint -/

namespace Market

/-- The row of a bar at a constant price. -/
def row (t : Int) : Json :=
  .obj (("id", .int (t / 1000)) :: numberKeys.map fun key => (key, .int 1))

/-- The number of bars that a call asks for. -/
def size (call : Call) : Nat :=
  match call.params.lookup "size" with
  | some (.int n) => n.toNat
  | _ => 0

/-- A market with the bars of some open times, which answers every call with the newest. -/
def feed (opens : Finset Int) : World Unit where
  withdrawn _ := false
  answer _ call := (.ok (.obj [("status", .str "ok"),
    ("data", .arr ((newest (size call) opens).map row))]), ())

theorem size_call (r : FetchRequest) (n : Int) : size (call r n) = n.toNat := by
  unfold call
  split <;> rfl

theorem objectRow (t : Int) : ObjectRow "id" numberKeys (row t) (t / 1000) where
  isObject := rfl
  opens := Or.inl rfl
  values key hkey := by
    have hone : (row t).member key = .int 1 := by
      simp only [numberKeys, List.mem_cons, List.not_mem_nil, or_false] at hkey
      rcases hkey with rfl | rfl | rfl | rfl | rfl | rfl | rfl <;> rfl
    exact ⟨_, hone ▸ Reading.number_int (by decide : (1 : Int).natAbs ≤ 2 ^ 53)⟩

theorem serves (hsecond : 1000 ∣ r.width) (hgrid : ∀ t ∈ opens, r.width ∣ t)
    (hsmall : ∀ t ∈ opens, t.natAbs ≤ 2 ^ 53) : Serves r opens (feed opens) where
  patient _ := rfl
  second := hsecond
  grid := hgrid
  small := hsmall
  answers _ n _ _ := by
    rw [← size_call r n]
    have hrows : List.Forall₂ (fun row t => ObjectRow "id" numberKeys row (t / 1000))
        ((newest (size (call r n)) opens).map row) (newest (size (call r n)) opens) :=
      List.forall₂_map_left_iff.2 (List.forall₂_same.2 fun t _ => objectRow t)
    exact ⟨_, rfl, _, _, rfl, rfl, hrows, fun t => Iff.rfl⟩

end Market

/-- The minutes of the first quarter of an hour. -/
def quarter : Finset Int := (Finset.range 15).image fun n : Nat => 60000 * (n : Int)

/-- The first minutes of the quarter, at its end. -/
def firstMinutes (count : Int) : FetchRequest :=
  ⟨⟨.htx, .spot⟩, "BTC", "USDT", 0, count * 60000, "1min", "1m", 60000⟩

theorem onGrid_firstMinutes {count : Int} (h : 0 < count) : (firstMinutes count).OnGrid where
  start_dvd := Int.dvd_zero _
  stop_dvd := Int.dvd_mul_left _ _
  lt := Int.mul_pos h (by decide)
  width_pos := (by decide : (0 : Int) < 60000)

theorem mem_quarter {t : Int} (hdvd : (60000 : Int) ∣ t) (hstart : 0 ≤ t) (hstop : t < 900000) :
    t ∈ quarter := by
  obtain ⟨k, rfl⟩ := hdvd
  exact Finset.mem_image.2 ⟨k.toNat, Finset.mem_range.2 (by omega), by omega⟩

theorem serves_quarter (count : Int) : Serves (firstMinutes count) quarter (Market.feed quarter) :=
  Market.serves (by decide : (1000 : Int) ∣ 60000) (by decide : ∀ t ∈ quarter, (60000 : Int) ∣ t)
    (by decide)

/-- Ten minutes have passed since the first five, and these are all there. -/
theorem fetch_newest_fiveMinutes :
    (firstMinutes 5).OnGrid ∧ (firstMinutes 5).stop - (firstMinutes 5).start ≤ 2 ^ 53 ∧
      Serves (firstMinutes 5) quarter (Market.feed quarter) ∧ (quarter.filter (0 ≤ ·)).card ≤ 2000 ∧
      ∃ cs, ((fetch (firstMinutes 5)).run (Market.feed quarter) ()).outcome = .ok cs ∧
        ∀ t, (60000 : Int) ∣ t → 0 ≤ t → t < 300000 → ∃ c ∈ cs, c.start = t := by
  have hgrid : (firstMinutes 5).OnGrid := onGrid_firstMinutes (by decide)
  have hfew : (quarter.filter (0 ≤ ·)).card ≤ 2000 := by decide
  obtain ⟨cs, hcs, -, -, hcovers⟩ := fetch_newest hgrid (by decide) (serves_quarter 5) () hfew
  have hdense : ∀ t, (60000 : Int) ∣ t → 0 ≤ t → t < 300000 → t ∈ quarter :=
    fun t hdvd hstart hstop => mem_quarter hdvd hstart (by omega)
  exact ⟨hgrid, by decide, serves_quarter 5, hfew, cs, hcs,
    (hcovers hdense).2 (by decide : (quarter.filter ((300000 : Int) ≤ ·)).card ≤ 10)⟩

/-- Eleven have passed since the first four, and the very first is missing, though the quarter has only
    fifteen bars. -/
theorem fetch_misses_firstMinute :
    (firstMinutes 4).OnGrid ∧ (firstMinutes 4).stop - (firstMinutes 4).start ≤ 2 ^ 53 ∧
      Serves (firstMinutes 4) quarter (Market.feed quarter) ∧ (quarter.filter (0 ≤ ·)).card ≤ 2000 ∧
      (∀ t, (60000 : Int) ∣ t → 0 ≤ t → t < 240000 → t ∈ quarter) ∧
      ∃ cs, ((fetch (firstMinutes 4)).run (Market.feed quarter) ()).outcome = .ok cs ∧
        ∀ c ∈ cs, c.start ≠ 0 := by
  have hgrid : (firstMinutes 4).OnGrid := onGrid_firstMinutes (by decide)
  obtain ⟨cs, hcs, -, hstarts⟩ := exists_outcome hgrid (by decide) (serves_quarter 4) ()
  refine ⟨hgrid, by decide, serves_quarter 4, by decide,
    fun t hdvd hstart hstop => mem_quarter hdvd hstart (by omega), cs, hcs, fun c hc hzero => ?_⟩
  have hcard := (mem_newest.1 ((hstarts 0).1 ⟨c, hc, hzero⟩)).2
  exact absurd hcard (by decide)

end Htx

end Candlestick
