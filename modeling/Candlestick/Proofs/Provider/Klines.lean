import Mathlib.Data.Finset.Sort
import Candlestick.Market.TimeFrame
import Candlestick.Proofs.Network.Paging
import Candlestick.Proofs.Provider.Service
import Candlestick.Proofs.Provider.Shown
import Candlestick.Provider.Binance

set_option autoImplicit false

/-! # Paging through klines is complete and exact

An endpoint that keeps a finite set of candles answers each question with the first of them in the
range asked for, up to the limit. Whatever gaps the set has and wherever its pages happen to end, the
pages together are the candles of the range, each once. -/

namespace Candlestick.Klines

/-! ## The candles that an endpoint keeps -/

/-- The open times of a range, ascending. -/
def openTimes (kept : Finset Int) (start stop : Int) : List Int :=
  (kept.sort (· ≤ ·)).filter fun k => start ≤ k ∧ k < stop

variable {kept : Finset Int} {start stop k : Int}

theorem mem_openTimes : k ∈ openTimes kept start stop ↔ k ∈ kept ∧ start ≤ k ∧ k < stop := by
  simp [openTimes]

theorem pairwise_openTimes (kept : Finset Int) (start stop : Int) :
    (openTimes kept start stop).Pairwise (· < ·) :=
  kept.sortedLT_sort.pairwise.filter _

theorem openTimes_of_le (h : stop ≤ start) : openTimes kept start stop = [] := by
  refine List.eq_nil_iff_forall_not_mem.2 fun k hk => ?_
  have := mem_openTimes.1 hk
  omega

section Page

variable {n : Nat} {ks : List Int} {last : Int}
  (hshown : (openTimes kept start stop).take n = ks ++ [last])
include hshown

theorem pairwise_page : (ks ++ [last] ++ (openTimes kept start stop).drop n).Pairwise (· < ·) := by
  rw [← hshown, List.take_append_drop]
  exact pairwise_openTimes kept start stop

theorem lt_last {k : Int} (hk : k ∈ ks) : k < last :=
  (List.pairwise_append.1 (List.pairwise_append.1 (pairwise_page hshown)).1).2.2 k hk last (by simp)

/-- A page of two open times or more ends after the beginning of its range. -/
theorem start_lt_last (hks : ks ≠ []) : start < last := by
  obtain ⟨first, hfirst⟩ := List.exists_mem_of_ne_nil ks hks
  have hmem : first ∈ (openTimes kept start stop).take n := hshown ▸ List.mem_append_left _ hfirst
  exact Int.lt_of_le_of_lt (mem_openTimes.1 (List.mem_of_mem_take hmem)).2.1 (lt_last hshown hfirst)

/-- What a page leaves over are the open times after the last one that it shows. -/
theorem openTimes_after : openTimes kept (last + 1) stop = (openTimes kept start stop).drop n := by
  have hlast : last ∈ (openTimes kept start stop).take n := by
    rw [hshown]
    exact List.mem_append_right _ (List.mem_singleton_self last)
  have hstart := (mem_openTimes.1 (List.mem_of_mem_take hlast)).2.1
  have hfilter : openTimes kept (last + 1) stop =
      (openTimes kept start stop).filter fun k => last < k := by
    rw [openTimes, openTimes, List.filter_filter]
    refine List.filter_congr fun k _ => ?_
    rw [← Bool.decide_and, decide_eq_decide]
    omega
  have hpage : ((openTimes kept start stop).take n).filter (fun k => decide (last < k)) = [] := by
    rw [hshown]
    refine List.filter_eq_nil_iff.2 fun k hk => ?_
    rcases List.mem_append.1 hk with hk | hk
    · simpa using Int.le_of_lt (lt_last hshown hk)
    · simp [List.mem_singleton.1 hk]
  have hrest : ((openTimes kept start stop).drop n).filter (fun k => decide (last < k)) =
      (openTimes kept start stop).drop n := by
    refine List.filter_eq_self.2 fun k hk => decide_eq_true ?_
    exact (List.pairwise_append.1 (pairwise_page hshown)).2.2 last (by simp) k hk
  calc openTimes kept (last + 1) stop
      = ((openTimes kept start stop).take n ++ (openTimes kept start stop).drop n).filter
          fun k => last < k := by rw [List.take_append_drop, hfilter]
    _ = (openTimes kept start stop).drop n := by
        rw [List.filter_append, hpage, hrest, List.nil_append]

/-- What a page leaves out comes after a full page, and that ends after the beginning of its range. -/
theorem last_of_left_out {k : Int} (hn : 2 ≤ n) (hk : k ∈ openTimes kept start stop)
    (hout : k ∉ ks ++ [last]) : (ks ++ [last]).length = n ∧ start < last ∧ last < k := by
  obtain ⟨hfull, hbefore⟩ := length_take_of_left_out (pairwise_openTimes kept start stop) hk (hshown ▸ hout)
  rw [hshown] at hfull hbefore
  have hks : ks ≠ [] := by
    rintro rfl
    rw [List.nil_append, List.length_singleton] at hfull
    omega
  exact ⟨hfull, start_lt_last hshown hks, hbefore last (by simp)⟩

end Page

/-! ## Rows as they should be -/

/-- A close time that can be read, as can the millisecond after it. -/
def Closes (value : Json) : Prop :=
  ∃ closeTime, Reading.time value = .ok closeTime ∧
    ∀ ms ∈ closeTime, ∃ stop, Reading.time (.int (ms + 1)) = .ok stop

theorem closes_int {t : Int} (h : t.natAbs < 2 ^ 53) : Closes (.int t) := by
  refine ⟨some t, Reading.time_int (Nat.le_of_lt h), fun _ ht => ⟨some (t + 1), ?_⟩⟩
  cases ht
  exact Reading.time_int (by omega)

/-- The row of an open time: prices, volume, count of trades and close time are all readable. -/
structure WellFormed (row : Json) (k : Int) : Prop where
  opens : Reading.item row 0 = .int k
  values : ∀ place ∈ [1, 2, 3, 4, 5, 8], ∃ x, Reading.number (Reading.item row place) = .ok x
  closes : Closes (Reading.item row 6)

/-- An endpoint that keeps candles with the given open times, and is never left waiting: to each range
    and limit it gives the rows of the first open times in the range. -/
structure Keeps {σ : Type} (kept : Finset Int) (world : World σ) : Prop where
  patient : ∀ state, world.withdrawn state = false
  answers : ∀ state (call : Call) (start stop : Int) (limit : Nat),
    call.params.lookup "startTime" = some (.int start) →
    call.params.lookup "endTime" = some (.int stop) →
    call.params.lookup "limit" = some (.int limit) →
    ∃ rows, (world.answer state call).1 = .ok (.arr rows) ∧
      List.Forall₂ WellFormed rows ((openTimes kept start stop).take limit)

/-- The service of klines: rows in order, and a page leads on by the last of them. -/
def service : Service where
  scale := 1
  cell := Reading.first
  row := WellFormed
  shown kept call :=
    match call.params.lookup "startTime", call.params.lookup "endTime", call.params.lookup "limit" with
    | some (.int start), some (.int stop), some (.int (.ofNat limit)) =>
      some ((openTimes kept start stop).take limit)
    | _, _, _ => none
  arranged := Eq
  wraps _ rows _ answer := answer = .arr rows
  leads illegible _ shown := ∀ last ∈ shown.getLast?, last ∉ illegible

/-! ## One page -/

variable {r : FetchRequest} {e : Endpoint} {illegible : Finset Int}

/-- A well-formed row gives a candle that starts at its open time. -/
theorem WellFormed.exists_row {item : Json} (h : WellFormed item k) (hk : k.natAbs ≤ 2 ^ 53) :
    ∃ c, row r item = .ok (some c) ∧ c.start = k := by
  obtain ⟨closeTime, hclose, hnext⟩ := h.closes
  have hstop : ∀ ms ∈ (closeTime.filter (· ≠ 0)).map (· + 1), ∃ t, Reading.time (.int ms) = .ok t := by
    intro ms hms
    obtain ⟨close, hfilter, rfl⟩ := Option.mem_map.1 hms
    exact hnext close (Option.mem_filter_iff.1 hfilter).1
  have hvalues := h.values
  obtain ⟨c, hc, hstart, -⟩ := FetchRequest.exists_candle (r := r) hstop (by simpa using hvalues)
  refine ⟨c, ?_, hstart⟩
  simp only [row, h.opens, Reading.time_int hk, hclose]
  exact congrArg (some <$> ·) hc

theorem row_of_illegible {item : Json} (h : Reading.time (Reading.first item) 1 = .ok none) :
    row r item = .ok none := by
  change Reading.time (Reading.item item 0) = .ok none at h
  simp only [row, h]
  rfl

/-- The page of rows holds the candles of the legible ones. It leads on past the last of them where that
    is legible, and the page is full and has come further than the cursor. -/
theorem exists_page {last : Int} {rows : List Json} {ks : List Int} (cursor : Int)
    (h : List.Forall₂ (LegibleExcept illegible Reading.first 1 WellFormed) rows (ks ++ [last]))
    (hks : ∀ k ∈ ks ++ [last], k.natAbs ≤ 2 ^ 53) :
    ∃ cs, cs.map (·.start) = (ks ++ [last]).filter (· ∉ illegible) ∧ page e r cursor (.arr rows) = .ok {
      candles := cs
      next := if last ∈ illegible ∨ last ≤ cursor ∨ rows.length < e.limit then none
        else some (last + 1) } := by
  have hread : ∀ item, ∀ k ∈ ks ++ [last], WellFormed item k →
      ∃ c, row r item = .ok (some c) ∧ c.start = id k ∧ True := fun item k hk hitem => by
    simpa using hitem.exists_row (hks k hk)
  obtain ⟨cs, hcs, hstarts, -⟩ := exists_readRows h (fun _ => row_of_illegible) hread
  rw [List.map_id] at hstarts
  refine ⟨cs, hstarts, ?_⟩
  have hlength : rows.length = ks.length + 1 := by simpa using h.length_eq
  have hplace : ks.length < rows.length := by omega
  have hlast : LegibleExcept illegible Reading.first 1 WellFormed rows[ks.length] last := by
    simpa using h.get hplace (by simp)
  have hitem : Reading.item (Reading.item (.arr rows) (rows.length - 1)) 0 =
      Reading.first rows[ks.length] := by
    simp [Reading.item, Reading.first, hlength]
  have htime : Reading.time (Reading.first rows[ks.length]) =
      .ok (if last ∈ illegible then none else some last) := by
    by_cases hlegible : last ∈ illegible
    · rw [LegibleExcept, if_pos hlegible] at hlast
      rw [if_pos hlegible]
      exact hlast
    · rw [LegibleExcept, if_neg hlegible] at hlast
      rw [if_neg hlegible, Reading.first, hlast.opens]
      exact Reading.time_int (hks last (by simp))
  cases rows with
  | nil => simp at hlength
  | cons first rest =>
    simp only [page, hcs, hitem, htime]
    by_cases hlegible : last ∈ illegible
    · rw [if_pos hlegible, if_pos (Or.inl hlegible)]
      rfl
    · rw [if_neg hlegible]
      simp only [hlegible, false_or]
      rfl

/-! ## All pages -/

namespace Keeps

variable {σ : Type} {world : World σ} (h : Keeps kept world)
include h

/-- The rows that are given at a cursor. -/
theorem exists_answer (e : Endpoint) (symbol : String) (r : FetchRequest) (state : σ) (cursor : Int) :
    ∃ rows, (world.answer state ((pager e symbol r).call cursor)).1 = .ok (.arr rows) ∧
      List.Forall₂ (LegibleExcept ∅ Reading.first 1 WellFormed) rows
        ((openTimes kept cursor r.stop).take e.limit) := by
  rw [legibleExcept_empty]
  exact h.answers state _ cursor r.stop e.limit rfl rfl rfl

/-- Reading from a cursor gives the open times from there up to the end of the range. -/
theorem outcome_forward (hkept : ∀ k ∈ kept, k.natAbs ≤ 2 ^ 53) (e : Endpoint) (hlimit : 2 ≤ e.limit)
    (symbol : String) (r : FetchRequest) (state : σ) (cursor : Int) :
    ∃ cs, (((pager e symbol r).forward r.stop cursor).run world state).outcome = .ok cs ∧
      cs.map (·.start) = openTimes kept cursor r.stop := by
  by_cases hcursor : cursor < r.stop
  swap
  · exact ⟨[], Pager.outcome_forward_of_le (by omega), (openTimes_of_le (by omega)).symm⟩
  obtain ⟨rows, hanswer, hrows⟩ := h.exists_answer e symbol r state cursor
  have hsmall : ∀ k ∈ (openTimes kept cursor r.stop).take e.limit, k.natAbs ≤ 2 ^ 53 := fun k hk =>
    hkept k (mem_openTimes.1 (List.mem_of_mem_take hk)).1
  obtain hnone | ⟨ks, last, hshown⟩ :=
    List.eq_nil_or_concat' ((openTimes kept cursor r.stop).take e.limit)
  · -- Nothing is left in the range.
    rw [hnone] at hrows
    cases hrows
    have hempty := (List.take_eq_nil_iff.1 hnone).resolve_left (by omega)
    exact ⟨[], Pager.outcome_forward_of_last hcursor (h.patient state) hanswer rfl rfl, hempty.symm⟩
  have hlength : rows.length = min e.limit (openTimes kept cursor r.stop).length := by
    rw [hrows.length_eq, List.length_take]
  rw [hshown] at hrows hsmall
  obtain ⟨cs, hstarts, hread⟩ := exists_page (e := e) (r := r) cursor hrows hsmall
  simp only [Finset.notMem_empty, not_false_eq_true, decide_true, List.filter_true, false_or]
    at hstarts hread
  by_cases hshort : rows.length < e.limit
  · -- A page that is not full shows all that is left.
    rw [if_pos (Or.inr hshort)] at hread
    refine ⟨cs, Pager.outcome_forward_of_last hcursor (h.patient state) hanswer hread rfl, ?_⟩
    rw [hstarts, ← hshown, List.take_of_length_le (by omega)]
  · -- A full page has two rows or more, so its last one lies after the cursor.
    have hks : ks ≠ [] := by
      rintro rfl
      have := hrows.length_eq
      rw [List.nil_append, List.length_singleton] at this
      omega
    have hgrows := start_lt_last hshown hks
    rw [if_neg (by omega)] at hread
    obtain ⟨others, hothers, hlater⟩ := outcome_forward hkept e hlimit symbol r
      (world.answer state ((pager e symbol r).call cursor)).2 (last + 1)
    refine ⟨cs ++ others, ?_, ?_⟩
    · rw [Pager.outcome_forward_of_next hcursor (h.patient state) hanswer hread rfl (by omega),
        hothers]
      rfl
    · rw [List.map_append, hstarts, hlater, openTimes_after hshown, ← hshown, List.take_append_drop]
termination_by (r.stop - cursor).toNat

end Keeps

/-- Where every page that is asked for leads on, the legible open times of the range are never lost. -/
theorem covers {σ : Type} {world : World σ} {made : Call → Prop}
    (h : service.Serves kept illegible world) (hkept : ∀ k ∈ kept, k.natAbs ≤ 2 ^ 53) (e : Endpoint)
    (hlimit : 2 ≤ e.limit) (symbol : String) (r : FetchRequest)
    (hleads : service.LeadsOn kept illegible (r.sought 1 kept illegible) (· < ·) (pager e symbol r) made) :
    Pager.Covers made (pager e symbol r) world (· < r.stop) (· < ·)
      (fun cursor k => k ∈ r.sought 1 kept illegible ∧ cursor ≤ k)
      (fun c => ∃ k ∈ kept, k ∉ illegible ∧ c.start = k) (fun k c => c.start = k) := by
  refine ⟨h.patient, fun state cursor _ hcall => ?_⟩
  have hpage : service.shown kept ((pager e symbol r).call cursor) =
      some ((openTimes kept cursor r.stop).take e.limit) := rfl
  obtain ⟨answer, rows, ks, hanswer, rfl, hrows, rfl⟩ := h.answers state _ _ hpage
  have hopen : ∀ k ∈ r.sought 1 kept illegible, cursor ≤ k → k ∈ openTimes kept cursor r.stop :=
    fun k hk hlow => by
      obtain ⟨⟨hmem, -⟩, -, hhigh⟩ := FetchRequest.mem_sought.1 hk
      exact mem_openTimes.2 ⟨hmem, hlow, by omega⟩
  have hsmall : ∀ k ∈ (openTimes kept cursor r.stop).take e.limit, k.natAbs ≤ 2 ^ 53 := fun k hk =>
    hkept k (mem_openTimes.1 (List.mem_of_mem_take hk)).1
  obtain hnone | ⟨ks, last, hshown⟩ :=
    List.eq_nil_or_concat' ((openTimes kept cursor r.stop).take e.limit)
  · -- Nothing is left in the range.
    rw [hnone] at hrows
    cases hrows
    refine ⟨_, .last, hanswer, rfl, by simp [Page.last], fun k hk => ?_⟩
    have hmem := hopen k hk.1 hk.2
    rw [(List.take_eq_nil_iff.1 hnone).resolve_left (by omega)] at hmem
    exact absurd hmem List.not_mem_nil
  rw [hshown] at hrows hsmall
  obtain ⟨cs, hstarts, hread⟩ := exists_page (e := e) (r := r) cursor hrows hsmall
  rw [← List.map_id ((ks ++ [last]).filter _)] at hstarts
  refine ⟨_, _, hanswer, hread, fun c hc => ?_, fun k hk => ?_⟩
  · obtain ⟨k, hk, hlegible, hstart⟩ := exists_time_of_candle hstarts hc
    exact ⟨k, (mem_openTimes.1 (List.mem_of_mem_take (hshown ▸ hk))).1, hlegible, hstart⟩
  · obtain ⟨hsought, hlow⟩ := hk
    obtain ⟨⟨-, hlegible⟩, -, hhigh⟩ := FetchRequest.mem_sought.1 hsought
    by_cases hon : k ∈ ks ++ [last]
    · exact Or.inl (exists_candle_of_time hstarts hon hlegible)
    -- What is left out comes after a full page, whose last row is then legible.
    obtain ⟨hfull, hgrows, hbefore⟩ := last_of_left_out hshown hlimit (hopen k hsought hlow) hon
    have hlength : rows.length = e.limit := hrows.length_eq.trans hfull
    have hread : last ∉ illegible :=
      hleads cursor _ hcall hpage ⟨k, hsought, by omega, hshown ▸ hon⟩ last (by rw [hshown]; simp)
    refine Or.inr ⟨last + 1, ?_, by omega, by omega, hsought, by omega⟩
    exact if_neg (by simp only [hread, false_or]; omega)

/-- Reading a range from an endpoint that keeps a finite set of open times gives candles that start at
    exactly the open times of the range, ascending, each once. -/
theorem fetch_complete {σ : Type} {world : World σ} {kept : Finset Int} (h : Keeps kept world)
    (hkept : ∀ k ∈ kept, k.natAbs ≤ 2 ^ 53) (e : Endpoint) (hlimit : 2 ≤ e.limit) (symbol : String)
    (r : FetchRequest) (state : σ) :
    ∃ cs, ((fetch e symbol r).run world state).outcome = .ok cs ∧
      (cs.map (·.start)).Pairwise (· < ·) ∧
      ∀ k, k ∈ cs.map (·.start) ↔ k ∈ kept ∧ r.start ≤ k ∧ k < r.stop := by
  obtain ⟨cs, houtcome, hstarts⟩ := h.outcome_forward hkept e hlimit symbol r state r.start
  refine ⟨cs, houtcome, ?_, fun k => ?_⟩
  · rw [hstarts]
    exact pairwise_openTimes kept r.start r.stop
  · rw [hstarts]
    exact mem_openTimes

/-! ## An endpoint as it should be -/

/-- The row of a minute. -/
def minuteRow (k : Int) : Json :=
  .arr [.int k, .str "1.5", .str "2.5", .str "0.5", .str "1.25", .str "10", .int (k + (minuteMs - 1)),
    .str "15", .int 3]

theorem wellFormed_minuteRow (hk : k.natAbs ≤ 2 ^ 52) : WellFormed (minuteRow k) k where
  opens := rfl
  values place hplace := by
    have hplaces : place = 1 ∨ place = 2 ∨ place = 3 ∨ place = 4 ∨ place = 5 ∨ place = 8 := by
      simpa using hplace
    rcases hplaces with rfl | rfl | rfl | rfl | rfl | rfl
    · exact ⟨_, rfl⟩
    · exact ⟨_, rfl⟩
    · exact ⟨_, rfl⟩
    · exact ⟨_, rfl⟩
    · exact ⟨_, rfl⟩
    · exact ⟨_, Reading.number_int (n := 3) (by decide)⟩
  closes := closes_int (t := k + (minuteMs - 1)) (by unfold minuteMs; omega)

/-- The world that keeps minutes. -/
def minutes (kept : Finset Int) : World Unit where
  withdrawn _ := false
  answer _ call :=
    match call.params.lookup "startTime", call.params.lookup "endTime", call.params.lookup "limit" with
    | some (.int start), some (.int stop), some (.int limit) =>
      (.ok (.arr (((openTimes kept start stop).take limit.toNat).map minuteRow)), ())
    | _, _, _ => (.ok .null, ())

theorem keeps_minutes (hkept : ∀ k ∈ kept, k.natAbs ≤ 2 ^ 52) : Keeps kept (minutes kept) where
  patient _ := rfl
  answers state call start stop limit hstart hstop hlimit := by
    refine ⟨((openTimes kept start stop).take limit).map minuteRow, ?_, ?_⟩
    · simp only [minutes, hstart, hstop, hlimit, Int.toNat_natCast]
    · refine List.forall₂_map_left_iff.2 (List.forall₂_same.2 fun k hk => ?_)
      exact wellFormed_minuteRow (hkept k (mem_openTimes.1 (List.mem_of_mem_take hk)).1)

/-- The first two thousand minutes: the page at their start is full, and so is the one after it. -/
def twoThousand : Finset Int := (Finset.range 2000).image fun n : Nat => (n : Int) * minuteMs

theorem natAbs_le_of_mem_twoThousand (hk : k ∈ twoThousand) : k.natAbs ≤ 2 ^ 52 := by
  obtain ⟨n, hn, rfl⟩ := Finset.mem_image.1 hk
  rw [Finset.mem_range] at hn
  unfold minuteMs
  omega

/-- A request for the first two thousand minutes. -/
def twoThousandRequest : FetchRequest :=
  ⟨⟨.binance, .spot⟩, "BTC", "USDT", 0, 2000 * minuteMs, "1m", "1m", minuteMs⟩

theorem fetch_complete_twoThousand :
    ∃ cs, ((fetch Binance.spot "BTCUSDT" twoThousandRequest).run (minutes twoThousand) ()).outcome =
        .ok cs ∧
      (cs.map (·.start)).Pairwise (· < ·) ∧
      ∀ k, k ∈ cs.map (·.start) ↔ k ∈ twoThousand ∧ 0 ≤ k ∧ k < 2000 * minuteMs :=
  fetch_complete (keeps_minutes fun _ => natAbs_le_of_mem_twoThousand)
    (fun _ hk => Nat.le_trans (natAbs_le_of_mem_twoThousand hk) (by decide)) Binance.spot (by decide)
    "BTCUSDT" twoThousandRequest ()

end Candlestick.Klines
