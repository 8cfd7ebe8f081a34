import Candlestick.Proofs.Provider.Archive
import Candlestick.Provider.Directory

set_option autoImplicit false

/-! # Paging backward loses no candle

Bybit, OKX, KuCoin and Gate.io answer with the newest rows of a window. They differ in the unit of
their times, in whether the end of a window belongs to it, in the form of their rows and in when they
stop; none of them loses a candle of the range. -/

namespace Candlestick

/-! ## The endpoints -/

/-- The times between two bounds of a call, both of them included. -/
def Call.between (low high : String) (call : Call) : Option (Int → Bool) :=
  match call.params.lookup low, call.params.lookup high with
  | some (.int start), some (.int stop) => some fun k => start ≤ k && k ≤ stop
  | _, _ => none

/-- The times before a bound of a call. -/
def Call.before (bound : String) (call : Call) : Option (Int → Bool) :=
  match call.params.lookup bound with
  | some (.int stop) => some fun k => k < stop
  | _ => none

def Bybit.archive : Archive where
  scale := 1
  cap := 1000
  window := Call.between "start" "end"
  wraps rows answer :=
    answer.member "retCode" = .int 0 ∧ (answer.member "result").member "list" = .arr rows
  row := ListRow [1, 2, 3, 4, 5]

def Okx.archive : Archive where
  scale := 1
  cap := 100
  window := Call.before "after"
  wraps rows answer := answer.member "code" = .str "0" ∧ answer.member "data" = .arr rows
  row := ListRow [1, 2, 3, 4, 5]

/-- KuCoin does not say how many rows it shows. -/
def Kucoin.archive (cap : Nat) : Archive where
  scale := 1000
  cap := cap
  window call := (call.between "startAt" "endAt").or (call.between "from" "to")
  wraps rows answer := answer.member "code" = .str "200000" ∧ answer.member "data" = .arr rows
  row := ListRow [1, 3, 4, 2, 5]

def Gateio.archive : Archive where
  scale := 1000
  cap := 1000
  window := Call.between "from" "to"
  wraps rows answer := answer = .arr rows
  row row k := ListRow [5, 3, 4, 2, 1] row k ∨ ObjectRow "t" ["o", "h", "l", "c", "v"] row k

/-- The exchanges whose ranges are read backward; `cap` is the number of rows that KuCoin shows. -/
def Exchange.archive? (cap : Nat) : Exchange → Option Archive
  | .bybit => some Bybit.archive
  | .okx => some Okx.archive
  | .kucoin => some (Kucoin.archive cap)
  | .gateio => some Gateio.archive
  | _ => none

/-! ## Their answers -/

/-- Where the time of a row stands at Gate.io. -/
def Gateio.cell (row : Json) : Json := if row.isObject then row.member "t" else Reading.first row

section Answers

variable {r : FetchRequest} {start cursor : Int} {ks : List Int} {cs : List Candle} {answer : Json}
  {rows : List Json}

theorem earliest_of_starts {f : Candle → Int} (cursor : Int) (h : cs.map f = ks) :
    cs.foldl (fun least c => min least (f c)) cursor = earliest cursor ks := by
  rw [← h, earliest, List.foldl_map]

/-- Seconds are found again in the milliseconds made of them. -/
theorem map_second (h : cs.map (·.start) = ks.map (· * 1000)) :
    cs.map (fun c => c.start.fdiv 1000) = ks := by
  calc cs.map (fun c => c.start.fdiv 1000)
      = (cs.map (·.start)).map (Int.fdiv · 1000) := by rw [List.map_map]; rfl
    _ = ks.map (fun k => (k * 1000).fdiv 1000) := by rw [h, List.map_map]; rfl
    _ = ks := List.map_id'' (fun k => Int.mul_fdiv_cancel k (by decide)) ks

theorem readRows_nil {read : Json → Except Failure (Option Candle)} (h : readRows read [] = .ok cs) :
    cs = [] :=
  (Except.ok.inj h).symm

theorem isPresent_zero : (Json.int 0).isPresent = false := rfl

theorem Bybit.rows_of_wraps (h : archive.wraps rows answer) : Bybit.rows answer = .ok (.arr rows) := by
  have hresult := Json.isObject_of_member h.2 nofun
  have hpresent := Json.isPresent_of_member h.2 nofun
  simp only [Bybit.rows, hresult, hpresent, h.2]
  rfl

/-- The page of some rows. One without rows has the cursor itself for its earliest time. -/
theorem Bybit.page_of_read (cursor : Int) (hwraps : archive.wraps rows answer)
    (hcs : readRows (r.rowCandle 1 1 2 3 4 5) rows = .ok cs) :
    ∃ notes, page r cursor answer = .ok {
      candles := cs
      notes := notes
      next :=
        if cursor ≤ cs.foldl (fun least c => min least c.start) cursor ∨
          cs.foldl (fun least c => min least c.start) cursor ≤ r.start ∨ rows.length < limit then none
        else some (cs.foldl (fun least c => min least c.start) cursor - 1) } := by
  have hobject := Json.isObject_of_member hwraps.1 nofun
  simp only [page, hobject, hwraps.1, rows_of_wraps hwraps, bind, Except.bind, pure, Except.pure]
  cases rows with
  | nil =>
    obtain rfl := readRows_nil hcs
    exact ⟨[], by simp [Page.last, isPresent_zero]⟩
  | cons first others =>
    simp only [hcs, isPresent_zero]
    generalize cs.foldl (fun least c => min least c.start) cursor = e
    by_cases hstalled : cursor ≤ e
    · exact ⟨[stalled r cursor], by simp [hstalled]⟩
    · refine ⟨[], ?_⟩
      simp only [hstalled, false_or, Bool.not_true, Bool.false_eq_true, if_false]
      split <;> rfl

theorem Okx.page_of_read (cursor : Int) (hwraps : archive.wraps rows answer)
    (hcs : readRows (r.rowCandle 1 1 2 3 4 5) rows = .ok cs) :
    page r cursor answer = .ok {
      candles := cs
      next :=
        if cursor ≤ cs.foldl (fun least c => min least c.start) cursor ∨ rows.length < limit then none
        else some (cs.foldl (fun least c => min least c.start) cursor - 1) } := by
  obtain ⟨hcode, hdata⟩ := hwraps
  have hobject := Json.isObject_of_member hcode nofun
  have hsuccess : isSuccess (.str "0") = true := rfl
  simp only [page, hobject, hcode, hsuccess, hdata, bind, Except.bind, pure, Except.pure]
  cases rows with
  | nil =>
    obtain rfl := readRows_nil hcs
    simp [Page.last]
  | cons first others =>
    simp only [hcs, Bool.not_true, Bool.false_eq_true, if_false]
    split <;> rfl

theorem Kucoin.page_of_read (cursor : Int) (hcode : answer.member "code" = .str "200000")
    (hdata : Kucoin.rows answer = .arr rows)
    (hcs : readRows (r.rowCandle 1000 1 3 4 2 5) rows = .ok cs) :
    page r cursor answer = .ok {
      candles := cs
      next :=
        if cursor ≤ cs.foldl (fun least c => min least (c.start.fdiv 1000)) cursor then none
        else some (cs.foldl (fun least c => min least (c.start.fdiv 1000)) cursor - 1) } := by
  have hobject := Json.isObject_of_member hcode nofun
  have hsuccess : isSuccess (.str "200000") = true := rfl
  simp only [page, hobject, hcode, hsuccess, hdata, bind, Except.bind, pure, Except.pure]
  cases rows with
  | nil =>
    obtain rfl := readRows_nil hcs
    simp [Page.last]
  | cons first others =>
    simp only [hcs]
    rfl

theorem Gateio.page_of_read (cursor : Int) (hcs : readRows (row r) rows = .ok cs) :
    page r cursor (.arr rows) = .ok {
      candles := cs
      next :=
        if cursor ≤ cs.foldl (fun least c => min least (c.start.fdiv 1000)) cursor ∨
          rows.length < limit then none
        else some (cs.foldl (fun least c => min least (c.start.fdiv 1000)) cursor - 1) } := by
  cases rows with
  | nil =>
    obtain rfl := readRows_nil hcs
    simp only [List.foldl_nil, Int.le_refl, true_or, if_true]
    rfl
  | cons first others =>
    simp only [page, hcs, bind, Except.bind, pure, Except.pure]
    split <;> rfl

/-- Where a page is the last as soon as it stalls, is short or reaches the start, it shows what it
    should. -/
theorem Archive.shows_of_next {archive : Archive} {read : Json → Except Failure (Option Candle)}
    {notes : List Note} {last : Prop} [Decidable last] (h : r.Gives read archive.scale rows ks cs)
    (hlast : last →
      rows.length < archive.cap ∨ cursor ≤ earliest cursor ks ∨ earliest cursor ks ≤ start) :
    archive.Shows r start cursor rows.length ks {
      candles := cs, notes, next := if last then none else some (earliest cursor ks - 1) } where
  starts := h.starts
  stops := h.stops
  next := by
    by_cases hends : last
    · exact Or.inr ⟨if_pos hends, hlast hends⟩
    · exact Or.inl (if_neg hends)

theorem Bybit.exists_page (hwraps : archive.wraps rows answer)
    (hcs : r.Gives (r.rowCandle 1 1 2 3 4 5) archive.scale rows ks cs) :
    ∃ p, page r cursor answer = .ok p ∧ archive.Shows r r.start cursor rows.length ks p := by
  have hstarts : cs.map (·.start) = ks := hcs.starts.trans (List.map_id'' Int.mul_one ks)
  obtain ⟨notes, hpage⟩ := page_of_read cursor hwraps hcs.read_eq
  rw [earliest_of_starts cursor hstarts] at hpage
  refine ⟨_, hpage, Archive.shows_of_next hcs ?_⟩
  rintro (hstalled | hdone | hshort)
  · exact Or.inr (Or.inl hstalled)
  · exact Or.inr (Or.inr hdone)
  · exact Or.inl hshort

theorem Okx.exists_page (hwraps : archive.wraps rows answer)
    (hcs : r.Gives (r.rowCandle 1 1 2 3 4 5) archive.scale rows ks cs) :
    ∃ p, page r cursor answer = .ok p ∧ archive.Shows r start cursor rows.length ks p := by
  have hstarts : cs.map (·.start) = ks := hcs.starts.trans (List.map_id'' Int.mul_one ks)
  have hpage := page_of_read cursor hwraps hcs.read_eq
  rw [earliest_of_starts cursor hstarts] at hpage
  exact ⟨_, hpage, Archive.shows_of_next hcs fun hlast => hlast.symm.imp_right Or.inl⟩

theorem Kucoin.exists_gives {illegible : Finset Int}
    (hrows : List.Forall₂ (LegibleExcept illegible Reading.first 1000 (ListRow [1, 3, 4, 2, 5])) rows ks)
    (hsmall : ∀ k ∈ ks, (k * 1000).natAbs ≤ 2 ^ 53) :
    ∃ cs, r.Gives (r.rowCandle 1000 1 3 4 2 5) 1000 rows (ks.filter (· ∉ illegible)) cs :=
  FetchRequest.exists_gives hrows (fun _ => FetchRequest.rowCandle_of_illegible)
    fun _ k hk hrow => hrow.exists_rowCandle (by decide) (by decide) (hsmall k hk)

theorem Kucoin.page_of_gives {cap : Nat} (cursor : Int) (hwraps : (archive cap).wraps rows answer)
    (hcs : r.Gives (r.rowCandle 1000 1 3 4 2 5) 1000 rows ks cs) :
    page r cursor answer = .ok {
      candles := cs
      next := if cursor ≤ earliest cursor ks then none else some (earliest cursor ks - 1) } := by
  obtain ⟨hcode, hdata⟩ := hwraps
  have hanswer : Kucoin.rows answer = .arr rows := by
    simp only [Kucoin.rows, hdata]
    rfl
  rw [page_of_read cursor hcode hanswer hcs.read_eq, earliest_of_starts cursor (map_second hcs.starts)]

theorem Kucoin.exists_page {cap : Nat} (hwraps : (archive cap).wraps rows answer)
    (hcs : r.Gives (r.rowCandle 1000 1 3 4 2 5) (archive cap).scale rows ks cs) :
    ∃ p, page r cursor answer = .ok p ∧ (archive cap).Shows r start cursor rows.length ks p :=
  ⟨_, page_of_gives cursor hwraps hcs, Archive.shows_of_next hcs fun hlast => Or.inr (Or.inl hlast)⟩

theorem Gateio.exists_row {item : Json} {k : Int} (h : archive.row item k)
    (hk : (k * 1000).natAbs ≤ 2 ^ 53) :
    ∃ c, row r item = .ok (some c) ∧ c.start = k * 1000 ∧ c.stop = c.start + r.width := by
  rcases h with hlist | hobject
  · -- The time of a list row is the first item of a list.
    have hitems : item.isObject = false := by
      have hopens := hlist.opens
      cases item with
      | obj members => exact absurd hopens (by simp [Reading.item, Reading.Spells])
      | _ => rfl
    rw [row, hitems]
    exact hlist.exists_rowCandle (by decide) (by decide) hk
  · rw [row, hobject.isObject]
    exact hobject.exists_memberCandle (by decide) (by decide) hk

theorem Gateio.row_of_illegible {item : Json} (h : Reading.time (cell item) 1000 = .ok none) :
    row r item = .ok none := by
  rw [cell] at h
  rw [row]
  split at h
  · next hobject =>
    rw [if_pos hobject]
    exact FetchRequest.memberCandle_of_illegible h
  · next hitems =>
    rw [if_neg hitems]
    exact FetchRequest.rowCandle_of_illegible h

theorem Gateio.exists_page (hwraps : archive.wraps rows answer)
    (hcs : r.Gives (row r) archive.scale rows ks cs) :
    ∃ p, page r cursor answer = .ok p ∧ archive.Shows r start cursor rows.length ks p := by
  obtain rfl : answer = .arr rows := hwraps
  have hpage := page_of_read cursor hcs.read_eq
  rw [earliest_of_starts cursor (map_second hcs.starts)] at hpage
  exact ⟨_, hpage, Archive.shows_of_next hcs fun hlast => hlast.symm.imp_right Or.inl⟩

end Answers

/-! ## Their windows -/

section Windows

variable (r : FetchRequest)

/-- The seconds of a range are found between the second of its start and the second of its end. -/
theorem FetchRequest.second_of_range {k : Int} (hstart : r.start ≤ k * 1000) (hstop : k * 1000 < r.stop) :
    r.startSecond ≤ k ∧ k ≤ r.stopSecond := by
  rw [startSecond, stopSecond, Int.fdiv_eq_ediv_of_nonneg _ (by decide),
    Int.fdiv_eq_ediv_of_nonneg _ (by decide)]
  omega

theorem FetchRequest.startSecond_lt (h : r.start + 1000 ≤ r.stop) : r.startSecond < r.stopSecond := by
  rw [startSecond, stopSecond, Int.fdiv_eq_ediv_of_nonneg _ (by decide),
    Int.fdiv_eq_ediv_of_nonneg _ (by decide)]
  omega

theorem asked_between_iff {start cursor k : Int} :
    (decide (start ≤ k) && decide (k ≤ cursor)) = true ↔ start ≤ k ∧ k ≤ cursor := by
  rw [Bool.and_eq_true, decide_eq_true_eq, decide_eq_true_eq]

theorem Bybit.fits : archive.Fits Reading.first r (pager r) r.start r.stop fun cursor k =>
    r.start ≤ k && k ≤ cursor where
  two_le := by decide
  window _ := rfl
  le_of_asked _ _ h := (asked_between_iff.1 h).2
  asked_of_lt _ _ hstart hlt := asked_between_iff.2 ⟨hstart, Int.le_of_lt hlt⟩
  reads _ _ _ _ _ hwraps hrows hsmall := by
    obtain ⟨cs, hcs⟩ := FetchRequest.exists_gives hrows
      (fun _ => FetchRequest.rowCandle_of_illegible)
      (fun _ k hk hrow => hrow.exists_rowCandle (by decide) (by decide) (hsmall k hk))
    exact exists_page hwraps hcs
  asked_of_mem k hstart hstop := by
    have hk : k * archive.scale = k := Int.mul_one k
    rw [hk] at hstart hstop
    exact ⟨hstart, asked_between_iff.2 ⟨hstart, Int.le_of_lt hstop⟩⟩
  start_lt_stop hrange := by omega

theorem Okx.fits : archive.Fits Reading.first r (pager r) r.start r.stop fun cursor k =>
    k < cursor where
  two_le := by decide
  window _ := rfl
  le_of_asked _ _ h := Int.le_of_lt (of_decide_eq_true h)
  asked_of_lt _ _ _ hlt := decide_eq_true hlt
  reads _ _ _ _ _ hwraps hrows hsmall := by
    obtain ⟨cs, hcs⟩ := FetchRequest.exists_gives hrows
      (fun _ => FetchRequest.rowCandle_of_illegible)
      (fun _ k hk hrow => hrow.exists_rowCandle (by decide) (by decide) (hsmall k hk))
    exact exists_page hwraps hcs
  asked_of_mem k hstart hstop := by
    have hk : k * archive.scale = k := Int.mul_one k
    rw [hk] at hstart hstop
    exact ⟨hstart, decide_eq_true hstop⟩
  start_lt_stop hrange := by omega

theorem Kucoin.fits {cap : Nat} (hcap : 2 ≤ cap) :
    (archive cap).Fits Reading.first r (pager r) r.startSecond r.stopSecond fun cursor k =>
      r.startSecond ≤ k && k ≤ cursor where
  two_le := hcap
  window cursor := by
    by_cases hspot : r.isSpot = true
    · simp only [pager, if_pos hspot]
      rfl
    · simp only [pager, if_neg hspot]
      rfl
  le_of_asked _ _ h := (asked_between_iff.1 h).2
  asked_of_lt _ _ hstart hlt := asked_between_iff.2 ⟨hstart, Int.le_of_lt hlt⟩
  reads _ _ _ _ _ hwraps hrows hsmall := by
    obtain ⟨cs, hcs⟩ := exists_gives hrows hsmall
    exact exists_page hwraps hcs
  asked_of_mem k hstart hstop := by
    have hrange := r.second_of_range hstart hstop
    exact ⟨hrange.1, asked_between_iff.2 hrange⟩
  start_lt_stop := r.startSecond_lt

theorem Gateio.fits : archive.Fits cell r (pager r) r.startSecond r.stopSecond fun cursor k =>
    r.startSecond ≤ k && k ≤ cursor where
  two_le := by decide
  window cursor := by
    by_cases hspot : r.isSpot = true
    · simp only [pager, if_pos hspot]
      rfl
    · simp only [pager, if_neg hspot]
      rfl
  le_of_asked _ _ h := (asked_between_iff.1 h).2
  asked_of_lt _ _ hstart hlt := asked_between_iff.2 ⟨hstart, Int.le_of_lt hlt⟩
  reads _ _ _ _ _ hwraps hrows hsmall := by
    obtain ⟨cs, hcs⟩ := FetchRequest.exists_gives hrows (fun _ => row_of_illegible)
      (fun _ k hk hrow => exists_row hrow (hsmall k hk))
    exact exists_page hwraps hcs
  asked_of_mem k hstart hstop := by
    have hrange := r.second_of_range hstart hstop
    exact ⟨hrange.1, asked_between_iff.2 hrange⟩
  start_lt_stop := r.startSecond_lt

end Windows

/-- A range of a second or more is read from such an exchange without a gap: only kept times come back,
    every kept time in the range is there, and cutting to the range leaves it exactly once. -/
theorem Exchange.fetch_whole {σ : Type} {world : World σ} {exchange : Exchange} {archive : Archive}
    {cap : Nat} (hcap : 2 ≤ cap) (harchive : exchange.archive? cap = some archive)
    {kept : Finset Int} (hkeeps : archive.Keeps kept world)
    (hsmall : ∀ k ∈ kept, (k * archive.scale).natAbs ≤ 2 ^ 53)
    (hapart : ∀ k ∈ kept, ∀ l ∈ kept, k < l → k + 2 ≤ l) (r : FetchRequest)
    (hrange : r.start + 1000 ≤ r.stop) (state : σ) :
    ∃ cs, ((exchange.fetch r).run world state).outcome = .ok cs ∧ r.Whole archive.scale kept cs := by
  cases exchange with
  | bybit =>
    cases harchive
    exact (Bybit.fits r).whole hkeeps hsmall hapart hrange state
  | okx =>
    cases harchive
    exact (Okx.fits r).whole hkeeps hsmall hapart hrange state
  | kucoin =>
    cases harchive
    exact (Kucoin.fits r hcap).whole hkeeps hsmall hapart hrange state
  | gateio =>
    cases harchive
    exact (Gateio.fits r).whole hkeeps hsmall hapart hrange state
  | _ => cases harchive

namespace Kucoin

/-- An answer with rows. -/
def answerOf (rows : List Json) : Json := .obj [("code", .str "200000"), ("data", .arr rows)]

/-- The row of a second. -/
def rowOf (k : Int) : Json :=
  .arr [.str (toString k), .str "1.5", .str "1.25", .str "2.5", .str "0.5", .str "10", .str "15"]

theorem row_rowOf (cap : Nat) (k : Int) : (archive cap).row (rowOf k) k where
  opens := Or.inr rfl
  values place hplace := by
    have hplaces : place = 1 ∨ place = 3 ∨ place = 4 ∨ place = 2 ∨ place = 5 := by simpa using hplace
    rcases hplaces with rfl | rfl | rfl | rfl | rfl <;> exact ⟨_, rfl⟩

theorem keeps_shelf (cap : Nat) (kept : Finset Int) :
    (archive cap).Keeps kept ((archive cap).shelf answerOf rowOf kept) := by
  have hwrap : ∀ rows, (archive cap).wraps rows (answerOf rows) := fun _ => ⟨rfl, rfl⟩
  exact Archive.keeps_shelf hwrap (row_rowOf cap) kept

/-- A request for the first ten seconds and a half. -/
def tenSeconds : FetchRequest :=
  ⟨⟨.kucoin, .spot⟩, "BTC", "USDT", 500, 10500, "1min", "1m", minuteMs⟩

end Kucoin

/-- Two rows on a page, and holes of different lengths: the last second of the range is on the first
    cursor, the last page has one row. -/
theorem Exchange.fetch_whole_tenSeconds :
    ∃ cs, ((Exchange.kucoin.fetch Kucoin.tenSeconds).run
        ((Kucoin.archive 2).shelf Kucoin.answerOf Kucoin.rowOf {1, 3, 5, 7, 10}) ()).outcome = .ok cs ∧
      Kucoin.tenSeconds.Whole 1000 {1, 3, 5, 7, 10} cs :=
  Exchange.fetch_whole (by decide) rfl (Kucoin.keeps_shelf 2 {1, 3, 5, 7, 10}) (by decide) (by decide)
    Kucoin.tenSeconds (by decide) ()

end Candlestick
