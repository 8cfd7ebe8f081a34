import Candlestick.Market.TimeFrame
import Candlestick.Proofs.Network.Paging
import Candlestick.Proofs.Provider.Service
import Candlestick.Proofs.Provider.Shown
import Candlestick.Provider.Kraken

set_option autoImplicit false

/-! # Paging by the provider's own cursor loses no candle

Kraken spot answers with the oldest rows since a second, and with the second of the last of them to go
on from. That row is the first of the next page again. Two rows on a page are therefore enough to move
on, and a page whose cursor stays where it was has shown all there is. -/

namespace Candlestick.Kraken

/-- An answer with rows and a cursor: no errors, the rows under a pair name of Kraken's own, and the
    cursor before or after them. -/
structure Wraps (rows : List Json) (last : Int) (answer : Json) : Prop where
  errors : answer.member "error" = .arr []
  result : ∃ pair value, pair ≠ "" ∧ pair ≠ "last" ∧ Reading.Spells value last ∧
    (answer.member "result" = .obj [(pair, .arr rows), ("last", value)] ∨
      answer.member "result" = .obj [("last", value), (pair, .arr rows)])

/-- The seconds that a page shows: the oldest since its cursor. -/
def shownSince (cap : Nat) (kept : Finset Int) (since : Int) : List Int :=
  oldest cap (kept.filter (since ≤ ·))

/-- An endpoint that keeps candles with the given seconds, and is never left waiting. -/
structure Keeps {σ : Type} (cap : Nat) (kept : Finset Int) (world : World σ) : Prop where
  patient : ∀ state, world.withdrawn state = false
  answers : ∀ state (call : Call) since, call.params.lookup "since" = some (.int since) →
    ∃ answer rows, (world.answer state call).1 = .ok answer ∧
      Wraps rows ((shownSince cap kept since).getLast?.getD since) answer ∧
      List.Forall₂ (ListRow [1, 2, 3, 4, 6, 7]) rows (shownSince cap kept since)

/-- Kraken's service: the rows of a page stand in order, and since the cursor of the next page comes with
    them every page leads on. -/
def service (cap : Nat) : Service where
  scale := 1000
  cell := Reading.first
  row := ListRow [1, 2, 3, 4, 6, 7]
  shown kept call :=
    match call.params.lookup "since" with
    | some (.int since) => some (shownSince cap kept since)
    | _ => none
  arranged := Eq
  wraps shown rows call answer := ∃ since, call.params.lookup "since" = some (.int since) ∧
    Wraps rows (shown.getLast?.getD since) answer
  leads _ _ _ := True

/-! ## One page -/

section Page

variable {r : FetchRequest} {rows : List Json} {answer : Json} {last k : Int}

/-- The rows of a result stand under the first key that is not the cursor's. -/
theorem rows_of_find? {members : List (String × Json)} {pair : String}
    (hfind : (members.map fun member => Json.str member.1).find? (!isCursorKey ·) = some (.str pair))
    (hpair : pair ≠ "") : Kraken.rows (.obj members) = .ok ((Json.obj members).member pair) := by
  have hkey : (Json.str pair).isPresent = true := by simpa [Json.isPresent] using hpair
  have hpresent : (Json.obj members).isPresent = true := by
    cases members with
    | nil => exact absurd hfind (by simp)
    | cons member rest => rfl
  simp only [Kraken.rows, hpresent, Reading.items, bind, Except.bind, hfind, hkey]
  rfl

theorem Wraps.rows_result (h : Wraps rows last answer) :
    Kraken.rows (answer.member "result") = .ok (.arr rows) := by
  obtain ⟨pair, value, hpair, hlast, -, hresult | hresult⟩ := h.result
  · have hfind : ([(pair, Json.arr rows), ("last", value)].map fun member => Json.str member.1).find?
        (!isCursorKey ·) = some (.str pair) := by simp [isCursorKey, hlast]
    rw [hresult, rows_of_find? hfind hpair]
    simp [Json.member, Json.member?]
  · have hfind : ([("last", value), (pair, Json.arr rows)].map fun member => Json.str member.1).find?
        (!isCursorKey ·) = some (.str pair) := by simp [isCursorKey, hlast]
    rw [hresult, rows_of_find? hfind hpair]
    simp [Json.member, Json.member?, List.lookup_cons, beq_eq_false_iff_ne.2 hlast]

theorem Wraps.spells_last (h : Wraps rows last answer) :
    Reading.Spells ((answer.member "result").member "last") last := by
  obtain ⟨pair, value, -, hlast, hspells, hresult | hresult⟩ := h.result
  · have hlookup : (Json.obj [(pair, .arr rows), ("last", value)]).member "last" = value := by
      simp [Json.member, Json.member?, List.lookup_cons, beq_eq_false_iff_ne.2 hlast.symm]
    rwa [hresult, hlookup]
  · rw [hresult]
    exact hspells

theorem Wraps.time_last (h : Wraps rows last answer) (hlast : last.natAbs ≤ 2 ^ 53) :
    Reading.time ((answer.member "result").member "last") = .ok (some last) := by
  have htime := Reading.time_of_spells h.spells_last Int.one_pos (by rwa [Int.mul_one]) (by decide)
  rwa [Int.mul_one] at htime

theorem Wraps.errors_eq (h : Wraps rows last answer) : Kraken.errors answer = .ok none := by
  rw [Kraken.errors, h.errors]
  rfl

theorem exists_row {item : Json} (h : ListRow [1, 2, 3, 4, 6, 7] item k)
    (hk : (k * 1000).natAbs ≤ 2 ^ 53) :
    ∃ c, row r item = .ok (some c) ∧ c.start = k * 1000 ∧ c.stop = c.start + r.width := by
  have hvalues := h.values
  exact FetchRequest.exists_of_timed (Reading.time_of_spells h.opens (by decide) hk (by decide))
    (FetchRequest.exists_candle_of_width (by simpa using hvalues))

theorem row_of_illegible {item : Json} (h : Reading.time (Reading.first item) 1000 = .ok none) :
    row r item = .ok none :=
  FetchRequest.none_of_timed h

/-- The page of rows holds their candles, and leads on to its cursor if that is after the last one. -/
theorem page_of_read {cursor : Int} {cs : List Candle} (hne : rows ≠ [])
    (hwraps : Wraps rows last answer) (hcs : readRows (row r) rows = .ok cs)
    (hlast : last.natAbs ≤ 2 ^ 53) :
    page r cursor answer = .ok { candles := cs, next := (some last).filter (cursor < ·) } := by
  have hobject := Json.isObject_of_member hwraps.errors nofun
  have herrors := hwraps.errors_eq
  have htime := hwraps.time_last hlast
  cases rows with
  | nil => exact absurd rfl hne
  | cons first others =>
    simp only [page, hobject, herrors, hwraps.rows_result, hcs, htime, bind, Except.bind, pure,
      Except.pure]
    rfl

/-- A page without rows is the last one. -/
theorem page_empty {cursor : Int} (hwraps : Wraps [] last answer) :
    page r cursor answer = .ok .last := by
  have hobject := Json.isObject_of_member hwraps.errors nofun
  have herrors := hwraps.errors_eq
  simp only [page, hobject, herrors, hwraps.rows_result, bind, Except.bind]
  rfl

end Page

/-! ## All pages -/

variable {σ : Type} {world : World σ} {cap : Nat} {kept : Finset Int} {since k : Int}

theorem mem_shownSince (h : k ∈ shownSince cap kept since) : k ∈ kept ∧ since ≤ k :=
  Finset.mem_filter.1 (mem_of_mem_oldest h)

/-- What a page leaves out comes after the last second that it shows, and that is after its cursor. -/
theorem last_of_left_out (hcap : 2 ≤ cap) (hk : k ∈ kept) (hsince : since ≤ k)
    (hout : k ∉ shownSince cap kept since) :
    ∃ last, (shownSince cap kept since).getLast? = some last ∧ since < last ∧ last < k := by
  obtain ⟨hfull, hbefore⟩ := oldest_of_left_out (Finset.mem_filter.2 ⟨hk, hsince⟩) hout
  change (shownSince cap kept since).length = cap at hfull
  change ∀ s ∈ shownSince cap kept since, s < k at hbefore
  obtain hnone | ⟨ks, last, hshown⟩ := List.eq_nil_or_concat' (shownSince cap kept since)
  · rw [hnone, List.length_nil] at hfull
    omega
  have hpairs : (ks ++ [last]).Pairwise (· < ·) := hshown ▸ pairwise_oldest cap _
  have hks : ks ≠ [] := by
    rintro rfl
    rw [hshown, List.nil_append, List.length_singleton] at hfull
    omega
  obtain ⟨first, hfirst⟩ := List.exists_mem_of_ne_nil ks hks
  have hlow : since ≤ first := (mem_shownSince (hshown ▸ List.mem_append_left _ hfirst)).2
  have hlt : first < last := (List.pairwise_append.1 hpairs).2.2 first hfirst last (by simp)
  refine ⟨last, by rw [hshown, List.getLast?_concat], by omega, hbefore last ?_⟩
  rw [hshown]
  exact List.mem_append_right _ (List.mem_singleton_self last)

theorem Keeps.serves (h : Keeps cap kept world) : (service cap).Serves kept ∅ world := by
  refine ⟨h.patient, fun state call shown hshown => ?_⟩
  simp only [service] at hshown
  split at hshown
  · next since hsince =>
    cases hshown
    obtain ⟨answer, rows, hanswer, hwraps, hrows⟩ := h.answers state call since hsince
    rw [legibleExcept_empty]
    exact ⟨answer, rows, _, hanswer, ⟨since, hsince, hwraps⟩, hrows, rfl⟩
  · cases hshown

section Covering

variable {illegible : Finset Int} {stop : Int} {inside : Int → Prop} {good : Candle → Prop}

/-- Every page hands on what it leaves out, by the row that the next one repeats, and that row need not
    be legible. -/
theorem covers (h : (service cap).Serves kept illegible world) (hcap : 2 ≤ cap)
    (hsmall : ∀ k ∈ kept, (k * 1000).natAbs ≤ 2 ^ 53) (r : FetchRequest)
    (hinside : ∀ k, inside k → k ∉ illegible ∧ k ≤ stop)
    (hgood : ∀ c, ∀ k ∈ kept, k ∉ illegible → c.start = k * 1000 → c.stop = c.start + r.width → good c) :
    Pager.Covers (fun _ => True) (pager r) world (· < stop) (· < ·)
      (fun since k => k ∈ kept ∧ since ≤ k ∧ inside k) good (fun k c => c.start = k * 1000) := by
  refine ⟨h.patient, fun state since _ _ => ?_⟩
  have hshown : (service cap).shown kept ((pager r).call since) = some (shownSince cap kept since) := rfl
  obtain ⟨answer, rows, ks, hanswer, ⟨since', hsince, hwraps⟩, hrows, rfl⟩ :=
    h.answers state ((pager r).call since) _ hshown
  obtain rfl : since = since' := by
    cases hsince
    rfl
  by_cases hnone : shownSince cap kept since = []
  · rw [hnone] at hrows
    cases hrows
    refine ⟨answer, .last, hanswer, page_empty hwraps, by simp [Page.last], fun k hk => ?_⟩
    obtain ⟨last, hlast, -⟩ := last_of_left_out hcap hk.1 hk.2.1 (hnone ▸ List.not_mem_nil)
    exact absurd hlast (by simp [hnone])
  obtain ⟨last, hlast⟩ := Option.isSome_iff_exists.1 (List.getLast?_isSome.2 hnone)
  have hmem : ∀ k ∈ shownSince cap kept since, k ∈ kept := fun k hk => (mem_shownSince hk).1
  have hsmalls : ∀ k ∈ shownSince cap kept since, (k * 1000).natAbs ≤ 2 ^ 53 := fun k hk =>
    hsmall k (hmem k hk)
  rw [hlast, Option.getD_some] at hwraps
  have hlast' := hsmalls last (List.mem_of_getLast? hlast)
  have hne : rows ≠ [] := by
    rintro rfl
    exact hnone (List.forall₂_nil_left_iff.1 hrows)
  obtain ⟨cs, hcs⟩ := FetchRequest.exists_gives (r := r) hrows (fun _ => row_of_illegible)
    fun _ k hk hrow => exists_row hrow (hsmalls k hk)
  have hread : page r since answer = .ok { candles := cs, next := (some last).filter (since < ·) } :=
    page_of_read hne hwraps hcs.read_eq (by omega)
  refine ⟨answer, _, hanswer, hread, fun c hc => ?_, fun k hk => ?_⟩
  · obtain ⟨k, hk, hlegible, hstart⟩ := exists_time_of_candle hcs.starts hc
    exact hgood c k (hmem k hk) hlegible hstart (hcs.stops c hc)
  · obtain ⟨hkept, hlow, hin⟩ := hk
    obtain ⟨hlegible, hhigh⟩ := hinside k hin
    by_cases hshown : k ∈ shownSince cap kept since
    · exact Or.inl (exists_candle_of_time hcs.starts hshown hlegible)
    · obtain ⟨next, hnext, hgrows, hbefore⟩ := last_of_left_out hcap hkept hlow hshown
      obtain rfl : last = next := Option.some.inj (hlast.symm.trans hnext)
      refine Or.inr ⟨last, ?_, hgrows, by omega, hkept, Int.le_of_lt hbefore, hin⟩
      simp [hgrows]

end Covering

/-- Where all is legible, the seconds before the end of a range are never lost. -/
theorem Keeps.covers (h : Keeps cap kept world) (hcap : 2 ≤ cap)
    (hsmall : ∀ k ∈ kept, (k * 1000).natAbs ≤ 2 ^ 53) (r : FetchRequest) (stop : Int) :
    Pager.Covers (fun _ => True) (pager r) world (· < stop) (· < ·)
      (fun since k => k ∈ kept ∧ since ≤ k ∧ k < stop)
      (fun c => (∃ k ∈ kept, c.start = k * 1000) ∧ c.stop = c.start + r.width)
      (fun k c => c.start = k * 1000) :=
  Kraken.covers h.serves hcap hsmall r
    (fun k hk => ⟨Finset.notMem_empty k, Int.le_of_lt hk⟩)
    fun _ k hk _ hstart hstop => ⟨⟨k, hk, hstart⟩, hstop⟩

/-- A range that ends on a whole second is read without a gap: only kept seconds come back, every kept
    second in the range is there, and cutting to the range leaves it exactly once, although the first
    row of a page is the last one of the page before it. -/
theorem fetch_spot_whole (hcap : 2 ≤ cap) (hkeeps : Keeps cap kept world)
    (hsmall : ∀ k ∈ kept, (k * 1000).natAbs ≤ 2 ^ 53) (r : FetchRequest) (hspot : r.isSpot = true)
    (hstop : 1000 ∣ r.stop) (hrange : r.start < r.stop) (state : σ) :
    ∃ cs, ((fetch r).run world state).outcome = .ok cs ∧ r.Whole 1000 kept cs := by
  have hseconds : r.startSecond < r.stopSecond ∧
      ∀ k, r.start ≤ k * 1000 → k * 1000 < r.stop → r.startSecond ≤ k ∧ k < r.stopSecond := by
    rw [FetchRequest.startSecond, FetchRequest.stopSecond, Int.fdiv_eq_ediv_of_nonneg _ (by decide),
      Int.fdiv_eq_ediv_of_nonneg _ (by decide)]
    exact ⟨by omega, fun k _ _ => by omega⟩
  obtain ⟨cs, houtcome, hgood, hall⟩ :=
    (hkeeps.covers hcap hsmall r r.stopSecond).outcome_forward state r.startSecond
  refine ⟨cs, ?_, FetchRequest.whole_of_width hgood fun k hk hlow hhigh => ?_⟩
  · rw [fetch, if_pos hspot]
    exact houtcome
  · obtain ⟨hfrom, hto⟩ := hseconds.2 k hlow hhigh
    exact hall hseconds.1 k ⟨hk, hfrom, hto⟩

/-! ## An endpoint as it should be -/

/-- The row of a second. -/
def rowOf (k : Int) : Json :=
  .arr [.int k, .str "1.5", .str "2.5", .str "0.5", .str "1.25", .str "1.3", .str "10", .int 3]

theorem listRow_rowOf (k : Int) : ListRow [1, 2, 3, 4, 6, 7] (rowOf k) k where
  opens := Or.inl rfl
  values place hplace := by
    have hplaces : place = 1 ∨ place = 2 ∨ place = 3 ∨ place = 4 ∨ place = 6 ∨ place = 7 := by
      simpa using hplace
    have hcount : (3 : Int).natAbs ≤ 2 ^ 53 := by decide
    rcases hplaces with rfl | rfl | rfl | rfl | rfl | rfl
    · exact ⟨_, rfl⟩
    · exact ⟨_, rfl⟩
    · exact ⟨_, rfl⟩
    · exact ⟨_, rfl⟩
    · exact ⟨_, rfl⟩
    · exact ⟨_, Reading.number_int hcount⟩

/-- An answer with rows and a cursor. -/
def answerOf (rows : List Json) (last : Int) : Json :=
  .obj [("error", .arr []), ("result", .obj [("XXBTZUSD", .arr rows), ("last", .int last)])]

theorem wraps_answerOf (rows : List Json) (last : Int) : Wraps rows last (answerOf rows last) where
  errors := rfl
  result := ⟨"XXBTZUSD", .int last, by decide, by decide, Or.inl rfl, Or.inl rfl⟩

/-- The world that keeps some seconds. -/
def shelf (cap : Nat) (kept : Finset Int) : World Unit where
  withdrawn _ := false
  answer _ call :=
    match call.params.lookup "since" with
    | some (.int since) =>
      (.ok (answerOf ((shownSince cap kept since).map rowOf)
        ((shownSince cap kept since).getLast?.getD since)), ())
    | _ => (.ok .null, ())

theorem keeps_shelf (cap : Nat) (kept : Finset Int) : Keeps cap kept (shelf cap kept) where
  patient _ := rfl
  answers state call since hsince := by
    refine ⟨_, (shownSince cap kept since).map rowOf, ?_, wraps_answerOf _ _,
      List.forall₂_map_left_iff.2 (List.forall₂_same.2 fun k _ => listRow_rowOf k)⟩
    simp only [shelf, hsince]

/-- A request for the first nine seconds but half of one. -/
def nineSeconds : FetchRequest :=
  ⟨⟨.kraken, .spot⟩, "BTC", "USD", 500, 9000, "1", "1m", minuteMs⟩

/-- Two rows on a page: five pages, of which the last repeats the last row only. -/
theorem fetch_spot_whole_nineSeconds :
    ∃ cs, ((fetch nineSeconds).run (shelf 2 {1, 2, 4, 7, 8}) ()).outcome = .ok cs ∧
      nineSeconds.Whole 1000 {1, 2, 4, 7, 8} cs :=
  fetch_spot_whole (by decide) (keeps_shelf 2 {1, 2, 4, 7, 8}) (by decide) nineSeconds rfl (by decide)
    (by decide) ()

end Candlestick.Kraken
