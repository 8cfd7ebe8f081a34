import Candlestick.Proofs.Network.Paging
import Candlestick.Proofs.Provider.Service
import Candlestick.Proofs.Provider.Shown

set_option autoImplicit false

/-! # Reading an archive backward

An `Archive` is an endpoint that answers with the newest rows of a window: the unit of its times, how
many rows it shows, which times a call asks for, and what an answer and a row look like. Its ranges are
read from the end. Whatever finite set of times it keeps, no two of them next to each other, the pages
together show all of the range (`Archive.Fits.whole`).

The next page ends one unit below the earliest row of the last. What a full page leaves out lies two
units or more below that row, so it is in the next window even where the window's end is exclusive. -/

namespace Candlestick

/-- How an endpoint that answers with the newest rows of a window speaks. -/
structure Archive where
  /-- The milliseconds in a unit of its times. -/
  scale : Int
  /-- The most rows of an answer. -/
  cap : Nat
  /-- Which times a call asks for. -/
  window : Call → Option (Int → Bool)
  /-- What an answer with the given rows looks like. -/
  wraps : List Json → Json → Prop
  /-- What the row of a time looks like. -/
  row : Json → Int → Prop

/-- An archive keeps some times, and is never left waiting: it answers every call that asks for a
    window with the rows of its newest times in the window, in whatever order. -/
structure Archive.Keeps {σ : Type} (archive : Archive) (kept : Finset Int) (world : World σ) : Prop where
  patient : ∀ state, world.withdrawn state = false
  answers : ∀ state call asked, archive.window call = some asked → ∃ answer rows ks,
    (world.answer state call).1 = .ok answer ∧ archive.wraps rows answer ∧
    List.Forall₂ archive.row rows ks ∧ ks.Perm (newest archive.cap (kept.filter (asked · = true)))

/-- The service of an archive, whose rows have their times in the given cells. A page leads on by a row
    that can be read and is not on the cursor itself. -/
def Archive.service (archive : Archive) (cell : Json → Json) : Service where
  scale := archive.scale
  cell := cell
  row := archive.row
  shown kept call :=
    (archive.window call).map fun asked => newest archive.cap (kept.filter (asked · = true))
  arranged := List.Perm
  wraps _ rows _ answer := archive.wraps rows answer
  leads illegible cursor shown := ∃ k ∈ shown, k ∉ illegible ∧ k ≠ cursor

/-- An archive that keeps some times serves all of them legibly. -/
theorem Archive.Keeps.serves {σ : Type} {archive : Archive} {kept : Finset Int} {world : World σ}
    (h : archive.Keeps kept world) (cell : Json → Json) :
    (archive.service cell).Serves kept ∅ world := by
  refine ⟨h.patient, fun state call shown hshown => ?_⟩
  obtain ⟨asked, hasked, rfl⟩ := Option.map_eq_some_iff.1 hshown
  rw [legibleExcept_empty]
  exact h.answers state call asked hasked

/-! ## What a page does -/

/-- The page of some rows, those of the given times among them: it has their candles and leads on to one
    unit below the earliest, unless it is not full, does not reach below its cursor, or reaches the
    start. -/
structure Archive.Shows (archive : Archive) (r : FetchRequest) (start cursor : Int) (length : Nat)
    (ks : List Int) (page : Page) : Prop where
  starts : page.candles.map (·.start) = ks.map (· * archive.scale)
  stops : ∀ c ∈ page.candles, c.stop = c.start + r.width
  next : page.next = some (earliest cursor ks - 1) ∨ page.next = none ∧
    (length < archive.cap ∨ cursor ≤ earliest cursor ks ∨ earliest cursor ks ≤ start)

/-- A request is read from an archive by the pages of a pager, backward from `stop` down to `start`. -/
structure Archive.Fits (archive : Archive) (cell : Json → Json) (r : FetchRequest) (pager : Pager)
    (start stop : Int) (asked : Int → Int → Bool) : Prop where
  two_le : 2 ≤ archive.cap
  window : ∀ cursor, archive.window (pager.call cursor) = some (asked cursor)
  le_of_asked : ∀ cursor k, asked cursor k = true → k ≤ cursor
  asked_of_lt : ∀ cursor k, start ≤ k → k < cursor → asked cursor k = true
  reads : ∀ illegible cursor answer rows ks, archive.wraps rows answer →
    List.Forall₂ (LegibleExcept illegible cell archive.scale archive.row) rows ks →
    (∀ k ∈ ks, (k * archive.scale).natAbs ≤ 2 ^ 53) → ∃ page, pager.read cursor answer = .ok page ∧
      archive.Shows r start cursor rows.length (ks.filter (· ∉ illegible)) page
  asked_of_mem : ∀ k, r.start ≤ k * archive.scale → k * archive.scale < r.stop →
    start ≤ k ∧ asked stop k = true
  start_lt_stop : r.start + 1000 ≤ r.stop → start < stop

namespace Archive.Fits

variable {σ : Type} {world : World σ} {archive : Archive} {cell : Json → Json}
  {kept illegible : Finset Int} {r : FetchRequest} {pager : Pager} {start stop : Int}
  {asked : Int → Int → Bool} (h : archive.Fits cell r pager start stop asked)
include h

/-- A page of the newest times that leaves one out is full, and what it shows lies two units or more
    after that. -/
theorem of_left_out {cursor k : Int} {ks : List Int}
    (hks : ks.Perm (newest archive.cap (kept.filter (asked cursor · = true))))
    (hapart : ∀ k ∈ kept, ∀ l ∈ kept, k < l → k + 2 ≤ l) (hkept : k ∈ kept)
    (hwindow : asked cursor k = true) (hout : k ∉ ks) :
    ks.length = archive.cap ∧ ∀ s ∈ ks, k + 2 ≤ s ∧ s ≤ cursor := by
  have hmem : k ∈ kept.filter (asked cursor · = true) := Finset.mem_filter.2 ⟨hkept, hwindow⟩
  obtain ⟨hfull, hbelow⟩ := newest_of_left_out hmem fun hnew => hout (hks.mem_iff.2 hnew)
  refine ⟨hks.length_eq.trans hfull, fun s hs => ?_⟩
  have hs' := Finset.mem_filter.1 (mem_of_mem_newest (hks.mem_iff.1 hs))
  exact ⟨hapart k hkept s hs'.1 (hbelow s (hks.mem_iff.1 hs)), h.le_of_asked cursor s hs'.2⟩

/-- A page of the newest times hands on what it leaves out, if it leads on. -/
theorem handsOn {cursor : Int} {length : Nat} {ks : List Int} {page : Page}
    (hpage : archive.Shows r start cursor length (ks.filter (· ∉ illegible)) page)
    (hlength : length = ks.length)
    (hks : ks.Perm (newest archive.cap (kept.filter (asked cursor · = true))))
    (hapart : ∀ k ∈ kept, ∀ l ∈ kept, k < l → k + 2 ≤ l)
    (hleads : (∃ k ∈ r.sought archive.scale kept illegible, k < cursor ∧ k ∉ ks) →
      ∃ k ∈ ks, k ∉ illegible ∧ k ≠ cursor) :
    Pager.HandsOn (start < ·) (fun cursor next => next < cursor)
      (fun cursor k => k ∈ r.sought archive.scale kept illegible ∧ asked cursor k = true)
      (fun c => (∃ k ∈ kept, k ∉ illegible ∧ c.start = k * archive.scale) ∧
        c.stop = c.start + r.width)
      (fun k c => c.start = k * archive.scale) cursor page where
  good c hc := by
    obtain ⟨k, hk, hlegible, hstart⟩ := exists_time_of_candle hpage.starts hc
    have hkept := (Finset.mem_filter.1 (mem_of_mem_newest (hks.mem_iff.1 hk))).1
    exact ⟨⟨k, hkept, hlegible, hstart⟩, hpage.stops c hc⟩
  wanted k hk := by
    obtain ⟨hsought, hwindow⟩ := hk
    obtain ⟨⟨hkept, hlegible⟩, hlow, hhigh⟩ := FetchRequest.mem_sought.1 hsought
    have hstart : start ≤ k := (h.asked_of_mem k hlow hhigh).1
    by_cases hshown : k ∈ ks
    · exact Or.inl (exists_candle_of_time hpage.starts hshown hlegible)
    obtain ⟨hfull, hcursor⟩ := h.of_left_out hks hapart hkept hwindow hshown
    have hcap := h.two_le
    -- The page has rows, so the one that it leaves out is before the cursor.
    obtain ⟨first, hfirst⟩ := List.exists_mem_of_length_pos (by omega : 0 < ks.length)
    have hbefore : k < cursor := by
      have := hcursor first hfirst
      omega
    obtain ⟨s, hs, hsread, hne⟩ := hleads ⟨k, hsought, hbefore, hshown⟩
    have hlt : earliest cursor (ks.filter (· ∉ illegible)) < cursor := by
      have hread : s ∈ ks.filter (· ∉ illegible) := List.mem_filter.2 ⟨hs, decide_eq_true hsread⟩
      have hle : earliest cursor (ks.filter (· ∉ illegible)) ≤ s := earliest_le hread
      have := hcursor s hs
      omega
    have hge : k + 2 ≤ earliest cursor (ks.filter (· ∉ illegible)) := by
      refine le_earliest_iff.2 ⟨?_, fun s hs => (hcursor s (List.mem_of_mem_filter hs)).1⟩
      exact Int.le_trans (hcursor s hs).1 (hcursor s hs).2
    rcases hpage.next with hnext | ⟨-, hshort | hstalled | hdone⟩
    · exact Or.inr ⟨_, hnext, by omega, by omega, hsought, h.asked_of_lt _ k hstart (by omega)⟩
    · omega
    · omega
    · omega

/-- Where every page that is asked for leads on, all that is sought is read. -/
theorem outcome {made : Call → Prop} (hserves : (archive.service cell).Serves kept illegible world)
    (hsmall : ∀ k ∈ kept, (k * archive.scale).natAbs ≤ 2 ^ 53)
    (hapart : ∀ k ∈ kept, ∀ l ∈ kept, k < l → k + 2 ≤ l)
    (hleads : (archive.service cell).LeadsOn kept illegible (r.sought archive.scale kept illegible)
      (fun cursor k => k < cursor) pager made)
    (state : σ) (hmade : ∀ call ∈ ((pager.backward start stop).run world state).calls, made call) :
    ∃ cs, ((pager.backward start stop).run world state).outcome = .ok cs ∧
      (∀ c ∈ cs, (∃ k ∈ kept, k ∉ illegible ∧ c.start = k * archive.scale) ∧
        c.stop = c.start + r.width) ∧
      (start < stop → ∀ k ∈ r.sought archive.scale kept illegible,
        ∃ c ∈ cs, c.start = k * archive.scale) := by
  have hcovers : Pager.Covers made pager world (start < ·) (fun cursor next => next < cursor)
      (fun cursor k => k ∈ r.sought archive.scale kept illegible ∧ asked cursor k = true)
      (fun c => (∃ k ∈ kept, k ∉ illegible ∧ c.start = k * archive.scale) ∧
        c.stop = c.start + r.width)
      (fun k c => c.start = k * archive.scale) := by
    refine ⟨hserves.patient, fun state cursor _ hcall => ?_⟩
    have hshown : (archive.service cell).shown kept (pager.call cursor) =
        some (newest archive.cap (kept.filter (asked cursor · = true))) := by
      simp only [service, h.window cursor, Option.map_some]
    obtain ⟨answer, rows, ks, hanswer, hwraps, hrows, hks⟩ := hserves.answers state _ _ hshown
    change ks.Perm _ at hks
    have hkept : ∀ k ∈ ks, k ∈ kept := fun k hk =>
      (Finset.mem_filter.1 (mem_of_mem_newest (hks.mem_iff.1 hk))).1
    obtain ⟨page, hread, hshows⟩ :=
      h.reads illegible cursor answer rows ks hwraps hrows fun k hk => hsmall k (hkept k hk)
    refine ⟨answer, page, hanswer, hread, h.handsOn hshows hrows.length_eq hks hapart ?_⟩
    simpa only [service, hks.mem_iff] using hleads cursor _ hcall hshown
  obtain ⟨cs, houtcome, hgood, hall⟩ := hcovers.outcome_backward_of_made state stop hmade
  refine ⟨cs, houtcome, hgood, fun hlt k hk => hall hlt k ⟨hk, ?_⟩⟩
  obtain ⟨-, hlow, hhigh⟩ := FetchRequest.mem_sought.1 hk
  exact (h.asked_of_mem k hlow hhigh).2

/-- Where fewer times are illegible than a page has rows, by two at least, every page leads on. -/
theorem leadsOn (hfew : illegible.card + 2 ≤ archive.cap) (made : Call → Prop) :
    (archive.service cell).LeadsOn kept illegible (r.sought archive.scale kept illegible)
      (fun cursor k => k < cursor) pager made := by
  rintro cursor shown - hshown ⟨k, hk, hbefore, hleft⟩
  obtain ⟨⟨hkept, -⟩, hlow, hhigh⟩ := FetchRequest.mem_sought.1 hk
  simp only [service, h.window cursor, Option.map_some, Option.some.injEq] at hshown
  subst hshown
  have hasked := h.asked_of_lt cursor k (h.asked_of_mem k hlow hhigh).1 hbefore
  obtain ⟨hfull, -⟩ := newest_of_left_out (Finset.mem_filter.2 ⟨hkept, hasked⟩) hleft
  by_contra hnone
  have hsubset : (newest archive.cap (kept.filter (asked cursor · = true))).toFinset ⊆
      insert cursor illegible := fun s hs => by
    by_contra hout
    rw [Finset.mem_insert, not_or] at hout
    exact hnone ⟨s, List.mem_toFinset.1 hs, hout.2, hout.1⟩
  have hcard := (Finset.card_le_card hsubset).trans (Finset.card_insert_le cursor illegible)
  rw [List.toFinset_card_of_nodup (nodup_newest _ _), hfull] at hcard
  omega

/-- Where a request fits an archive, all of its range is read. -/
theorem whole (hkeeps : archive.Keeps kept world)
    (hsmall : ∀ k ∈ kept, (k * archive.scale).natAbs ≤ 2 ^ 53)
    (hapart : ∀ k ∈ kept, ∀ l ∈ kept, k < l → k + 2 ≤ l) (hrange : r.start + 1000 ≤ r.stop)
    (state : σ) :
    ∃ cs, ((pager.backward start stop).run world state).outcome = .ok cs ∧
      r.Whole archive.scale kept cs := by
  have hfew : (∅ : Finset Int).card + 2 ≤ archive.cap := by simpa using h.two_le
  obtain ⟨cs, houtcome, hgood, hall⟩ := h.outcome (hkeeps.serves cell) hsmall hapart
    (h.leadsOn hfew fun _ => True) state fun _ _ => trivial
  refine ⟨cs, houtcome, FetchRequest.whole_of_width (fun c hc => ?_) fun k hk hlow hhigh => ?_⟩
  · obtain ⟨⟨k, hk, -, hstart⟩, hstop⟩ := hgood c hc
    exact ⟨⟨k, hk, hstart⟩, hstop⟩
  · exact hall (h.start_lt_stop hrange) k
      (FetchRequest.mem_sought.2 ⟨⟨hk, Finset.notMem_empty k⟩, hlow, hhigh⟩)

end Archive.Fits

/-! ## An archive as it should be -/

/-- The world that keeps some times in an archive, with one form of answer and of row. -/
def Archive.shelf (archive : Archive) (wrap : List Json → Json) (rowOf : Int → Json)
    (kept : Finset Int) : World Unit where
  withdrawn _ := false
  answer _ call :=
    match archive.window call with
    | some asked =>
      (.ok (wrap ((newest archive.cap (kept.filter (asked · = true))).map rowOf)), ())
    | none => (.ok .null, ())

theorem Archive.serves_shelf {archive : Archive} {cell : Json → Json} {wrap : List Json → Json}
    {rowOf : Int → Json} {illegible : Finset Int} (hwrap : ∀ rows, archive.wraps rows (wrap rows))
    (hrow : ∀ k, LegibleExcept illegible cell archive.scale archive.row (rowOf k) k)
    (kept : Finset Int) : (archive.service cell).Serves kept illegible (archive.shelf wrap rowOf kept) := by
  refine ⟨fun _ => rfl, fun state call shown hshown => ?_⟩
  obtain ⟨asked, hasked, rfl⟩ := Option.map_eq_some_iff.1 hshown
  refine ⟨_, _, newest archive.cap (kept.filter (asked · = true)), ?_, hwrap _,
    List.forall₂_map_left_iff.2 (List.forall₂_same.2 fun k _ => hrow k), List.Perm.refl _⟩
  simp only [shelf, hasked]

theorem Archive.keeps_shelf {archive : Archive} {wrap : List Json → Json} {rowOf : Int → Json}
    (hwrap : ∀ rows, archive.wraps rows (wrap rows)) (hrow : ∀ k, archive.row (rowOf k) k)
    (kept : Finset Int) : archive.Keeps kept (archive.shelf wrap rowOf kept) where
  patient _ := rfl
  answers state call asked hasked := by
    refine ⟨_, _, newest archive.cap (kept.filter (asked · = true)), ?_, hwrap _,
      List.forall₂_map_left_iff.2 (List.forall₂_same.2 fun k _ => hrow k), List.Perm.refl _⟩
    simp only [shelf, hasked]

end Candlestick
