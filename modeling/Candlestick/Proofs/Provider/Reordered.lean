import Candlestick.Proofs.Network.Lockstep
import Candlestick.Proofs.Provider.Malformed
import Candlestick.Proofs.Series.Order
import Candlestick.Provider.Directory

set_option autoImplicit false

/-! # The order of the rows in a page does not matter

Where the next cursor is the earliest time of a page, or comes from the provider, a page leads on in the
same way whatever the order of its rows. Its rows are refused together or not at all, since no row is
refused for a cause of its own, and their candles are the same in another order. So two fetches run side
by side, and cutting their candles to a range makes the same series of both. -/

namespace Candlestick

open Reading

/-! ## Values with a list in another order -/

/-- Two values differ at most in the order of the items of the list under a path of keys. -/
inductive Json.Reordered : List String → Json → Json → Prop where
  | refl (path : List String) (value : Json) : Reordered path value value
  | items {rows others : List Json} (h : rows.Perm others) : Reordered [] (.arr rows) (.arr others)
  | under (key : String) {path : List String} {a b : Json} (before after : List (String × Json))
    (h : Reordered path a b) :
    Reordered (key :: path) (.obj (before ++ (key, a) :: after)) (.obj (before ++ (key, b) :: after))

namespace Json.Reordered

variable {path : List String} {key other : String} {a b : Json}

theorem isObject_eq (h : Reordered path a b) : a.isObject = b.isObject := by
  cases h <;> rfl

theorem isPresent_eq (h : Reordered path a b) : a.isPresent = b.isPresent := by
  cases h with
  | refl => rfl
  | items hperm => exact congrArg not hperm.isEmpty_eq
  | under key before after h => cases before <;> rfl

/-- What stands under another key is the same. -/
theorem member_eq (h : Reordered (key :: path) a b) (hne : other ≠ key) :
    a.member other = b.member other := by
  cases h with
  | refl => rfl
  | under key before after h =>
    have hfalse : (other == key) = false := beq_false_of_ne hne
    simp only [Json.member, Json.member?, List.lookup_append, List.lookup_cons, hfalse]

/-- What stands under the key is reordered in turn. -/
theorem of_member (h : Reordered (key :: path) a b) :
    Reordered path (a.member key) (b.member key) := by
  cases h with
  | refl => exact .refl path _
  | under key before after h =>
    simp only [Json.member, Json.member?, List.lookup_append, List.lookup_cons, beq_self_eq_true]
    cases before.lookup key with
    | none => exact h
    | some value => exact .refl path value

theorem member (h : Reordered [key] a b) (other : String) :
    Reordered [] (a.member other) (b.member other) := by
  by_cases heq : other = key
  · subst heq
    exact h.of_member
  · rw [h.member_eq heq]
    exact .refl [] _

/-- The keys are the same. -/
theorem items_eq (h : Reordered (key :: path) a b) : Reading.items a = Reading.items b := by
  cases h with
  | refl => rfl
  | under key before after h => simp [Reading.items]

/-- An object at the place of the list is left alone, and so is a list at the place of an object. -/
theorem eq_of_isObject (h : Reordered [] a b) (hobject : a.isObject = true) : a = b := by
  cases h with
  | refl => rfl
  | items => cases hobject

theorem eq_of_not_isObject (h : Reordered (key :: path) a b) (hobject : ¬ a.isObject = true) : a = b := by
  cases h with
  | refl => rfl
  | under => exact absurd rfl hobject

/-- A list has no members in any order. -/
theorem member_eq_of_nil (h : Reordered [] a b) : a.member other = b.member other := by
  cases h <;> rfl

/-- A list is no time in any order. -/
theorem time_eq (h : Reordered path a b) (scale : Int) : time a scale = time b scale := by
  cases h <;> rfl

end Json.Reordered

/-! ## Rows in another order -/

theorem readRows_eq_filterMap {read : Json → Except Failure (Option Candle)} {rows : List Json}
    {cs : List Candle} (h : readRows read rows = .ok cs) :
    cs = rows.filterMap fun row => (read row).toOption.join := by
  induction rows generalizing cs with
  | nil => exact (Except.ok.inj h).symm
  | cons row rest ih =>
    unfold readRows at h
    obtain ⟨candle, hcandle, h⟩ := exists_of_bind_eq_ok h
    obtain ⟨others, hothers, h⟩ := exists_of_bind_eq_ok h
    cases h
    rw [List.filterMap_cons, hcandle, ← ih hothers]
    cases candle <;> rfl

section Rows

variable {read : Json → Except Failure (Option Candle)} {broken : Json → Prop} {P : Candle → Prop}

/-- The candles of rows in another order. -/
theorem readRows_rearranged (hread : ∀ row, RefusedIff (broken row) (read row)) {rows others : List Json}
    (hperm : rows.Perm others) (hP : ∀ row ∈ rows, ∀ c, read row = .ok (some c) → P c) :
    Agree (Rearranged P) (readRows read rows) (readRows read others) := by
  have hrows := readRows_refusedIff hread rows
  have hothers : RefusedIff (∃ row ∈ rows, broken row) (readRows read others) :=
    (readRows_refusedIff hread others).congr (by simp only [hperm.mem_iff])
  by_cases hbroken : ∃ row ∈ rows, broken row
  · rw [hrows.refused hbroken, hothers.refused hbroken]
    exact .error _
  · obtain ⟨cs, hcs⟩ := hrows.read hbroken
    obtain ⟨ds, hds⟩ := hothers.read hbroken
    rw [hcs, hds]
    obtain rfl := readRows_eq_filterMap hcs
    obtain rfl := readRows_eq_filterMap hds
    refine .ok ⟨hperm.filterMap _, fun c hc => ?_⟩
    obtain ⟨row, hrow, hread⟩ := List.mem_filterMap.1 hc
    exact hP row hrow c (eq_ok_of_toOption (Option.join_eq_some_iff.1 hread))

theorem readPage_rearranged (hread : ∀ row, RefusedIff (broken row) (read row))
    {finish : List Candle → Nat → Except Failure Page}
    (hfinish : ∀ cs ds n, Rearranged P cs ds → Agree (Page.Rearranged P) (finish cs n) (finish ds n))
    {a b : Json} (h : Json.Reordered [] a b)
    (hP : ∀ rows, a = .arr rows → ∀ row ∈ rows, ∀ c, read row = .ok (some c) → P c) :
    Agree (Page.Rearranged P) (readPage read finish a) (readPage read finish b) := by
  have hlists : ∀ rows others : List Json, a = .arr rows → rows.Perm others →
      Agree (Page.Rearranged P) (readPage read finish (.arr rows)) (readPage read finish (.arr others)) := by
    intro rows others ha hperm
    cases rows with
    | nil =>
      obtain rfl := hperm.nil_eq
      exact .ok .last
    | cons first rest =>
      cases others with
      | nil => exact absurd hperm.eq_nil (List.cons_ne_nil _ _)
      | cons first' rest' =>
        have hrows := readRows_rearranged hread hperm (hP _ ha)
        exact hrows.bind fun cs ds _ hcs => hperm.length_eq ▸ hfinish cs ds _ hcs
  cases h with
  | refl =>
    -- A list that is left alone is in its own order.
    cases a with
    | arr rows => exact hlists rows rows rfl (.refl rows)
    | _ => exact .ok .last
  | items hperm => exact hlists _ _ rfl hperm

end Rows

/-- The earliest time hangs on the candles, not on their order. -/
theorem Rearranged.earliest_eq {P : Candle → Prop} {cs ds : List Candle} (h : Rearranged P cs ds)
    (f : Candle → Int) (cursor : Int) :
    cs.foldl (fun least c => min least (f c)) cursor = ds.foldl (fun least c => min least (f c)) cursor :=
  h.perm.foldl_eq' (fun x _ y _ least => min_right_comm least (f x) (f y)) cursor

/-! ## Layouts -/

/-- How an exchange lays out the rows of a page: the paths of keys under which they may stand, the value
    that is taken for them, and what each of them is read as. -/
structure Layout where
  path : List String → Prop
  rows : Json → Except Failure Json
  row : Json → Except Failure (Option Candle)

namespace Layout

variable {layout : Layout} {a b : Json}

/-- Two answers differ only in the order of the rows. -/
def Reorders (layout : Layout) (a b : Json) : Prop := ∃ path, layout.path path ∧ Json.Reordered path a b

/-- A row of an answer is read as a candle. -/
def Parses (layout : Layout) (answer : Json) (c : Candle) : Prop :=
  ∃ rows, layout.rows answer = .ok (.arr rows) ∧ ∃ row ∈ rows, layout.row row = .ok (some c)

/-- A page holds the same candles and leads on in the same way whatever the order of its rows. -/
def Indifferent (layout : Layout) (pager : Pager) : Prop :=
  ∀ cursor a b, layout.Reorders a b →
    Agree (Page.Rearranged (layout.Parses a)) (pager.read cursor a) (pager.read cursor b)

theorem rearranged_of_rows {broken : Json → Prop} (hread : ∀ row, RefusedIff (broken row) (layout.row row))
    {finish : List Candle → Nat → Except Failure Page}
    (hfinish : ∀ {P cs ds} (n : Nat), Rearranged P cs ds →
      Agree (Page.Rearranged P) (finish cs n) (finish ds n))
    (hrows : Agree (Json.Reordered []) (layout.rows a) (layout.rows b)) :
    Agree (Page.Rearranged (layout.Parses a)) (layout.rows a >>= readPage layout.row finish)
      (layout.rows b >>= readPage layout.row finish) :=
  hrows.bind fun _ _ ha hvalues => readPage_rearranged hread (fun _ _ n => hfinish n) hvalues
    fun rows hlist _ hrow _ hc => ⟨rows, hlist ▸ ha, _, hrow, hc⟩

end Layout

/-! ## Pages -/

section Pages

variable {a b : Json}

namespace Bybit

/-- The rows stand in a result. -/
def layout (r : FetchRequest) : Layout where
  path path := path = ["result", "list"]
  rows := rows
  row := r.rowCandle 1 1 2 3 4 5

theorem rows_reordered (h : Json.Reordered ["result", "list"] a b) :
    Agree (Json.Reordered []) (rows a) (rows b) := by
  have hresult := h.of_member
  simp only [rows, hresult.isPresent_eq, hresult.isObject_eq]
  split
  · exact .ok (.refl [] _)
  · split
    · exact .ok hresult.of_member
    · exact .error _

theorem indifferent (r : FetchRequest) : (layout r).Indifferent (pager r) := by
  rintro cursor a b ⟨path, rfl, h⟩
  change Agree _ (page r cursor a) (page r cursor b)
  rw [page_eq, page_eq, h.isObject_eq, h.member_eq (by decide), h.member_eq (by decide)]
  split
  · exact .ok .last
  · split
    · exact .error _
    · refine Layout.rearranged_of_rows (r.rowCandle_refusedIff (by decide) 1 2 3 4 5) (fun n hcs => ?_)
        (rows_reordered h)
      simp only [finish, hcs.earliest_eq]
      split
      · exact .ok ⟨hcs, rfl, rfl⟩
      · split
        · exact .ok ⟨hcs, rfl, rfl⟩
        · exact .ok ⟨hcs, rfl, rfl⟩

end Bybit

namespace Okx

def layout (r : FetchRequest) : Layout where
  path path := path = ["data"]
  rows answer := .ok (answer.member "data")
  row := r.rowCandle 1 1 2 3 4 5

theorem indifferent (r : FetchRequest) : (layout r).Indifferent (pager r) := by
  rintro cursor a b ⟨path, rfl, h⟩
  change Agree _ (page r cursor a) (page r cursor b)
  rw [page_eq, page_eq, h.isObject_eq, h.member_eq (by decide), h.member_eq (by decide)]
  split
  · exact .ok .last
  · split
    · exact .error _
    · refine Layout.rearranged_of_rows (r.rowCandle_refusedIff (by decide) 1 2 3 4 5) (fun n hcs => ?_)
        (.ok h.of_member)
      simp only [finish, hcs.earliest_eq]
      split
      · exact .ok ⟨hcs, rfl, rfl⟩
      · exact .ok ⟨hcs, rfl, rfl⟩

end Okx

namespace Kucoin

/-- The rows may be nested one level deeper. -/
def layout (r : FetchRequest) : Layout where
  path path := path = ["data"] ∨ path = ["data", "data"]
  rows answer := .ok (rows answer)
  row := r.rowCandle 1000 1 3 4 2 5

theorem rows_reordered {path : List String} (hpath : path = ["data"] ∨ path = ["data", "data"])
    (h : Json.Reordered path a b) : Json.Reordered [] (rows a) (rows b) := by
  rcases hpath with rfl | rfl
  · have hdata := h.of_member
    by_cases hobject : (a.member "data").isObject = true
    · simp only [rows, hdata.eq_of_isObject hobject]
      exact .refl [] _
    · rw [rows, rows, if_neg hobject, if_neg (hdata.isObject_eq ▸ hobject)]
      exact hdata
  · have hdata := h.of_member
    by_cases hobject : (a.member "data").isObject = true
    · rw [rows, rows, if_pos hobject, if_pos (hdata.isObject_eq ▸ hobject)]
      exact hdata.of_member
    · simp only [rows, hdata.eq_of_not_isObject hobject]
      exact .refl [] _

theorem indifferent (r : FetchRequest) : (layout r).Indifferent (pager r) := by
  rintro cursor a b ⟨path, hpath, h⟩
  change Agree _ (page r cursor a) (page r cursor b)
  have hrows := rows_reordered hpath h
  have hhead : a.isObject = b.isObject ∧ a.member "code" = b.member "code" ∧
      a.member "msg" = b.member "msg" := by
    rcases hpath with rfl | rfl
    · exact ⟨h.isObject_eq, h.member_eq (by decide), h.member_eq (by decide)⟩
    · exact ⟨h.isObject_eq, h.member_eq (by decide), h.member_eq (by decide)⟩
  rw [page_eq, page_eq, hhead.1, hhead.2.1, hhead.2.2]
  split
  · exact .ok .last
  · split
    · exact .error _
    · refine Layout.rearranged_of_rows (r.rowCandle_refusedIff (by decide) 1 3 4 2 5) (fun n hcs => ?_)
        (.ok hrows)
      simp only [finish, hcs.earliest_eq]
      exact .ok ⟨hcs, rfl, rfl⟩

end Kucoin

namespace Gateio

/-- The answer is the list of the rows. -/
def layout (r : FetchRequest) : Layout where
  path path := path = []
  rows := .ok
  row := row r

theorem indifferent (r : FetchRequest) : (layout r).Indifferent (pager r) := by
  rintro cursor a b ⟨path, rfl, h⟩
  change Agree _ (page r cursor a) (page r cursor b)
  rw [page_eq, page_eq, h.member_eq_of_nil, h.member_eq_of_nil]
  split
  · exact .error _
  · refine Layout.rearranged_of_rows (row_refusedIff r) (fun n hcs => ?_) (.ok h)
    simp only [finish, hcs.earliest_eq]
    split
    · exact .ok ⟨hcs, rfl, rfl⟩
    · exact .ok ⟨hcs, rfl, rfl⟩

end Gateio

namespace Kraken

/-- The rows stand in a result, under a name that is the provider's own. -/
def layout (r : FetchRequest) : Layout where
  path path := ∃ pair, path = ["result", pair]
  rows answer := rows (answer.member "result")
  row := row r

/-- The key under which the rows stand is found among the same keys. -/
theorem rows_reordered {pair : String} (h : Json.Reordered [pair] a b) :
    Agree (Json.Reordered []) (rows a) (rows b) := by
  have hmember := h.member
  have hpresent := h.isPresent_eq
  have hitems := h.items_eq
  cases h with
  | refl => exact Agree.refl (.refl []) _
  | under key before after h =>
    unfold rows
    rw [hpresent, hitems]
    split
    · exact .ok (.refl [] _)
    · refine (Agree.refl (fun _ => rfl) (items _)).bind fun keys _ _ hkeys => ?_
      subst hkeys
      split
      · exact .ok (.refl [] _)
      · split
        · exact .ok (.refl [] _)
        · next key _ _ =>
          cases key with
          | str key => exact .ok (hmember key)
          | _ => exact .error _

theorem indifferent (r : FetchRequest) : (layout r).Indifferent (pager r) := by
  rintro cursor a b ⟨path, ⟨pair, rfl⟩, h⟩
  change Agree _ (page r cursor a) (page r cursor b)
  have hresult := h.of_member
  have hlast := (hresult.member "last").time_eq 1
  have herrors : errors a = errors b := by rw [errors, errors, h.member_eq (by decide)]
  rw [page_eq, page_eq, h.isObject_eq, herrors, hlast]
  split
  · exact .ok .last
  · cases errors b with
    | error cause => exact .error cause
    | ok text =>
      cases text with
      | some text => exact .error _
      | none =>
        refine Layout.rearranged_of_rows (row_refusedIff r) (fun n hcs => ?_) (rows_reordered hresult)
        exact (Agree.refl (fun _ => rfl) _).bind fun last _ _ heq => heq ▸ .ok ⟨hcs, rfl, rfl⟩

end Kraken

end Pages

/-! ## Fetches -/

/-- The layout of an exchange whose pages are read backward, or of Kraken spot. -/
def Exchange.layout? (exchange : Exchange) (r : FetchRequest) : Option Layout :=
  match exchange with
  | .bybit => some (Bybit.layout r)
  | .okx => some (Okx.layout r)
  | .kucoin => some (Kucoin.layout r)
  | .gateio => some (Gateio.layout r)
  | .kraken => if r.isSpot then some (Kraken.layout r) else none
  | .binance | .coinbase | .bitget | .htx | .mexc => none

/-- A row of an answer of a script is read as a candle. -/
def Layout.ParsesIn (layout : Layout) (script : Script) (c : Candle) : Prop :=
  ∃ answer, .ok answer ∈ script ∧ layout.Parses answer c

section Fetches

variable {r : FetchRequest} {layout : Layout} {alike : Json → Json → Prop} {P : Candle → Prop}

theorem Layout.Indifferent.agree {pager : Pager} (h : layout.Indifferent pager)
    (halike : ∀ a b, alike a b → layout.Reorders a b)
    (hP : ∀ a b, alike a b → ∀ c, layout.Parses a c → P c) (cursor : Int) (a b : Json) (hab : alike a b) :
    Agree (Page.Rearranged P) (pager.read cursor a) (pager.read cursor b) :=
  (h cursor a b (halike a b hab)).mono fun _ _ hpages => hpages.mono (hP a b hab)

theorem Exchange.parallel_fetch (hlayout : r.source.exchange.layout? r = some layout)
    (halike : ∀ a b, alike a b → layout.Reorders a b)
    (hP : ∀ a b, alike a b → ∀ c, layout.Parses a c → P c) :
    (r.source.exchange.fetch r).Parallel alike (Rearranged P) (r.source.exchange.fetch r) := by
  cases hexchange : r.source.exchange <;> rw [hexchange] at hlayout
  case bybit =>
    cases hlayout
    exact Pager.parallel_backward ((Bybit.indifferent r).agree halike hP) _ _
  case okx =>
    cases hlayout
    exact Pager.parallel_backward ((Okx.indifferent r).agree halike hP) _ _
  case kucoin =>
    cases hlayout
    exact Pager.parallel_backward ((Kucoin.indifferent r).agree halike hP) _ _
  case gateio =>
    cases hlayout
    exact Pager.parallel_backward ((Gateio.indifferent r).agree halike hP) _ _
  case kraken =>
    rw [Exchange.layout?] at hlayout
    rw [Exchange.fetch, Kraken.fetch]
    split at hlayout
    · next hspot =>
      cases hlayout
      rw [if_pos hspot]
      exact Pager.parallel_forward ((Kraken.indifferent r).agree halike hP) _ _
    · cases hlayout
  all_goals cases hlayout

/-- The same candles in an order of their own, which come to one list where there is one candle for each
    start. -/
structure Layout.SameSeries (layout : Layout) (script : Script) (cs ds : List Candle) : Prop where
  perm : cs.Perm ds
  normalize_eq : (∀ a b, layout.ParsesIn script a → layout.ParsesIn script b → a.start = b.start → a = b) →
    ∀ start stop, Series.normalize start stop cs = Series.normalize start stop ds

/-- Two scripts whose answers differ only in the order of their rows. The fetches make the same calls and
    the same remarks, and they fail for the same cause or come to the same series. -/
theorem Exchange.fetch_reordered (hlayout : r.source.exchange.layout? r = some layout)
    {script other : Script} (hscripts : List.Forall₂ (Agree layout.Reorders) script other)
    (withdrawn : Nat → Bool) (spent : Call → Failure) :
    ((r.source.exchange.fetch r).run (Script.world withdrawn spent) script).Parallel
      (layout.SameSeries script)
      ((r.source.exchange.fetch r).run (Script.world withdrawn spent) other) := by
  have hparallel : (r.source.exchange.fetch r).Parallel
      (fun a b => layout.Reorders a b ∧ .ok a ∈ script) (Rearranged (layout.ParsesIn script))
      (r.source.exchange.fetch r) :=
    Exchange.parallel_fetch hlayout (fun _ _ h => h.1) fun a _ h _ hparses => ⟨a, h.2, hparses⟩
  have hruns := hparallel.run (Script.lockstep withdrawn spent _) (Script.alike_mem hscripts)
  refine ⟨hruns.outcome.mono fun cs ds hcs => ⟨hcs.perm, fun hunique start stop => ?_⟩, hruns.calls,
    hruns.notes⟩
  exact Series.normalize_perm hcs.perm fun a ha b hb => hunique a b (hcs.owned a ha) (hcs.owned b hb)

end Fetches

namespace Kucoin

/-- A request for the first four minutes. -/
def fourMinutes : FetchRequest :=
  ⟨⟨.kucoin, .spot⟩, "BTC", "USDT", 0, 4 * minuteMs, "1min", "1m", minuteMs⟩

def minuteRow (k : Int) : Json := .arr [.int k, .int 1, .int 1, .int 1, .int 1, .int 1]

def minutePage (ks : List Int) : Json :=
  .obj [("code", .str "200000"), ("data", .arr (ks.map minuteRow))]

/-- Two pages with their newest rows first, and the same with their oldest rows first. -/
def newestFirst : Script := [.ok (minutePage [180, 120]), .ok (minutePage [60, 0])]

def oldestFirst : Script := [.ok (minutePage [120, 180]), .ok (minutePage [0, 60])]

theorem exists_minuteRow {c : Candle} (h : (layout fourMinutes).ParsesIn newestFirst c) :
    ∃ k ∈ [180, 120, 60, 0], (layout fourMinutes).row (minuteRow k) = .ok (some c) := by
  obtain ⟨answer, hanswer, items, hitems, row, hrow, hread⟩ := h
  have hpage : ∃ ks, answer = minutePage ks ∧ ∀ k ∈ ks, k ∈ [180, 120, 60, 0] := by
    obtain rfl | rfl : answer = minutePage [180, 120] ∨ answer = minutePage [60, 0] := by
      simpa [newestFirst] using hanswer
    · exact ⟨_, rfl, by decide⟩
    · exact ⟨_, rfl, by decide⟩
  obtain ⟨ks, rfl, hks⟩ := hpage
  obtain rfl : ks.map minuteRow = items := Json.arr.inj (Except.ok.inj hitems)
  obtain ⟨k, hk, rfl⟩ := List.mem_map.1 hrow
  exact ⟨k, hks k hk, hread⟩

theorem eq_of_minuteRow {a b : Candle} (ha : (layout fourMinutes).ParsesIn newestFirst a)
    (hb : (layout fourMinutes).ParsesIn newestFirst b) (heq : a.start = b.start) : a = b := by
  have hstarts : ∀ k ∈ [180, 120, 60, 0],
      ((layout fourMinutes).row (minuteRow k)).toOption.join.map Candle.start = some (k * 1000) := by
    decide +kernel
  obtain ⟨k, hk, hrow⟩ := exists_minuteRow ha
  obtain ⟨l, hl, hrow'⟩ := exists_minuteRow hb
  have hstart : a.start = k * 1000 := Option.some.inj (by rw [← hstarts k hk, hrow]; rfl)
  have hstart' : b.start = l * 1000 := Option.some.inj (by rw [← hstarts l hl, hrow']; rfl)
  obtain rfl : k = l := by omega
  exact Option.some.inj (Except.ok.inj (hrow.symm.trans hrow'))

/-- The two fetches read the rows in orders of their own, and the series are the same. -/
theorem fetch_reordered_fourMinutes :
    let world := Script.world (fun _ => false) fun _ => .aborted
    let run := (Exchange.kucoin.fetch fourMinutes).run world newestFirst
    let other := (Exchange.kucoin.fetch fourMinutes).run world oldestFirst
    run.calls = other.calls ∧ run.calls.length = 2 ∧
    ∃ cs ds, run.outcome = .ok cs ∧ other.outcome = .ok ds ∧
      cs.map (·.start) = [180000, 120000, 60000, 0] ∧ ds.map (·.start) = [120000, 180000, 0, 60000] ∧
      ∀ start stop, Series.normalize start stop cs = Series.normalize start stop ds := by
  intro world run other
  have hpages : ∀ {ks ls : List Int}, ks.Perm ls →
      Agree (layout fourMinutes).Reorders (.ok (minutePage ks)) (.ok (minutePage ls)) := fun hperm =>
    .ok ⟨["data"], Or.inl rfl, .under "data" [("code", .str "200000")] [] (.items (hperm.map minuteRow))⟩
  have hruns : run.Parallel ((layout fourMinutes).SameSeries newestFirst) other :=
    Exchange.fetch_reordered (r := fourMinutes) rfl
      (.cons (hpages (List.Perm.swap _ _ _)) (.cons (hpages (List.Perm.swap _ _ _)) .nil)) _ _
  have hrun : run.outcome.toOption.map (·.map (·.start)) = some [180000, 120000, 60000, 0] := by
    decide +kernel
  have hother : other.outcome.toOption.map (·.map (·.start)) = some [120000, 180000, 0, 60000] := by
    decide +kernel
  refine ⟨hruns.calls, by decide +kernel, ?_⟩
  rcases hruns.outcome.error_or_ok with ⟨cause, herror, -⟩ | ⟨cs, ds, hcs, hds, hsame⟩
  · rw [herror] at hrun
    cases hrun
  · rw [hcs] at hrun
    rw [hds] at hother
    exact ⟨cs, ds, hcs, hds, Option.some.inj hrun, Option.some.inj hother,
      hsame.normalize_eq fun _ _ => eq_of_minuteRow⟩

end Kucoin

end Candlestick
