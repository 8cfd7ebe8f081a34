import Candlestick.Proofs.Provider.Klines
import Candlestick.Proofs.Provider.Newest
import Candlestick.Proofs.Provider.Oldest
import Candlestick.Proofs.Provider.Progress

set_option autoImplicit false

/-! # A row whose time cannot be read costs only itself, if its page leads on

The rows of a page become its candles and say where the next page begins. A row whose time cannot be
read is passed over in the first part; what it does to the second depends on how a reading goes on.
Kraken sends the next cursor beside the rows. Klines go on after the last row, so that one has to be
legible. The readings backward go on below the earliest legible row, and stop where that is the cursor
itself. -/

namespace Candlestick

/-- How an exchange speaks that is read page after page; `cap` is the number of rows that KuCoin and
    Kraken show. -/
def Exchange.service? (cap : Nat) : Exchange → Option Service
  | .binance | .mexc => some Klines.service
  | .bybit => some (Bybit.archive.service Reading.first)
  | .okx => some (Okx.archive.service Reading.first)
  | .kucoin => some ((Kucoin.archive cap).service Reading.first)
  | .gateio => some (Gateio.archive.service Gateio.cell)
  | .kraken => some (Kraken.service cap)
  | .coinbase | .bitget | .htx => none

/-- The candles of a range of which some rows were illegible: they are of legible times only, and every
    legible time of the range has one. -/
structure FetchRequest.Legible (r : FetchRequest) (scale : Int) (kept illegible : Finset Int)
    (cs : List Candle) : Prop where
  own : ∀ c ∈ cs, ∃ k ∈ kept, k ∉ illegible ∧ c.start = k * scale
  all : ∀ k ∈ kept, k ∉ illegible → r.start ≤ k * scale → k * scale < r.stop →
    ∃ c ∈ cs, c.start = k * scale

/-- A reading that begins inside its loop whenever there is something in the range need only have what
    is sought. -/
theorem FetchRequest.legible_of_sought {r : FetchRequest} {scale start stop : Int}
    {kept illegible : Finset Int} {cs : List Candle}
    (hrange : r.start < r.stop → start < stop)
    (hown : ∀ c ∈ cs, ∃ k ∈ kept, k ∉ illegible ∧ c.start = k * scale)
    (hall : start < stop → ∀ k ∈ r.sought scale kept illegible, ∃ c ∈ cs, c.start = k * scale) :
    r.Legible scale kept illegible cs where
  own := hown
  all k hk hlegible hlow hhigh :=
    hall (hrange (Int.lt_of_le_of_lt hlow hhigh)) k (mem_sought.2 ⟨⟨hk, hlegible⟩, hlow, hhigh⟩)

section Readings

variable {σ : Type} {world : World σ} {r : FetchRequest} {kept illegible : Finset Int} {cap : Nat}
  {state : σ}

theorem Archive.Fits.exists_legible {archive : Archive} {cell : Json → Json} {pager : Pager}
    {start stop : Int} {asked : Int → Int → Bool} (h : archive.Fits cell r pager start stop asked)
    (hserves : (archive.service cell).Serves kept illegible world)
    (hsmall : ∀ k ∈ kept, (k * archive.scale).natAbs ≤ 2 ^ 53)
    (hapart : ∀ k ∈ kept, ∀ l ∈ kept, k < l → k + 2 ≤ l)
    (hleads : (archive.service cell).LeadsOn kept illegible (r.sought archive.scale kept illegible)
      (fun cursor k => k < cursor) pager (· ∈ ((pager.backward start stop).run world state).calls))
    (hrange : r.start < r.stop → start < stop) :
    ∃ cs, ((pager.backward start stop).run world state).outcome = .ok cs ∧
      r.Legible archive.scale kept illegible cs := by
  obtain ⟨cs, houtcome, hgood, hall⟩ := h.outcome hserves hsmall hapart hleads state fun _ hcall => hcall
  exact ⟨cs, houtcome, FetchRequest.legible_of_sought hrange (fun c hc => (hgood c hc).1) hall⟩

theorem Klines.exists_legible (e : Klines.Endpoint) (hlimit : 2 ≤ e.limit) (symbol : String)
    (hserves : Klines.service.Serves kept illegible world) (hsmall : ∀ k ∈ kept, (k * 1).natAbs ≤ 2 ^ 53)
    (hleads : Klines.service.LeadsOn kept illegible (r.sought 1 kept illegible) (· < ·)
      (Klines.pager e symbol r) (· ∈ ((Klines.fetch e symbol r).run world state).calls)) :
    ∃ cs, ((Klines.fetch e symbol r).run world state).outcome = .ok cs ∧
      r.Legible 1 kept illegible cs := by
  simp only [Int.mul_one] at hsmall
  obtain ⟨cs, houtcome, hgood, hall⟩ := (Klines.covers hserves hsmall e hlimit symbol r
    hleads).outcome_forward_of_made state r.start fun _ hcall => hcall
  refine ⟨cs, houtcome, FetchRequest.legible_of_sought id ?_ fun hlt k hk => ?_⟩
  · simpa only [Int.mul_one] using hgood
  · have hlow := (FetchRequest.mem_sought.1 hk).2.1
    rw [Int.mul_one] at hlow ⊢
    exact hall hlt k ⟨hk, hlow⟩

theorem Kraken.exists_legible (hcap : 2 ≤ cap) (hspot : r.isSpot = true)
    (hserves : (Kraken.service cap).Serves kept illegible world)
    (hsmall : ∀ k ∈ kept, (k * 1000).natAbs ≤ 2 ^ 53)
    (hrange : r.start < r.stop → r.startSecond < r.stopSecond) :
    ∃ cs, ((Kraken.fetch r).run world state).outcome = .ok cs ∧
      r.Legible 1000 kept illegible cs := by
  have hinside : ∀ k, k ∈ r.sought 1000 kept illegible → k ∉ illegible ∧ k ≤ r.stopSecond :=
    fun k hk => by
      obtain ⟨⟨-, hlegible⟩, hlow, hhigh⟩ := FetchRequest.mem_sought.1 hk
      exact ⟨hlegible, (r.second_of_range hlow hhigh).2⟩
  have hgood : ∀ c : Candle, ∀ k ∈ kept, k ∉ illegible → c.start = k * 1000 →
      c.stop = c.start + r.width → ∃ k ∈ kept, k ∉ illegible ∧ c.start = k * 1000 :=
    fun c k hk hlegible hstart _ => ⟨k, hk, hlegible, hstart⟩
  obtain ⟨cs, houtcome, hown, hall⟩ :=
    (Kraken.covers hserves hcap hsmall r hinside hgood).outcome_forward state r.startSecond
  rw [Kraken.fetch, if_pos hspot]
  refine ⟨cs, houtcome, FetchRequest.legible_of_sought hrange hown fun hlt k hk => ?_⟩
  obtain ⟨⟨hmem, -⟩, hlow, hhigh⟩ := FetchRequest.mem_sought.1 hk
  exact hall hlt k ⟨hmem, (r.second_of_range hlow hhigh).1, hk⟩

end Readings

/-- A row whose time cannot be read costs only itself, as long as each page of the run leads on that
    leaves over something to be read: what comes back is of legible times only, and every legible time
    of the range is there. -/
theorem Exchange.fetch_legible {σ : Type} {world : World σ} {exchange : Exchange} {cap : Nat}
    {service : Service} {r : FetchRequest} {p : Paging} {kept illegible : Finset Int} {state : σ}
    (hcap : 2 ≤ cap) (hservice : exchange.service? cap = some service)
    (hpaging : exchange.paging? r = some p) (hserves : service.Serves kept illegible world)
    (hsmall : ∀ k ∈ kept, (k * service.scale).natAbs ≤ 2 ^ 53)
    (hapart : ∀ k ∈ kept, ∀ l ∈ kept, k < l → k + 2 ≤ l)
    (hleads : service.LeadsOn kept illegible (r.sought service.scale kept illegible) p.Onward p.pager
      (· ∈ ((exchange.fetch r).run world state).calls))
    (hrange : r.start < r.stop → p.start < p.stop) :
    ∃ cs, ((exchange.fetch r).run world state).outcome = .ok cs ∧
      r.Legible service.scale kept illegible cs := by
  cases exchange with
  | binance =>
    cases hservice
    cases hpaging
    refine Klines.exists_legible _ ?_ _ hserves hsmall hleads
    split <;> decide
  | mexc =>
    cases hservice
    by_cases hspot : r.isSpot = true
    · simp only [paging?, if_pos hspot, Option.some.injEq] at hpaging
      subst hpaging
      have hfetch : Exchange.mexc.fetch r =
          Klines.fetch Mexc.spot (Symbol.join r.asset r.quote "") r := if_pos hspot
      rw [hfetch] at hleads ⊢
      exact Klines.exists_legible Mexc.spot (by decide) _ hserves hsmall hleads
    · simp only [paging?, if_neg hspot] at hpaging
      cases hpaging
  | bybit =>
    cases hservice
    cases hpaging
    exact (Bybit.fits r).exists_legible hserves hsmall hapart hleads hrange
  | okx =>
    cases hservice
    cases hpaging
    exact (Okx.fits r).exists_legible hserves hsmall hapart hleads hrange
  | kucoin =>
    cases hservice
    cases hpaging
    exact (Kucoin.fits r hcap).exists_legible hserves hsmall hapart hleads hrange
  | gateio =>
    cases hservice
    cases hpaging
    exact (Gateio.fits r).exists_legible hserves hsmall hapart hleads hrange
  | kraken =>
    cases hservice
    by_cases hspot : r.isSpot = true
    · simp only [paging?, if_pos hspot, Option.some.injEq] at hpaging
      subst hpaging
      exact Kraken.exists_legible hcap hspot hserves hsmall hrange
    · simp only [paging?, if_neg hspot] at hpaging
      cases hpaging
  | coinbase => cases hservice
  | bitget => cases hservice
  | htx => cases hservice

namespace Kucoin

/-- The row of a second, with an empty cell for a time that is illegible. -/
def rowExcept (illegible : Finset Int) (k : Int) : Json :=
  if k ∈ illegible then
    .arr [.null, .str "1.5", .str "1.25", .str "2.5", .str "0.5", .str "10", .str "15"]
  else rowOf k

theorem serves_shelf (cap : Nat) (kept illegible : Finset Int) :
    ((archive cap).service Reading.first).Serves kept illegible
      ((archive cap).shelf answerOf (rowExcept illegible) kept) := by
  have hwrap : ∀ rows, (archive cap).wraps rows (answerOf rows) := fun _ => ⟨rfl, rfl⟩
  refine Archive.serves_shelf hwrap (fun k => ?_) kept
  by_cases hk : k ∈ illegible
  · rw [LegibleExcept, if_pos hk, rowExcept, if_pos hk]
    rfl
  · rw [LegibleExcept, if_neg hk, rowExcept, if_neg hk]
    exact row_rowOf cap k

end Kucoin

/-- Three rows on a page, and the last row of the first page illegible, which the second page repeats. -/
theorem Exchange.fetch_legible_tenSeconds :
    ∃ cs, ((Exchange.kucoin.fetch Kucoin.tenSeconds).run
        ((Kucoin.archive 3).shelf Kucoin.answerOf (Kucoin.rowExcept {5}) {1, 3, 5, 7, 10}) ()).outcome =
          .ok cs ∧
      Kucoin.tenSeconds.Legible 1000 {1, 3, 5, 7, 10} {5} cs := by
  have hcap : 2 ≤ 3 := by decide
  have hpaging : Exchange.kucoin.paging? Kucoin.tenSeconds =
      some ⟨Kucoin.pager Kucoin.tenSeconds, .backward, "endAt", 0, 10⟩ := rfl
  exact Exchange.fetch_legible hcap rfl hpaging (Kucoin.serves_shelf 3 {1, 3, 5, 7, 10} {5}) (by decide)
    (by decide) ((Kucoin.fits Kucoin.tenSeconds hcap).leadsOn (by decide) _) (by decide)

/-! ## Pages that do not lead on -/

section Stalled

variable {σ : Type} {world : World σ} {kept illegible : Finset Int}

/-- A page of klines whose last row is illegible is the last one. -/
theorem Klines.fetch_of_illegible_last (hserves : Klines.service.Serves kept illegible world)
    (hsmall : ∀ k ∈ kept, k.natAbs ≤ 2 ^ 53) (e : Klines.Endpoint) (symbol : String) (r : FetchRequest)
    (hrange : r.start < r.stop) {ks : List Int} {last : Int}
    (hshown : (Klines.openTimes kept r.start r.stop).take e.limit = ks ++ [last])
    (hlast : last ∈ illegible) (state : σ) :
    ∃ cs, ((Klines.fetch e symbol r).run world state).outcome = .ok cs ∧
      cs.map (·.start) = (ks ++ [last]).filter (· ∉ illegible) := by
  have hpage : Klines.service.shown kept ((Klines.pager e symbol r).call r.start) =
      some (ks ++ [last]) := congrArg some hshown
  obtain ⟨answer, rows, ks', hanswer, rfl, hrows, rfl⟩ := hserves.answers state _ _ hpage
  have hks : ∀ k ∈ ks ++ [last], k.natAbs ≤ 2 ^ 53 := fun k hk =>
    hsmall k (Klines.mem_openTimes.1 (List.mem_of_mem_take (hshown ▸ hk))).1
  obtain ⟨cs, hstarts, hread⟩ := Klines.exists_page (e := e) (r := r) r.start hrows hks
  rw [if_pos (Or.inl hlast)] at hread
  exact ⟨cs, Pager.outcome_forward_of_last hrange (hserves.patient state) hanswer hread rfl, hstarts⟩

/-- A page of KuCoin's with no legible row but one on its cursor is the last one. -/
theorem Kucoin.fetch_of_stalled {cap : Nat} (hcap : 2 ≤ cap)
    (hserves : ((Kucoin.archive cap).service Reading.first).Serves kept illegible world)
    (hsmall : ∀ k ∈ kept, (k * 1000).natAbs ≤ 2 ^ 53) (r : FetchRequest)
    (hrange : r.startSecond < r.stopSecond)
    (hstalled : ∀ k ∈ newest cap (kept.filter fun k => r.startSecond ≤ k && k ≤ r.stopSecond),
      k ∉ illegible → k = r.stopSecond) (state : σ) :
    ∃ cs, ((Kucoin.fetch r).run world state).outcome = .ok cs ∧
      ∀ c ∈ cs, c.start = r.stopSecond * 1000 := by
  have hshown : ((Kucoin.archive cap).service Reading.first).shown kept
      ((Kucoin.pager r).call r.stopSecond) =
        some (newest cap (kept.filter fun k => r.startSecond ≤ k && k ≤ r.stopSecond)) := by
    simp only [Archive.service, (Kucoin.fits r hcap).window, Option.map_some]
    rfl
  obtain ⟨answer, rows, ks, hanswer, hwraps, hrows, hks⟩ := hserves.answers state _ _ hshown
  change ks.Perm _ at hks
  have hkept : ∀ k ∈ ks, (k * 1000).natAbs ≤ 2 ^ 53 := fun k hk =>
    hsmall k (Finset.mem_filter.1 (mem_of_mem_newest (hks.mem_iff.1 hk))).1
  have hlegible : ∀ k ∈ ks.filter (· ∉ illegible), k = r.stopSecond := fun k hk => by
    obtain ⟨hmem, hread⟩ := List.mem_filter.1 hk
    exact hstalled k (hks.mem_iff.1 hmem) (of_decide_eq_true hread)
  obtain ⟨cs, hcs⟩ := Kucoin.exists_gives (r := r) hrows hkept
  have hwraps : (Kucoin.archive cap).wraps rows answer := hwraps
  have hread : Kucoin.page r r.stopSecond answer = .ok { candles := cs, next := none } := by
    rw [Kucoin.page_of_gives r.stopSecond hwraps hcs, if_pos]
    exact le_earliest_iff.2 ⟨Int.le_refl _, fun k hk => Int.le_of_eq (hlegible k hk).symm⟩
  have hlast : ∀ next ∈ (none : Option Int), ¬ next < r.stopSecond := by simp
  refine ⟨cs, Pager.outcome_backward_of_stalled hrange (hserves.patient state) hanswer hread hlast,
    fun c hc => ?_⟩
  have hmem := hcs.starts ▸ List.mem_map_of_mem hc
  obtain ⟨k, hk, heq⟩ := List.mem_map.1 hmem
  rw [← heq, hlegible k hk]

end Stalled

/-- Each page that shows anything shows something legible. -/
def Service.PagesLegible (service : Service) (kept illegible : Finset Int) (pager : Pager) : Prop :=
  ∀ cursor shown, service.shown kept (pager.call cursor) = some shown → shown ≠ [] →
    ∃ k ∈ shown, k ∉ illegible

/-- A page of two rows or more that shows an illegible time also shows a legible one, if there is another
    time to be shown with it. -/
theorem exists_legible_of_take {l : List Int} {n : Nat} {bad other : Int} (hn : 2 ≤ n)
    (hl : l.Nodup) (hother : bad ∈ l → other ∈ l) (hne : other ≠ bad) (hpage : l.take n ≠ []) :
    ∃ k ∈ l.take n, k ∉ ({bad} : Finset Int) := by
  by_contra hnone
  have hall : ∀ k ∈ l.take n, k = bad := fun k hk => by
    by_contra hdiffers
    exact hnone ⟨k, hk, fun hmem => hdiffers (Finset.mem_singleton.1 hmem)⟩
  obtain ⟨first, hfirst⟩ := List.exists_mem_of_ne_nil _ hpage
  have hmem : other ∈ l := hother (hall first hfirst ▸ List.mem_of_mem_take hfirst)
  obtain ⟨hfull, -⟩ := length_take_of_left_out hl hmem fun hout => hne (hall other hout)
  have hnodup := hl.sublist (List.take_sublist n l)
  rw [List.eq_replicate_of_mem hall, List.nodup_replicate] at hnodup
  omega

namespace Klines

/-- A row without its time, if that is illegible. -/
def blot (illegible : Finset Int) : Json → Json
  | .arr (.int k :: cells) => .arr ((if k ∈ illegible then .null else .int k) :: cells)
  | row => row

/-- An answer with the rows of illegible times blotted. -/
def blotRows (illegible : Finset Int) : Json → Json
  | .arr rows => .arr (rows.map (blot illegible))
  | answer => answer

/-- A world in which the rows of illegible times have lost them. -/
def blotted {σ : Type} (illegible : Finset Int) (world : World σ) : World σ where
  withdrawn := world.withdrawn
  answer state call :=
    ((world.answer state call).1.map (blotRows illegible), (world.answer state call).2)

variable {kept illegible : Finset Int}

theorem legibleExcept_blot {row : Json} {k : Int} (h : WellFormed row k) :
    LegibleExcept illegible Reading.first 1 WellFormed (blot illegible row) k := by
  match row, h with
  | .arr (.int l :: cells), h =>
    obtain rfl : l = k := by simpa [Reading.item] using h.opens
    by_cases hk : l ∈ illegible
    · rw [LegibleExcept, if_pos hk, blot, if_pos hk]
      rfl
    · rw [LegibleExcept, if_neg hk, blot, if_neg hk]
      exact h

theorem Keeps.blotted {σ : Type} {world : World σ} (h : Keeps kept world) (illegible : Finset Int) :
    service.Serves kept illegible (blotted illegible world) := by
  refine ⟨h.patient, fun state call shown hshown => ?_⟩
  simp only [service] at hshown
  split at hshown
  · next start stop limit hstart hstop hlimit =>
    cases hshown
    obtain ⟨rows, hanswer, hrows⟩ := h.answers state call start stop limit hstart hstop hlimit
    refine ⟨_, rows.map (blot illegible), _, ?_, rfl,
      List.forall₂_map_left_iff.2 (hrows.imp fun _ _ => legibleExcept_blot), rfl⟩
    simp only [Klines.blotted, hanswer, Except.map, blotRows]
  · cases hshown

theorem openTimes_twoThousand : openTimes twoThousand 0 (2000 * minuteMs) =
    (List.range 2000).map fun n : Nat => (n : Int) * minuteMs := by
  have hminute : (0 : Int) < minuteMs := by decide
  have hpairs : ((List.range 2000).map fun n : Nat => (n : Int) * minuteMs).Pairwise (· < ·) :=
    List.pairwise_map.2 (List.pairwise_lt_range.imp fun hlt =>
      Int.mul_lt_mul_of_pos_right (Int.ofNat_lt.2 hlt) hminute)
  have hlist : twoThousand = ((List.range 2000).map fun n : Nat => (n : Int) * minuteMs).toFinset := by
    ext k
    simp [twoThousand]
  rw [openTimes, hlist, (List.toFinset_sort _ (hpairs.imp Int.ne_of_lt)).2 (hpairs.imp Int.le_of_lt)]
  refine List.filter_eq_self.2 fun k hk => ?_
  obtain ⟨n, hn, rfl⟩ := List.mem_map.1 hk
  have hn := List.mem_range.1 hn
  unfold minuteMs
  simp
  omega

theorem take_openTimes_twoThousand : (openTimes twoThousand 0 (2000 * minuteMs)).take 1000 =
    ((List.range 999).map fun n : Nat => (n : Int) * minuteMs) ++ [999 * minuteMs] := by
  rw [openTimes_twoThousand, ← List.map_take, List.take_range, min_eq_left (by decide), List.range_succ,
    List.map_append]
  rfl

/-- The first two thousand minutes, and the last row of the first page illegible. -/
theorem not_legible_twoThousand :
    service.PagesLegible twoThousand {999 * minuteMs}
      (pager Binance.spot (Symbol.join "BTC" "USDT" "") twoThousandRequest) ∧
    ¬ ∃ cs, ((fetch Binance.spot (Symbol.join "BTC" "USDT" "") twoThousandRequest).run
          (blotted {999 * minuteMs} (minutes twoThousand)) ()).outcome = .ok cs ∧
        twoThousandRequest.Legible 1 twoThousand {999 * minuteMs} cs := by
  constructor
  · intro cursor shown hshown
    obtain rfl : (openTimes twoThousand cursor (2000 * minuteMs)).take 1000 = shown :=
      Option.some.inj hshown
    refine exists_legible_of_take (by decide)
      ((pairwise_openTimes twoThousand cursor _).imp Int.ne_of_lt) (fun hbad => ?_)
      (by decide : 1000 * minuteMs ≠ 999 * minuteMs)
    obtain ⟨-, hlow, hhigh⟩ := mem_openTimes.1 hbad
    refine mem_openTimes.2 ⟨Finset.mem_image.2 ⟨1000, by simp, rfl⟩, ?_, by decide⟩
    exact Int.le_trans hlow (by decide)
  · rintro ⟨cs, houtcome, hlegible⟩
    have hsmall : ∀ k ∈ twoThousand, k.natAbs ≤ 2 ^ 53 := fun k hk =>
      Nat.le_trans (natAbs_le_of_mem_twoThousand hk) (by decide)
    obtain ⟨cs', houtcome', hstarts⟩ := fetch_of_illegible_last
      ((keeps_minutes fun _ => natAbs_le_of_mem_twoThousand).blotted {999 * minuteMs}) hsmall Binance.spot
      _ twoThousandRequest (by decide) take_openTimes_twoThousand (by decide) ()
    obtain rfl : cs = cs' := Except.ok.inj (houtcome.symm.trans houtcome')
    obtain ⟨c, hc, hstart⟩ := hlegible.all (1000 * minuteMs)
      (Finset.mem_image.2 ⟨1000, by simp, rfl⟩) (by decide) (by decide) (by decide)
    have hmem : 1000 * minuteMs ∈ (openTimes twoThousand 0 (2000 * minuteMs)).take 1000 := by
      have hmem := hstarts ▸ List.mem_map_of_mem hc
      rw [take_openTimes_twoThousand]
      rw [hstart, Int.mul_one] at hmem
      exact List.mem_of_mem_filter hmem
    rw [openTimes_twoThousand, ← List.map_take, List.take_range] at hmem
    obtain ⟨n, hn, heq⟩ := List.mem_map.1 hmem
    have hn := List.mem_range.1 hn
    unfold minuteMs at heq
    omega

end Klines

namespace Kucoin

/-- A request for the first three minutes. -/
def threeMinutes : FetchRequest :=
  ⟨⟨.kucoin, .spot⟩, "BTC", "USDT", 0, 180000, "1min", "1m", minuteMs⟩

/-- Three minutes, of which the middle one is illegible, and two rows on a page: the first page shows
    the legible one on its cursor and the illegible one. -/
theorem not_legible_threeMinutes :
    ((archive 2).service Reading.first).PagesLegible {60, 120, 180} {120} (pager threeMinutes) ∧
    ¬ ∃ cs, ((fetch threeMinutes).run ((archive 2).shelf answerOf (rowExcept {120}) {60, 120, 180}) ()).outcome =
        .ok cs ∧ threeMinutes.Legible 1000 {60, 120, 180} {120} cs := by
  have hcap : 2 ≤ 2 := Nat.le_refl 2
  constructor
  · intro cursor shown hshown
    simp only [Archive.service, (fits threeMinutes hcap).window, Option.map_some, Option.some.injEq]
      at hshown
    subst hshown
    refine exists_legible_of_take hcap (Finset.sort_nodup _ _) (fun hbad => ?_)
      (by decide : (60 : Int) ≠ 120)
    rw [Finset.mem_sort, Finset.mem_filter, asked_between_iff] at hbad ⊢
    have hstart : threeMinutes.startSecond = 0 := rfl
    exact ⟨by decide, by omega, by omega⟩
  · rintro ⟨cs, houtcome, hlegible⟩
    have hshown : newest 2 (({60, 120, 180} : Finset Int).filter fun k =>
        threeMinutes.startSecond ≤ k && k ≤ threeMinutes.stopSecond) = [180, 120] := by
      have hlist : (({60, 120, 180} : Finset Int).filter fun k =>
          threeMinutes.startSecond ≤ k && k ≤ threeMinutes.stopSecond) = [180, 120, 60].toFinset := by decide
      rw [newest, hlist, (List.toFinset_sort _ (by decide)).2 (by decide)]
      rfl
    have hstalled : ∀ k ∈ newest 2 (({60, 120, 180} : Finset Int).filter fun k =>
        threeMinutes.startSecond ≤ k && k ≤ threeMinutes.stopSecond), k ∉ ({120} : Finset Int) →
          k = threeMinutes.stopSecond := by
      rw [hshown]
      decide
    obtain ⟨cs', houtcome', hstarts⟩ := fetch_of_stalled hcap (serves_shelf 2 {60, 120, 180} {120})
      (by decide) threeMinutes (by decide) hstalled ()
    obtain rfl : cs = cs' := Except.ok.inj (houtcome.symm.trans houtcome')
    obtain ⟨c, hc, hstart⟩ := hlegible.all 60 (by decide) (by decide) (by decide) (by decide)
    exact absurd (hstart.symm.trans (hstarts c hc)) (by decide)

/-- A request for half a second. -/
def halfSecond : FetchRequest :=
  ⟨⟨.kucoin, .spot⟩, "BTC", "USDT", 5000, 5500, "1min", "1m", minuteMs⟩

theorem not_legible_halfSecond :
    ¬ ∃ cs, ((fetch halfSecond).run ((archive 2).shelf answerOf rowOf {5}) ()).outcome = .ok cs ∧
      halfSecond.Legible 1000 {5} ∅ cs := by
  rintro ⟨cs, houtcome, hlegible⟩
  have hempty : halfSecond.stopSecond ≤ halfSecond.startSecond := by decide
  rw [fetch, Pager.outcome_backward_of_le hempty] at houtcome
  cases houtcome
  obtain ⟨c, hc, -⟩ := hlegible.all 5 (by decide) (by decide) (by decide) (by decide)
  exact absurd hc List.not_mem_nil

end Kucoin

/-- It is not enough that each page shows something legible. The first page of two thousand minutes ends
    with an illegible row, and so it is the last one; a page of two minutes has no legible row but the one
    on its cursor, and is the last one, too. And within one second nothing is asked for at all. -/
theorem Exchange.fetch_not_legible :
    (Klines.service.PagesLegible Klines.twoThousand {999 * minuteMs}
        (Klines.pager Binance.spot (Symbol.join "BTC" "USDT" "") Klines.twoThousandRequest) ∧
      ¬ ∃ cs, ((Exchange.binance.fetch Klines.twoThousandRequest).run
            (Klines.blotted {999 * minuteMs} (Klines.minutes Klines.twoThousand)) ()).outcome = .ok cs ∧
          Klines.twoThousandRequest.Legible 1 Klines.twoThousand {999 * minuteMs} cs) ∧
    (((Kucoin.archive 2).service Reading.first).PagesLegible {60, 120, 180} {120}
        (Kucoin.pager Kucoin.threeMinutes) ∧
      ¬ ∃ cs, ((Exchange.kucoin.fetch Kucoin.threeMinutes).run
            ((Kucoin.archive 2).shelf Kucoin.answerOf (Kucoin.rowExcept {120}) {60, 120, 180}) ()).outcome =
              .ok cs ∧
          Kucoin.threeMinutes.Legible 1000 {60, 120, 180} {120} cs) ∧
    ¬ ∃ cs, ((Exchange.kucoin.fetch Kucoin.halfSecond).run
          ((Kucoin.archive 2).shelf Kucoin.answerOf Kucoin.rowOf {5}) ()).outcome = .ok cs ∧
        Kucoin.halfSecond.Legible 1000 {5} ∅ cs :=
  ⟨Klines.not_legible_twoThousand, Kucoin.not_legible_threeMinutes, Kucoin.not_legible_halfSecond⟩

end Candlestick
