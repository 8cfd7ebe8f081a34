import Mathlib.Data.List.Nodup
import Candlestick.Proofs.Market.Interval

set_option autoImplicit false

/-! # The plan of a timeframe

A table names no timeframe twice (`IntervalTable.IsMap`), and an empty name is no name
(`IntervalTable.Serves`). Then a plan asks for the longest of the served timeframes whose length divides
that of the timeframe (`IntervalTable.Plans`). There is one such plan as soon as any served length divides
the timeframe's, and no other (`IntervalTable.resolve_eq_some_iff`), so the order of a table has no part
in it. -/

namespace Candlestick

namespace IntervalTable

/-- No timeframe is listed twice. -/
def IsMap (table : IntervalTable) : Prop := (table.map (·.1)).Nodup

instance (table : IntervalTable) : Decidable table.IsMap := inferInstanceAs (Decidable (List.Nodup _))

/-- A timeframe is listed under a name that is not empty. -/
def Serves (table : IntervalTable) (t : TimeFrame) (name : String) : Prop :=
  (t, name) ∈ table ∧ name ≠ ""

/-- A plan asks for a served timeframe, the timeframe is made of whole candles of it, and no longer one
    that is served would do. -/
structure Plans (table : IntervalTable) (t : TimeFrame) (plan : IntervalPlan) : Prop where
  serves : table.Serves plan.base plan.interval
  whole : plan.group * plan.base.ms = t.ms
  longest : ∀ b name, table.Serves b name → b.ms ∣ t.ms → b.ms ≤ plan.base.ms

variable {table other : IntervalTable} {t : TimeFrame} {plan : IntervalPlan}

/-! ## Names -/

theorem IsMap.eq_of_mem (h : table.IsMap) {t : TimeFrame} {name name' : String}
    (hname : (t, name) ∈ table) (hname' : (t, name') ∈ table) : name = name' :=
  congrArg Prod.snd (List.inj_on_of_nodup_map h hname hname' rfl)

theorem lookup_eq_some_iff_mem (h : table.IsMap) {name : String} :
    table.lookup t = some name ↔ (t, name) ∈ table := by
  constructor
  · intro hlookup
    obtain ⟨before, after, rfl, -⟩ := List.lookup_eq_some_iff.1 hlookup
    exact List.mem_append_right _ List.mem_cons_self
  · intro hmem
    cases hlookup : table.lookup t with
    | none => exact absurd (List.lookup_eq_none_iff.1 hlookup _ hmem) (by simp)
    | some name' =>
      obtain ⟨before, after, hsplit, -⟩ := List.lookup_eq_some_iff.1 hlookup
      have hmem' : (t, name') ∈ table := by
        rw [hsplit]
        exact List.mem_append_right _ List.mem_cons_self
      rw [h.eq_of_mem hmem' hmem]

theorem name?_eq_some_iff (h : table.IsMap) {name : String} :
    table.name? t = some name ↔ table.Serves t name := by
  rw [name?, Option.filter_eq_some_iff, lookup_eq_some_iff_mem h, Serves, decide_eq_true_eq]

theorem IsMap.perm (h : table.IsMap) (hperm : table.Perm other) : other.IsMap :=
  (hperm.map _).nodup_iff.1 h

/-! ## The longest candidate -/

/-- Of a candidate and the one before it the longer is left. -/
theorem exists_longer (best : Option (TimeFrame × String)) (candidate : TimeFrame × String) :
    ∃ x, longer best candidate = some x ∧ candidate.1.ms ≤ x.1.ms ∧
      ∀ y, best = some y → y.1.ms ≤ x.1.ms := by
  cases best with
  | none => exact ⟨candidate, rfl, Int.le_refl _, fun y hy => absurd hy (by simp)⟩
  | some y =>
    by_cases hlt : y.1.ms < candidate.1.ms
    · refine ⟨candidate, if_pos hlt, Int.le_refl _, fun z hz => ?_⟩
      obtain rfl := Option.some.inj hz
      exact Int.le_of_lt hlt
    · refine ⟨y, if_neg hlt, Int.not_lt.1 hlt, fun z hz => ?_⟩
      obtain rfl := Option.some.inj hz
      exact Int.le_refl _

/-- So a list of candidates leaves one, unless there is none, and none is longer. -/
theorem exists_foldl_longer (best : Option (TimeFrame × String)) (h : best ≠ none ∨ table ≠ []) :
    ∃ x, table.foldl longer best = some x ∧ (∀ y, best = some y → y.1.ms ≤ x.1.ms) ∧
      ∀ y ∈ table, y.1.ms ≤ x.1.ms := by
  induction table generalizing best with
  | nil =>
    obtain ⟨x, rfl⟩ := Option.ne_none_iff_exists'.1 (h.resolve_right (fun hne => hne rfl))
    refine ⟨x, rfl, fun y hy => ?_, by simp⟩
    obtain rfl := Option.some.inj hy
    exact Int.le_refl _
  | cons candidate rest ih =>
    obtain ⟨x, hx, hcandidate, hbest⟩ := exists_longer best candidate
    obtain ⟨z, hz, hlonger, hrest⟩ := ih (longer best candidate) (Or.inl (by simp [hx]))
    have hxz := hlonger x hx
    exact ⟨z, hz, fun y hy => Int.le_trans (hbest y hy) hxz,
      List.forall_mem_cons.2 ⟨Int.le_trans hcandidate hxz, hrest⟩⟩

/-- What is looked through for a base: the served timeframes whose length divides the timeframe's. -/
theorem mem_candidates {b : TimeFrame} {name : String} :
    (b, name) ∈ table.filter (fun (b, name) => name ≠ "" && b.ms ≤ t.ms && t.ms % b.ms = 0) ↔
      table.Serves b name ∧ b.ms ∣ t.ms := by
  simp only [List.mem_filter, Bool.and_eq_true, decide_eq_true_eq, Serves, and_assoc]
  refine and_congr_right fun hmem => and_congr_right fun hname => ?_
  constructor
  · rintro ⟨-, hmod⟩
    exact Int.dvd_of_emod_eq_zero hmod
  · intro hdvd
    exact ⟨Int.le_of_dvd t.ms_pos hdvd, Int.emod_eq_zero_of_dvd hdvd⟩

/-- The base is found as soon as there is a candidate, and it is the longest one. -/
theorem exists_base {b : TimeFrame} {name : String} (hserves : table.Serves b name)
    (hdvd : b.ms ∣ t.ms) :
    ∃ base interval, table.base? t = some (base, interval) := by
  have hne := List.ne_nil_of_mem (mem_candidates.2 ⟨hserves, hdvd⟩)
  obtain ⟨x, hx, -⟩ := exists_foldl_longer none (Or.inr hne)
  exact ⟨x.1, x.2, hx⟩

theorem base_spec {base : TimeFrame} {interval : String} (h : table.base? t = some (base, interval)) :
    (table.Serves base interval ∧ base.ms ∣ t.ms) ∧
      ∀ b name, table.Serves b name → b.ms ∣ t.ms → b.ms ≤ base.ms := by
  unfold base? at h
  have hmem := (mem_of_foldl_longer h).resolve_left (by simp)
  refine ⟨mem_candidates.1 hmem, fun b name hserves hdvd => ?_⟩
  have hcandidate := mem_candidates.2 ⟨hserves, hdvd⟩
  obtain ⟨x, hx, -, hall⟩ := exists_foldl_longer none (Or.inr (List.ne_nil_of_mem hcandidate))
  obtain rfl := Option.some.inj (hx.symm.trans h)
  exact hall _ hcandidate

/-! ## Plans -/

theorem Plans.dvd (h : table.Plans t plan) : plan.base.ms ∣ t.ms :=
  ⟨plan.group, by rw [← h.whole, Int.mul_comm]⟩

/-- A base that is not the timeframe itself is shorter, -/
theorem Plans.base_lt (h : table.Plans t plan) (hne : plan.base ≠ t) : plan.base.ms < t.ms :=
  Int.lt_iff_le_and_ne.2 ⟨Int.le_of_dvd t.ms_pos h.dvd, fun heq => hne (TimeFrame.ms_injective heq)⟩

/-- and then it takes two candles or more. -/
theorem Plans.two_le_group (h : table.Plans t plan) (hlt : plan.base.ms < t.ms) : 2 ≤ plan.group := by
  by_contra hone
  have hle : plan.group * plan.base.ms ≤ 1 * plan.base.ms :=
    Int.mul_le_mul_of_nonneg_right (by omega) (Int.le_of_lt plan.base.ms_pos)
  rw [h.whole, Int.one_mul] at hle
  omega

/-- There is no more than one plan. -/
theorem Plans.unique (hmap : table.IsMap) {plan plan' : IntervalPlan} (h : table.Plans t plan)
    (h' : table.Plans t plan') : plan = plan' := by
  have hms : plan.base.ms = plan'.base.ms :=
    Int.le_antisymm (h'.longest _ _ h.serves h.dvd) (h.longest _ _ h'.serves h'.dvd)
  have hbase := TimeFrame.ms_injective hms
  have hinterval : plan.interval = plan'.interval :=
    hmap.eq_of_mem h.serves.1 (hbase ▸ h'.serves.1)
  have hgroup : plan.group = plan'.group := by
    refine Int.eq_of_mul_eq_mul_right (Int.ne_of_gt plan.base.ms_pos) ?_
    rw [h.whole, hms, h'.whole]
  calc plan = ⟨plan.interval, plan.base, plan.group⟩ := rfl
    _ = ⟨plan'.interval, plan'.base, plan'.group⟩ := by rw [hinterval, hbase, hgroup]
    _ = plan' := rfl

/-- A timeframe that is served is its own base: nothing that divides it is longer. -/
theorem plans_of_serves {name : String} (h : table.Serves t name) : table.Plans t ⟨name, t, 1⟩ where
  serves := h
  whole := Int.one_mul _
  longest _ _ _ hdvd := Int.le_of_dvd t.ms_pos hdvd

theorem plans_of_resolve (hmap : table.IsMap) (h : table.resolve t = some plan) : table.Plans t plan := by
  unfold resolve at h
  split at h
  · rename_i name hname
    obtain rfl := Option.some.inj h
    exact plans_of_serves ((name?_eq_some_iff hmap).1 hname)
  · obtain ⟨⟨base, interval⟩, hbase, rfl⟩ := Option.map_eq_some_iff.1 h
    obtain ⟨⟨hserves, hdvd⟩, hlongest⟩ := base_spec hbase
    exact ⟨hserves, Int.ediv_mul_cancel hdvd, hlongest⟩

/-- There is a plan as soon as a served length divides the timeframe's. -/
theorem exists_resolve {b : TimeFrame} {name : String} (hserves : table.Serves b name)
    (hdvd : b.ms ∣ t.ms) : ∃ plan, table.resolve t = some plan := by
  unfold resolve
  split
  · exact ⟨_, rfl⟩
  · obtain ⟨base, interval, hbase⟩ := exists_base hserves hdvd
    rw [hbase]
    exact ⟨_, rfl⟩

theorem resolve_eq_some_iff (hmap : table.IsMap) : table.resolve t = some plan ↔ table.Plans t plan := by
  constructor
  · exact plans_of_resolve hmap
  · intro h
    obtain ⟨plan', hplan'⟩ := exists_resolve h.serves h.dvd
    rw [hplan', (plans_of_resolve hmap hplan').unique hmap h]

/-- The order of a table has no part in the plan. -/
theorem resolve_perm (hmap : table.IsMap) (hperm : table.Perm other) :
    other.resolve t = table.resolve t := by
  have hserves : ∀ b name, other.Serves b name ↔ table.Serves b name := fun b name =>
    and_congr_left' hperm.mem_iff.symm
  refine Option.ext fun plan => ?_
  rw [resolve_eq_some_iff hmap, resolve_eq_some_iff (hmap.perm hperm)]
  constructor
  · rintro ⟨hbase, hwhole, hlongest⟩
    exact ⟨(hserves _ _).1 hbase, hwhole, fun b name h => hlongest b name ((hserves b name).2 h)⟩
  · rintro ⟨hbase, hwhole, hlongest⟩
    exact ⟨(hserves _ _).2 hbase, hwhole, fun b name h => hlongest b name ((hserves b name).1 h)⟩

end IntervalTable

namespace Registry

/-- The table of a source serves a timeframe under a name. -/
def Serves (r : Registry) (s : Source) (t : TimeFrame) (name : String) : Prop :=
  ∃ table, r.table? s = some table ∧ table.Serves t name

/-- Two registries list the same exchanges, and the same in each table, in whatever order. -/
structure Reordered (r r' : Registry) : Prop where
  exchanges : ∀ e, (r'.tables e).isSome = (r.tables e).isSome
  tables : ∀ s, Option.Rel List.Perm (r.table? s) (r'.table? s)

variable {r : Registry} {s : Source} {t : TimeFrame}

theorem serves_of_table {table : IntervalTable} (htable : r.table? s = some table) {b : TimeFrame}
    {name : String} : r.Serves s b name ↔ table.Serves b name := by
  simp [Serves, htable]

theorem resolve_of_table {table : IntervalTable} (htable : r.table? s = some table) (t : TimeFrame) :
    r.resolve s t = table.resolve t := by
  rw [resolve, htable, Option.bind_some]

/-- The table that a plan comes from. -/
theorem exists_table {plan : IntervalPlan} (h : r.resolve s t = some plan) :
    ∃ table, r.table? s = some table ∧ table.resolve t = some plan :=
  Option.bind_eq_some_iff.1 h

theorem Reordered.resolve {r' : Registry} (h : r.Reordered r')
    (hmap : ∀ table, r.table? s = some table → table.IsMap) (t : TimeFrame) :
    r'.resolve s t = r.resolve s t := by
  have htables := h.tables s
  cases htable : r.table? s with
  | none =>
    rw [htable] at htables
    cases htable' : r'.table? s with
    | none => rw [Registry.resolve, Registry.resolve, htable, htable']
    | some table' => exact absurd (htable' ▸ htables) (by rintro ⟨⟩)
  | some table =>
    rw [htable] at htables
    cases htable' : r'.table? s with
    | none => exact absurd (htable' ▸ htables) (by rintro ⟨⟩)
    | some table' =>
      rw [htable', Option.rel_some_some] at htables
      rw [resolve_of_table htable, resolve_of_table htable',
        IntervalTable.resolve_perm (hmap table htable) htables]

theorem Reordered.plan {r' : Registry} (h : r.Reordered r')
    (hmap : ∀ table, r.table? s = some table → table.IsMap) (t : TimeFrame) :
    r'.plan s t = r.plan s t := by
  rw [Registry.plan, Registry.plan, h.resolve hmap, h.exchanges]

/-- A source has a plan for a timeframe exactly if a length that it serves divides the timeframe's. The plan
    asks for the timeframe itself if that is served, and for the longest one that divides it otherwise, two
    or more candles of which make one. The order of the tables does not matter, and where there is no plan
    the failure tells whether the exchange is listed. -/
theorem resolve_longest (hmap : ∀ table, r.table? s = some table → table.IsMap) (t : TimeFrame) :
    ((∃ plan, r.resolve s t = some plan) ↔ ∃ b name, r.Serves s b name ∧ b.ms ∣ t.ms) ∧
      (∀ name, r.Serves s t name → r.resolve s t = some ⟨name, t, 1⟩) ∧
      ((∀ name, ¬ r.Serves s t name) → ∀ plan, r.resolve s t = some plan →
        r.Serves s plan.base plan.interval ∧ plan.base.ms ∣ t.ms ∧ plan.base.ms < t.ms ∧
          (∀ b name, r.Serves s b name → b.ms ∣ t.ms → b.ms ≤ plan.base.ms) ∧
          2 ≤ plan.group ∧ plan.group * plan.base.ms = t.ms) ∧
      (∀ r', r.Reordered r' → r'.resolve s t = r.resolve s t ∧ r'.plan s t = r.plan s t) ∧
      (∀ plan, r.resolve s t = some plan → r.plan s t = .ok plan) ∧
      (r.resolve s t = none → r.tables s.exchange = none →
        r.plan s t = .error (.unsupportedSource s.exchange.name none)) ∧
      (r.resolve s t = none → r.tables s.exchange ≠ none →
        r.plan s t = .error (.unsupportedTimeFrame s.exchange.name s.market.name t.name)) := by
  refine ⟨⟨?_, ?_⟩, ?_, ?_, fun r' h => ⟨h.resolve hmap t, h.plan hmap t⟩, ?_, ?_, ?_⟩
  · rintro ⟨plan, hplan⟩
    obtain ⟨table, htable, hresolve⟩ := exists_table hplan
    have hplans := IntervalTable.plans_of_resolve (hmap table htable) hresolve
    exact ⟨_, _, (serves_of_table htable).2 hplans.serves, hplans.dvd⟩
  · rintro ⟨b, name, ⟨table, htable, hserves⟩, hdvd⟩
    rw [resolve_of_table htable]
    exact IntervalTable.exists_resolve hserves hdvd
  · rintro name ⟨table, htable, hserves⟩
    rw [resolve_of_table htable, IntervalTable.resolve_eq_some_iff (hmap table htable)]
    exact IntervalTable.plans_of_serves hserves
  · intro hnot plan hplan
    obtain ⟨table, htable, hresolve⟩ := exists_table hplan
    have hplans := IntervalTable.plans_of_resolve (hmap table htable) hresolve
    have hserves := (serves_of_table htable).2 hplans.serves
    have hne : plan.base ≠ t := fun heq => hnot plan.interval (heq ▸ hserves)
    have hless := hplans.base_lt hne
    exact ⟨hserves, hplans.dvd, hless, fun b name h => hplans.longest b name ((serves_of_table htable).1 h),
      hplans.two_le_group hless, hplans.whole⟩
  · intro plan hplan
    rw [Registry.plan, hplan]
  · intro hnone habsent
    rw [Registry.plan, hnone, habsent]
    rfl
  · intro hnone hlisted
    rw [Registry.plan, hnone]
    exact if_pos (Option.isSome_iff_ne_none.2 hlisted)

/-- One table may be put in another order. -/
theorem reordered_setTable (r : Registry) (s : Source) {table other : IntervalTable}
    (h : table.Perm other) : (r.setTable s table).Reordered (r.setTable s other) where
  exchanges e := by
    unfold setTable
    by_cases he : e = s.exchange <;> simp [he]
  tables s' := by
    unfold table? setTable
    by_cases he : s'.exchange = s.exchange
    · by_cases hm : s'.market = s.market
      · simpa [he, hm] using h
      · simp only [he, hm, if_true, if_false, Option.bind_some]
        cases (r.tables s.exchange).bind (· s'.market) with
        | none => exact .none
        | some table => exact .some (List.Perm.refl table)
    · simp only [he, if_false]
      cases (r.tables s'.exchange).bind (· s'.market) with
      | none => exact .none
      | some table => exact .some (List.Perm.refl table)

/-- Timeframes out of order, of which the hour has no name. -/
def jumbled : IntervalTable := [(.day1, "1440"), (.min15, "15"), (.hour1, ""), (.min1, "1"), (.min5, "5")]

/-- The registry where Kraken's spot market serves these. -/
def jumbledKraken (table : IntervalTable) : Registry := Registry.standard.setTable ⟨.kraken, .spot⟩ table

/-- An hour is then made of four quarters, in whatever order they are listed; and a registry without the
    exchange knows no plan for it. -/
theorem resolve_longest_hour :
    (∀ table, (jumbledKraken jumbled).table? ⟨.kraken, .spot⟩ = some table → table.IsMap) ∧
      (jumbledKraken jumbled).resolve ⟨.kraken, .spot⟩ .hour1 = some ⟨"15", .min15, 4⟩ ∧
      (∃ b name, (jumbledKraken jumbled).Serves ⟨.kraken, .spot⟩ b name ∧ b.ms ∣ TimeFrame.hour1.ms) ∧
      (jumbledKraken jumbled.reverse).resolve ⟨.kraken, .spot⟩ .hour1 = some ⟨"15", .min15, 4⟩ ∧
      (jumbledKraken jumbled).plan ⟨.kraken, .spot⟩ .hour1 = .ok ⟨"15", .min15, 4⟩ ∧
      ((jumbledKraken jumbled).unlist .kraken).plan ⟨.kraken, .spot⟩ .hour1 =
        .error (.unsupportedSource "kraken" none) := by
  have hmap : ∀ table, (jumbledKraken jumbled).table? ⟨.kraken, .spot⟩ = some table → table.IsMap := by
    rintro table ⟨⟩
    decide
  have hresolve : (jumbledKraken jumbled).resolve ⟨.kraken, .spot⟩ .hour1 = some ⟨"15", .min15, 4⟩ := by
    decide
  obtain ⟨hiff, -, -, hreordered, hplan, -, -⟩ := resolve_longest hmap .hour1
  have hreverse := hreordered (jumbledKraken jumbled.reverse)
    (reordered_setTable _ _ (List.reverse_perm jumbled).symm)
  obtain ⟨-, -, -, -, -, habsent, -⟩ :=
    resolve_longest (r := (jumbledKraken jumbled).unlist .kraken) (s := ⟨.kraken, .spot⟩)
      (by rintro table ⟨⟩) .hour1
  exact ⟨hmap, hresolve, hiff.1 ⟨_, hresolve⟩, hreverse.1.trans hresolve, hplan _ hresolve,
    habsent (by decide) (by decide)⟩

end Registry

end Candlestick
