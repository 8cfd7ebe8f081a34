import Candlestick.Proofs.Loader.Fill
import Candlestick.Proofs.Loader.Reach
import Candlestick.Proofs.Market.Interval
import Candlestick.Proofs.Provider.Attention

set_option autoImplicit false

/-! # A load that is withdrawn is the beginning of the load that is not

Every gap asks its provider, and a withdrawal is noticed only before a question. So a withdrawal that
comes with the last call of a load, or later, changes nothing; one that comes earlier stops the load
right there, with the gaps in the cache that had been completed by then. -/

namespace Candlestick

variable {σ : Type}

namespace Job

variable {job : Job} {registry : Registry} {strict : Bool}
  {answer : σ → Call → Except Failure Json × σ}

/-! ## Filling gaps -/

theorem attentive_checkQuality (job : Job) (strict : Bool) (cs : List Candle) :
    (job.checkQuality strict cs).Attentive := by
  unfold checkQuality
  split
  · trivial
  · trivial
  · split <;> trivial

/-- The gaps that filling completes: how many calls had gone out by then, and the candles. -/
def ledger (job : Job) (registry : Registry) (strict : Bool) (world : World σ) (made : Nat)
    (state : σ) : List Gap → List (Nat × List Candle)
  | [] => []
  | gap :: rest =>
    let run := (job.fetchGap registry strict gap).run world state
    match run.outcome with
    | .error _ => []
    | .ok cs =>
      (made + run.calls.length, cs) ::
        job.ledger registry strict world (made + run.calls.length) run.state rest

/-- The candles of a ledger up to a number of calls, stored one gap after the other. -/
def enter (job : Job) (cache : Cache) (ledger : List (Nat × List Candle)) (calls : Nat) : Cache :=
  (ledger.filter (·.1 ≤ calls)).foldl (fun cache entry => cache.store job.timeFrame entry.2) cache

section Ledger

variable {world : World σ} {state : σ} {gap : Gap}

theorem ledger_of_error {cause : Failure}
    (h : ((job.fetchGap registry strict gap).run world state).outcome = .error cause) (made : Nat)
    (rest : List Gap) : job.ledger registry strict world made state (gap :: rest) = [] := by
  simp only [ledger, h]

theorem ledger_of_ok {cs : List Candle}
    (h : ((job.fetchGap registry strict gap).run world state).outcome = .ok cs) (made : Nat)
    (rest : List Gap) :
    job.ledger registry strict world made state (gap :: rest) =
      let run := (job.fetchGap registry strict gap).run world state
      (made + run.calls.length, cs) ::
        job.ledger registry strict world (made + run.calls.length) run.state rest := by
  simp only [ledger, h]

theorem le_of_mem_ledger {gaps : List Gap} {made : Nat} {entry : Nat × List Candle}
    (h : entry ∈ job.ledger registry strict world made state gaps) : made ≤ entry.1 := by
  induction gaps generalizing made state with
  | nil => exact absurd h (by simp [ledger])
  | cons gap rest ih =>
    cases hrun : ((job.fetchGap registry strict gap).run world state).outcome with
    | error cause =>
      rw [ledger_of_error hrun] at h
      exact absurd h (by simp)
    | ok cs =>
      rw [ledger_of_ok hrun] at h
      rcases List.mem_cons.1 h with rfl | h
      · exact Nat.le_add_right _ _
      · exact Nat.le_trans (Nat.le_add_right _ _) (ih h)

/-- A gap that is not completed within the calls enters nothing, nor does any gap after it. -/
theorem enter_ledger_of_lt {made calls : Nat} (cache : Cache) (rest : List Gap)
    (h : calls < made + ((job.fetchGap registry strict gap).run world state).calls.length) :
    job.enter cache (job.ledger registry strict world made state (gap :: rest)) calls = cache := by
  cases hrun : ((job.fetchGap registry strict gap).run world state).outcome with
  | error cause =>
    rw [ledger_of_error hrun]
    rfl
  | ok cs =>
    have hnone : (job.ledger registry strict world made state (gap :: rest)).filter (·.1 ≤ calls) =
        [] := by
      rw [ledger_of_ok hrun]
      refine List.filter_eq_nil_iff.2 fun entry hentry => ?_
      have hle : made + ((job.fetchGap registry strict gap).run world state).calls.length ≤ entry.1 := by
        rcases List.mem_cons.1 hentry with rfl | hentry
        · exact Nat.le_refl _
        · exact le_of_mem_ledger hentry
      simp only [decide_eq_true_eq]
      omega
    rw [enter, hnone]
    rfl

/-- A gap that is completed within the calls is stored first. -/
theorem enter_ledger_of_le {made calls : Nat} {cs : List Candle} (cache : Cache) (rest : List Gap)
    (hcs : ((job.fetchGap registry strict gap).run world state).outcome = .ok cs)
    (h : made + ((job.fetchGap registry strict gap).run world state).calls.length ≤ calls) :
    job.enter cache (job.ledger registry strict world made state (gap :: rest)) calls =
      job.enter (cache.store job.timeFrame cs)
        (job.ledger registry strict world
          (made + ((job.fetchGap registry strict gap).run world state).calls.length)
          ((job.fetchGap registry strict gap).run world state).state rest) calls := by
  rw [ledger_of_ok hcs]
  simp only [enter]
  rw [List.filter_cons_of_pos (by simpa using h), List.foldl_cons]

end Ledger

/-- Filling stores the gaps that it completes, and no others. -/
theorem enter_ledger {gaps : List Gap} {cache : Cache} {world : World σ} {state : σ} {made calls : Nat}
    (h : made + (job.fill registry strict world cache state gaps).1.calls.length ≤ calls) :
    job.enter cache (job.ledger registry strict world made state gaps) calls =
      (job.fill registry strict world cache state gaps).2 := by
  induction gaps generalizing cache state made with
  | nil => rfl
  | cons gap rest ih =>
    cases hrun : ((job.fetchGap registry strict gap).run world state).outcome with
    | error cause =>
      rw [ledger_of_error hrun, fill_of_error hrun]
      rfl
    | ok cs =>
      rw [fill_of_ok hrun] at h ⊢
      simp only [List.length_append] at h
      rw [enter_ledger_of_le cache rest hrun (by omega)]
      exact ih (by omega)

section Fill

variable {gaps : List Gap} {n : Nat}
  (hgaps : ∀ gap ∈ gaps, (job.fetchGap registry strict gap).Attentive)
include hgaps

/-- A withdrawal with the last call or after it makes no difference to filling. -/
theorem fill_impatient (cache : Cache) (state : σ) (made : Nat)
    (h : made + (job.fill registry strict (World.patient answer) cache state gaps).1.calls.length ≤ n) :
    job.fill registry strict (World.impatient answer n) cache (state, made) gaps =
      let full := job.fill registry strict (World.patient answer) cache state gaps
      (⟨full.1.outcome, full.1.calls, full.1.notes, (full.1.state, made + full.1.calls.length)⟩,
        full.2) := by
  induction gaps generalizing cache state made with
  | nil => rfl
  | cons gap rest ih =>
    have hgap := hgaps gap List.mem_cons_self
    cases hrun : ((job.fetchGap registry strict gap).run (World.patient answer) state).outcome with
    | error cause =>
      rw [fill_of_error hrun] at h ⊢
      have hcut := hgap.run_impatient answer state made h
      rw [fill_of_error (by rw [hcut]; exact hrun), hcut]
    | ok cs =>
      rw [fill_of_ok hrun] at h ⊢
      simp only [List.length_append] at h
      have hcut := hgap.run_impatient answer (n := n) state made (by omega)
      have hrest := ih (fun gap hmem => hgaps gap (List.mem_cons_of_mem _ hmem))
        (cache.store job.timeFrame cs)
        ((job.fetchGap registry strict gap).run (World.patient answer) state).state
        (made + ((job.fetchGap registry strict gap).run (World.patient answer) state).calls.length)
        (by omega)
      rw [fill_of_ok (by rw [hcut]; exact hrun), hcut]
      simp only [hrest, List.length_append, Nat.add_assoc]

/-- An earlier withdrawal stops it, with the gaps stored that had been completed. -/
theorem fill_impatient_of_lt (cache : Cache) (state : σ) (made : Nat) (hmade : made ≤ n)
    (hlt : n < made +
      (job.fill registry strict (World.patient answer) cache state gaps).1.calls.length) :
    let cut := job.fill registry strict (World.impatient answer n) cache (state, made) gaps
    cut.1.outcome = .error .aborted ∧
      cut.1.calls =
        (job.fill registry strict (World.patient answer) cache state gaps).1.calls.take (n - made) ∧
      cut.2 = job.enter cache (job.ledger registry strict (World.patient answer) made state gaps) n := by
  induction gaps generalizing cache state made with
  | nil => exact absurd hlt (Nat.not_lt.2 hmade)
  | cons gap rest ih =>
    have hgap := hgaps gap List.mem_cons_self
    rcases Nat.lt_or_ge n (made +
        ((job.fetchGap registry strict gap).run (World.patient answer) state).calls.length) with
      hstops | hgoes
    · -- The request is withdrawn while this gap is worked on.
      obtain ⟨houtcome, hcalls⟩ := hgap.run_impatient_of_lt answer state made hmade hstops
      obtain ⟨later, hlater⟩ :=
        job.exists_calls_fill registry strict (World.patient answer) gap rest cache state
      rw [fill_of_error houtcome, enter_ledger_of_lt cache rest hstops, hlater,
        List.take_append_of_le_length (by omega)]
      exact ⟨rfl, hcalls, rfl⟩
    · -- This gap is done with by then.
      have hcut := hgap.run_impatient answer state made hgoes
      cases hrun : ((job.fetchGap registry strict gap).run (World.patient answer) state).outcome with
      | error cause =>
        rw [fill_of_error hrun] at hlt
        exact absurd hlt (Nat.not_lt.2 hgoes)
      | ok cs =>
        rw [fill_of_ok hrun] at hlt ⊢
        simp only [List.length_append] at hlt
        obtain ⟨houtcome, hcalls, hcache⟩ := ih (fun gap hmem => hgaps gap (List.mem_cons_of_mem _ hmem))
          (cache.store job.timeFrame cs)
          ((job.fetchGap registry strict gap).run (World.patient answer) state).state
          (made + ((job.fetchGap registry strict gap).run (World.patient answer) state).calls.length)
          hgoes (by omega)
        rw [enter_ledger_of_le cache rest hrun hgoes, fill_of_ok (by rw [hcut]; exact hrun), hcut]
        have hall := List.take_of_length_le (i := n - made)
          (l := ((job.fetchGap registry strict gap).run (World.patient answer) state).calls) (by omega)
        refine ⟨houtcome, ?_, hcache⟩
        simp only [hcalls, List.take_append, hall, Nat.sub_sub]

end Fill

/-! ## Jobs -/

/-- A gap whose provider is prompt looks for a withdrawal only where there is something to ask. -/
theorem attentive_fetchGap {gap : Gap}
    (h : (registry.candles job.source job.asset job.quote (job.fetchStart gap) gap.stop
      job.timeFrame).Prompt) : (job.fetchGap registry strict gap).Attentive :=
  ⟨h.1.bind, h.2.bind (job.attentive_checkQuality strict)⟩

/-- The range that is fetched for a gap is one that every exchange is prompt for. -/
theorem Reaches.prompt_candles {plan : IntervalPlan} {now : Int} {gap : Gap}
    (h : job.Reaches now gap) (hnow : now ≤ Calendar.yearStart 9001)
    (hplan : registry.plan job.source job.timeFrame = .ok plan)
    (hfetched : registry.fetched job.source.exchange = true)
    (hspot : job.source.exchange = .coinbase → job.source.market = .spot) :
    (registry.candles job.source job.asset job.quote (job.fetchStart gap) gap.stop
      job.timeFrame).Prompt := by
  have hminute : minuteMs ∣ job.timeFrame.ms := Int.dvd_mul_left _ _
  have htimely : (plan.request job.source job.asset job.quote (job.fetchStart gap) gap.stop).Timely := {
    start_dvd := Int.dvd_trans hminute h.fetchStart_dvd
    stop_dvd := Int.dvd_trans hminute h.stop_dvd
    nonneg := h.nonneg
    lt := h.fetchStart_lt
    stop_le := by
      have hbegun := h.begun
      have hms := job.timeFrame.ms_le
      have hroom : Calendar.yearStart 9001 + 2592000000 ≤ Calendar.yearStart 9500 := by decide
      change gap.stop ≤ Calendar.yearStart 9500
      omega
    width_pos := plan.base.ms_pos
    width_le := Int.le_trans plan.base.ms_le (by decide) }
  rw [Registry.candles, hplan]
  exact (htimely.dated.prompt_fetch registry hfetched hspot).map

/-- The cache when the gaps of a job that are completed within some calls have been stored. -/
def cacheWithin (job : Job) (registry : Registry) (strict : Bool) (world : World σ) (cache : Cache)
    (state : σ) (calls : Nat) : Cache :=
  let cache := cache.claim job.timeFrame job.asset
  job.enter cache (job.ledger registry strict world 0 state (job.collect cache).2) calls

section Run

variable {cache : Cache} {state : σ} {n : Nat}
  (hgaps : ∀ gap ∈ (job.collect (cache.claim job.timeFrame job.asset)).2,
    (job.fetchGap registry strict gap).Attentive)
include hgaps

/-- A run that is withdrawn with its last call or later is the run that is not. -/
theorem run_impatient
    (h : (job.run registry strict (World.patient answer) cache state).calls.length ≤ n) :
    let full := job.run registry strict (World.patient answer) cache state
    let cut := job.run registry strict (World.impatient answer n) cache (state, 0)
    cut.outcome = full.outcome ∧ cut.calls = full.calls ∧ cut.cache = full.cache := by
  obtain ⟨houtcome, hcache, hcalls, -⟩ :=
    job.run_eq_fill registry strict (World.patient answer) cache state
  obtain ⟨houtcome', hcache', hcalls', -⟩ :=
    job.run_eq_fill registry strict (World.impatient answer n) cache (state, 0)
  rw [hcalls, ← Nat.zero_add (List.length _)] at h
  rw [fill_impatient hgaps _ _ _ h] at houtcome' hcache' hcalls'
  exact ⟨houtcome'.trans houtcome.symm, hcalls'.trans hcalls.symm, hcache'.trans hcache.symm⟩

/-- A run that is withdrawn earlier stops there. -/
theorem run_impatient_of_lt
    (h : n < (job.run registry strict (World.patient answer) cache state).calls.length) :
    let full := job.run registry strict (World.patient answer) cache state
    let cut := job.run registry strict (World.impatient answer n) cache (state, 0)
    cut.outcome = .error .aborted ∧ cut.calls = full.calls.take n ∧
      cut.cache = job.cacheWithin registry strict (World.patient answer) cache state n := by
  obtain ⟨-, -, hcalls, -⟩ := job.run_eq_fill registry strict (World.patient answer) cache state
  obtain ⟨houtcome', hcache', hcalls', -⟩ :=
    job.run_eq_fill registry strict (World.impatient answer n) cache (state, 0)
  rw [hcalls, ← Nat.zero_add (List.length _)] at h
  obtain ⟨houtcome, hprefix, hentered⟩ := fill_impatient_of_lt hgaps _ _ _ (Nat.zero_le n) h
  simp only [houtcome', hcache', hcalls', hcalls, houtcome, hprefix, hentered]
  exact ⟨rfl, rfl, rfl⟩

omit hgaps in
/-- A run that is not withdrawn has completed what it has completed within its own calls. -/
theorem cacheWithin_calls :
    job.cacheWithin registry strict (World.patient answer) cache state
        (job.run registry strict (World.patient answer) cache state).calls.length =
      (job.run registry strict (World.patient answer) cache state).cache := by
  obtain ⟨-, hcache, hcalls, -⟩ :=
    job.run_eq_fill registry strict (World.patient answer) cache state
  rw [hcalls, hcache]
  exact enter_ledger (Nat.le_of_eq (Nat.zero_add _))

end Run

end Job

namespace LoadRequest

variable {registry : Registry} {settings : LoaderSettings} {now : Int} {r : LoadRequest}

/-- Every gap of a load looks for a withdrawal only where there is something to ask. -/
theorem attentive_gaps {asset : String} {job : Job} (hset : settings.Accepted)
    (hnow : Calendar.yearStart 1970 ≤ now) (hnow' : now < Calendar.yearStart 9001)
    (hfetched : registry.fetched r.source.exchange = true)
    (hspot : r.source.exchange = .coinbase → r.source.market = .spot)
    (hjob : r.job registry settings now asset = .ok job) {cache : Cache} {gap : Gap}
    (hgap : gap ∈ (job.collect cache).2) (strict : Bool) :
    (job.fetchGap registry strict gap).Attentive := by
  obtain ⟨plan, hplan, hwindow, heq⟩ := job_eq_ok hjob
  have htimeFrame : job.timeFrame = r.timeFrame := by rw [heq]
  have hsource : job.source = r.source := by rw [heq]
  have hms := r.timeFrame.ms_le
  have hyear : Calendar.yearStart 9001 ≤ 2 ^ 53 := by decide
  have hsound := Window.sound_of_align_expand hset hnow (by omega) r.timeFrame.ms_pos (by omega) hwindow
  rw [← htimeFrame] at hplan hsound
  rw [← hsource] at hplan hfetched hspot
  exact Job.attentive_fetchGap
    ((Job.reaches hsound hgap).prompt_candles (by omega) hplan hfetched hspot)

/-- The cache of a load when the gaps that it completes within some calls have been stored. -/
def cacheWithin (r : LoadRequest) (registry : Registry) (settings : LoaderSettings) (now : Int)
    {σ : Type} (world : World σ) (cache : Cache) (state : σ) (calls : Nat) : Cache :=
  match r.asset? with
  | none => cache
  | some asset =>
    match r.job registry settings now asset with
    | .error _ => cache
    | .ok job => job.cacheWithin registry settings.strict world cache state calls

/-- A load that is withdrawn as a call goes out, against any answers, from any cache. If that is its
    last call, or one that it never makes, it ends as the load that is not withdrawn. Otherwise it has
    made just the calls up to that one, fails as withdrawn, and leaves the cache that the other load
    has after these calls: with the gaps that were completed within them, and no others. -/
theorem load_impatient (r : LoadRequest) (registry : Registry) (hset : settings.Accepted) (now : Int)
    (hnow : Calendar.yearStart 1970 ≤ now) (hnow' : now < Calendar.yearStart 9001)
    (hfetched : registry.fetched r.source.exchange = true)
    (hspot : r.source.exchange = .coinbase → r.source.market = .spot)
    (answer : σ → Call → Except Failure Json × σ) (cache : Cache) (state : σ) (n : Nat) :
    let full := r.load registry settings now (World.patient answer) cache state
    let cut := r.load registry settings now (World.impatient answer n) cache (state, 0)
    (full.calls.length ≤ n →
        cut.calls = full.calls ∧ cut.outcome = full.outcome ∧ cut.cache = full.cache) ∧
      (n < full.calls.length →
        cut.calls = full.calls.take n ∧ cut.outcome = .error .aborted ∧
          cut.cache = r.cacheWithin registry settings now (World.patient answer) cache state n) ∧
      full.cache =
        r.cacheWithin registry settings now (World.patient answer) cache state full.calls.length := by
  cases hasset : r.asset? with
  | none =>
    simp only [load_of_blank hasset, cacheWithin, hasset]
    exact ⟨fun _ => ⟨trivial, trivial, trivial⟩, fun h => absurd h (Nat.not_lt_zero n), trivial⟩
  | some asset =>
    cases hjob : r.job registry settings now asset with
    | error cause =>
      simp only [load_of_no_job hasset hjob, cacheWithin, hasset, hjob]
      exact ⟨fun _ => ⟨trivial, trivial, trivial⟩, fun h => absurd h (Nat.not_lt_zero n), trivial⟩
    | ok job =>
      have hgaps : ∀ gap ∈ (job.collect (cache.claim job.timeFrame job.asset)).2,
          (job.fetchGap registry settings.strict gap).Attentive := fun gap hgap =>
        attentive_gaps hset hnow hnow' hfetched hspot hjob hgap settings.strict
      simp only [load_of_job hasset hjob, cacheWithin, hasset, hjob]
      refine ⟨fun h => ?_, fun h => ?_, Job.cacheWithin_calls.symm⟩
      · obtain ⟨houtcome, hcalls, hcache⟩ := Job.run_impatient hgaps h
        exact ⟨hcalls, houtcome, hcache⟩
      · obtain ⟨houtcome, hcalls, hcache⟩ := Job.run_impatient_of_lt hgaps h
        exact ⟨hcalls, houtcome, hcache⟩

/-- Answers of one row, which opens where the question's range does. -/
def oneRow (state : Unit) (call : Call) : Except Failure Json × Unit :=
  (.ok (.arr [.arr ((call.params.lookup "startTime").getD .null :: List.replicate 5 (.int 1))]), state)

/-- A load of three hours. -/
def threeHours : LoadRequest := ⟨⟨.bitget, .spot⟩, .hour1, 3600000, 14400000, "BTC", none⟩

/-- A cache with the hour in the middle of the three. -/
def middleHour : Cache :=
  (Cache.empty.claim .hour1 "BTC").store .hour1
    [⟨7200000, 10800000, .zero, .zero, .zero, .zero, .zero, 0, "BTC", "1h"⟩]

/-- Of its two gaps the first is stored when the load is withdrawn with its first call. -/
theorem load_impatient_threeHours :
    let settings : LoaderSettings := { prefetchBuckets := 0 }
    let full := threeHours.load Registry.standard settings 18000000 (World.patient oneRow) middleHour ()
    let cut := threeHours.load Registry.standard settings 18000000 (World.impatient oneRow 1) middleHour
      ((), 0)
    full.calls.length = 2 ∧ cut.calls = full.calls.take 1 ∧ cut.outcome = .error .aborted ∧
      cut.cache = threeHours.cacheWithin Registry.standard settings 18000000 (World.patient oneRow)
        middleHour () 1 := by
  intro settings full cut
  have hcalls : full.calls.length = 2 := by decide +kernel
  have haccepted : settings.Accepted := ⟨by decide, by decide⟩
  have hcut := threeHours.load_impatient Registry.standard haccepted 18000000 (by decide) (by decide) rfl
    (by decide) oneRow middleHour () 1
  exact ⟨hcalls, hcut.2.1 (by rw [hcalls]; decide)⟩

end LoadRequest

end Candlestick
