import Candlestick.Proofs.Loader.Fetch
import Candlestick.Proofs.Loader.Fill
import Candlestick.Proofs.Text.Leg
import Mathlib.Data.List.Induction

set_option autoImplicit false

/-! # The cache over whole sessions

A session is any number of loads, each with its own registry, settings, time and world, and any number
of times that the cache is cleared. Whatever the providers answer and however the loads end, each
candle in the cache lies under its own start, belongs to the owner of its shelf and carries the label
of the timeframe. -/

namespace Candlestick

/-! ## Sessions -/

/-- One call of the loader, with all that it depends on beside the cache. -/
structure Visit where
  registry : Registry
  settings : LoaderSettings
  now : Int
  request : LoadRequest
  {σ : Type}
  world : World σ
  state : σ

/-- The load that a visit makes of a cache. -/
def Visit.load (v : Visit) (cache : Cache) : Load v.σ :=
  v.request.load v.registry v.settings v.now v.world cache v.state

/-- What happens in a session. -/
inductive Event where
  | load (v : Visit)
  | clear

/-- The cache after an event. -/
def Event.apply (cache : Cache) : Event → Cache
  | load v => (v.load cache).cache
  | clear => Cache.empty

/-- The cache after a session that began with the empty one. -/
def Session.after (events : List Event) : Cache := events.foldl Event.apply Cache.empty

theorem Session.after_concat (events : List Event) (e : Event) :
    after (events ++ [e]) = e.apply (after events) := by
  rw [after, List.foldl_append]
  rfl

/-! ## The invariant -/

/-- A text that is not blank, without blanks at its ends and in upper case. -/
structure Symbol.IsNormal (s : String) : Prop where
  not_blank : Text.strip s ≠ ""
  stripped : Text.strip s = s
  upper : Text.upper s = s

theorem Symbol.isNormal_leg {s : String} (hs : Text.strip s ≠ "") : IsNormal (leg s) where
  not_blank := by
    rw [strip_leg]
    exact leg_ne_empty hs
  stripped := strip_leg s
  upper := upper_leg s

/-- A map that is not empty has an owner, each of its candles lies under its own start, belongs to the
    owner and carries the timeframe's label, and owners are normal texts. -/
structure Cache.Sound (cache : Cache) : Prop where
  owned : ∀ t k c, (cache.candles t).get? k = some c →
    ∃ owner, cache.owner t = some owner ∧ c.start = k ∧ c.asset = owner ∧ c.label = t.label
  normal : ∀ t owner, cache.owner t = some owner → Symbol.IsNormal owner

theorem Cache.sound_empty : Cache.empty.Sound where
  owned t k c h := absurd h (by simp [Cache.empty, Cache.candles])
  normal t owner h := absurd h (by simp [Cache.empty, Cache.owner])

namespace Cache.Sound

variable {cache : Cache} {t : TimeFrame}

theorem byStart (h : cache.Sound) (t : TimeFrame) : (cache.candles t).ByStart := by
  intro k c hc
  obtain ⟨owner, -, hstart, -, -⟩ := h.owned t k c hc
  exact hstart

/-- The candles of a sound cache that a list for the owner gives are all of them. -/
theorem snapshot_eq (h : cache.Sound) {owner : String} (howner : cache.owner t = some owner) :
    cache.snapshot t owner = Series.sort (cache.candles t).values := by
  have hall : ∀ c ∈ (cache.candles t).values, c.asset = owner := by
    intro c hc
    obtain ⟨k, hk⟩ := CandleMap.mem_values.1 hc
    obtain ⟨owner', howner', -, hasset, -⟩ := h.owned t k c hk
    rw [howner] at howner'
    rw [hasset, ← Option.some.inj howner']
  rw [Cache.snapshot, CandleMap.sorted, List.filter_eq_self.2 (by simpa using hall)]

theorem ascending_values (h : cache.Sound) (t : TimeFrame) :
    Series.Ascending (Series.sort (cache.candles t).values) :=
  Series.ascending_sort (h.byStart t).values_pairwise

/-- Looking for a start among the candles in order is looking it up in the map. -/
theorem find?_sort (h : cache.Sound) (t : TimeFrame) (k : Int) :
    (Series.sort (cache.candles t).values).find? (·.start = k) = (cache.candles t).get? k := by
  have hmem : ∀ c, c ∈ Series.sort (cache.candles t).values ↔
      (cache.candles t).get? c.start = some c := fun c => by
    rw [Series.mem_sort, (h.byStart t).mem_values]
  cases hfind : (Series.sort (cache.candles t).values).find? (·.start = k) with
  | some c =>
    obtain rfl : c.start = k := by simpa using List.find?_some hfind
    rw [(hmem c).1 (List.mem_of_find?_eq_some hfind)]
  | none =>
    refine (Option.eq_none_iff_forall_not_mem.2 fun c hc => ?_).symm
    have hstart : c.start = k := h.byStart t k c hc
    subst hstart
    exact absurd (List.find?_eq_none.1 hfind c ((hmem c).2 hc)) (by simp)

end Cache.Sound

/-- Completed gaps hold candles of the job's asset and timeframe only. -/
theorem Job.Completed.tags {σ : Type} {job : Job} {registry : Registry} {strict : Bool}
    {world : World σ} {state state' : σ} {done : List Gap} {results : List (List Candle)}
    (h : job.Completed registry strict world state done results state') :
    ∀ cs ∈ results, ∀ c ∈ cs, c.asset = Symbol.leg job.asset ∧ c.label = job.timeFrame.label := by
  intro cs hcs
  have hall := h.forall₂ fun gap _ state cs hrun =>
    (registry.yields_candles job.source job.asset job.quote (job.fetchStart gap) gap.stop
      job.timeFrame).run world state hrun
  obtain ⟨_, _, htags⟩ := Job.exists_of_forall₂ hall cs hcs
  exact htags

/-- A job for a normal asset that is its own leg leaves a sound cache sound. -/
theorem Job.FillsPrefix.sound {σ : Type} {job : Job} {registry : Registry} {strict : Bool}
    {world : World σ} {cache : Cache} {state : σ} {load : Load σ}
    (h : job.FillsPrefix registry strict world cache state load) (hcache : cache.Sound)
    (hnormal : Symbol.IsNormal job.asset) : load.cache.Sound := by
  obtain ⟨done, rest, results, state', -, hdone, hshelf, hother, -⟩ := h
  have hleg : Symbol.leg job.asset = job.asset := by
    rw [Symbol.leg, hnormal.stripped, hnormal.upper]
  refine ⟨fun t k c hc => ?_, fun t owner howner => ?_⟩
  · by_cases ht : t = job.timeFrame
    · subst ht
      rw [Cache.candles_eq _ _ hshelf] at hc
      refine ⟨job.asset, by rw [Cache.owner, hshelf]; rfl, ?_⟩
      rcases CandleMap.get?_overlay_cases hc with ⟨cs, hcs, hmem, hstart⟩ | hold
      · obtain ⟨hasset, hlabel⟩ := hdone.tags cs hcs c hmem
        exact ⟨hstart, hasset.trans hleg, hlabel⟩
      · obtain ⟨howner, hold⟩ := cache.mem_claim_of_mem job.timeFrame hold
        obtain ⟨owner, howner', hstart, hasset, hlabel⟩ := hcache.owned _ _ _ hold
        rw [howner] at howner'
        exact ⟨hstart, hasset.trans (Option.some.inj howner').symm, hlabel⟩
    · rw [Cache.candles, hother t ht] at hc
      rw [Cache.owner, hother t ht]
      exact hcache.owned t k c hc
  · by_cases ht : t = job.timeFrame
    · subst ht
      rw [Cache.owner, hshelf] at howner
      obtain rfl := Option.some.inj howner
      exact hnormal
    · rw [Cache.owner, hother t ht] at howner
      exact hcache.normal t owner howner

/-- What a job returns is the whole map of its timeframe, in order of start. -/
theorem Job.FillsPrefix.returned {σ : Type} {job : Job} {registry : Registry} {strict : Bool}
    {world : World σ} {cache : Cache} {state : σ} {load : Load σ}
    (h : job.FillsPrefix registry strict world cache state load) (hsound : load.cache.Sound)
    {cs : List Candle} (hcs : load.outcome = .ok cs) :
    cs = Series.sort (load.cache.candles job.timeFrame).values := by
  obtain ⟨_, _, _, _, -, -, hshelf, -, ⟨-, houtcome, -⟩ | ⟨_, _, cause, -, houtcome, -⟩⟩ := h
  · rw [houtcome] at hcs
    rw [← Except.ok.inj hcs]
    exact hsound.snapshot_eq (by rw [Cache.owner, hshelf]; rfl)
  · rw [houtcome] at hcs
    exact absurd hcs (by simp)

/-- What a visit does to a sound cache: it leaves every other shelf as it is; for a blank asset it
    returns nothing and changes nothing; and otherwise, if it returns, it returns the whole map of its
    timeframe in order, each start once. -/
structure Visit.Serves (v : Visit) (cache : Cache) : Prop where
  others : ∀ t, t ≠ v.request.timeFrame → (v.load cache).cache.shelf t = cache.shelf t
  blank : v.request.asset? = none → (v.load cache).outcome = .ok [] ∧ (v.load cache).cache = cache
  whole : ∀ asset, v.request.asset? = some asset → ∀ cs, (v.load cache).outcome = .ok cs →
    cs = Series.sort ((v.load cache).cache.candles v.request.timeFrame).values ∧
      Series.Ascending cs ∧
      ∀ c, c ∈ cs ↔ ∃ k, ((v.load cache).cache.candles v.request.timeFrame).get? k = some c

/-- A visit leaves a sound cache sound and serves from it. -/
theorem Visit.sound_load (v : Visit) {cache : Cache} (hcache : cache.Sound) :
    (v.load cache).cache.Sound ∧ v.Serves cache := by
  cases hasset : v.request.asset? with
  | none =>
    have hload : v.load cache = ⟨.ok [], cache, none, [], [], v.state⟩ :=
      LoadRequest.load_of_blank hasset cache v.state
    rw [hload]
    refine ⟨hcache, ⟨?_, ?_, ?_⟩⟩ <;> rw [hload]
    · exact fun t _ => rfl
    · exact fun _ => ⟨rfl, rfl⟩
    · intro asset hsome
      rw [hasset] at hsome
      exact absurd hsome (by simp)
  | some asset =>
    cases hjob : v.request.job v.registry v.settings v.now asset with
    | error cause =>
      have hload : v.load cache = ⟨.error cause, cache, none, [], [], v.state⟩ :=
        LoadRequest.load_of_no_job hasset hjob cache v.state
      rw [hload]
      refine ⟨hcache, ⟨?_, ?_, ?_⟩⟩ <;> rw [hload]
      · exact fun t _ => rfl
      · intro hnone
        rw [hasset] at hnone
        exact absurd hnone (by simp)
      · intro _ _ cs hcs
        exact absurd hcs (by simp)
    | ok job =>
      have hload : v.load cache =
          job.run v.registry v.settings.strict v.world cache v.state :=
        LoadRequest.load_of_job hasset hjob cache v.state
      have hfills := job.fillsPrefix_run v.registry v.settings.strict v.world cache v.state
      rw [← hload] at hfills
      obtain ⟨plan, -, -, heq⟩ := LoadRequest.job_eq_ok hjob
      obtain ⟨hne, hleg⟩ := LoadRequest.asset?_eq_some.1 hasset
      have htimeFrame : job.timeFrame = v.request.timeFrame := by rw [heq]
      have hjobAsset : job.asset = asset := by rw [heq]
      have hnormal : Symbol.IsNormal job.asset := by
        rw [hjobAsset, hleg]
        exact Symbol.isNormal_leg hne
      have hsound := hfills.sound hcache hnormal
      refine ⟨hsound, ⟨fun t ht => ?_, ?_, ?_⟩⟩
      · obtain ⟨_, _, _, _, -, -, -, hother, -⟩ := hfills
        exact hother t (htimeFrame ▸ ht)
      · intro hnone
        rw [hasset] at hnone
        exact absurd hnone (by simp)
      · intro _ _ cs hcs
        have hcs' : cs = Series.sort ((v.load cache).cache.candles v.request.timeFrame).values := by
          rw [← htimeFrame]
          exact hfills.returned hsound hcs
        refine ⟨hcs', ?_, fun c => ?_⟩
        · rw [hcs']
          exact hsound.ascending_values _
        · rw [hcs', Series.mem_sort, CandleMap.mem_values]

theorem Session.sound_after (events : List Event) : (Session.after events).Sound := by
  induction events using List.reverseRecOn with
  | nil => exact Cache.sound_empty
  | append_singleton events e ih =>
    rw [Session.after_concat]
    cases e with
    | load v => exact (Visit.sound_load v ih).1
    | clear => exact Cache.sound_empty

/-- The cache is sound after every session, and every further load serves from it. -/
theorem session_sound (events : List Event) :
    (Session.after events).Sound ∧ ∀ v : Visit, v.Serves (Session.after events) := by
  have hsound := Session.sound_after events
  exact ⟨hsound, fun v => (Visit.sound_load v hsound).2⟩

/-! ## A session of two loads -/

/-- A load of the hour from one to two o'clock, when Bitget has one bar of it. -/
def Visit.oneHour (asset : String) : Visit where
  registry := Registry.standard
  settings := { prefetchBuckets := 0 }
  now := 7200000
  request := ⟨⟨.bitget, .spot⟩, .hour1, 3600000, 7200000, asset, none⟩
  world := {
    withdrawn := fun _ => false
    answer := fun _ _ =>
      (.ok (.arr [.arr [.int 3600000, .int 4, .int 6, .int 3, .int 5, .int 10]]), ()) }
  state := ()

/-- A load for a blank asset returns nothing, also where the map of its timeframe is not empty. -/
theorem blank_load_not_whole :
    ((Visit.oneHour " ").load (Session.after [.load (Visit.oneHour "btc")])).outcome = .ok [] ∧
      Series.sort (((Visit.oneHour " ").load
        (Session.after [.load (Visit.oneHour "btc")])).cache.candles .hour1).values ≠ [] := by
  have hload : (Visit.oneHour " ").load (Session.after [.load (Visit.oneHour "btc")]) =
      ⟨.ok [], Session.after [.load (Visit.oneHour "btc")], none, [], [], ()⟩ :=
    LoadRequest.load_of_blank (by decide +kernel) _ _
  have hsome : (((Session.after [.load (Visit.oneHour "btc")]).candles .hour1).get? 3600000).isSome =
      true := by
    decide +kernel
  obtain ⟨c, hc⟩ := Option.isSome_iff_exists.1 hsome
  generalize Session.after [.load (Visit.oneHour "btc")] = cache at hc hload ⊢
  rw [hload]
  refine ⟨rfl, fun hnil => ?_⟩
  have hmem := Series.mem_sort.2 (CandleMap.mem_values.2 ⟨_, hc⟩)
  rw [hnil] at hmem
  exact absurd hmem (by simp)

end Candlestick
