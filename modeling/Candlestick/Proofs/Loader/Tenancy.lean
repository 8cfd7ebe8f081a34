import Candlestick.Proofs.Loader.Honest

set_option autoImplicit false

/-! # Whose candles a map may hold

The history of a session says for each timeframe who owns its map, and which loads may have put
candles into it: those for the owner since the map was last emptied, by clearing the cache or by a load
for another asset. If each of them was honest to its feed, every candle of the map is of the chart of
one of these feeds. -/

namespace Candlestick

/-- The owner of a timeframe, and the loads for the owner since the map was last emptied, the latest
    one first. -/
structure Tenancy where
  owner : Option String := none
  visits : List Visit := []

/-- The asset for which a visit claims its timeframe: none where the asset is blank, and none where
    there is no job. -/
def Visit.claim? (v : Visit) : Option String :=
  match v.request.asset? with
  | none => none
  | some asset =>
    match v.request.job v.registry v.settings v.now asset with
    | .error _ => none
    | .ok _ => some asset

/-- What an event makes of the tenancy of a timeframe. -/
def Tenancy.apply (t : TimeFrame) (tenancy : Tenancy) : Event → Tenancy
  | .clear => {}
  | .load v =>
    match v.claim? with
    | none => tenancy
    | some asset =>
      if v.request.timeFrame = t then
        ⟨some asset, v :: if tenancy.owner = some asset then tenancy.visits else []⟩
      else tenancy

namespace Session

/-- The tenancy of a timeframe after a session that began with the empty cache. -/
def tenancy (t : TimeFrame) (events : List Event) : Tenancy := events.foldl (Tenancy.apply t) {}

theorem tenancy_concat (t : TimeFrame) (events : List Event) (e : Event) :
    tenancy t (events ++ [e]) = (tenancy t events).apply t e := by
  rw [tenancy, List.foldl_append]
  rfl

end Session

/-- The loads whose candles a visit may find after a session. -/
def Visit.contributors (v : Visit) (events : List Event) : List Visit :=
  if (Session.tenancy v.request.timeFrame events).owner = some v.asset then
    (Session.tenancy v.request.timeFrame events).visits
  else []

/-- A visit leaves the cache as it is, or it has a job. -/
theorem Visit.claim?_cases (v : Visit) :
    (v.claim? = none ∧ ∀ cache, (v.load cache).cache = cache) ∨
      v.claim? = some v.asset ∧ ∃ plan job, v.Prepared plan job := by
  cases hasset : v.request.asset? with
  | none =>
    refine Or.inl ⟨by simp only [claim?, hasset], fun cache => ?_⟩
    rw [Visit.load, LoadRequest.load_of_blank hasset]
  | some asset =>
    cases hjob : v.request.job v.registry v.settings v.now asset with
    | error cause =>
      refine Or.inl ⟨by simp only [claim?, hasset, hjob], fun cache => ?_⟩
      rw [Visit.load, LoadRequest.load_of_no_job hasset hjob]
    | ok job =>
      obtain ⟨plan, hprep⟩ := Visit.prepared_of_job hasset hjob
      exact Or.inr ⟨by simp only [claim?, hprep.not_blank, hprep.job_eq], plan, job, hprep⟩

namespace Tenancy

variable {t : TimeFrame} {tenancy : Tenancy} {v : Visit}

theorem apply_of_none (h : v.claim? = none) : tenancy.apply t (.load v) = tenancy := by
  simp only [apply, h]

theorem apply_of_ne (h : v.request.timeFrame ≠ t) : tenancy.apply t (.load v) = tenancy := by
  simp only [apply, if_neg h]
  split <;> rfl

theorem apply_of_claim (hclaim : v.claim? = some v.asset) (ht : v.request.timeFrame = t) :
    tenancy.apply t (.load v) =
      ⟨some v.asset, v :: if tenancy.owner = some v.asset then tenancy.visits else []⟩ := by
  simp only [apply, hclaim, if_pos ht]

end Tenancy

/-- The loads of a tenancy were loads of the session, of the timeframe and for the owner. -/
theorem Session.mem_visits {t : TimeFrame} {events : List Event} {u : Visit}
    (hu : u ∈ (tenancy t events).visits) :
    Event.load u ∈ events ∧ u.request.timeFrame = t ∧ (tenancy t events).owner = some u.asset := by
  induction events using List.reverseRecOn with
  | nil => exact absurd hu (by simp [tenancy])
  | append_singleton events e ih =>
    have hkept : u ∈ (tenancy t events).visits →
        Event.load u ∈ events ++ [e] ∧ u.request.timeFrame = t ∧
          (tenancy t events).owner = some u.asset := fun hu =>
      ⟨List.mem_append_left _ (ih hu).1, (ih hu).2⟩
    rw [tenancy_concat] at hu ⊢
    cases e with
    | clear => exact absurd hu (by simp [Tenancy.apply])
    | load v =>
      rcases v.claim?_cases with ⟨hnone, -⟩ | ⟨hclaim, -⟩
      · rw [Tenancy.apply_of_none hnone] at hu ⊢
        exact hkept hu
      · by_cases ht : v.request.timeFrame = t
        · rw [Tenancy.apply_of_claim hclaim ht] at hu ⊢
          rcases List.mem_cons.1 hu with rfl | hu
          · exact ⟨by simp, ht, rfl⟩
          · split at hu
            · rename_i howner
              obtain ⟨hmem, htu, howner'⟩ := hkept hu
              exact ⟨hmem, htu, howner.symm.trans howner'⟩
            · exact absurd hu (by simp)
        · rw [Tenancy.apply_of_ne ht] at hu ⊢
          exact hkept hu

/-- A cache holds candles of its tenants' charts only. -/
structure Cache.Holds (cache : Cache) (feed : Visit → Feed) (t : TimeFrame) (tenancy : Tenancy) :
    Prop where
  owner_eq : cache.owner t = tenancy.owner
  charted : ∀ k c, (cache.candles t).get? k = some c →
    ∃ u ∈ tenancy.visits, ∃ plan, u.plan = .ok plan ∧ (feed u).chart plan u.asset t k = some c

theorem Cache.holds_empty (feed : Visit → Feed) (t : TimeFrame) : Cache.empty.Holds feed t {} where
  owner_eq := rfl
  charted k c hc := absurd hc (by simp [Cache.empty, Cache.candles])

/-- An honest visit leaves each map with candles of its tenants' charts. -/
theorem Cache.Holds.load {cache : Cache} {feed : Visit → Feed} {t : TimeFrame} {tenancy : Tenancy}
    (h : cache.Holds feed t tenancy) {v : Visit} (hhonest : v.Honest (feed v)) :
    (v.load cache).cache.Holds feed t (tenancy.apply t (.load v)) := by
  rcases v.claim?_cases with ⟨hnone, hcache⟩ | ⟨hclaim, plan, job, hprep⟩
  · rw [Tenancy.apply_of_none hnone, hcache]
    exact h
  obtain ⟨done, rest, results, state', -, -, hshelf, hother, -⟩ :=
    job.fillsPrefix_run v.registry v.settings.strict v.world cache v.state
  rw [← hprep.load, hprep.timeFrame, hprep.asset] at hshelf
  by_cases ht : v.request.timeFrame = t
  · subst ht
    rw [Tenancy.apply_of_claim hclaim rfl]
    refine ⟨by rw [Cache.owner, hshelf]; rfl, fun k c hc => ?_⟩
    rcases hhonest.mem_load hprep hc with hchart | hclaimed
    · exact ⟨v, List.mem_cons_self, plan, hprep.plan_eq, hchart⟩
    · obtain ⟨howner, hold⟩ := Cache.mem_claim_of_mem _ _ hclaimed
      obtain ⟨u, hu, hcharted⟩ := h.charted k c hold
      rw [h.owner_eq] at howner
      refine ⟨u, List.mem_cons_of_mem _ ?_, hcharted⟩
      rwa [if_pos howner]
  · have hsame : (v.load cache).cache.shelf t = cache.shelf t := by
      rw [hprep.load]
      refine hother t fun heq => ht ?_
      rw [heq, hprep.timeFrame]
    rw [Tenancy.apply_of_ne ht]
    refine ⟨by rw [Cache.owner, hsame]; exact h.owner_eq, fun k c hc => h.charted k c ?_⟩
    rwa [Cache.candles, hsame] at hc

/-- After a session of visits that are honest to their feeds, each map holds candles of its tenants'
    charts only. -/
theorem Session.holds_after (feed : Visit → Feed) (t : TimeFrame) (events : List Event)
    (hhonest : ∀ u, Event.load u ∈ events → u.Honest (feed u)) :
    (after events).Holds feed t (tenancy t events) := by
  induction events using List.reverseRecOn with
  | nil => exact Cache.holds_empty feed t
  | append_singleton events e ih =>
    rw [after_concat, tenancy_concat]
    cases e with
    | clear => exact Cache.holds_empty feed t
    | load v =>
      exact (ih fun u hu => hhonest u (List.mem_append_left _ hu)).load (hhonest v (by simp))

namespace Visit

variable {v : Visit} {events : List Event}

theorem mem_contributors {u : Visit} (hu : u ∈ v.contributors events) :
    Event.load u ∈ events ∧ u.request.timeFrame = v.request.timeFrame ∧ u.asset = v.asset := by
  rw [contributors] at hu
  split at hu
  · rename_i howner
    obtain ⟨hmem, ht, howner'⟩ := Session.mem_visits hu
    exact ⟨hmem, ht, Option.some.inj (howner'.symm.trans howner)⟩
  · exact absurd hu (by simp)

/-- What a visit finds in the cache is of the chart of one of the visits that may have put it there. -/
theorem claimed_of_honest (feed : Visit → Feed)
    (hhonest : ∀ u, Event.load u ∈ events → u.Honest (feed u)) {k : Int} {c : Candle}
    (hc : (v.claimed (Session.after events)).get? k = some c) :
    ∃ u ∈ v.contributors events, ∃ plan, u.plan = .ok plan ∧
      (feed u).chart plan v.asset v.request.timeFrame k = some c := by
  obtain ⟨howner, hold⟩ := Cache.mem_claim_of_mem _ _ hc
  have hholds := Session.holds_after feed v.request.timeFrame events hhonest
  rw [hholds.owner_eq] at howner
  obtain ⟨u, hu, plan, hplan, hchart⟩ := hholds.charted k c hold
  have hmem : u ∈ v.contributors events := by
    rwa [contributors, if_pos howner]
  rw [(mem_contributors hmem).2.2] at hchart
  exact ⟨u, hmem, plan, hplan, hchart⟩

end Visit

end Candlestick
