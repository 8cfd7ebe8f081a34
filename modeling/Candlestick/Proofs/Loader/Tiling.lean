import Candlestick.Proofs.Loader.Isolation
import Candlestick.Proofs.Loader.Listing

set_option autoImplicit false

/-! # Candles that follow each other without a break cover a window

A feed of candles each of which ends where the next one opens has exactly one for every moment it
reaches. Two buckets of lookback are enough to have that one listed for every missing bucket, as long as
no candle is longer than two buckets; then the window is covered by what is cached, whatever phase the
candles have against the grid of buckets, and a repeated load finds all of it. -/

namespace Candlestick

namespace Feed

/-- The candles that a feed has of an asset in a timeframe follow each other without a break, and none is
    longer than two buckets. -/
structure Tiles (feed : Feed) (asset : String) (t : TimeFrame) : Prop where
  contiguous : ∀ k c k' d, feed.bar asset t k = some c → feed.bar asset t k' = some d → k < k' →
    (∀ j, k < j → j < k' → feed.bar asset t j = none) → c.stop = k'
  short : ∀ k c, feed.bar asset t k = some c → c.stop ≤ k + 2 * t.ms

/-- Some candle holds the start of each bucket of a window. -/
def Reaches (feed : Feed) (asset : String) (t : TimeFrame) (first last : Int) : Prop :=
  ∀ k ∈ Gaps.grid first last t.ms, ∃ c, feed.bar asset t c.start = some c ∧ c.start ≤ k ∧ k < c.stop

namespace Tiles

variable {feed : Feed} {asset : String} {t : TimeFrame} (h : feed.Tiles asset t)
include h

/-- A candle has ended when any later one opens. -/
theorem stop_le {c d : Candle} (hc : feed.bar asset t c.start = some c)
    (hd : feed.bar asset t d.start = some d) (hlt : c.start < d.start) : c.stop ≤ d.start := by
  -- The induction is on the distance; a candle between the two is nearer to the first.
  induction hn : (d.start - c.start).toNat using Nat.strongRecOn generalizing d with
  | _ n ih =>
    by_cases hnext : ∀ j, c.start < j → j < d.start → feed.bar asset t j = none
    · exact Int.le_of_eq (h.contiguous _ c _ d hc hd hlt hnext)
    · push Not at hnext
      obtain ⟨j, hj, hj', hsome⟩ := hnext
      obtain ⟨e, he⟩ := Option.ne_none_iff_exists'.1 hsome
      obtain rfl := feed.start_eq _ _ _ e he
      have hle := ih _ (by omega) he hj rfl
      omega

/-- Of the candles that open by a moment, the one that holds it is the last. -/
theorem eq_of_held {c d : Candle} {k : Int} (hc : feed.bar asset t c.start = some c)
    (hd : feed.bar asset t d.start = some d) (hto : k < c.stop) (hcd : c.start ≤ d.start)
    (hdk : d.start ≤ k) : d = c := by
  rcases Int.lt_or_eq_of_le hcd with hlt | heq
  · have hle := h.stop_le hc hd hlt
    omega
  · rw [← heq, hc] at hd
    exact (Option.some.inj hd).symm

/-- In a map with candles of the feed only, a bucket counts as cached if the candle is there that holds
    its start. -/
theorem hit {m : CandleMap} (hm : ∀ k c, m.get? k = some c → feed.bar asset t k = some c) {k : Int}
    {c : Candle} (hc : m.get? c.start = some c) (hfrom : c.start ≤ k) (hto : k < c.stop) :
    Gaps.Hit (Gaps.lookUp m asset false) asset k := by
  have hbar := hm _ c hc
  have hmem : c ∈ m.sorted asset := Gaps.mem_sorted.2 ⟨⟨_, hc⟩, feed.asset_eq _ _ _ c hbar⟩
  refine Gaps.hit_of_latest hmem hfrom hto fun d hd hcd hdk => ?_
  obtain ⟨⟨j, hj⟩, -⟩ := Gaps.mem_sorted.1 hd
  have hbar' := hm j d hj
  obtain rfl := feed.start_eq _ _ _ d hbar'
  exact h.eq_of_held hbar hbar' hto hcd hdk

end Tiles

end Feed

namespace Visit

variable {v : Visit} {feed : Feed} {plan : IntervalPlan} {job : Job}

/-- A visit that returns leaves the candle that holds the start of a bucket of its window, whether it was
    there or has been listed. -/
theorem Lists.get?_of_held (h : v.Lists feed) (hprep : v.Prepared plan job)
    (htiles : feed.Tiles v.asset v.request.timeFrame) {cache : Cache}
    (hclaimed : ∀ k c, (v.claimed cache).get? k = some c → feed.bar v.asset v.request.timeFrame k = some c)
    {cs : List Candle} (hcs : (v.load cache).outcome = .ok cs)
    (hlook : 2 * v.request.timeFrame.ms ≤ job.start) {t : Int}
    (ht : t ∈ Gaps.grid job.start job.stop v.request.timeFrame.ms) {c : Candle}
    (hbar : feed.bar v.asset v.request.timeFrame c.start = some c) (hfrom : c.start ≤ t)
    (hto : t < c.stop) : ((v.load cache).cache.candles v.request.timeFrame).get? c.start = some c := by
  by_cases hhit : Gaps.Hit (Gaps.lookUp (v.claimed cache) v.asset false) v.asset t
  · obtain ⟨d, hd, hfrom', hto'⟩ := Gaps.held_of_hit hhit
    obtain ⟨⟨k, hk⟩, -⟩ := Gaps.mem_sorted.1 hd
    have hbar' := hclaimed k d hk
    obtain rfl := feed.start_eq _ _ _ d hbar'
    obtain rfl : c = d := by
      rcases Int.le_total c.start d.start with hle | hle
      · exact (htiles.eq_of_held hbar hbar' hto hle hfrom').symm
      · exact htiles.eq_of_held hbar' hbar hto' hle hfrom
    exact h.get?_of_claimed hprep hclaimed hcs hk
  · have hshort := htiles.short _ c hbar
    obtain ⟨start, _, _, _, -, -, hstart, hstored⟩ :=
      h.exists_listed hprep hclaimed hcs hlook ht hhit hbar hfrom (by omega)
    exact hstored (by omega)

/-- A source serves a timeframe off the grid, and in every load of a session that may have filled the
    asset's map it lists one feed, whose candles follow each other without a break, are at most two
    buckets long and reach over the window of a load. The window begins two buckets after 1970 or later.
    Then, once the load has returned, each bucket's start is held by a candle in the cache, and the load is
    repeated, at whatever provider, without a call and with the same candles. -/
theorem load_tiles {events : List Event} {first last : Int} (hasset : v.request.asset? = some v.asset)
    (hplan : v.plan = .ok plan) (hwindow : v.window = .ok (first, last))
    (hlook : 2 * v.request.timeFrame.ms ≤ first) (hlists : v.Lists feed)
    (hsession : ∀ u, Event.load u ∈ events → u.request.timeFrame = v.request.timeFrame →
      u.asset = v.asset → u.Lists feed)
    (htiles : feed.Tiles v.asset v.request.timeFrame)
    (hreaches : feed.Reaches v.asset v.request.timeFrame first last) {cs : List Candle}
    (hcs : (v.load (Session.after events)).outcome = .ok cs) :
    let left := (v.load (Session.after events)).cache
    (∀ t ∈ Gaps.grid first last v.request.timeFrame.ms,
      ∃ c, (left.candles v.request.timeFrame).get? c.start = some c ∧ c.asset = v.asset ∧
        c.start ≤ t ∧ t < c.stop) ∧
    ∀ {σ : Type} (world : World σ) (state : σ),
      let again := (v.facing world state).load left
      again.calls = [] ∧ again.outcome = .ok cs ∧ again.cache = left := by
  intro left
  obtain ⟨job, hprep⟩ := Visit.exists_prepared hplan hwindow hasset
  obtain ⟨rfl, rfl⟩ : job.start = first ∧ job.stop = last :=
    Prod.mk.inj (Except.ok.inj (hprep.window_eq.symm.trans hwindow))
  have hclaimed : ∀ k c, (v.claimed (Session.after events)).get? k = some c →
      feed.bar v.asset v.request.timeFrame k = some c := by
    intro k c hc
    have hbrings : ∀ u, Event.load u ∈ events → u.request.timeFrame = v.request.timeFrame →
        u.asset = v.asset → u.Brings fun c => feed.bar v.asset v.request.timeFrame c.start = some c :=
      fun u hu ht hasset => ht ▸ hasset ▸ (hsession u hu ht hasset).brings
    obtain ⟨hbar, rfl⟩ := forall_claimed hbrings hc
    exact hbar
  have hleft : ∀ k c, (left.candles v.request.timeFrame).get? k = some c →
      feed.bar v.asset v.request.timeFrame k = some c := by
    intro k c hc
    rcases hprep.mem_load (hlists.brings plan job hprep _) hc with ⟨hbar, rfl⟩ | hold
    · exact hbar
    · exact hclaimed k c hold
  have hheld : ∀ t ∈ Gaps.grid job.start job.stop v.request.timeFrame.ms,
      ∃ c, (left.candles v.request.timeFrame).get? c.start = some c ∧ c.start ≤ t ∧ t < c.stop := by
    intro t ht
    obtain ⟨c, hbar, hfrom, hto⟩ := hreaches t ht
    exact ⟨c, hlists.get?_of_held hprep htiles hclaimed hcs hlook ht hbar hfrom hto, hfrom, hto⟩
  -- Whatever else is there is of the feed too, and so the scan finds the candle that holds a bucket.
  have hnone : (job.collect left).2 = [] := by
    refine (hlists.splits hprep left).eq_nil v.request.timeFrame.ms_pos fun t ht => ?_
    obtain ⟨c, hc, hfrom, hto⟩ := hheld t ht
    exact htiles.hit hleft hc hfrom hto
  refine ⟨fun t ht => ?_, fun world state => hprep.load_again hcs hnone world state⟩
  obtain ⟨c, hc, hfrom, hto⟩ := hheld t ht
  exact ⟨c, hc, feed.asset_eq _ _ _ c (hleft _ c hc), hfrom, hto⟩

/-! ## Weeks -/

/-- An honest provider of candles that end after they open lists them. -/
theorem Honest.lists (h : v.Honest feed) (hoff : ∀ plan, v.plan = .ok plan → v.offGrid plan = true)
    (hends : ∀ base k c, feed.bar v.asset base k = some c → k < c.stop) : v.Lists feed where
  offGrid := hoff
  answers plan first last start stop state raw hplan hwindow hnonneg hlt hto hreply := by
    obtain ⟨first', last', hwindow', hsound⟩ := h.exists_window
    rw [hwindow] at hwindow'
    cases hwindow'
    have hbegun := hsound.begun
    have hraw := h.answers plan start stop state raw hplan hnonneg hlt (by omega) hreply
    refine ⟨hraw.own, fun k c hc hge hlt => hraw.all k c hc ?_⟩
    have hend := hends _ k c hc
    have hstart := feed.start_eq _ _ _ c hc
    exact Bool.and_eq_true_iff.2 ⟨decide_eq_true (by omega), decide_eq_true (by omega)⟩

end Visit

namespace Feed

theorem stop_of_steady {price : Int} {asset : String} {base : TimeFrame} {k : Int} {c : Candle}
    (h : (Feed.steady price).bar asset base k = some c) : c.stop = k + base.ms := by
  obtain ⟨-, hc⟩ := Option.ite_none_right_eq_some.1 h
  rw [← Option.some.inj hc]
  rfl

/-- The candles of a steady price follow each other without a break, and some candle holds every
    moment. -/
theorem tiles_steady (price : Int) (asset : String) (t : TimeFrame) :
    (Feed.steady price).Tiles asset t where
  contiguous k c k' d hc hd hlt hnone := by
    obtain ⟨hk, -⟩ := Option.ite_none_right_eq_some.1 hc
    obtain ⟨hk', -⟩ := Option.ite_none_right_eq_some.1 hd
    rw [stop_of_steady hc]
    have hle : k + t.ms ≤ k' := by
      have hdvd := Int.le_of_dvd (by omega) (Int.dvd_sub hk' hk)
      omega
    by_contra hne
    have hnext := hnone (k + t.ms) (by have := t.ms_pos; omega) (by omega)
    have hdvd : t.ms ∣ k + t.ms - weekOpening t := by
      have hdvd := Int.dvd_add hk (Int.dvd_refl t.ms)
      rwa [show k - weekOpening t + t.ms = k + t.ms - weekOpening t by omega] at hdvd
    rw [show (Feed.steady price).bar asset t (k + t.ms) = _ from if_pos hdvd] at hnext
    exact absurd hnext (by simp)
  short k c hc := by
    have hstop := stop_of_steady hc
    have hpos := t.ms_pos
    omega

theorem reaches_steady (price : Int) (asset : String) (t : TimeFrame) (first last : Int) :
    (Feed.steady price).Reaches asset t first last := by
  intro k _
  obtain ⟨j, c, hc, hfrom, hto⟩ := Steady.exists_bar price asset t k
  obtain rfl := (Feed.steady price).start_eq _ _ _ c hc
  exact ⟨c, hc, hfrom, hto⟩

end Feed

namespace Visit

theorem lists_weeks (stop : Int) : (weeks stop).Lists (Feed.steady 1) := by
  refine (fedBy_weeks stop).honest.lists (fun plan hplan => ?_) fun base k c hc => ?_
  · rw [plan_weeks] at hplan
    rw [← Except.ok.inj hplan]
    show weekPlan.isDirect && TimeFrame.week.isOffGrid = true
    decide
  · have hstop := Feed.stop_of_steady hc
    have hpos := base.ms_pos
    omega

/-- The weeks of a steady market open on Mondays and the buckets on Thursdays. After a load of the fourth
    week since 1970 one of the fourth and the fifth is repeated without a call. -/
theorem load_tiles_weeks :
    let before := Session.after [.load (weeks 2419200000)]
    let v := weeks 3024000000
    v.request.asset? = some v.asset ∧ v.plan = .ok weekPlan ∧
      v.window = .ok (1814400000, 3024000000) ∧ v.Lists (Feed.steady 1) ∧
      (Feed.steady 1).Tiles v.asset .week ∧
      ∃ cs, (v.load before).outcome = .ok cs ∧
        (v.load (v.load before).cache).calls = [] ∧
        (v.load (v.load before).cache).outcome = .ok cs := by
  intro before v
  have hwindow : v.window = .ok (1814400000, 3024000000) := eq_ok_of_toOption (by decide +kernel)
  obtain ⟨job, hprep, -, -, hreturns⟩ := exists_weeks (congrArg Except.toOption hwindow)
  obtain ⟨cs, hcs⟩ := hreturns before
  have hsession : ∀ u, Event.load u ∈ [Event.load (weeks 2419200000)] →
      u.request.timeFrame = v.request.timeFrame → u.asset = v.asset → u.Lists (Feed.steady 1) := by
    intro u hu _ _
    obtain rfl : u = weeks 2419200000 := by simpa using hu
    exact lists_weeks _
  obtain ⟨-, hagain⟩ := load_tiles hprep.not_blank (plan_weeks _) hwindow (by decide) (lists_weeks _)
    hsession (Feed.tiles_steady 1 _ _) (Feed.reaches_steady 1 _ _ _ _) hcs
  obtain ⟨hcalls, houtcome, -⟩ := hagain v.world v.state
  exact ⟨hprep.not_blank, plan_weeks _, hwindow, lists_weeks _, Feed.tiles_steady 1 _ _, cs, hcs, hcalls,
    houtcome⟩

end Visit

end Candlestick
