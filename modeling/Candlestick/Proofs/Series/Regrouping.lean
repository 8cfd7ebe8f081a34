import Candlestick.Proofs.Market.Interval
import Candlestick.Proofs.Number.Sum
import Candlestick.Proofs.Series.Buckets

set_option autoImplicit false

/-! # Rolling up what has been rolled up

A bucket of a multiple of a width holds whole buckets of that width, and the first, the last, the
greatest, the least and the count of a bucket can be had from those of its parts. So it is all the same
whether candles are rolled up at once or through a width in between (`Series.rollUp_composes`), except
that volumes are rounded at other places: they agree wherever they are added exactly
(`Series.AddsExactly`). -/

namespace Candlestick

/-- The candle apart from its volume. -/
def Candle.bare (c : Candle) : Candle := { c with volume := .zero }

theorem Candle.eq_of_bare {c d : Candle} (h : c.bare = d.bare) (hvolume : c.volume = d.volume) :
    c = d := by
  calc c = { c.bare with volume := c.volume } := rfl
    _ = { d.bare with volume := d.volume } := by rw [h, hvolume]
    _ = d := rfl

theorem Candle.start_eq_of_bare {c d : Candle} (h : c.bare = d.bare) : c.start = d.start :=
  (congrArg Candle.start h : c.bare.start = d.bare.start)

namespace Series

/-! ## Buckets of buckets -/

/-- The bucket of a time is that of the smaller bucket which the time is in. -/
theorem bucketStart_bucketStart {width target : Int} (hw : 0 < width) (ht : 0 < target)
    (hdvd : width ∣ target) (t : Int) :
    bucketStart target (bucketStart width t) = bucketStart target t := by
  have hborder := dvd_bucketStart target t
  obtain ⟨hfrom, hto⟩ := (bucketStart_eq_iff ht hborder).1 rfl
  rw [bucketStart_eq_iff ht hborder]
  constructor
  · have hlt := bucketStart_lt_iff (t := t) hw (Int.dvd_trans hdvd hborder)
    omega
  · exact Int.lt_of_le_of_lt (bucketStart_le hw t) hto

/-- Where a candle starts and how it is tagged does not matter to the bucket that it goes into. -/
theorem extendBucket_openBucket (width : Int) (asset label : String) (bucket c : Candle) :
    extendBucket bucket (openBucket width asset label c) = extendBucket bucket c := rfl

theorem openBucket_extendBucket (width : Int) (asset label : String) (bucket c : Candle) :
    openBucket width asset label (extendBucket bucket c) =
      extendBucket (openBucket width asset label bucket) c := rfl

theorem lacksPrice_extendBucket {bucket c : Candle} (hbucket : lacksPrice bucket = false)
    (hc : lacksPrice c = false) : lacksPrice (extendBucket bucket c) = false := by
  simp only [lacksPrice, extendBucket, Bool.or_eq_false_iff, Double.isNaN_max, Double.isNaN_min] at *
  exact ⟨hbucket.1, hc.2⟩

/-- Extending by one candle after the other is extending by both together. -/
theorem bare_extendBucket_extendBucket {a b c : Candle} (ha : lacksPrice a = false)
    (hb : lacksPrice b = false) (hc : lacksPrice c = false) :
    (extendBucket a (extendBucket b c)).bare = (extendBucket (extendBucket a b) c).bare := by
  obtain ⟨hahigh, halow⟩ := not_isNaN_of_lacksPrice ha
  obtain ⟨hbhigh, hblow⟩ := not_isNaN_of_lacksPrice hb
  obtain ⟨hchigh, hclow⟩ := not_isNaN_of_lacksPrice hc
  simp only [extendBucket, Candle.bare, Double.max_assoc hahigh hbhigh hchigh,
    Double.min_assoc halow hblow hclow, Int.add_assoc]

theorem bare_extendBucket {a b c : Candle} (h : a.bare = b.bare) :
    (extendBucket a c).bare = (extendBucket b c).bare := by
  simp only [Candle.bare, Candle.mk.injEq] at h
  simp only [extendBucket, Candle.bare, h]

/-! ## The walk over buckets -/

section Walk

variable {width target : Int} {asset inner label : String}

/-- The volume of the open bucket has no part in what is made of the other columns. -/
theorem map_bare_rollFrom {bucket other : Candle} (h : bucket.bare = other.bare) (cs : List Candle) :
    (rollFrom target asset label bucket cs).map Candle.bare =
      (rollFrom target asset label other cs).map Candle.bare := by
  have hstart := Candle.start_eq_of_bare h
  induction cs generalizing bucket other with
  | nil => simp only [rollFrom, List.map_cons, List.map_nil, h]
  | cons c cs ih =>
    rw [rollFrom, rollFrom, hstart]
    split
    · exact ih (bare_extendBucket h) hstart
    · rw [List.map_cons, List.map_cons, h]

variable (hnested : ∀ t, bucketStart target (bucketStart width t) = bucketStart target t)

include hnested

theorem openBucket_openBucket (c : Candle) :
    openBucket target asset label (openBucket width asset inner c) = openBucket target asset label c := by
  simp only [openBucket, hnested]

/-- Of an opened bucket the walk sees the candle that opened it. -/
theorem rollFrom_openBucket (bucket c : Candle) (cs : List Candle) :
    rollFrom target asset label bucket (openBucket width asset inner c :: cs) =
      rollFrom target asset label bucket (c :: cs) := by
  have hstart : bucketStart target (openBucket width asset inner c).start = bucketStart target c.start :=
    hnested c.start
  rw [rollFrom, rollFrom, hstart, openBucket_openBucket hnested, extendBucket_openBucket]

/-- A bucket and a candle more are seen as the extended bucket, if they are of one larger bucket. -/
theorem map_bare_rollFrom_extendBucket {bucket b c : Candle} (hbucket : lacksPrice bucket = false)
    (hb : lacksPrice b = false) (hc : lacksPrice c = false)
    (hsame : bucketStart width c.start = b.start) (cs : List Candle) :
    (rollFrom target asset label bucket (extendBucket b c :: cs)).map Candle.bare =
      (rollFrom target asset label bucket (b :: c :: cs)).map Candle.bare := by
  have hown : bucketStart target c.start = bucketStart target b.start := by
    rw [← hsame, hnested]
  have hstart : (extendBucket b c).start = b.start := rfl
  rw [rollFrom, rollFrom, hstart]
  split
  · rename_i hin
    have hnext : bucketStart target c.start = (extendBucket bucket b).start := hown.trans hin
    rw [rollFrom, if_pos hnext]
    exact map_bare_rollFrom (bare_extendBucket_extendBucket hbucket hb hc) cs
  · have hnext : bucketStart target c.start = (openBucket target asset label b).start := hown
    rw [rollFrom, if_pos hnext, openBucket_extendBucket]

/-- The walk over the buckets of a walk makes what the walk over its candles makes. -/
theorem map_bare_rollFrom_rollFrom {bucket b : Candle} {cs : List Candle}
    (hbucket : lacksPrice bucket = false) (hb : lacksPrice b = false)
    (hcs : ∀ c ∈ cs, lacksPrice c = false) :
    (rollFrom target asset label bucket (rollFrom width asset inner b cs)).map Candle.bare =
      (rollFrom target asset label bucket (b :: cs)).map Candle.bare := by
  induction cs generalizing bucket b with
  | nil => rfl
  | cons c cs ih =>
    obtain ⟨hc, hcs⟩ := List.forall_mem_cons.1 hcs
    rw [rollFrom]
    split
    · rename_i hsame
      rw [ih hbucket (lacksPrice_extendBucket hb hc) hcs,
        map_bare_rollFrom_extendBucket hnested hbucket hb hc hsame]
    · -- The bucket is complete, and the next one opens with the candle.
      have hopen : lacksPrice (openBucket width asset inner c) = false := hc
      have hrest : ∀ next : Candle, lacksPrice next = false →
          (rollFrom target asset label next
              (rollFrom width asset inner (openBucket width asset inner c) cs)).map Candle.bare =
            (rollFrom target asset label next (c :: cs)).map Candle.bare := by
        intro next hnext
        rw [ih hnext hopen hcs, rollFrom_openBucket hnested]
      rw [rollFrom, rollFrom]
      split
      · exact hrest _ (lacksPrice_extendBucket hbucket hb)
      · exact congrArg (bucket.bare :: ·) (hrest (openBucket target asset label b) hb)

omit hnested in
theorem rollUp_of_sort {cs rest : List Candle} {first : Candle} (h : sort cs = first :: rest) :
    rollUp target asset label cs =
      rollFrom target asset label (openBucket target asset label first) rest := by
  rw [rollUp, h]

/-- Rolling a walk up makes what the walk makes that begins with the larger bucket. -/
theorem map_bare_rollUp_rollFrom {b : Candle} {cs : List Candle} (hb : lacksPrice b = false)
    (hcs : ∀ c ∈ cs, lacksPrice c = false) (hascending : Ascending (rollFrom width asset inner b cs)) :
    (rollUp target asset label (rollFrom width asset inner b cs)).map Candle.bare =
      (rollFrom target asset label (openBucket target asset label b) cs).map Candle.bare := by
  induction cs generalizing b with
  | nil => exact congrArg _ (rollUp_of_sort (sort_of_ascending hascending))
  | cons c cs ih =>
    obtain ⟨hc, hcs⟩ := List.forall_mem_cons.1 hcs
    rw [rollFrom] at hascending ⊢
    by_cases hsame : bucketStart width c.start = b.start
    · have hnext : bucketStart target c.start = (openBucket target asset label b).start := by
        rw [← hnested, hsame]
        rfl
      rw [if_pos hsame] at hascending ⊢
      rw [ih (lacksPrice_extendBucket hb hc) hcs hascending, rollFrom, if_pos hnext,
        openBucket_extendBucket]
    · have hopen : lacksPrice (openBucket width asset inner c) = false := hc
      have hopen' : lacksPrice (openBucket target asset label b) = false := hb
      rw [if_neg hsame] at hascending ⊢
      rw [rollUp_of_sort (sort_of_ascending hascending), map_bare_rollFrom_rollFrom hnested hopen' hopen hcs,
        rollFrom_openBucket hnested]

end Walk

section RollUp

variable {width target : Int} {asset inner label : String} {cs : List Candle}

theorem map_bare_rollUp_rollUp (hw : 0 < width) (ht : 0 < target) (hdvd : width ∣ target)
    (hcs : ∀ c ∈ cs, lacksPrice c = false) :
    (rollUp target asset label (rollUp width asset inner cs)).map Candle.bare =
      (rollUp target asset label cs).map Candle.bare := by
  have hnested := bucketStart_bucketStart hw ht hdvd
  have hascending : Ascending (rollUp width asset inner cs) := ascending_rollUp hw cs
  have hsorted : ∀ c ∈ sort cs, lacksPrice c = false := fun c hc => hcs c (mem_sort.1 hc)
  cases hsort : sort cs with
  | nil =>
    have hnone : cs = [] := (hsort ▸ perm_sort cs).symm.eq_nil
    rw [hnone, rollUp_nil, rollUp_nil]
  | cons first rest =>
    rw [hsort] at hsorted
    rw [rollUp_of_sort hsort] at hascending ⊢
    rw [rollUp_of_sort hsort]
    obtain ⟨hfirst, hrest⟩ := List.forall_mem_cons.1 hsorted
    have hopen : lacksPrice (openBucket width asset inner first) = false := hfirst
    rw [map_bare_rollUp_rollFrom hnested hopen hrest hascending, openBucket_openBucket hnested]

/-! ## Volumes -/

/-- The volume of each bucket is the exact sum of its candles' volumes. -/
def AddsExactly (width : Int) (cs out : List Candle) : Prop :=
  ∀ d ∈ out, d.volume.IsSum ((inBucket width d.start cs).map (·.volume))

instance (width : Int) (cs out : List Candle) : Decidable (AddsExactly width cs out) :=
  inferInstanceAs (Decidable (∀ d ∈ out, _))

/-- The smaller buckets in a bucket part its candles. -/
theorem flatMap_inBucket_rollUp_perm (hw : 0 < width) (ht : 0 < target) (hdvd : width ∣ target) (k : Int) :
    ((inBucket target k (rollUp width asset inner cs)).flatMap fun d => inBucket width d.start cs).Perm
      (inBucket target k cs) := by
  have hnested := bucketStart_bucketStart hw ht hdvd
  have hnodup : ((inBucket target k (rollUp width asset inner cs)).map (·.start)).Nodup :=
    List.pairwise_map.2 (((ascending_rollUp hw cs).filter _).imp Int.ne_of_lt)
  have hall : ∀ c ∈ inBucket target k cs,
      bucketStart width c.start ∈ (inBucket target k (rollUp width asset inner cs)).map (·.start) := by
    intro c hc
    obtain ⟨hmem, hk⟩ := List.mem_filter.1 hc
    obtain ⟨d, hd, hstart⟩ := exists_mem_rollUp hw asset inner hmem
    refine List.mem_map.2 ⟨d, List.mem_filter.2 ⟨hd, ?_⟩, hstart⟩
    rwa [hstart, hnested]
  have hperm := flatMap_inBucket_perm hnodup hall
  rw [List.flatMap_map] at hperm
  refine List.Perm.trans (List.Perm.of_eq (List.flatMap_congr fun d hd => ?_)) hperm
  -- A candle of the smaller bucket is in the larger one.
  have hk := of_decide_eq_true (List.mem_filter.1 hd).2
  rw [inBucket, inBucket, inBucket, List.filter_filter]
  refine List.filter_congr fun c _ => ?_
  by_cases hc : bucketStart width c.start = d.start
  · have hin : bucketStart target c.start = k := by rw [← hnested, hc, hk]
    simp [hc, hin]
  · simp [hc]

/-- Exact sums of exact sums are exact. -/
theorem AddsExactly.trans (hw : 0 < width) (ht : 0 < target) (hdvd : width ∣ target) {out : List Candle}
    (honce : AddsExactly width cs (rollUp width asset inner cs))
    (htwice : AddsExactly target (rollUp width asset inner cs) out) : AddsExactly target cs out := by
  intro d hd
  have hparts := (htwice d hd).flatMap fun c hc => honce c (List.mem_filter.1 hc).1
  rw [← List.map_flatMap] at hparts
  exact hparts.perm ((flatMap_inBucket_rollUp_perm hw ht hdvd d.start).map _)

/-- The volume of a bucket is the negative zero exactly if those of its candles are. -/
theorem volume_eq_minusZero_iff (hw : 0 < width) {d : Candle} (hd : d ∈ rollUp width asset label cs) :
    d.volume = .minusZero ↔ ∀ c ∈ inBucket width d.start cs, c.volume = .minusZero := by
  obtain ⟨first, rest, hstable, hmade⟩ := exists_bucket_of_mem_rollUp hw hd
  have hvolume : d.volume = rest.foldl (fun volume c => volume + c.volume) first.volume :=
    (congrArg Candle.volume (Option.some.inj hmade)).symm
  rw [hvolume, Double.foldl_add_eq_minusZero_iff]
  simp only [← hstable.perm.mem_iff, List.mem_cons, forall_eq_or_imp]

theorem volume_eq_minusZero_iff_nested (hw : 0 < width) (ht : 0 < target) (hdvd : width ∣ target)
    {d : Candle} (hd : d ∈ rollUp target asset label (rollUp width asset inner cs)) :
    d.volume = .minusZero ↔ ∀ c ∈ inBucket target d.start cs, c.volume = .minusZero := by
  have hparts : ∀ c, c ∈ inBucket target d.start cs ↔
      ∃ b ∈ inBucket target d.start (rollUp width asset inner cs), c ∈ inBucket width b.start cs :=
    fun c => (flatMap_inBucket_rollUp_perm hw ht hdvd d.start).mem_iff.symm.trans List.mem_flatMap
  have hpart : ∀ b ∈ inBucket target d.start (rollUp width asset inner cs),
      b.volume = .minusZero ↔ ∀ c ∈ inBucket width b.start cs, c.volume = .minusZero :=
    fun b hb => volume_eq_minusZero_iff hw (List.mem_filter.1 hb).1
  rw [volume_eq_minusZero_iff ht hd]
  constructor
  · intro hall c hc
    obtain ⟨b, hb, hc⟩ := (hparts c).1 hc
    exact (hpart b hb).1 (hall b hb) c hc
  · intro hall b hb
    exact (hpart b hb).2 fun c hc => hall c ((hparts c).2 ⟨b, hb, hc⟩)

/-- Where volumes are added exactly, those of the buckets agree too. -/
theorem rollUp_rollUp_of_exact (hw : 0 < width) (ht : 0 < target) (hdvd : width ∣ target)
    (hcs : ∀ c ∈ cs, lacksPrice c = false) (honce : AddsExactly width cs (rollUp width asset inner cs))
    (htwice : AddsExactly target (rollUp width asset inner cs)
      (rollUp target asset label (rollUp width asset inner cs)))
    (hdirect : AddsExactly target cs (rollUp target asset label cs)) :
    rollUp target asset label (rollUp width asset inner cs) = rollUp target asset label cs := by
  have hbare : (rollUp target asset label (rollUp width asset inner cs)).map Candle.bare =
      (rollUp target asset label cs).map Candle.bare := map_bare_rollUp_rollUp hw ht hdvd hcs
  have hexact := honce.trans hw ht hdvd htwice
  have hsame : ∀ c ∈ rollUp target asset label (rollUp width asset inner cs),
      ∀ d ∈ rollUp target asset label cs, c.bare = d.bare → c = d := by
    intro c hc d hd heq
    have hstart := Candle.start_eq_of_bare heq
    refine Candle.eq_of_bare heq ((hexact c hc).unique (hstart ▸ hdirect d hd) ?_)
    rw [volume_eq_minusZero_iff_nested hw ht hdvd hc, volume_eq_minusZero_iff ht hd, hstart]
  refine (ascending_rollUp ht _).ext (ascending_rollUp ht cs) fun c => ⟨fun hc => ?_, fun hc => ?_⟩
  · obtain ⟨d, hd, heq⟩ := List.mem_map.1 (hbare ▸ List.mem_map_of_mem hc)
    rwa [hsame c hc d hd heq.symm]
  · obtain ⟨d, hd, heq⟩ := List.mem_map.1 (hbare.symm ▸ List.mem_map_of_mem hc)
    rwa [← hsame d hd c hc heq]

/-! ## Any width in between -/

/-- Rolling up through a width in between gives what rolling up at once gives: the same candles apart from
    their volumes, and the same volumes where they are added exactly. To a width of zero neither rolls
    any candles up. -/
def Composes (width target : Int) (asset inner label : String) (cs : List Candle) : Prop :=
  ∃ once, rollUp? width asset inner cs = .ok once ∧
    ((target = 0 ∧ cs ≠ [] ∧ rollUp? target asset label once = .error .divisionByZero ∧
        rollUp? target asset label cs = .error .divisionByZero) ∨
      ∃ twice direct, rollUp? target asset label once = .ok twice ∧
        rollUp? target asset label cs = .ok direct ∧ twice.map Candle.bare = direct.map Candle.bare ∧
        (AddsExactly width cs once → AddsExactly target once twice → AddsExactly target cs direct →
          twice = direct))

theorem composes_of_pos (hw : 0 < width) (ht : 0 < target) (hdvd : width ∣ target)
    (hcs : ∀ c ∈ cs, lacksPrice c = false) : Composes width target asset inner label cs :=
  ⟨_, rollUp?_of_pos hw cs, Or.inr ⟨_, _, rollUp?_of_pos ht _, rollUp?_of_pos ht cs,
    map_bare_rollUp_rollUp hw ht hdvd hcs, rollUp_rollUp_of_exact hw ht hdvd hcs⟩⟩

theorem composes_zero (hw : 0 < width) (cs : List Candle) : Composes width 0 asset inner label cs := by
  refine ⟨_, rollUp?_of_pos hw cs, ?_⟩
  cases cs with
  | nil =>
    rw [rollUp_nil]
    exact Or.inr ⟨[], [], rollUp?_nil 0 asset label, rollUp?_nil 0 asset label, rfl, fun _ _ _ => rfl⟩
  | cons c rest =>
    obtain ⟨d, hd, -⟩ := exists_mem_rollUp hw asset inner (List.mem_cons_self (a := c) (l := rest))
    refine Or.inl ⟨rfl, List.cons_ne_nil c rest, if_pos ⟨rfl, List.ne_nil_of_mem hd⟩, ?_⟩
    exact if_pos ⟨rfl, List.cons_ne_nil c rest⟩

/-- Rolling up composes at every multiple of a width, which is some number of times that width. The
    timeframe that a plan starts from divides the one that is asked for, so it makes no difference to the
    candles which one that is. -/
theorem rollUp_composes (asset inner label : String) (hcs : ∀ c ∈ cs, lacksPrice c = false) :
    (∀ (width : Int) (n : Nat), 0 < width → Composes width (n * width) asset inner label cs) ∧
      ∀ (registry : Registry) (source : Source) (t : TimeFrame) (plan : IntervalPlan),
        registry.plan source t = .ok plan →
          Composes plan.base.ms t.ms asset plan.base.label t.label cs := by
  constructor
  · intro width n hw
    cases n with
    | zero =>
      rw [Nat.cast_zero, Int.zero_mul]
      exact composes_zero hw cs
    | succ n =>
      exact composes_of_pos hw (Int.mul_pos (by omega) hw) (Int.dvd_mul_left _ _) hcs
  · intro registry source t plan hplan
    exact composes_of_pos plan.base.ms_pos t.ms_pos (Registry.plan_spec hplan).1 hcs

end RollUp

/-- Two of the buckets lie in the one that ends as 1970 begins. -/
def reunited : List Candle :=
  [⟨-10, 0, .ofInt 1, .ofInt 5, .ofInt 1, .ofInt 5, .ofInt 4, 4, "ETH", "10ms"⟩,
    ⟨0, 10, .ofInt 4, .ofInt 4, .ofInt 4, .ofInt 4, .ofInt 1, 1, "ETH", "10ms"⟩]

/-- The volumes are whole numbers, and so they are added exactly. -/
theorem rollUp_composes_scattered :
    (∀ c ∈ scattered, lacksPrice c = false) ∧ Composes 5 10 "ETH" "5ms" "10ms" scattered ∧
      rollUp? 5 "ETH" "5ms" scattered = .ok gathered ∧ AddsExactly 5 scattered gathered ∧
      rollUp? 10 "ETH" "10ms" gathered = .ok reunited ∧ AddsExactly 10 gathered reunited ∧
      rollUp? 10 "ETH" "10ms" scattered = .ok reunited ∧ AddsExactly 10 scattered reunited := by
  have hprices : ∀ c ∈ scattered, lacksPrice c = false := by decide
  have hgathered : Ascending gathered := by
    unfold Ascending
    decide
  have htwice : rollUp? 10 "ETH" "10ms" gathered = .ok reunited := by
    rw [rollUp?_of_pos (by decide), rollUp, sort_of_ascending hgathered]
    exact congrArg Except.ok (by decide +kernel)
  have hdirect : rollUp? 10 "ETH" "10ms" scattered = .ok reunited := by
    rw [rollUp?_of_pos (by decide), rollUp, sort_scattered]
    exact congrArg Except.ok (by decide +kernel)
  exact ⟨hprices, (rollUp_composes "ETH" "5ms" "10ms" hprices).1 5 2 (by decide), rollUp_scattered,
    by decide +kernel, htwice, by decide +kernel, hdirect, by decide +kernel⟩

end Series

end Candlestick
