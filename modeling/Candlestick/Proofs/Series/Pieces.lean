import Candlestick.Proofs.Series.Buckets

set_option autoImplicit false

/-! # Ranges in pieces

Candles that fill the buckets of one width lie on one side of every border of buckets. Hence what is
left of them in a range is what is left in its pieces, one after the other, and no bucket of a multiple
of the width is split where the pieces meet: rolled up, the pieces give what the range gives
(`Series.rollUp_pieces`), volumes added up in the same order included. -/

namespace Candlestick.Series

/-- A candle of a list behind which none starts together with it. -/
def Latest (raw : List Candle) (c : Candle) : Prop :=
  ∃ before after, raw = before ++ c :: after ∧ ∀ d ∈ after, d.start ≠ c.start

section Border

variable {base : Int} {raw : List Candle}

/-- Of candles that fill buckets those are left in a range of whole buckets that start in it and are the
    latest of their start. -/
theorem mem_normalize_of_fills (hb : 0 < base)
    (hraw : ∀ c ∈ raw, base ∣ c.start ∧ c.stop = c.start + base) {start stop : Int}
    (hstart : base ∣ start) {c : Candle} :
    c ∈ normalize start stop raw ↔ (start ≤ c.start ∧ c.start < stop) ∧ Latest raw c := by
  have hover : ∀ d ∈ raw, (start < d.stop ∧ d.start < stop ↔ start ≤ d.start ∧ d.start < stop) := by
    intro d hd
    rw [← Candle.overlaps_iff hb (hraw d hd).1 (hraw d hd).2 hstart]
    simp [Candle.overlaps]
  rw [mem_normalize_iff_prevails]
  constructor
  · rintro ⟨before, after, rfl, hfrom, hto, hafter⟩
    have hin := (hover c (by simp)).1 ⟨hfrom, hto⟩
    refine ⟨hin, before, after, rfl, fun d hd heq => ?_⟩
    obtain ⟨hfrom', hto'⟩ := (hover d (by simp [hd])).2 (heq ▸ hin)
    exact hafter d hd hfrom' hto' heq
  · rintro ⟨hin, before, after, rfl, hafter⟩
    obtain ⟨hfrom, hto⟩ := (hover c (by simp)).2 hin
    exact ⟨before, after, rfl, hfrom, hto, fun d hd _ _ => hafter d hd⟩

/-- What is left in a range is what is left in its pieces. -/
theorem normalize_append (hb : 0 < base)
    (hraw : ∀ c ∈ raw, base ∣ c.start ∧ c.stop = c.start + base) {x y z : Int} (hx : base ∣ x)
    (hy : base ∣ y) (hxy : x ≤ y) (hyz : y ≤ z) :
    normalize x z raw = normalize x y raw ++ normalize y z raw := by
  have hmem {start stop : Int} (hstart : base ∣ start) {c : Candle} :
      c ∈ normalize start stop raw ↔ (start ≤ c.start ∧ c.start < stop) ∧ Latest raw c :=
    mem_normalize_of_fills hb hraw hstart
  have hascending : Ascending (normalize x y raw ++ normalize y z raw) := by
    refine List.pairwise_append.2
      ⟨ascending_normalize x y raw, ascending_normalize y z raw, fun c hc d hd => ?_⟩
    have hbefore := ((hmem hx).1 hc).1.2
    have hafter := ((hmem hy).1 hd).1.1
    omega
  refine (ascending_normalize x z raw).ext hascending fun c => ?_
  rw [List.mem_append, hmem hx, hmem hx, hmem hy, ← or_and_right]
  refine and_congr_left fun _ => ?_
  omega

end Border

/-! ## The walk across a border -/

section Walk

variable {width border : Int} {asset label : String}

/-- At a border of buckets the walk closes the open bucket and begins anew. -/
theorem rollFrom_append (hw : 0 < width) (hborder : width ∣ border) {bucket b : Candle}
    {as bs : List Candle} (hbucket : bucket.start < border) (has : ∀ a ∈ as, a.start < border)
    (hb : border ≤ b.start) :
    rollFrom width asset label bucket (as ++ b :: bs) =
      rollFrom width asset label bucket as ++
        rollFrom width asset label (openBucket width asset label b) bs := by
  induction as generalizing bucket with
  | nil =>
    have hlater : bucketStart width b.start ≠ bucket.start := by
      have := bucketStart_lt_iff (t := b.start) hw hborder
      omega
    rw [List.nil_append, rollFrom, rollFrom, if_neg hlater]
    rfl
  | cons a as ih =>
    obtain ⟨ha, has⟩ := List.forall_mem_cons.1 has
    rw [List.cons_append, rollFrom, rollFrom]
    split
    · exact ih hbucket has
    · rw [ih ((bucketStart_lt_iff hw hborder).2 ha) has, List.cons_append]

/-- Rolling up candles on both sides of a border is rolling up either side. -/
theorem rollUp_append (hw : 0 < width) (hborder : width ∣ border) {as bs : List Candle}
    (hascending : Ascending (as ++ bs)) (has : ∀ a ∈ as, a.start < border)
    (hbs : ∀ b ∈ bs, border ≤ b.start) :
    rollUp width asset label (as ++ bs) =
      rollUp width asset label as ++ rollUp width asset label bs := by
  obtain ⟨hsorted, hsorted', -⟩ := List.pairwise_append.1 hascending
  rw [rollUp, rollUp, rollUp, sort_of_ascending hascending, sort_of_ascending hsorted,
    sort_of_ascending hsorted']
  cases as with
  | nil => rfl
  | cons a as =>
    obtain ⟨ha, has⟩ := List.forall_mem_cons.1 has
    cases bs with
    | nil => simp only [List.append_nil]
    | cons b bs =>
      exact rollFrom_append hw hborder ((bucketStart_lt_iff hw hborder).2 ha) has
        (hbs b List.mem_cons_self)

end Walk

/-- At multiples of a multiple of the width of the candles, clipping a range gives the candles that
    clipping its pieces gives, one piece after the other, and so does rolling them up. -/
theorem rollUp_pieces {base : Int} (hb : 0 < base) (n : Nat) (asset label : String) {raw : List Candle}
    (hraw : ∀ c ∈ raw, base ∣ c.start ∧ c.stop = c.start + base) {x y z : Int} (hx : n * base ∣ x)
    (hy : n * base ∣ y) (hz : n * base ∣ z) (hxy : x ≤ y) (hyz : y ≤ z) :
    normalize x z raw = normalize x y raw ++ normalize y z raw ∧
      ∃ before after, rollUp? (n * base) asset label (normalize x y raw) = .ok before ∧
        rollUp? (n * base) asset label (normalize y z raw) = .ok after ∧
        rollUp? (n * base) asset label (normalize x z raw) = .ok (before ++ after) := by
  have hx' : base ∣ x := Int.dvd_trans (Int.dvd_mul_left _ _) hx
  have hy' : base ∣ y := Int.dvd_trans (Int.dvd_mul_left _ _) hy
  have happend := normalize_append hb hraw hx' hy' hxy hyz
  refine ⟨happend, ?_⟩
  cases n with
  | zero =>
    -- Zero is the only multiple of zero, and nothing is left in an empty range.
    have hzero {t : Int} (ht : (0 : Nat) * base ∣ t) : t = 0 := by simpa using ht
    obtain rfl := hzero hx
    obtain rfl := hzero hy
    obtain rfl := hzero hz
    have hnone : normalize 0 0 raw = [] := by
      refine List.eq_nil_iff_forall_not_mem.2 fun c hc => ?_
      obtain ⟨hfrom, hto⟩ := ((mem_normalize_of_fills hb hraw hx').1 hc).1
      omega
    rw [hnone]
    exact ⟨[], [], rollUp?_nil _ asset label, rollUp?_nil _ asset label, rollUp?_nil _ asset label⟩
  | succ n =>
    have hw : (0 : Int) < (n + 1 : Nat) * base := Int.mul_pos (by omega) hb
    refine ⟨_, _, rollUp?_of_pos hw _, rollUp?_of_pos hw _, ?_⟩
    rw [rollUp?_of_pos hw, happend, rollUp_append hw hy (happend ▸ ascending_normalize x z raw)]
    · intro c hc
      exact ((mem_normalize_of_fills hb hraw hx').1 hc).1.2
    · intro c hc
      exact ((mem_normalize_of_fills hb hraw hy').1 hc).1.1

/-- Candles of width 5 out of order, of which one comes twice with different prices. -/
def mixed : List Candle :=
  [flat 5 10 1, flat (-5) 0 2, flat 5 10 4, flat (-10) (-5) 5, flat 0 5 3]

/-- What the candles before 1970 make. -/
def early : Candle :=
  ⟨-10, 0, .ofInt 5, .ofInt 5, .ofInt 2, .ofInt 2, .ofInt 2, 2, "ETH", "10ms"⟩

/-- What the candles from 1970 on make. -/
def late : Candle :=
  ⟨0, 10, .ofInt 3, .ofInt 4, .ofInt 3, .ofInt 4, .ofInt 2, 2, "ETH", "10ms"⟩

theorem rollUp_pieces_mixed :
    (0 : Int) < 5 ∧ (∀ c ∈ mixed, 5 ∣ c.start ∧ c.stop = c.start + 5) ∧ (2 : Nat) * (5 : Int) ∣ -10 ∧
      (2 : Nat) * (5 : Int) ∣ 0 ∧ (2 : Nat) * (5 : Int) ∣ 10 ∧ (-10 : Int) ≤ 0 ∧ (0 : Int) ≤ 10 ∧
      rollUp? 10 "ETH" "10ms" (normalize (-10) 0 mixed) = .ok [early] ∧
      rollUp? 10 "ETH" "10ms" (normalize 0 10 mixed) = .ok [late] ∧
      rollUp? 10 "ETH" "10ms" (normalize (-10) 10 mixed) = .ok [early, late] := by
  have hraw : ∀ c ∈ mixed, 5 ∣ c.start ∧ c.stop = c.start + 5 := by decide
  have hx : (2 : Nat) * (5 : Int) ∣ -10 := by decide
  have hy : (2 : Nat) * (5 : Int) ∣ 0 := by decide
  have hz : (2 : Nat) * (5 : Int) ∣ 10 := by decide
  have hfirst : Ascending [flat (-10) (-5) 5, flat (-5) 0 2] := List.pairwise_pair.2 (by decide)
  have hsecond : Ascending [flat 0 5 3, flat 5 10 4] := List.pairwise_pair.2 (by decide)
  have hearly : rollUp? 10 "ETH" "10ms" (normalize (-10) 0 mixed) = .ok [early] := by
    rw [normalize_eq_of_ascending hfirst (by decide) (by decide), rollUp?_of_pos (by decide), rollUp,
      sort_of_ascending hfirst]
    exact congrArg Except.ok (by decide +kernel)
  have hlate : rollUp? 10 "ETH" "10ms" (normalize 0 10 mixed) = .ok [late] := by
    rw [normalize_eq_of_ascending hsecond (by decide) (by decide), rollUp?_of_pos (by decide), rollUp,
      sort_of_ascending hsecond]
    exact congrArg Except.ok (by decide +kernel)
  obtain ⟨-, before, after, hbefore, hafter, hwhole⟩ :=
    rollUp_pieces (by decide) 2 "ETH" "10ms" hraw hx hy hz (by decide) (by decide)
  obtain rfl := Except.ok.inj (hearly.symm.trans hbefore)
  obtain rfl := Except.ok.inj (hlate.symm.trans hafter)
  exact ⟨by decide, hraw, hx, hy, hz, by decide, by decide, hearly, hlate, hwhole⟩

end Candlestick.Series
