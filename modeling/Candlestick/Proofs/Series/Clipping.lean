import Candlestick.Proofs.Series.Order

set_option autoImplicit false

/-! # Clipping against its definition

A candle of a list prevails in a range if it overlaps the range and no candle behind it in the list
that overlaps the range starts together with it. `Series.normalize_prevails` says that `normalize`
gives exactly these candles, in order of start. So the answer is a function of what overlaps the range,
a second run changes nothing, and where candles that overlap the range and start together are equal,
the order of the list does not matter. -/

namespace Candlestick

/-- A candle that fills a bucket overlaps a range of whole buckets if it starts in it. -/
theorem Candle.overlaps_iff {c : Candle} {width start stop : Int} (hwidth : 0 < width)
    (hc : width ∣ c.start) (hend : c.stop = c.start + width) (hstart : width ∣ start) :
    c.overlaps start stop = true ↔ start ≤ c.start ∧ c.start < stop := by
  have hfrom : start < c.start + width ↔ start ≤ c.start := by
    constructor
    · intro hlt
      refine Int.not_lt.1 fun hbefore => ?_
      have := Int.le_of_dvd (by omega) (Int.dvd_sub hstart hc)
      omega
    · omega
  simp only [Candle.overlaps, Bool.and_eq_true, decide_eq_true_eq, hend, hfrom]

namespace Series

/-- A candle of a list that overlaps a range, behind which the list has no candle of the same start that
    does. -/
def Prevails (start stop : Int) (raw : List Candle) (c : Candle) : Prop :=
  ∃ before after, raw = before ++ c :: after ∧ start < c.stop ∧ c.start < stop ∧
    ∀ d ∈ after, start < d.stop → d.start < stop → d.start ≠ c.start

variable {start stop : Int} {raw : List Candle}

/-- What `normalize` keeps are the candles that prevail. -/
theorem mem_normalize_iff_prevails {c : Candle} :
    c ∈ normalize start stop raw ↔ Prevails start stop raw c := by
  rw [mem_normalize, ← List.filter_reverse, List.find?_filter, List.find?_eq_some_iff_append]
  simp only [Candle.overlaps, Bool.and_eq_true, decide_eq_true_eq, Bool.not_eq_true',
    decide_eq_false_iff_not, not_and, and_imp, and_true]
  constructor
  · rintro ⟨⟨hfrom, hto⟩, behind, ahead, hsplit, hbehind⟩
    refine ⟨ahead.reverse, behind.reverse, ?_, hfrom, hto, fun d hd => ?_⟩
    · rw [← List.reverse_reverse raw, hsplit]
      simp
    · exact hbehind d (List.mem_reverse.1 hd)
  · rintro ⟨before, after, rfl, hfrom, hto, hafter⟩
    refine ⟨⟨hfrom, hto⟩, after.reverse, before.reverse, by simp, fun d hd => ?_⟩
    exact hafter d (List.mem_reverse.1 hd)

/-- Only the candles that overlap the range count. -/
theorem normalize_filter_overlaps (raw : List Candle) :
    normalize start stop (raw.filter (Candle.overlaps start stop)) = normalize start stop raw := by
  rw [normalize, List.filter_filter, normalize]
  simp only [Bool.and_self]

theorem normalize_normalize :
    normalize start stop (normalize start stop raw) = normalize start stop raw := by
  rw [normalize_of_ascending (ascending_normalize start stop raw), List.filter_eq_self]
  exact fun c hc => (mem_of_mem_normalize hc).2

/-- A list in order of start is what clipping gives if each of its candles is the last one of its start
    among those that overlap the range, and no start of theirs is missing. -/
theorem normalize_eq_of_ascending {out : List Candle} (hout : Ascending out)
    (hlast : ∀ c ∈ out,
      (raw.filter (Candle.overlaps start stop)).reverse.find? (·.start = c.start) = some c)
    (hall : ∀ c ∈ raw, c.overlaps start stop = true → ∃ d ∈ out, d.start = c.start) :
    normalize start stop raw = out := by
  refine (ascending_normalize start stop raw).ext hout fun c => ⟨fun hc => ?_, fun hc => ?_⟩
  · obtain ⟨hraw, hover⟩ := mem_of_mem_normalize hc
    obtain ⟨d, hd, hstart⟩ := hall c hraw hover
    have hfind := hlast d hd
    rw [hstart, mem_normalize.1 hc] at hfind
    exact Option.some.inj hfind ▸ hd
  · exact mem_normalize.2 (hlast c hc)

/-- Clipping to a range gives the candles that prevail in it, in order of start. Clipping once more
    changes nothing, and the order of the list does not matter where candles that overlap the range and
    start together are equal. -/
theorem normalize_prevails (start stop : Int) (raw : List Candle) :
    Ascending (normalize start stop raw) ∧
      (∀ c, c ∈ normalize start stop raw ↔ Prevails start stop raw c) ∧
      normalize start stop (normalize start stop raw) = normalize start stop raw ∧
      ((∀ a ∈ raw, ∀ b ∈ raw, a.overlaps start stop = true → b.overlaps start stop = true →
          a.start = b.start → a = b) →
        ∀ other, raw.Perm other → normalize start stop other = normalize start stop raw) := by
  refine ⟨ascending_normalize start stop raw, fun c => mem_normalize_iff_prevails,
    normalize_normalize, fun hunique other hperm => ?_⟩
  rw [← normalize_filter_overlaps raw, ← normalize_filter_overlaps other]
  refine (normalize_perm (hperm.filter _) fun a ha b hb heq => ?_).symm
  obtain ⟨ha, hover⟩ := List.mem_filter.1 ha
  obtain ⟨hb, hover'⟩ := List.mem_filter.1 hb
  exact hunique a ha b hb hover hover' heq

/-- A candle all of whose prices are the same whole number. -/
def flat (start stop price : Int) : Candle :=
  ⟨start, stop, .ofInt price, .ofInt price, .ofInt price, .ofInt price, .ofInt 1, 1, "BTC", "1m"⟩

/-- Candles out of order, of which one comes twice. Those that end as the range from 10 to 20 begins, that
    end before they start, or that start as the range ends do not overlap it. -/
def unruly : List Candle :=
  [flat 5 10 1, flat 12 9 2, flat 5 15 3, flat 20 30 4, flat 12 18 5, flat 5 15 3]

/-- Two candles prevail, and the list may as well be read backwards. -/
theorem normalize_prevails_unruly :
    (∀ a ∈ unruly, ∀ b ∈ unruly, a.overlaps 10 20 = true → b.overlaps 10 20 = true →
      a.start = b.start → a = b) ∧
      Prevails 10 20 unruly (flat 5 15 3) ∧ Prevails 10 20 unruly (flat 12 18 5) ∧
      normalize 10 20 unruly = [flat 5 15 3, flat 12 18 5] ∧
      normalize 10 20 unruly.reverse = normalize 10 20 unruly := by
  have hunique : ∀ a ∈ unruly, ∀ b ∈ unruly, a.overlaps 10 20 = true → b.overlaps 10 20 = true →
      a.start = b.start → a = b := by decide
  obtain ⟨hascending, hmem, -, hperm⟩ := normalize_prevails 10 20 unruly
  have hthree : Prevails 10 20 unruly (flat 5 15 3) :=
    ⟨unruly.take 5, [], rfl, by decide, by decide, by simp⟩
  have hfive : Prevails 10 20 unruly (flat 12 18 5) :=
    ⟨unruly.take 4, [flat 5 15 3], rfl, by decide, by decide, by decide⟩
  have hvalue : normalize 10 20 unruly = [flat 5 15 3, flat 12 18 5] :=
    normalize_eq_of_ascending (List.pairwise_pair.2 (by decide)) (by decide) (by decide)
  exact ⟨hunique, hthree, hfive, hvalue, hperm hunique _ (List.reverse_perm unruly).symm⟩

end Series

end Candlestick
