import Candlestick.Loader.Load
import Candlestick.Proofs.Loader.Gaps
import Candlestick.Proofs.Loader.Window

set_option autoImplicit false

/-! # How far the gaps of a job reach

The gaps of a sound window are whole buckets inside it. What is fetched for a gap begins at the gap or
some buckets before it, but not before 1970, and ends with the gap. -/

namespace Candlestick.Job

/-- A gap of whole buckets that have begun by a time, and the range that is fetched for it. -/
structure Reaches (job : Job) (now : Int) (gap : Gap) : Prop where
  lt : gap.start < gap.stop
  begun : gap.stop < now + job.timeFrame.ms
  start_dvd : job.timeFrame.ms ∣ gap.start
  stop_dvd : job.timeFrame.ms ∣ gap.stop
  nonneg : 0 ≤ job.fetchStart gap
  fetchStart_le : job.fetchStart gap ≤ gap.start
  fetchStart_dvd : job.timeFrame.ms ∣ job.fetchStart gap

variable {job : Job} {now : Int} {cache : Cache}

/-- The gaps of a job split its window. -/
theorem splits (hsound : Window.Sound now job.timeFrame.ms job.start job.stop) (cache : Cache) :
    Gaps.Splits
      (Gaps.Hit (Gaps.lookUp (cache.candles job.timeFrame) job.asset (!job.offGrid)) job.asset)
      job.start job.stop job.timeFrame.ms (job.collect cache).2 :=
  Gaps.splits_collect (cache.candles job.timeFrame) job.asset (!job.offGrid) job.timeFrame.ms_pos
    (Int.le_of_lt hsound.lt) (Int.dvd_sub hsound.stop_dvd hsound.start_dvd)

/-- The gaps of a window of whole buckets consist of whole buckets. -/
theorem dvd_of_gap (hstart : job.timeFrame.ms ∣ job.start) (hstop : job.timeFrame.ms ∣ job.stop)
    (hle : job.start ≤ job.stop) {gap : Gap} (hgap : gap ∈ (job.collect cache).2) :
    job.timeFrame.ms ∣ gap.start ∧ job.timeFrame.ms ∣ gap.stop := by
  have hsplits := Gaps.splits_collect (cache.candles job.timeFrame) job.asset (!job.offGrid)
    job.timeFrame.ms_pos hle (Int.dvd_sub hstop hstart)
  obtain ⟨hfrom, hto⟩ := hsplits.aligned gap hgap
  have hfrom := Int.dvd_add hfrom hstart
  have hto := Int.dvd_add hto hstart
  rw [Int.sub_add_cancel] at hfrom hto
  exact ⟨hfrom, hto⟩

/-- Every gap of a sound window can be asked for. -/
theorem reaches (hsound : Window.Sound now job.timeFrame.ms job.start job.stop) {gap : Gap}
    (hgap : gap ∈ (job.collect cache).2) : job.Reaches now gap := by
  obtain ⟨hfrom, hlt, hto⟩ := (splits hsound cache).within gap hgap
  obtain ⟨hstart, hstop⟩ :=
    dvd_of_gap hsound.start_dvd hsound.stop_dvd (Int.le_of_lt hsound.lt) hgap
  have hnonneg := hsound.nonneg
  have hbegun := hsound.begun
  have hpos := job.timeFrame.ms_pos
  refine ⟨hlt, by omega, hstart, hstop, ?_, ?_, ?_⟩
  · unfold fetchStart
    split <;> omega
  · unfold fetchStart lookbackBuckets
    split <;> omega
  · unfold fetchStart
    split
    · rcases Int.le_total (gap.start - lookbackBuckets * job.timeFrame.ms) 0 with h | h
      · rw [Int.max_eq_left h]
        exact Int.dvd_zero _
      · rw [Int.max_eq_right h]
        exact Int.dvd_sub hstart (Int.dvd_mul_left _ _)
    · exact hstart

/-- What is fetched for a gap begins no later than what is fetched for one after it. -/
theorem fetchStart_mono (job : Job) {gap gap' : Gap} (h : gap.start ≤ gap'.start) :
    job.fetchStart gap ≤ job.fetchStart gap' := by
  unfold fetchStart
  split <;> omega

namespace Reaches

variable {gap : Gap}

theorem fetchStart_lt (h : job.Reaches now gap) : job.fetchStart gap < gap.stop :=
  Int.lt_of_le_of_lt h.fetchStart_le h.lt

end Reaches

end Candlestick.Job
