import Candlestick.Loader.Load
import Candlestick.Network.Transcript
import Candlestick.Proofs.Provider.Failures

set_option autoImplicit false

/-! # How a load can fail

A load fails as a fetch does, or because there is no plan for its timeframe, or at the quality check, where
only a strict one finds fault with candles. So the failure of poor quality is the strict loads' own. -/

namespace Candlestick

open Failure (Remote)

/-- Failures of a load that is strict or not. -/
def Failure.Loading (strict : Bool) : Failure → Prop
  | .unsupportedTimeFrame .. | .startOutOfBounds => True
  | .poorQuality issues => strict = true ∧ issues ≠ []
  | cause => cause.Remote

open Failure (Loading)

theorem Failure.Remote.loading (strict : Bool) {cause : Failure} (h : cause.Remote) : cause.Loading strict := by
  cases cause with
  | poorQuality issues => exact absurd h not_false
  | unsupportedTimeFrame => trivial
  | startOutOfBounds => trivial
  | _ => exact h

/-- A world whose own failures are those of the connection: a refusal, a broken transport, or a withdrawal. -/
def World.Remote {σ : Type} (world : World σ) : Prop :=
  ∀ state call, Failing Failure.Remote (world.answer state call).1

section Loads

variable {σ : Type} {registry : Registry} {strict : Bool}

theorem Registry.failing_plan (registry : Registry) (s : Source) (t : TimeFrame) :
    Failing (Loading strict) (registry.plan s t) := by
  unfold plan
  split
  · exact failing_ok _
  · split <;> exact failing_error trivial

theorem Registry.failing_candles (source : Source) (asset quote : String) (start stop : Int) (t : TimeFrame) :
    (registry.candles source asset quote start stop t).Failing (Loading strict) := by
  unfold candles
  split
  · rename_i cause hcause
    exact registry.failing_plan source t cause hcause
  · exact Dialogue.failing_map.2 ((registry.failing_fetch _).mono fun cause h => h.loading strict)

/-- The check itself fails only of a candle whose start is no time that it can hold. -/
theorem Series.failing_issues (cs : List Candle) : Failing (Loading strict) (Series.issues cs) := by
  refine Failing.map _ ?_
  unfold Frame.ofCandles
  split
  · exact failing_error trivial
  · exact failing_ok _

theorem Job.failing_checkQuality (job : Job) (cs : List Candle) :
    (job.checkQuality strict cs).Failing (Loading strict) := by
  unfold checkQuality
  split
  · rename_i cause hcause
    exact Series.failing_issues cs cause hcause
  · trivial
  · rename_i issues hne _
    split
    · rename_i hstrict
      exact ⟨hstrict, hne⟩
    · trivial

theorem Job.failing_fetchGap (job : Job) (gap : Gap) :
    (job.fetchGap registry strict gap).Failing (Loading strict) :=
  (Registry.failing_candles _ _ _ _ _ _).bind job.failing_checkQuality

/-- Gaps are filled as long as none of them fails, so the failure is that of a gap. -/
theorem Job.failing_fill (job : Job) {world : World σ} (hworld : world.Remote) (gaps : List Gap)
    (cache : Cache) (state : σ) :
    Failing (Loading strict) (job.fill registry strict world cache state gaps).1.outcome := by
  induction gaps generalizing cache state with
  | nil => exact failing_ok ()
  | cons gap rest ih =>
    have hgap : Failing (Loading strict) ((job.fetchGap registry strict gap).run world state).outcome :=
      (job.failing_fetchGap gap).run (fun state call => (hworld state call).mono fun cause h => h.loading strict)
        trivial state
    simp only [fill]
    split
    · rename_i cause hcause
      exact failing_error (hgap cause hcause)
    · exact ih _ _

theorem Job.failing_run (job : Job) {world : World σ} (hworld : world.Remote) (cache : Cache) (state : σ) :
    Failing (Loading strict) (job.run registry strict world cache state).outcome := by
  simp only [Job.run]
  split
  · exact failing_ok _
  · exact (job.failing_fill hworld _ _ _).map _

theorem Window.failing_ceilQuotient (a b : Int) : Failing (Loading strict) (ceilQuotient a b) := by
  unfold ceilQuotient
  split
  · exact failing_error trivial
  · split
    · exact failing_ok _
    · exact failing_error trivial

theorem Window.failing_align (start stop bucket : Int) : Failing (Loading strict) (align start stop bucket) := by
  unfold align
  split
  · exact failing_error trivial
  · exact (failing_ceilQuotient stop bucket).bind fun buckets => failing_ok _

theorem LoadRequest.failing_job (r : LoadRequest) (settings : LoaderSettings) (now : Int) (asset : String) :
    Failing (Loading strict) (r.job registry settings now asset) :=
  (registry.failing_plan _ _).bind fun _ => (Window.failing_align _ _ _).bind fun _ => failing_ok _

/-- A load fails as its provider does, for want of a plan, or at the check: and with poor quality only
    where the check is strict. -/
theorem LoadRequest.failing_load (r : LoadRequest) (settings : LoaderSettings) (now : Int) {world : World σ}
    (hworld : world.Remote) (cache : Cache) (state : σ) :
    Failing (Loading settings.strict) (r.load registry settings now world cache state).outcome := by
  unfold load
  split
  · exact failing_ok _
  · rename_i asset hasset
    split
    · rename_i cause hcause
      exact failing_error (r.failing_job settings now asset cause hcause)
    · exact Job.failing_run _ hworld cache state

end Loads

/-! ## Connections -/

/-- A reply on the wire is an answer, or a failure of the provider or a withdrawal. -/
theorem Http.failing_read (provider : String) (reply : Reply) : Failing Remote (read provider reply) := by
  unfold read
  split
  · exact failing_error trivial
  · exact failing_error trivial
  · exact failing_error trivial
  · split
    · exact failing_error trivial
    · split
      · exact failing_ok _
      · split
        · exact failing_ok _
        · exact failing_error trivial

theorem Transcript.remote_world : Transcript.world.Remote := by
  intro bodies call
  cases bodies with
  | nil => exact Http.failing_read call.provider exhausted
  | cons body rest => exact Http.failing_read call.provider (.body 200 body)

end Candlestick
