import Candlestick.Proofs.Command.OpenEnded
import Candlestick.Proofs.Loader.Failures
import Candlestick.Proofs.Loader.Strict

set_option autoImplicit false

/-! # Which failures the command reports

The command `fetch` reports the failures of the data layer and breaks off at all others. Of the failures
that are documented for the data layer one is left out, that of candles of poor quality: a strict load that
finds fault with candles breaks the command off, and no other load has that failure. Where the load returns,
the command breaks off only if an end of what is shown lies in no year that can be written. -/

namespace Candlestick

/-- The failures that are documented for the data layer. -/
def Failure.Documented : Failure → Prop
  | .unsupportedSource .. | .unsupportedTimeFrame .. | .provider .. | .cancelled _ | .poorQuality _ => True
  | _ => False

/-- All of them but one are the command's to report. -/
theorem Failure.isReported_iff {cause : Failure} :
    cause.isReported = true ↔ cause.Documented ∧ ∀ issues, cause ≠ .poorQuality issues := by
  cases cause <;> simp [isReported, Documented]

namespace Command

section Outcomes

variable {σ : Type} (config : ChartConfig) (folder : Folder) (outcome : Outcome σ) (cause : Failure)

/-- A command has said under the chart's line why there are no candles, and has ended with the exit code of
    an error. -/
structure Reports : Prop where
  ending : outcome.ending = .refused cause.message
  lines : outcome.lines = [headLine config]
  folder : outcome.folder = folder

/-- A command has broken off under the chart's line. -/
structure BreaksOff : Prop where
  ending : outcome.ending = .broken (.data cause)
  lines : outcome.lines = [headLine config]
  folder : outcome.folder = folder

/-- What breaks a command off is not reported. -/
theorem BreaksOff.not_reports {config : ChartConfig} {folder : Folder} {outcome : Outcome σ}
    {cause other : Failure} (h : BreaksOff config folder outcome cause) :
    ¬ Reports config folder outcome other := by
  intro hreports
  exact nomatch h.ending.symm.trans hreports.ending

end Outcomes

section Run

variable {σ : Type} {options : FetchOptions} {registry : Registry} {env : Environment} {now : Int}
  {world : World σ} {folder : Folder} {state : σ} {config : ChartConfig} {settings : LoaderSettings}

/-- A load that fails ends the command as the failure bids. -/
theorem FetchOptions.run_of_error (hchart : options.chart folder = .ok config)
    (hsettings : config.loader.override env = .ok settings) {cause : Failure}
    (hload : (config.request.load registry settings now world Cache.empty state).outcome = .error cause) :
    let outcome := options.run registry env now world folder state
    outcome.ending = loadEnding cause ∧ outcome.lines = [headLine config] ∧ outcome.folder = folder := by
  unfold run
  rw [hchart]
  simp only [hsettings, showChart, hload, and_self]

/-- Candles within the calendar are summed up in two lines, and if they are not to be written to a file
    that is all. -/
theorem summarize_writable (options : FetchOptions) (folder : Folder) {shown : List Candle}
    {first last : Candle} (hfirst : shown.head? = some first) (hlast : shown.getLast? = some last)
    (hstart : Calendar.Writable first.start) (hstop : Calendar.Writable last.stop) :
    ∃ line more, countLine shown first last = .ok line ∧
      (summarize options folder shown).lines = line :: lastLine last :: more ∧
      (options.output = none → more = [] ∧ (summarize options folder shown).ending = .done) := by
  obtain ⟨line, hline⟩ := exists_countLine shown hstart hstop
  simp only [summarize, hfirst, hlast, hline]
  split
  · exact ⟨line, [], rfl, rfl, fun _ => ⟨rfl, rfl⟩⟩
  · rename_i path houtput
    have hsome : options.output ≠ none := by simp [houtput]
    split
    · exact ⟨line, [], rfl, rfl, fun hnone => absurd hnone hsome⟩
    · exact ⟨line, _, rfl, rfl, fun hnone => absurd hnone hsome⟩

/-- What the command makes of a load, for every accepted chart, every environment with valid settings, and
    every provider behind a connection. A documented failure is reported unless it is that of poor quality;
    that one breaks the command off, and only a strict load has it. Candles that are returned are cut to
    the chart's range: of none the command says so, others it sums up if their ends can be written, and
    it breaks off if they cannot. -/
theorem FetchOptions.run_contained (hchart : options.chart folder = .ok config)
    (hsettings : config.loader.override env = .ok settings) (hworld : world.Remote) :
    let load := config.request.load registry settings now world Cache.empty state
    let outcome := options.run registry env now world folder state
    (∀ cause, load.outcome = .error cause → cause.Documented → (∀ issues, cause ≠ .poorQuality issues) →
      Reports config folder outcome cause) ∧
    (∀ issues, load.outcome = .error (.poorQuality issues) →
      settings.strict = true ∧ issues ≠ [] ∧ BreaksOff config folder outcome (.poorQuality issues)) ∧
    ∀ candles, load.outcome = .ok candles →
      (config.visible candles = [] →
        outcome.ending = .done ∧ outcome.lines = [headLine config, "No candles returned."]) ∧
      ∀ first last, (config.visible candles).head? = some first →
        (config.visible candles).getLast? = some last →
        (Calendar.Writable first.start → Calendar.Writable last.stop →
          ∃ line more, countLine (config.visible candles) first last = .ok line ∧
            outcome.lines = headLine config :: line :: lastLine last :: more ∧
            (options.output = none → more = [] ∧ outcome.ending = .done)) ∧
        ∀ cause, countLine (config.visible candles) first last = .error cause →
          BreaksOff config folder outcome cause := by
  intro load outcome
  refine ⟨?_, ?_, ?_⟩
  · intro cause hload hdocumented hsound
    obtain ⟨hending, hlines, hfolder⟩ := run_of_error hchart hsettings hload
    refine ⟨?_, hlines, hfolder⟩
    rw [hending, loadEnding, if_pos (Failure.isReported_iff.2 ⟨hdocumented, hsound⟩)]
  · intro issues hload
    obtain ⟨hending, hlines, hfolder⟩ := run_of_error hchart hsettings hload
    obtain ⟨hstrict, hissues⟩ : settings.strict = true ∧ issues ≠ [] :=
      config.request.failing_load settings now hworld Cache.empty state (.poorQuality issues) hload
    exact ⟨hstrict, hissues, hending, hlines, hfolder⟩
  · intro candles hload
    obtain ⟨hlines, hending, hfolder⟩ := shows_of_load hchart hsettings hload
    refine ⟨fun hnone => ?_, fun first last hfirst hlast => ⟨fun hstart hstop => ?_, fun cause hcause => ?_⟩⟩
    · rw [hlines, hending, hnone]
      exact ⟨rfl, rfl⟩
    · obtain ⟨line, more, hline, hwritten, hdone⟩ :=
        summarize_writable options folder hfirst hlast hstart hstop
      refine ⟨line, more, hline, ?_, fun houtput => ?_⟩
      · rw [hlines, hwritten]
      · obtain ⟨hmore, hend⟩ := hdone houtput
        exact ⟨hmore, hending.trans hend⟩
    · have hbroken : summarize options folder (config.visible candles) = ⟨.broken (.data cause), [], folder⟩ := by
        simp only [summarize, hfirst, hlast, hcause]
      rw [hbroken] at hlines hending hfolder
      exact ⟨hending, hlines, hfolder⟩

end Run

/-! ## Two hours -/

/-- Bitget's hours from two to four o'clock on the first day of 1970. -/
def fetchTwoHours : FetchOptions where
  asset := some "BTC"
  exchange := "bitget"
  market := "spot"
  timeFrame := "1h"
  start := some "1970-01-01T02:00"
  stop := some "1970-01-01T04:00"

/-- The chart that this is. -/
def chartTwoHours : ChartConfig where
  source := ⟨.bitget, .spot⟩
  asset := "BTC"
  quote := "USDT"
  timeFrame := .hour1
  start := some ⟨7200000000⟩
  stop := some ⟨14400000000⟩
  loader := {}

theorem chart_twoHours : fetchTwoHours.chart {} = .ok chartTwoHours := eq_ok_of_toOption (by decide +kernel)

/-- A provider that does not reply is reported. -/
theorem run_contained_noReply :
    let load := chartTwoHours.request.load Registry.standard {} 14400000 Transcript.world Cache.empty []
    let outcome := fetchTwoHours.run Registry.standard [] 14400000 Transcript.world {} []
    fetchTwoHours.chart {} = .ok chartTwoHours ∧ chartTwoHours.loader.override [] = .ok {} ∧
      Transcript.world.Remote ∧
      (∃ cause, load.outcome = .error cause ∧ cause.Documented ∧ (∀ issues, cause ≠ .poorQuality issues) ∧
        Reports chartTwoHours {} outcome cause) ∧
      outcome.ending.code = 1 ∧ outcome.ending.complaint = "Error: Bitget error: no reply\n" := by
  intro load outcome
  have hsettings : chartTwoHours.loader.override [] = .ok {} := override_since 0
  have hcomplaint : outcome.ending.complaint = "Error: Bitget error: no reply\n" := by decide +kernel
  obtain ⟨cause, hload⟩ : ∃ cause, load.outcome = .error cause := exists_of_not_isOk (by decide +kernel)
  obtain ⟨hending, -, -⟩ := FetchOptions.run_of_error chart_twoHours hsettings hload
  have hreported : cause.isReported = true := by
    by_contra hother
    have hsilent : outcome.ending = .broken (.data cause) := hending.trans (if_neg hother)
    have hempty : outcome.ending.complaint = "" := by rw [hsilent, Ending.complaint]
    exact absurd (hempty.symm.trans hcomplaint) (by decide)
  obtain ⟨hdocumented, hsound⟩ := Failure.isReported_iff.1 hreported
  have hreports : Reports chartTwoHours {} outcome cause :=
    (FetchOptions.run_contained chart_twoHours hsettings Transcript.remote_world).1 cause hload hdocumented hsound
  exact ⟨chart_twoHours, hsettings, Transcript.remote_world, ⟨cause, hload, hdocumented, hsound, hreports⟩,
    congrArg Ending.code hreports.ending, hcomplaint⟩

/-- The strict load of the two hours, of which the first has no opening price. -/
def strictVisit : Visit :=
  chartTwoHours.visit Registry.standard { strict := true } 14400000 (Visit.twoHours .null (.int 4)) ()

theorem outcome_strictVisit :
    (strictVisit.load Cache.empty).outcome = .error (.poorQuality [.missingPrices 1]) := by
  let plan : IntervalPlan := ⟨"1h", .hour1, 1⟩
  let raw := (strictVisit.reply plan 0 14400000 ()).toOption.getD []
  have hreply : strictVisit.reply plan 0 14400000 () = .ok raw := eq_ok_of_toOption (by decide +kernel)
  have hraw : Series.Ascending raw := by unfold Series.Ascending; decide +kernel
  have hwindow : strictVisit.window = .ok (0, 14400000) := eq_ok_of_toOption (by decide +kernel)
  have hgaps : strictVisit.gaps Cache.empty = [⟨0, 14400000⟩] := by decide +kernel
  obtain ⟨job, hprep⟩ : ∃ job, strictVisit.Prepared plan job :=
    Visit.exists_prepared rfl hwindow (by decide +kernel)
  have hstart : job.fetchStart ⟨0, 14400000⟩ = 0 := hprep.fetchStart rfl _
  have hmeets : strictVisit.Meets plan job Cache.empty [] ⟨0, 14400000⟩ [] raw := by
    refine ⟨hprep, [], (), hgaps, .nil (), rfl, ?_⟩
    rw [hstart]
    exact hreply
  have hmade : plan.build strictVisit.asset .hour1 0 14400000 raw =
      (raw.filter (Candle.overlaps 0 14400000)).map (Candle.relabel "1h") := by
    rw [IntervalPlan.build, Series.normalize_of_ascending hraw]
    rfl
  refine (hmeets.load_of_refused _ fun state => ?_).1
  have hissues : Series.issues (plan.build strictVisit.asset .hour1 0 14400000 raw) = .ok [.missingPrices 1] := by
    rw [hmade]
    exact eq_ok_of_toOption (by decide +kernel)
  rw [hstart]
  exact Job.outcome_checkQuality_of_faults hissues (by simp) state

/-- Such a load fails with a documented failure, and the command breaks off instead of reporting it. -/
theorem run_breaksOff :
    let env : Environment := [("KWANT_STRICT_VALIDATION", "1")]
    let world := Visit.twoHours .null (.int 4)
    let load := chartTwoHours.request.load Registry.standard { strict := true } 14400000 world Cache.empty ()
    let outcome := fetchTwoHours.run Registry.standard env 14400000 world {} ()
    fetchTwoHours.chart {} = .ok chartTwoHours ∧ chartTwoHours.loader.override env = .ok { strict := true } ∧
      world.Remote ∧ load.outcome = .error (.poorQuality [.missingPrices 1]) ∧
      (Failure.poorQuality [.missingPrices 1]).Documented ∧
      ¬ Reports chartTwoHours {} outcome (.poorQuality [.missingPrices 1]) := by
  intro env world load outcome
  have hsettings : chartTwoHours.loader.override env = .ok { strict := true } :=
    eq_ok_of_toOption (by decide +kernel)
  have hworld : world.Remote := fun state call => failing_ok _
  have hload : load.outcome = .error (.poorQuality [.missingPrices 1]) := outcome_strictVisit
  obtain ⟨hending, hlines, hfolder⟩ := FetchOptions.run_of_error chart_twoHours hsettings hload
  have hbroken : BreaksOff chartTwoHours {} outcome (.poorQuality [.missingPrices 1]) :=
    ⟨hending, hlines, hfolder⟩
  exact ⟨chart_twoHours, hsettings, hworld, hload, trivial, hbroken.not_reports⟩

end Command

end Candlestick
