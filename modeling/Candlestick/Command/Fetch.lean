import Candlestick.Command.Invocation
import Candlestick.Command.Outcome
import Candlestick.Config.Chart
import Candlestick.Loader.Load

set_option autoImplicit false

/-! # The command `fetch`

The chart is loaded, cut to its range, summed up in two lines and written to a file if so wanted. A
wrong configuration and the failures of the data layer are reported; whatever else goes wrong breaks
the command off. -/

namespace Candlestick

/-- Whether a failure is one of the data layer's own. -/
def Failure.isReported : Failure → Bool
  | .unsupportedSource .. | .unsupportedTimeFrame .. | .provider .. | .cancelled _ => true
  | _ => false

/-- The candles of a chart's range, of those that were loaded. A range without an end reaches to the
    end of the last candle. -/
def ChartConfig.visible (config : ChartConfig) (candles : List Candle) : List Candle :=
  match candles.getLast? with
  | none => candles
  | some last =>
    if config.start.isSome || config.stop.isSome then
      Series.normalize config.startMs (if config.stopMs = 0 then last.stop else config.stopMs) candles
    else candles

/-- The load of a chart. -/
def ChartConfig.request (config : ChartConfig) : LoadRequest where
  source := config.source
  timeFrame := config.timeFrame
  start := config.startMs
  stop := config.stopMs
  asset := config.asset
  quote := some config.quote

namespace Command

/-- Whether a wrong configuration is reported; a file that is no document and a time outside of the
    calendar break the command off. -/
def reportedConfig : ConfigError → Option String
  | .invalid model faults => some (ConfigError.invalid model faults).message
  | .notNumber text => some (ConfigError.notNumber text).message
  | .unreadable fault => match fault with
    | .noCharacter | .notInteger .. | .tooManyDigits _ | .notNumber _ | .notInCalendar _ => some fault.message
    | _ => none
  | .missingFile _ | .outOfCalendar => none

/-- The end that a wrong configuration brings about. -/
def configEnding (cause : ConfigError) : Ending :=
  match reportedConfig cause with
  | some reason => .refused reason
  | none => .broken (.config cause)

/-- The end that a failure of a load brings about. -/
def loadEnding (cause : Failure) : Ending :=
  if cause.isReported then .refused cause.message else .broken (.data cause)

/-! ## The chart -/

/-- The options as a document. -/
def FetchOptions.document (options : FetchOptions) (asset : String) : Yaml.Value :=
  let orNull (text : Option String) : Yaml.Value := (text.map .str).getD .null
  .map [
    (.str "exchange", .str options.exchange), (.str "market", .str options.market),
    (.str "asset", .str asset), (.str "quote_asset", .str options.quote),
    (.str "timeframe", .str options.timeFrame), (.str "start", orNull options.start),
    (.str "end", orNull options.stop)]

/-- The chart that the options describe, by a file or by themselves. -/
def FetchOptions.chart (options : FetchOptions) (folder : Folder) : Except Ending ChartConfig :=
  match options.config with
  | some path =>
    match folder.read path with
    | .error cause => .error (.broken (.file cause))
    | .ok text =>
      (Config.document path.text (some text) >>= ChartConfig.ofValue).mapError configEnding
  | none =>
    match options.asset with
    | none | some "" => .error (.refused "ASSET is required when --config is not given.")
    | some asset => (ChartConfig.ofValue (options.document asset)).mapError configEnding

/-! ## The summary -/

/-- The first line. -/
def headLine (config : ChartConfig) : String :=
  "[kwant-chart] " ++ config.source.text ++ " " ++ config.asset ++ "/" ++ config.quote ++ " @ " ++
    config.timeFrame.label

/-- How many candles there are, and from when to when. -/
def countLine (candles : List Candle) (first last : Candle) : Except Failure String := do
  let start ← Calendar.minuteOfMs first.start
  let stop ← Calendar.minuteOfMs last.stop
  return "Candles: " ++ toString candles.length ++ " (" ++ start ++ " -> " ++ stop ++ ")"

/-- The values of the last candle. -/
def lastLine (c : Candle) : String :=
  "Last: O " ++ c.opening.text ++ " H " ++ c.highest.text ++ " L " ++ c.lowest.text ++ " C " ++
    c.closing.text ++ " V " ++ c.volume.text

/-- What a summary has come to: its lines and the working folder, and how the command ends. -/
structure Summary where
  ending : Ending
  lines : List String
  folder : Folder

/-- Write candles to a file: a binary table where its name ends in `.parquet`, else comma-separated
    values. -/
def writeCandles (folder : Folder) (path : Path) (candles : List Candle) : Except Breakage Folder := do
  let frame ← (Frame.ofCandles candles).mapError .data
  let content := if path.extension = ".parquet" then Content.table frame else .text frame.csv
  (folder.write path content).mapError .file

/-- Sum candles up and write them. -/
def summarize (options : FetchOptions) (folder : Folder) (candles : List Candle) : Summary :=
  match candles.head?, candles.getLast? with
  | some first, some last =>
    match countLine candles first last with
    | .error cause => ⟨.broken (.data cause), [], folder⟩
    | .ok line =>
      -- A failure to write comes after the summary, which has been printed by then.
      let lines := [line, lastLine last]
      match options.output with
      | none => ⟨.done, lines, folder⟩
      | some path =>
        match writeCandles folder path candles with
        | .error cause => ⟨.broken cause, lines, folder⟩
        | .ok folder =>
          let written := "Wrote " ++ toString candles.length ++ " candles to " ++ path.text
          ⟨.done, lines ++ [written], folder⟩
  | _, _ => ⟨.done, ["No candles returned."], folder⟩

/-- Load a chart and sum it up. -/
def showChart {σ : Type} (options : FetchOptions) (config : ChartConfig) (registry : Registry)
    (settings : LoaderSettings) (now : Int) (world : World σ) (folder : Folder) (state : σ) :
    Outcome σ :=
  let load := config.request.load registry settings now world Cache.empty state
  let summary : Summary := match load.outcome with
    | .error cause => ⟨loadEnding cause, [], folder⟩
    | .ok candles => summarize options folder (config.visible candles)
  { ending := summary.ending
    lines := headLine config :: summary.lines
    folder := summary.folder
    calls := load.calls
    notes := load.notes
    state := load.state }

/-- Run `fetch`. The environment overrides settings of the chart's loader only after the first line
    has been written. -/
def FetchOptions.run {σ : Type} (options : FetchOptions) (registry : Registry) (env : Environment)
    (now : Int) (world : World σ) (folder : Folder) (state : σ) : Outcome σ :=
  match options.chart folder with
  | .error ending => ⟨ending, [], folder, [], [], state⟩
  | .ok config =>
    match config.loader.override env with
    | .error cause => ⟨.broken (.config cause), [headLine config], folder, [], [], state⟩
    | .ok settings => showChart options config registry settings now world folder state

end Command

end Candlestick
