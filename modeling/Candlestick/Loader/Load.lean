import Candlestick.Loader.Fetch
import Candlestick.Loader.Gaps
import Candlestick.Loader.Window
import Candlestick.Series.Quality

set_option autoImplicit false

/-! # Loading a chart

A load serves a chart from the cache and fetches only what is missing. Gaps are fetched one after the
other, and the candles of a gap enter the cache when all of them have come and passed the quality
check, so a load that fails leaves the gaps before it filled and nothing else changed. -/

namespace Candlestick

/-- What a chart asks for. -/
structure LoadRequest where
  source : Source
  timeFrame : TimeFrame
  start : Int
  stop : Int
  asset : String
  quote : Option String := none

/-- Timeframes whose candles follow the calendar and not the grid of buckets. -/
def TimeFrame.isOffGrid (t : TimeFrame) : Bool := t = .day3 || t = .week || t = .month

/-- How many buckets before a gap a fetch begins, where candles do not stand on the grid. -/
def lookbackBuckets : Int := 2

/-- A load whose timeframe has been resolved and whose window is known. -/
structure Job where
  source : Source
  timeFrame : TimeFrame
  asset : String
  quote : String
  /-- Whether the provider's own candles are off the grid. -/
  offGrid : Bool
  start : Int
  stop : Int

/-- The asset of a load: nothing where it is blank. -/
def LoadRequest.asset? (r : LoadRequest) : Option String :=
  if Text.strip r.asset = "" then none else some (Symbol.leg r.asset)

/-- Resolve a load and find its window. -/
def LoadRequest.job (registry : Registry) (settings : LoaderSettings) (now : Int) (r : LoadRequest)
    (asset : String) : Except Failure Job := do
  let quote := Symbol.leg (r.quote.getD "")
  let bucket := r.timeFrame.ms
  let plan ← registry.plan r.source r.timeFrame
  let (first, last) := Window.expand settings now r.start r.stop bucket
  let (start, stop) ← Window.align first last bucket
  return {
    source := r.source
    timeFrame := r.timeFrame
    asset := asset
    quote := if quote = "" then settings.quote else quote
    offGrid := plan.isDirect && r.timeFrame.isOffGrid
    start := start
    stop := stop }

namespace Job

/-- The cached candles and the gaps of a job's window. -/
def collect (job : Job) (cache : Cache) : List Candle × List Gap :=
  Gaps.collect (cache.candles job.timeFrame) job.asset job.start job.stop job.timeFrame.ms
    (!job.offGrid)

/-- The remark before gaps are fetched. -/
def announcement (job : Job) (cached gaps : Nat) : Note :=
  ⟨.info, job.source.text ++ " " ++ job.asset ++ "/" ++ job.quote ++ " " ++ job.timeFrame.label ++
    ": " ++ toString cached ++ " cached, fetching " ++ toString gaps ++ " gap(s)"⟩

/-- The remark on faulty candles. -/
def complaint (job : Job) (issues : List Issue) : Note :=
  ⟨.warning, job.source.text ++ " " ++ job.asset ++ " " ++ job.timeFrame.label ++
    " data quality: " ++ Issue.describe issues⟩

/-- Where the fetch of a gap begins: before the gap where a candle that opened earlier may reach
    into it. -/
def fetchStart (job : Job) (gap : Gap) : Int :=
  if job.offGrid then max 0 (gap.start - lookbackBuckets * job.timeFrame.ms) else gap.start

/-- Check fetched candles: faults are refused or remarked upon. -/
def checkQuality (job : Job) (strict : Bool) (cs : List Candle) : Dialogue (List Candle) :=
  match Series.issues cs with
  | .error cause => .fail cause
  | .ok [] => .done cs
  | .ok issues => if strict then .fail (.poorQuality issues) else .note (job.complaint issues) (.done cs)

/-- Fetch and check the candles of a gap. -/
def fetchGap (job : Job) (registry : Registry) (strict : Bool) (gap : Gap) : Dialogue (List Candle) :=
  .check <|
    (registry.candles job.source job.asset job.quote (job.fetchStart gap) gap.stop
      job.timeFrame).bind (job.checkQuality strict)

end Job

/-- What a load came to. -/
structure Load (σ : Type) where
  outcome : Except Failure (List Candle)
  /-- The cache afterwards. -/
  cache : Cache
  /-- The asset's cached candles before anything was fetched, where the load got that far. -/
  snapshot : Option (List Candle)
  calls : List Call
  notes : List Note
  state : σ

/-- Fill gaps one after the other. -/
def Job.fill {σ : Type} (job : Job) (registry : Registry) (strict : Bool) (world : World σ)
    (cache : Cache) (state : σ) : List Gap → Run σ Unit × Cache
  | [] => (⟨.ok (), [], [], state⟩, cache)
  | gap :: rest =>
    let run := (job.fetchGap registry strict gap).run world state
    match run.outcome with
    | .error cause => (⟨.error cause, run.calls, run.notes, run.state⟩, cache)
    | .ok candles =>
      let (others, cache) :=
        job.fill registry strict world (cache.store job.timeFrame candles) run.state rest
      ({ others with calls := run.calls ++ others.calls, notes := run.notes ++ others.notes }, cache)

/-- Run a job: claim the timeframe, find the gaps, fill them, and give the asset's candles. -/
def Job.run {σ : Type} (job : Job) (registry : Registry) (strict : Bool) (world : World σ)
    (cache : Cache) (state : σ) : Load σ :=
  -- The claim stands even if the load fails later.
  let cache := cache.claim job.timeFrame job.asset
  let (cached, gaps) := job.collect cache
  let snapshot := cache.snapshot job.timeFrame job.asset
  if gaps.isEmpty && !cached.isEmpty then ⟨.ok snapshot, cache, some snapshot, [], [], state⟩
  else
    let (run, cache) := job.fill registry strict world cache state gaps
    { outcome := run.outcome.map fun _ => cache.snapshot job.timeFrame job.asset
      cache := cache
      snapshot := some snapshot
      calls := run.calls
      notes := job.announcement cached.length gaps.length :: run.notes
      state := run.state }

/-- Load a chart at the time `now`. A blank asset has no candles. -/
def LoadRequest.load {σ : Type} (r : LoadRequest) (registry : Registry) (settings : LoaderSettings)
    (now : Int) (world : World σ) (cache : Cache) (state : σ) : Load σ :=
  match r.asset? with
  | none => ⟨.ok [], cache, none, [], [], state⟩
  | some asset =>
    match r.job registry settings now asset with
    | .error cause => ⟨.error cause, cache, none, [], [], state⟩
    | .ok job => job.run registry settings.strict world cache state

end Candlestick
