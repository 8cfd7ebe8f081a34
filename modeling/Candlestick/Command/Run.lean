import Candlestick.Command.Fetch
import Candlestick.Command.Intervals

set_option autoImplicit false

/-! # Running a command line -/

namespace Candlestick

/-- The lines of the command `settings`. -/
def LoaderSettings.lines (s : LoaderSettings) : List String := [
  "prefetch_buckets: " ++ toString s.prefetchBuckets,
  "default_window_days: " ++ toString s.windowDays,
  "default_quote_asset: " ++ s.quote,
  "request_timeout: " ++ s.timeout.text,
  "strict_validation: " ++ (if s.strict then "True" else "False")]

namespace Command

/-- Run a command line at the time `now`, in an environment and a working folder. -/
def run {σ : Type} (registry : Registry) (env : Environment) (now : Int) (world : World σ)
    (folder : Folder) (state : σ) (args : List String) : Outcome σ :=
  let ended (ending : Ending) (lines : List String) : Outcome σ :=
    ⟨ending, lines, folder, [], [], state⟩
  match Invocation.ofArgs? folder args with
  | none => ended .misused []
  | some (.fetch options) => options.run registry env now world folder state
  | some (.intervals options) =>
    match options.lines registry with
    | .ok lines => ended .done lines
    | .error cause => ended (.refused cause.message) []
  | some .settings =>
    match LoaderSettings.ofEnvironment env with
    | .ok settings => ended .done settings.lines
    | .error cause => ended (.broken (.config cause)) []

end Command

end Candlestick
