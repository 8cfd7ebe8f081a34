import Candlestick.Failure
import Candlestick.Loader.Settings
import Candlestick.Market.TimeFrame

set_option autoImplicit false

/-! # The window that is loaded

The visible range is widened by some buckets on both sides, ended at the present, and snapped outward
to whole buckets. Where nothing is left of it, the window is the last days before the present. -/

namespace Candlestick.Window

/-- The visible range with the buckets around it, or the last days where that is empty. -/
def expand (settings : LoaderSettings) (now start stop bucket : Int) : Int × Int :=
  let buffer := settings.prefetchBuckets * bucket
  -- Nothing is asked for before 1970 or after the present.
  let first := max 0 (start - buffer)
  let last := min now (stop + buffer)
  if first = 0 ∨ last = 0 ∨ last ≤ first then (now - settings.windowDays * dayMs, now)
  else (first, last)

/-- The least integer that is not below a quotient, which is formed as a binary64 number. -/
def ceilQuotient (a b : Int) : Except Failure Int :=
  if b = 0 then .error .divisionByZero
  else match (Double.ofQuotient a b).ceil? with
    | some n => .ok n
    | none => .error .tooLarge

/-- A range snapped outward to whole buckets, at least one bucket wide. -/
def align (start stop bucket : Int) : Except Failure (Int × Int) :=
  if bucket = 0 then .error .divisionByZero
  else do
    let clamped := max 0 start
    let first := clamped - clamped.fmod bucket
    let buckets ← ceilQuotient stop bucket
    return (first, max (first + bucket) (buckets * bucket))

end Candlestick.Window
