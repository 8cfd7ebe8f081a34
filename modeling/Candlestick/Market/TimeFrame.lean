import Candlestick.Text.Blank
import Candlestick.Text.Case

set_option autoImplicit false

/-! # Timeframes

The thirteen granularities of a chart, from one minute to a month. A month has the nominal length of
thirty days, which serves to count buckets only. -/

namespace Candlestick

/-- The granularity of a candle, whatever a provider calls it. -/
inductive TimeFrame where
  | min1 | min3 | min5 | min15 | min30
  | hour1 | hour2 | hour4 | hour12
  | day1 | day3 | week | month
  deriving DecidableEq

/-- Milliseconds of a minute. -/
def minuteMs : Int := 60000

/-- Milliseconds of a day. -/
def dayMs : Int := 24 * 60 * minuteMs

namespace TimeFrame

/-- All timeframes, the shortest first. -/
def all : List TimeFrame :=
  [min1, min3, min5, min15, min30, hour1, hour2, hour4, hour12, day1, day3, week, month]

theorem mem_all (t : TimeFrame) : t ∈ all := by cases t <;> decide

/-- The length in minutes. -/
def minutes : TimeFrame → Int
  | min1 => 1
  | min3 => 3
  | min5 => 5
  | min15 => 15
  | min30 => 30
  | hour1 => 60
  | hour2 => 120
  | hour4 => 240
  | hour12 => 720
  | day1 => 1440
  | day3 => 3 * 1440
  | week => 7 * 1440
  | month => 30 * 1440

/-- The length in milliseconds. -/
def ms (t : TimeFrame) : Int := t.minutes * minuteMs

theorem ms_pos (t : TimeFrame) : 0 < t.ms := by cases t <;> decide

/-- The name in configurations. -/
def name : TimeFrame → String
  | min1 => "min1"
  | min3 => "min3"
  | min5 => "min5"
  | min15 => "min15"
  | min30 => "min30"
  | hour1 => "hour1"
  | hour2 => "hour2"
  | hour4 => "hour4"
  | hour12 => "hour12"
  | day1 => "day1"
  | day3 => "day3"
  | week => "week"
  | month => "month"

/-- The short label on a chart; only the case of its letter tells a minute from a month. -/
def label : TimeFrame → String
  | min1 => "1m"
  | min3 => "3m"
  | min5 => "5m"
  | min15 => "15m"
  | min30 => "30m"
  | hour1 => "1h"
  | hour2 => "2h"
  | hour4 => "4h"
  | hour12 => "12h"
  | day1 => "1d"
  | day3 => "3d"
  | week => "1w"
  | month => "1M"

/-- The timeframe that a text names: by its label as it stands, or by its name in any case. -/
def ofText? (text : String) : Option TimeFrame :=
  let bare := Text.strip text
  match all.find? (·.label = bare) with
  | some t => some t
  | none => all.find? (·.name = Text.lower bare)

end TimeFrame

end Candlestick
