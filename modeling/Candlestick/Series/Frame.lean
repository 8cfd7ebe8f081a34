import Candlestick.Calendar.Moment
import Candlestick.Series.Order

set_option autoImplicit false

/-! # Tables of candles

A frame is the table of candles in order of start, one row for each, as it is written to files. The
starts have to fit 64 bits as microseconds. -/

namespace Candlestick

/-- A table of candles in order of start. -/
structure Frame where
  rows : List Candle
  deriving DecidableEq

namespace Frame

/-- The columns after the start. -/
def columns : List String := ["open", "high", "low", "close", "volume", "trades"]

/-- The name of the column of starts. -/
def indexName : String := "timestamp"

/-- The greatest start that a table can hold, in milliseconds. -/
def latestStart : Int := 9223372036854775

/-- The table of candles, if every start fits. -/
def ofCandles (cs : List Candle) : Except Failure Frame :=
  if cs.any fun c => latestStart < c.start || c.start < -latestStart then .error .startOutOfBounds
  else .ok ⟨Series.sort cs⟩

/-- A number's text in a table; a missing one is empty. -/
def cellText : Double → String
  | .nan => ""
  | x => x.text

/-- A start as date and time, to the millisecond if so wanted. -/
def startText (millis : Bool) (start : Int) : String :=
  let moment : Calendar.Moment := ⟨start * 1000⟩
  moment.date.text ++ " " ++ moment.clockText ++
    (if millis then "." ++ Calendar.padded 3 (start % 1000) else "") ++ "+00:00"

/-- The line of one candle. -/
def line (millis : Bool) (c : Candle) : String :=
  ",".intercalate [startText millis c.start, cellText c.opening, cellText c.highest,
    cellText c.lowest, cellText c.closing, cellText c.volume, toString c.trades]

/-- The lines of the table as comma-separated values, the header first. Starts are written to the
    millisecond if any of them is no whole second. -/
def csvLines (frame : Frame) : List String :=
  let millis := frame.rows.any fun c => c.start % 1000 ≠ 0
  ",".intercalate (indexName :: columns) :: frame.rows.map (line millis)

/-- The table as comma-separated values. -/
def csv (frame : Frame) : String := String.join (frame.csvLines.map (· ++ "\n"))

end Frame

end Candlestick
