import Candlestick.Failure
import Candlestick.Series.Order

set_option autoImplicit false

/-! # Rolling candles up into longer ones

Time is cut into buckets of one width, counted from 1970. The candles of a bucket, in order of
start, become one candle: it opens with the first and closes with the last, its high and low are
the greatest and the least, volumes and trades are added up in order. -/

namespace Candlestick.Series

/-- The start of the bucket that holds a moment. -/
def bucketStart (width t : Int) : Int := t.fdiv width * width

/-- The bucket's candle when its first candle has been seen. -/
def openBucket (width : Int) (asset label : String) (c : Candle) : Candle :=
  let start := bucketStart width c.start
  { c with start, stop := start + width, asset, label }

/-- The bucket's candle after one more candle. -/
def extendBucket (bucket c : Candle) : Candle :=
  { bucket with
    highest := bucket.highest.max c.highest
    lowest := bucket.lowest.min c.lowest
    closing := c.closing
    volume := bucket.volume + c.volume
    trades := bucket.trades + c.trades }

/-- The candles of the open bucket and of those after it, for candles in order of start. -/
def rollFrom (width : Int) (asset label : String) (bucket : Candle) : List Candle → List Candle
  | [] => [bucket]
  | c :: rest =>
    if bucketStart width c.start = bucket.start then
      rollFrom width asset label (extendBucket bucket c) rest
    else bucket :: rollFrom width asset label (openBucket width asset label c) rest

/-- One candle for each bucket that holds a candle, in order. The width is not zero. -/
def rollUp (width : Int) (asset label : String) (cs : List Candle) : List Candle :=
  match sort cs with
  | [] => []
  | c :: rest => rollFrom width asset label (openBucket width asset label c) rest

/-- As `rollUp`, for any width: no candle belongs to a bucket of width zero. -/
def rollUp? (width : Int) (asset label : String) (cs : List Candle) : Except Failure (List Candle) :=
  if width = 0 ∧ cs ≠ [] then .error .divisionByZero else .ok (rollUp width asset label cs)

theorem rollUp_nil (width : Int) (asset label : String) : rollUp width asset label [] = [] := by
  simp [rollUp, sort]

end Candlestick.Series
