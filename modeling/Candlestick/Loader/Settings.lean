import Candlestick.Market.Candle

set_option autoImplicit false

/-! # Settings of the loader -/

namespace Candlestick

/-- The settings of a loader. -/
structure LoaderSettings where
  /-- Buckets fetched beyond each side of the visible range. -/
  prefetchBuckets : Int := 200
  /-- Days of the window that stands in for an empty range. -/
  windowDays : Int := 30
  /-- The quote asset where none is given. -/
  quote : String := defaultQuote
  /-- Seconds that a request may take. -/
  timeout : Double := Double.ofInt 15
  /-- Refuse faulty candles instead of making a remark. -/
  strict : Bool := false

end Candlestick
