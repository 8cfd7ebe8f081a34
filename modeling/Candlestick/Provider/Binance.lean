import Candlestick.Provider.Klines

set_option autoImplicit false

/-! # Binance -/

namespace Candlestick.Binance

def spot : Klines.Endpoint := ⟨"Binance spot", "https://api.binance.com/api/v3/klines", 1000⟩

def futures : Klines.Endpoint := ⟨"Binance futures", "https://fapi.binance.com/fapi/v1/klines", 1500⟩

/-- The candles of a request. -/
def fetch (r : FetchRequest) : Dialogue (List Candle) :=
  Klines.fetch (if r.isSpot then spot else futures) (Symbol.join r.asset r.quote "") r

end Candlestick.Binance
