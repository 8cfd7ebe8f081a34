import Candlestick.Market.Interval
import Candlestick.Provider.Binance
import Candlestick.Provider.Bitget
import Candlestick.Provider.Bybit
import Candlestick.Provider.Coinbase
import Candlestick.Provider.Gateio
import Candlestick.Provider.Htx
import Candlestick.Provider.Kraken
import Candlestick.Provider.Kucoin
import Candlestick.Provider.Mexc
import Candlestick.Provider.Okx

set_option autoImplicit false

/-! # The providers -/

namespace Candlestick

/-- How each exchange is asked for candles. -/
def Exchange.fetch : Exchange → FetchRequest → Dialogue (List Candle)
  | .binance => Binance.fetch
  | .bybit => Bybit.fetch
  | .okx => Okx.fetch
  | .coinbase => Coinbase.fetch
  | .kraken => Kraken.fetch
  | .kucoin => Kucoin.fetch
  | .bitget => Bitget.fetch
  | .gateio => Gateio.fetch
  | .htx => Htx.fetch
  | .mexc => Mexc.fetch

/-- Ask a request's exchange, if it has a provider. -/
def Registry.fetch (registry : Registry) (r : FetchRequest) : Dialogue (List Candle) :=
  if registry.fetched r.source.exchange then r.source.exchange.fetch r
  else .fail (.unsupportedSource r.source.exchange.name none)

end Candlestick
