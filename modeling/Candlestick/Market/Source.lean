import Candlestick.Text.Case

set_option autoImplicit false

/-! # Sources of candles

A source is one market of one exchange. -/

namespace Candlestick

/-- The exchanges that candles come from. -/
inductive Exchange where
  | binance | bybit | okx | coinbase | kraken | kucoin | bitget | gateio | htx | mexc
  deriving DecidableEq

/-- The two markets of an exchange. -/
inductive Market where
  | spot | futures
  deriving DecidableEq

namespace Exchange

def all : List Exchange :=
  [binance, bybit, okx, coinbase, kraken, kucoin, bitget, gateio, htx, mexc]

theorem mem_all (e : Exchange) : e ∈ all := by cases e <;> decide

/-- The name in configurations and messages. -/
def name : Exchange → String
  | binance => "binance"
  | bybit => "bybit"
  | okx => "okx"
  | coinbase => "coinbase"
  | kraken => "kraken"
  | kucoin => "kucoin"
  | bitget => "bitget"
  | gateio => "gateio"
  | htx => "htx"
  | mexc => "mexc"

/-- The name as the exchange writes it. -/
def label : Exchange → String
  | binance => "Binance"
  | bybit => "Bybit"
  | okx => "OKX"
  | coinbase => "Coinbase"
  | kraken => "Kraken"
  | kucoin => "KuCoin"
  | bitget => "Bitget"
  | gateio => "Gate.io"
  | htx => "HTX"
  | mexc => "MEXC"

/-- The exchange of a name in lower case. -/
def ofName? (name : String) : Option Exchange := all.find? (·.name = name)

end Exchange

namespace Market

def all : List Market := [spot, futures]

theorem mem_all (m : Market) : m ∈ all := by cases m <;> decide

/-- The name in configurations and messages. -/
def name : Market → String
  | spot => "spot"
  | futures => "futures"

/-- The market of a name in lower case. -/
def ofName? (name : String) : Option Market := all.find? (·.name = name)

end Market

/-- One market of one exchange. -/
structure Source where
  exchange : Exchange := .binance
  market : Market := .futures
  deriving DecidableEq

/-- A source's name in messages. -/
def Source.text (s : Source) : String := s.exchange.name ++ "/" ++ s.market.name

end Candlestick
