import Candlestick.Command.Folder
import Candlestick.Command.Options
import Candlestick.Market.Candle

set_option autoImplicit false

/-! # The commands

`fetch` loads the candles of a chart and sums them up, `intervals` shows how an exchange serves each
timeframe, and `settings` shows the settings of the loader. -/

namespace Candlestick.Command

/-- What `fetch` is asked for. The chart is described by a file or by the options. -/
structure FetchOptions where
  asset : Option String := none
  exchange : String := "binance"
  market : String := "futures"
  timeFrame : String := "1h"
  start : Option String := none
  stop : Option String := none
  quote : String := defaultQuote
  config : Option Path := none
  output : Option Path := none

/-- What `intervals` is asked for. -/
structure IntervalOptions where
  exchange : String := "binance"
  market : Option String := none

/-- A command with its options. -/
inductive Invocation where
  | fetch (options : FetchOptions)
  | intervals (options : IntervalOptions)
  | settings

namespace Invocation

/-- The options of `fetch`. -/
def fetchNames : List OptionName := [
  ⟨"exchange", some 'e'⟩, ⟨"market", some 'm'⟩, ⟨"timeframe", some 't'⟩, ⟨"start", none⟩,
  ⟨"end", none⟩, ⟨"quote", some 'q'⟩, ⟨"config", some 'c'⟩, ⟨"output", some 'o'⟩]

/-- The options of `intervals`. -/
def intervalNames : List OptionName := [⟨"exchange", some 'e'⟩, ⟨"market", some 'm'⟩]

/-- `fetch` with what a command line gives. The asset is its only other argument, and a configuration
    file has to exist. -/
def fetchOf? (folder : Folder) (given : Arguments) : Option Invocation :=
  let dflt : FetchOptions := {}
  let config := (given.value? "config").map Path.ofText
  let known := match given.value? "config" with
    | some text => text ≠ "" && folder.has (Path.ofText text)
    | none => true
  if 1 < given.others.length || !known then none
  else some <| fetch {
    asset := given.others.head?
    exchange := (given.value? "exchange").getD dflt.exchange
    market := (given.value? "market").getD dflt.market
    timeFrame := (given.value? "timeframe").getD dflt.timeFrame
    start := given.value? "start"
    stop := given.value? "end"
    quote := (given.value? "quote").getD dflt.quote
    config := config
    output := (given.value? "output").map Path.ofText }

/-- `intervals` with what a command line gives; it has no other arguments. -/
def intervalsOf? (given : Arguments) : Option Invocation :=
  let dflt : IntervalOptions := {}
  if !given.others.isEmpty then none
  else some <| intervals {
    exchange := (given.value? "exchange").getD dflt.exchange
    market := given.value? "market" }

/-- The command that a name calls, with the arguments after it. -/
def ofName? (folder : Folder) (name : String) (args : List String) : Option Invocation :=
  match name with
  | "fetch" => (Arguments.ofList? fetchNames args).bind (fetchOf? folder)
  | "intervals" => (Arguments.ofList? intervalNames args).bind intervalsOf?
  | "settings" => (Arguments.ofList? [] args).bind fun given =>
    if given.others.isEmpty then some settings else none
  | _ => none

/-- The command of a command line; `none` where the line is misused. -/
def ofArgs? (folder : Folder) (args : List String) : Option Invocation :=
  match args with
  | "--" :: name :: rest => ofName? folder name rest
  | name :: rest => ofName? folder name rest
  | [] => none

/-- The configuration file that a command line of `fetch` names. -/
def configOf? (args : List String) : Option Path := do
  let given ← Arguments.ofList? fetchNames (args.drop 1)
  (given.value? "config").map Path.ofText

end Invocation

end Candlestick.Command
