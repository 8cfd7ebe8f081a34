import Candlestick.Calendar.Moment
import Candlestick.Config.Settings
import Candlestick.Market.Names
import Candlestick.Yaml.Display
import Candlestick.Yaml.Meaning

set_option autoImplicit false

/-! # The configuration of a chart

Which source, asset, timeframe and range a chart shows, and how it is loaded. -/

namespace Candlestick

/-- What a chart shows. -/
structure ChartConfig where
  source : Source
  asset : String
  quote : String
  timeFrame : TimeFrame
  start : Option Calendar.Moment
  stop : Option Calendar.Moment
  loader : LoaderSettings

namespace ChartConfig

open Config Yaml

/-- The name of a configuration in messages. -/
def modelName : String := "ChartDataConfig"

/-! ## Fields -/

/-- The name that a value gives: of a text its lower case without blanks around it, of bytes the text
    as it stands. -/
def nameOf? : Value → Option String
  | .str s => some (Text.lower (Text.strip s))
  | .bytes b => Yaml.Value.textOfBytes? b
  | _ => none

/-- An exchange by its name. -/
def exchangeOf (value : Value) : Except Cause Exchange :=
  match (nameOf? value).bind Exchange.ofName? with
  | some exchange => .ok exchange
  | none => .error .unknownExchange

/-- A market by its name. -/
def marketOf (value : Value) : Except Cause Market :=
  match (nameOf? value).bind Market.ofName? with
  | some market => .ok market
  | none => .error .unknownMarket

/-- A timeframe by the text of a value. -/
def timeFrameOf (value : Value) : Except Cause TimeFrame :=
  (TimeFrame.ofText value.display).mapError fun cause => .refused cause.message

/-- The moment of a date and time, which has to have its year in the calendar. -/
def momentOf (stamp : Calendar.Stamp) : Except Cause Calendar.Moment :=
  let year := stamp.moment.date.year
  if 1 ≤ year ∧ year ≤ 9999 then .ok stamp.moment else .error .outOfCalendar

/-- A moment by a date and time or by the text of another value; null is none. -/
def instantOf : Value → Except Cause (Option Calendar.Moment)
  | .null => .ok none
  | .stamp stamp => (momentOf stamp).map some
  | value =>
    match Calendar.Stamp.ofText value.display with
    | .ok stamp => (momentOf stamp).map some
    | .error cause => .error (.refused cause.message)

/-- The settings of the loader. -/
def loaderOf (members : List (Value × Value)) : Checked LoaderSettings :=
  match Value.lookup "loader" members with
  | none => .ok {}
  | some value => LoaderSettings.check ["loader"] value

/-! ## The whole -/

/-- Put the exchange and the market of a configuration together. -/
def build (exchange : Exchange) (market : Market) (asset quote : String) (timeFrame : TimeFrame)
    (start stop : Option Calendar.Moment) (loader : LoaderSettings) : ChartConfig :=
  ⟨⟨exchange, market⟩, asset, quote, timeFrame, start, stop, loader⟩

/-- The configuration of a map's members, each field by itself. -/
def fields (members : List (Value × Value)) : Checked ChartConfig :=
  let dflt : Source := {}
  let field {α : Type} := @Checked.field α [] members
  let leg (value : Value) : Except Cause String := value.asText.map Symbol.leg
  let exchange := field "exchange" (.ok dflt.exchange) exchangeOf
  let market := field "market" (.ok dflt.market) marketOf
  let asset := field "asset" (.error .missing) leg
  let quote := field "quote_asset" (.ok defaultQuote) leg
  let timeFrame := field "timeframe" (.ok .hour1) timeFrameOf
  let start := field "start" (.ok none) instantOf
  let stop := field "end" (.ok none) instantOf
  ((((((((Checked.done build).ap exchange).ap market).ap asset).ap quote).ap timeFrame).ap start).ap stop).ap
    (loaderOf members)

/-- What is wrong with a configuration as a whole. -/
def flaw? (config : ChartConfig) : Option String :=
  if config.asset = "" then some "asset cannot be empty"
  else match config.start, config.stop with
    | some start, some stop => if stop.micros ≤ start.micros then some "end must be after start" else none
    | _, _ => none

/-- Whether a fault is a time outside of the calendar, which ends the check. -/
def isOutOfCalendar (fault : Config.Fault) : Bool :=
  match fault.cause with
  | .outOfCalendar => true
  | _ => false

/-- The configuration of a map's members. -/
def ofMembers (members : List (Value × Value)) : Except ConfigError ChartConfig :=
  match fields members with
  | .error faults =>
    if faults.any isOutOfCalendar then .error .outOfCalendar else .error (.invalid modelName faults)
  | .ok config =>
    match config.flaw? with
    | some reason => .error (.invalid modelName [⟨[], .refused reason⟩])
    | none => .ok config

/-- The configuration of a document, which has to be a map. -/
def ofValue : Value → Except ConfigError ChartConfig
  | .map members => ofMembers members
  | _ => .error (.invalid modelName [⟨[], .noFields modelName⟩])

/-- The first millisecond of the range, zero where none is given. -/
def startMs (config : ChartConfig) : Int := (config.start.map (·.toMs)).getD 0

/-- The first millisecond after the range, zero where none is given. -/
def stopMs (config : ChartConfig) : Int := (config.stop.map (·.toMs)).getD 0

end ChartConfig

/-- The value of a configuration file. An empty document, null, false and zero count as an empty
    map. -/
def Config.document (path : String) (text : Option String) : Except ConfigError Yaml.Value :=
  match text with
  | none => .error (.missingFile path)
  | some text =>
    match Yaml.Value.ofText text with
    | .ok value => .ok (if value.isPresent then value else .map [])
    | .error fault => .error (.unreadable fault)

end Candlestick
