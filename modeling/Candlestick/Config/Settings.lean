import Candlestick.Config.Environment
import Candlestick.Config.Lenient
import Candlestick.Loader.Settings
import Candlestick.Market.Symbol

set_option autoImplicit false

/-! # Settings from values and from the environment

All fields are checked, and every fault is reported. The environment may override two of them. -/

namespace Candlestick

namespace Config

/-- A value, or all the faults of it. -/
abbrev Checked (α : Type) := Except (List Fault) α

namespace Checked

/-- A value without faults. -/
def done {α : Type} (x : α) : Checked α := .ok x

/-- Apply what one check gave to what another gave; the faults of both are kept. -/
def ap {α β : Type} (f : Checked (α → β)) (x : Checked α) : Checked β :=
  match f, x with
  | .ok f, .ok x => .ok (f x)
  | .error faults, .ok _ => .error faults
  | .ok _, .error faults => .error faults
  | .error faults, .error others => .error (faults ++ others)

/-- The value of a field, or what stands in where the field is missing. -/
def field {α : Type} (place : List String) (members : List (Yaml.Value × Yaml.Value)) (name : String)
    (missing : Except Cause α) (read : Yaml.Value → Except Cause α) : Checked α :=
  let x := match Yaml.Value.lookup name members with
    | some value => read value
    | none => missing
  x.mapError fun cause => [⟨place ++ [name], cause⟩]

end Checked

/-- Refuse values that do not satisfy a condition. -/
def require {α : Type} (condition : α → Bool) (reason : String) (x : Except Cause α) : Except Cause α :=
  match x with
  | .ok x => if condition x then .ok x else .error (.refused reason)
  | .error cause => .error cause

end Config

namespace LoaderSettings

open Config Yaml

/-- The name of settings in messages. -/
def modelName : String := "LoaderSettings"

/-- Whether a number of seconds is one that a request may take. -/
def timeoutAllowed (timeout : Double) : Bool := !timeout.le .zero

/-- What is said of other numbers of seconds. -/
def timeoutRule : String := "request_timeout must be > 0"

/-- The quote asset of a text, the default one where it is blank. -/
def quoteOfText (text : String) : String :=
  let leg := Symbol.leg text
  if leg = "" then defaultQuote else leg

/-- The settings of a map's members. -/
def ofMembers (place : List String) (members : List (Value × Value)) : Checked LoaderSettings :=
  let dflt : LoaderSettings := {}
  let buckets := Checked.field place members "prefetch_buckets" (.ok dflt.prefetchBuckets) fun value =>
    require (0 ≤ ·) "prefetch_buckets must be >= 0" value.asInt
  let days := Checked.field place members "default_window_days" (.ok dflt.windowDays) fun value =>
    require (1 ≤ ·) "default_window_days must be >= 1" value.asInt
  let quote := Checked.field place members "default_quote_asset" (.ok dflt.quote) fun value =>
    value.asText.map quoteOfText
  let timeout := Checked.field place members "request_timeout" (.ok dflt.timeout) fun value =>
    require timeoutAllowed timeoutRule value.asDouble
  let strict := Checked.field place members "strict_validation" (.ok dflt.strict) Value.asBool
  (((((Checked.done LoaderSettings.mk).ap buckets).ap days).ap quote).ap timeout).ap strict

/-- The settings of a value, which has to be a map. -/
def check (place : List String) : Value → Checked LoaderSettings
  | .map members => ofMembers place members
  | .ring true => .ok {}
  | _ => .error [⟨place, .noFields modelName⟩]

/-- The settings of a document. -/
def ofValue (value : Value) : Except ConfigError LoaderSettings :=
  (check [] value).mapError (.invalid modelName)

/-! ## The environment -/

/-- The words for true and false in the environment, in any case. -/
def flagOfText? (text : String) : Option Bool :=
  let word := Text.lower text
  if ["true", "1", "yes"].contains word then some true
  else if ["false", "0", "no"].contains word then some false
  else none

/-- The number of seconds that the environment gives, if it gives one. -/
def timeoutOf (env : Environment) : Except ConfigError (Option Double) :=
  match env.lookup "KWANT_REQUEST_TIMEOUT" with
  | none | some "" => .ok none
  | some text => match Double.ofText? text with
    | some x => .ok (some x)
    | none => .error (.notNumber text)

/-- The settings with what the environment overrides. -/
def override (settings : LoaderSettings) (env : Environment) : Except ConfigError LoaderSettings := do
  let timeout := (← timeoutOf env).getD settings.timeout
  let strict := ((env.lookup "KWANT_STRICT_VALIDATION").bind flagOfText?).getD settings.strict
  if timeoutAllowed timeout then return { settings with timeout, strict }
  else throw (.invalid modelName [⟨["request_timeout"], .refused timeoutRule⟩])

/-- The default settings with what the environment overrides. -/
def ofEnvironment (env : Environment) : Except ConfigError LoaderSettings :=
  ({} : LoaderSettings).override env

end LoaderSettings

end Candlestick
