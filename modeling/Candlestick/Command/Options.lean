set_option autoImplicit false

/-! # Options of a command line

An option has a long name after two hyphens and may have a letter after one. Each takes a value: after
an equals sign, directly after the letter, or as the next argument whatever that looks like. Two
hyphens alone end the options. A value given last counts. -/

namespace Candlestick.Command

/-- An option: its name, and its letter if it has one. -/
structure OptionName where
  name : String
  letter : Option Char := none

/-- What a command line gives. -/
structure Arguments where
  /-- The options' values, the first one first. -/
  options : List (String × String) := []
  /-- The arguments that are no options. -/
  others : List String := []

namespace Arguments

/-- The value of an option that was given last. -/
def value? (given : Arguments) (name : String) : Option String := given.options.reverse.lookup name

/-- One more option in front. -/
def withOption (name value : String) (given : Arguments) : Arguments :=
  { given with options := (name, value) :: given.options }

/-- One more argument in front. -/
def withOther (arg : String) (given : Arguments) : Arguments :=
  { given with others := arg :: given.others }

/-- Whether an argument is written like an option. -/
def isOption (arg : String) : Bool :=
  match arg.toList with
  | '-' :: _ :: _ => true
  | _ => false

/-- The option that an argument names, with the value that the argument itself gives. -/
def named? (known : List OptionName) (arg : String) : Option (String × Option String) :=
  let cs := arg.toList
  let long := cs.takeWhile (· ≠ '=')
  let given := if long.length = cs.length then none else some (String.ofList (cs.drop (long.length + 1)))
  match known.find? (fun o => "--" ++ o.name = String.ofList long), cs with
  | some o, _ => some (o.name, given)
  | none, '-' :: '-' :: _ => none
  | none, '-' :: letter :: rest =>
    (known.find? (·.letter = some letter)).map fun o =>
      (o.name, if rest.isEmpty then none else some (String.ofList rest))
  | none, _ => none

/-- Sort arguments into options and others; `none` for an unknown option or a missing value. -/
def ofList? (known : List OptionName) : List String → Option Arguments
  | [] => some {}
  | arg :: rest =>
    if arg = "--" then some { others := rest }
    else if isOption arg then
      match named? known arg with
      | none => none
      | some (name, some value) => (ofList? known rest).map (withOption name value)
      | some (name, none) =>
        match rest with
        | [] => none
        | value :: rest => (ofList? known rest).map (withOption name value)
    else (ofList? known rest).map (withOther arg)

end Arguments

end Candlestick.Command
