import Candlestick.Command.Folder
import Candlestick.Config.Fault
import Candlestick.Network.Dialogue

set_option autoImplicit false

/-! # How a command ends -/

namespace Candlestick.Command

/-- A cause that a command does not expect, so that it breaks off. -/
inductive Breakage where
  | config (cause : ConfigError)
  | data (cause : Failure)
  | file (cause : FileError)

/-- What is said of a cause that breaks a command off. -/
def Breakage.message : Breakage → String
  | config cause => cause.message
  | data cause => cause.message
  | file cause => cause.message

/-- The end of a command. -/
inductive Ending where
  | done
  /-- The command says why it does nothing more. -/
  | refused (reason : String)
  /-- The command line makes no sense. -/
  | misused
  | broken (cause : Breakage)

/-- The exit code. -/
def Ending.code : Ending → Nat
  | done => 0
  | refused _ | broken _ => 1
  | misused => 2

/-- What a command writes to the error stream; one that breaks off leaves that to its caller. -/
def Ending.complaint : Ending → String
  | refused reason => "Error: " ++ reason ++ "\n"
  | done | misused | broken _ => ""

/-- All that a command has done. -/
structure Outcome (σ : Type) where
  ending : Ending
  /-- The lines written. -/
  lines : List String
  /-- The working folder afterwards. -/
  folder : Folder
  calls : List Call
  notes : List Note
  /-- The state of the world afterwards. -/
  state : σ

/-- The text that the lines make. -/
def Outcome.text {σ : Type} (o : Outcome σ) : String := String.join (o.lines.map (· ++ "\n"))

end Candlestick.Command
