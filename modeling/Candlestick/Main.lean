import Std.Time.DateTime.Timestamp
import Candlestick.Command.Run
import Candlestick.Network.Transcript

set_option autoImplicit false

/-! # The program

The outer layer of the command line: it gathers the environment with the file `.env`, the
configuration file and the time, runs the command, and prints and writes what came of it. The replies
of the providers are read from standard input, one body for each line. -/

namespace Candlestick.Program

/-- The text of a file, if it can be read. -/
def textOf? (name : String) : IO (Option String) := do
  try return some (← IO.FS.readFile name) catch _ => return none

/-- The names that the environment may give a value to. -/
def settingNames : List String :=
  ["KWANT_REQUEST_TIMEOUT", "KWANT_STRICT_VALIDATION", EnvFile.switchName]

/-- The environment, with the file `.env` of the working folder. -/
def environment : IO (Except EnvFile.Fault Environment) := do
  let text := (← textOf? ".env").getD ""
  let given ← (settingNames ++ EnvFile.names text).filterMapM fun name => do
    return (← IO.getEnv name).map ((name, ·))
  return (Environment.load given text).map (·.2)

/-- The working folder as far as a command line needs it. -/
def folder (args : List String) : IO Folder := do
  match Command.Invocation.configOf? args with
  | none => return {}
  | some path =>
    match ← textOf? path.text with
    | some text => return ⟨[(path.place, .text text)]⟩
    | none => return {}

/-- The lines of standard input. -/
partial def inputLines (stdin : IO.FS.Stream) : IO (List String) := do
  let line ← stdin.getLine
  if line = "" then return [] else return line :: (← inputLines stdin)

/-- The replies of the providers, for the command that needs them. -/
def transcript (args : List String) : IO Transcript := do
  if args.head? = some "fetch" then inputLines (← IO.getStdin) else return []

/-- Write a file; a table is written as comma-separated values. -/
def writeFile (place : List String) (content : Content) : IO Unit := do
  let name := String.join (place.dropLast.map (· ++ "/")) ++ place.getLastD ""
  if 1 < place.length then IO.FS.createDirAll (String.join (place.dropLast.map (· ++ "/")))
  IO.FS.writeFile name <| match content with
    | .text text => text
    | .table frame => frame.csv

/-- Write the files that a command has added to the working folder or changed in it. -/
def writeNew (before after : Folder) : IO Unit := do
  for file in after.files do
    if !before.files.contains file then writeFile file.1 file.2

/-- Milliseconds since 1970. -/
def now : IO Int := do return (← Std.Time.Timestamp.now).toMillisecondsSinceUnixEpoch.val

/-- Run a command line in an environment. -/
def runIn (env : Environment) (args : List String) : IO UInt32 := do
  let folder ← folder args
  let outcome := Command.run Registry.standard env (← now) Transcript.world folder
    (← transcript args) args
  IO.print outcome.text
  writeNew folder outcome.folder
  IO.eprint outcome.ending.complaint
  match outcome.ending with
  | .misused => IO.eprintln "usage: (fetch | intervals | settings) [options]"
  | .broken cause => IO.eprintln cause.message
  | _ => pure ()
  return outcome.ending.code.toUInt32

/-- Run a command line. -/
def run (args : List String) : IO UInt32 := do
  match ← environment with
  | .ok env => runIn env args
  | .error fault =>
    IO.eprintln fault.message
    return 1

end Candlestick.Program

def main (args : List String) : IO UInt32 := Candlestick.Program.run args
