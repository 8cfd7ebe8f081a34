import Candlestick.Text.Case
import Candlestick.Text.Lines

set_option autoImplicit false

/-! # Paths of files

A path is the list of its parts. Empty parts and single dots do not count; double dots are kept in the
path's text and go one folder up where the file is looked for. -/

namespace Candlestick

/-- A path: what it begins at, and its parts. -/
structure Path where
  /-- One or two slashes, or nothing for a path from the working folder on. -/
  root : String
  parts : List String
  deriving DecidableEq

namespace Path

/-- The path of a text. -/
def ofText (text : String) : Path :=
  let cs := text.toList
  let slashes := (cs.takeWhile (· = '/')).length
  { root := if slashes = 0 then "" else if slashes = 2 then "//" else "/"
    parts := ((Text.splitAt '/' cs).map String.ofList).filter fun part => part ≠ "" && part ≠ "." }

/-- The text of a path; a dot for the working folder. -/
def text (p : Path) : String :=
  if p.root = "" ∧ p.parts = [] then "." else p.root ++ "/".intercalate p.parts

/-- The ending of a name: its last point and what follows, unless the point is at an end of the name. -/
def extensionOfName (name : String) : String :=
  let reversed := name.toList.reverse
  let after := (reversed.takeWhile (· ≠ '.')).reverse
  let before := reversed.drop (after.length + 1)
  if after.isEmpty || before.isEmpty then "" else "." ++ String.ofList after

/-- The ending of a path's last part in lower case. -/
def extension (p : Path) : String := Text.lower (extensionOfName (p.parts.getLastD ""))

/-- Go through parts from a folder on, whose own parts are in reverse order. -/
def walk : List String → List String → List String
  | folder, [] => folder.reverse
  | folder, part :: rest =>
    if part = ".." then walk (folder.drop 1) rest else walk (part :: folder) rest

/-- The place of a path: its parts without double dots, after its root. -/
def place (p : Path) : List String :=
  (if p.root = "" then [] else ["/"]) ++ walk [] p.parts

end Path

end Candlestick
