import Candlestick.Command.Path
import Candlestick.Series.Frame

set_option autoImplicit false

/-! # The working folder

Files by their places. A folder exists as far as a file is in it; missing folders are created for a
new file. -/

namespace Candlestick

/-- What a file holds. -/
inductive Content where
  | text (value : String)
  /-- A table in a binary format. -/
  | table (frame : Frame)
  deriving DecidableEq

/-- Why a file cannot be read or written. -/
inductive FileError where
  | missing
  /-- There is a folder in the file's place. -/
  | isFolder
  /-- There is a file where the folder of the new file should be. -/
  | folderIsFile
  /-- There is a file further up where a folder should be. -/
  | throughFile
  /-- The file holds no text. -/
  | noText
  deriving DecidableEq

/-- What is said of a file that cannot be read or written. -/
def FileError.message : FileError → String
  | missing => "no such file"
  | isFolder => "is a folder"
  | folderIsFile => "a file stands where a folder should be"
  | throughFile => "a part of the path is no folder"
  | noText => "the file holds no text"

/-- The files of the working folder. -/
structure Folder where
  files : List (List String × Content) := []

namespace Folder

/-- What the file in a place holds. -/
def content? (folder : Folder) (place : List String) : Option Content := folder.files.lookup place

/-- Whether there is a folder in a place. -/
def isFolder (folder : Folder) (place : List String) : Bool :=
  place.isEmpty || folder.files.any fun (p, _) => place.isPrefixOf p && place.length < p.length

/-- Whether there is anything under a path. -/
def has (folder : Folder) (path : Path) : Bool :=
  (folder.content? path.place).isSome || folder.isFolder path.place

/-- The text of a file. -/
def read (folder : Folder) (path : Path) : Except FileError String :=
  match folder.content? path.place with
  | some (.text text) => .ok text
  | some (.table _) => .error .noText
  | none => .error (if folder.isFolder path.place then .isFolder else .missing)

/-- Put a file into a list of files: in place where it exists, else at the end. -/
def put (place : List String) (content : Content) :
    List (List String × Content) → List (List String × Content)
  | [] => [(place, content)]
  | (p, c) :: rest => if p = place then (p, content) :: rest else (p, c) :: put place content rest

/-- The first folder on the way to a place that is a file: how many parts its place has. -/
def blocked? (folder : Folder) (place : List String) : Option Nat :=
  (List.range place.length).find? fun n => (folder.content? (place.take n)).isSome

/-- Write a file. -/
def write (folder : Folder) (path : Path) (content : Content) : Except FileError Folder :=
  let place := path.place
  match folder.blocked? place with
  | some n => .error (if n + 1 = place.length then .folderIsFile else .throughFile)
  | none =>
    if folder.isFolder place then .error .isFolder
    else .ok ⟨put place content folder.files⟩

theorem lookup_put (place : List String) (content : Content) (files : List (List String × Content)) :
    (put place content files).lookup place = some content := by
  induction files with
  | nil => simp [put]
  | cons file rest ih =>
    obtain ⟨p, c⟩ := file
    by_cases h : p = place
    · simp [put, h]
    · have h' : (place == p) = false := by simpa using fun e : place = p => h e.symm
      simp [put, h, List.lookup_cons, h', ih]

end Folder

end Candlestick
