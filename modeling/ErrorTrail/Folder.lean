import ErrorTrail.Path

/-!
# Folders

The files below one directory. Paths are followed name by name: every name but the last has to be a
directory, and `..` goes back to the directory before. A path that leaves the folder leads to
nothing that is known here.

* `Folder.find` tells what stands at a path.
* `Folder.write?` writes a file and makes the directories that it needs.
-/

namespace ErrorTrail

/-- What stands at a place of a folder. -/
inductive Entry where
  | missing
  | directory
  | file (content : ByteArray)
  deriving Inhabited

/-- Files and directories by their names below the folder. The directories around a file are there
without being listed. -/
structure Folder where
  files : List (List String × ByteArray) := []
  directories : List (List String) := []
  deriving Inhabited

/-- Why a file cannot be written. -/
inductive FolderError where
  /-- a file stands where a directory is needed -/
  | occupied
  /-- a path goes through a file -/
  | notADirectory
  /-- a directory stands where the file should be -/
  | isADirectory
  deriving DecidableEq, Repr, Inhabited

namespace Folder

/-- Whether a place is a directory. -/
def isDirectory (f : Folder) (place : List String) : Bool :=
  place.isEmpty || f.directories.any (place.isPrefixOf ·)
    || f.files.any fun (names, _) => place.isPrefixOf names && names != place

/-- What stands at a place. -/
def entry (f : Folder) (place : List String) : Entry :=
  match f.files.lookup place with
  | some content => .file content
  | none => if f.isDirectory place then .directory else .missing

/-- The place that names lead to from a directory of the folder, if they stay in the folder. -/
def walk (f : Folder) : List String → List String → Option (List String)
  | place, [] => some place
  | place, name :: names =>
    if !f.isDirectory place then none
    else if name = "" ∨ name = "." then walk f place names
    else if name = ".." then (if place.isEmpty then none else walk f place.dropLast names)
    else walk f (place ++ [name]) names

/-- What stands at a path. -/
def find (f : Folder) (path : String) : Entry :=
  if path.isEmpty || path.startsWith "/" then .missing
  else (f.walk [] (path.splitOn "/")).elim .missing f.entry

/-- The place of a directory that names lead to, missing directories being made; nothing if it is
outside the folder. -/
def enter (f : Folder) :
    List String → List String → Except FolderError (Folder × Option (List String))
  | place, [] => .ok (f, some place)
  | place, name :: names =>
    if name = ".." then
      if place.isEmpty then .ok (f, none) else enter f place.dropLast names
    else
      let next := place ++ [name]
      match f.entry next with
      | .directory => enter f next names
      | .file _ => .error (if names.isEmpty then .occupied else .notADirectory)
      | .missing => enter { f with directories := f.directories ++ [next] } next names

/-- The folder after a file is written. A file outside leaves it as it is. -/
def write? (f : Folder) (path : Path) (content : ByteArray) : Except FolderError Folder := do
  if path.isAbsolute then return f
  let (f, place?) ← f.enter [] path.parts.dropLast
  match place?, path.parts.getLast? with
  | none, _ => return f
  | some place, last =>
    let target := if last = some ".." then place.dropLast else place ++ last.toList
    if f.isDirectory target then .error .isADirectory
    else
      let others := f.files.filter fun (names, _) => names != target
      return { f with files := (target, content) :: others }

end Folder

end ErrorTrail
