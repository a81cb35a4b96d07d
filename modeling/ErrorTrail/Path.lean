/-!
# Paths

File paths as they are written (`Path`) and the absolute paths they denote (`Resolved`, a list of
names below the root). Resolution is by the text alone: a name `..` takes back the name before it
and does nothing at the root.

* `Path.ofText` reads a path: repeated separators and names `.` vanish, two slashes at the beginning
  stay two.
* `Path.resolve` gives the absolute path, relative ones starting from the working directory.
* `displayPath` is the form in which a file is named at the sites in it.
-/

namespace ErrorTrail

/-- A path: the slashes it begins with, and its names. -/
structure Path where
  root : String := ""
  parts : List String := []
  deriving DecidableEq, Repr, Inhabited

/-- An absolute path without `.` and `..`, as the list of its names. -/
abbrev Resolved := List String

/-- Why a path has no absolute form: a name holds a null character, or there is no working
directory. -/
inductive PathError where
  | nullCharacter
  | noDirectory
  deriving DecidableEq, Repr, Inhabited

/-- The names of a text between slashes, `.` and empty ones left out. -/
def pathNames (s : String) : List String :=
  (s.splitOn "/").filter fun n => n ≠ "" && n ≠ "."

/-- The slashes that a path keeps at its beginning: none, one, or two if there are exactly two. -/
def pathRoot (s : String) : String :=
  match s.toList with
  | '/' :: '/' :: '/' :: _ => "/"
  | '/' :: '/' :: _ => "//"
  | '/' :: _ => "/"
  | _ => ""

namespace Path

/-- Reads a path. -/
def ofText (s : String) : Path := ⟨pathRoot s, pathNames s⟩

/-- Writes a path; the empty one is `.`. -/
def text (p : Path) : String :=
  if p.root.isEmpty && p.parts.isEmpty then "." else p.root ++ "/".intercalate p.parts

/-- The last name, or nothing. -/
def name (p : Path) : String := p.parts.getLast?.getD ""

def isAbsolute (p : Path) : Bool := !p.root.isEmpty

/-- Where one more name leads. -/
def enter (r : Resolved) (n : String) : Resolved := if n = ".." then r.dropLast else r ++ [n]

/-- Where names lead from a place. -/
def follow (r : Resolved) (names : List String) : Resolved := names.foldl enter r

/-- The absolute path that a path denotes. -/
def resolve (directory : Option Resolved) (p : Path) : Except PathError Resolved :=
  if p.parts.any fun n => n.contains (Char.ofNat 0) then .error .nullCharacter
  else if p.isAbsolute then .ok (follow [] p.parts)
  else match directory with
    | some d => .ok (follow d p.parts)
    | none => .error .noDirectory

end Path

/-- The names of `r` below `base`. -/
def below? (base r : Resolved) : Option (List String) :=
  if base.isPrefixOf r then some (r.drop base.length) else none

/-- A path with redundant names taken out of its text, without a working directory: a name `..`
takes back a name before it, stays at the beginning of a relative path, and vanishes at the root. -/
def normalText (s : String) : String :=
  let root := pathRoot s
  let step (acc : List String) (n : String) : List String :=
    if n ≠ ".." then acc ++ [n]
    else match acc.getLast? with
      | none => if root.isEmpty then [n] else []
      | some l => if l = ".." then acc ++ [n] else acc.dropLast
  Path.text ⟨root, (pathNames s).foldl step []⟩

/-- How a file is named at its sites: as it is compiled, relative to a directory, or by its last
name alone. -/
inductive PathStyle where
  | full
  | relative
  | name
  deriving DecidableEq, Repr, Inhabited

/-- The form in which a file is named at its sites. A name in angle brackets stands for no file and
stays. A relative form is below `root`, or below the working directory if no root is given; a file
elsewhere keeps the name it has. -/
def displayPath (directory : Option Resolved) (style : PathStyle) (root : Option Path)
    (file : String) : Except PathError String := do
  if style = .full || file.startsWith "<" then .ok file
  else if style = .name then .ok (Path.ofText file).name
  else
    let base ← (root.getD {}).resolve directory
    match (Path.ofText file).resolve directory with
    | .ok r =>
      match below? base r with
      | some names => .ok (Path.text ⟨"", names⟩)
      | none => .ok file
    | .error .nullCharacter => .ok file
    | .error .noDirectory => .ok (normalText file)

end ErrorTrail
