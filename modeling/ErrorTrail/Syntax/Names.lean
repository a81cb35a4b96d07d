import ErrorTrail.Syntax.Tree

/-!
# Names of a tree

`SyntaxTree.identifiers` lists the names that a tree reads, binds or declares in any scope;
attributes,
keywords and the modules that names are imported from are not among them. `freshName` is the first
candidate that none of them takes.
-/

namespace ErrorTrail.Syntax

/-- The part of a text before the first occurrence of a character. -/
def before (c : Char) (s : String) : String := String.ofList (s.toList.takeWhile (· ≠ c))

/-- The name that an import binds: the one it is renamed to, else the first part of its path. -/
def importedName (name : String) (asname : Option String) : String :=
  match asname with
  | some a => if a.isEmpty then before '.' name else a
  | none => before '.' name

/-- The names that a node itself reads, binds or declares. -/
def Form.identifiers : Form → List String
  | .name id _ => [id]
  | .arg id => [id]
  | .functionDef _ id => [id]
  | .classDef id => [id]
  | .alias path asname => [importedName path asname]
  | .globalStmt ids => ids
  | .nonlocalStmt ids => ids
  | .exceptHandler id? => id?.toList
  | .matchAs id? => id?.toList
  | .matchStar id? => id?.toList
  | .matchMapping rest => rest.toList
  | _ => []

namespace SyntaxTree

variable {α : Type}

/-- The names that a tree reads, binds or declares, in order of their nodes. -/
def identifiers (t : SyntaxTree α) : List String := t.subtrees.flatMap fun s => s.form.identifiers

end SyntaxTree

/-- The candidate number `n` for a name: the base itself, then the base with a number. -/
def candidate (base : String) : Nat → String
  | 0 => base
  | n + 1 => base ++ "_" ++ toString (n + 1)

/-- The number of the first free candidate from `n` on, of `fuel` many. -/
def firstFree (base : String) (taken : List String) : Nat → Nat → Nat
  | 0, n => n
  | fuel + 1, n =>
    if taken.contains (candidate base n) then firstFree base taken fuel (n + 1) else n

/-- The first candidate that is not taken. Among one more candidates than names one is free. -/
def freshNameAmong (taken : List String) (base : String) : String :=
  candidate base (firstFree base taken taken.length 0)

/-- A name that nothing in the tree reads, binds or declares. -/
def freshName {α : Type} (t : SyntaxTree α) (base : String) : String :=
  freshNameAmong t.identifiers base

/-- Names in order of code points, each once. -/
def sortedNames (names : List String) : List String :=
  (names.mergeSort fun a b => decide (a ≤ b)).eraseDups

end ErrorTrail.Syntax
