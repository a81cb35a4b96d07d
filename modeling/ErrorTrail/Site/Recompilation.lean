import ErrorTrail.Path
import ErrorTrail.Site.Definition
import ErrorTrail.Site.Propagation
import ErrorTrail.Syntax.Compile
import ErrorTrail.Syntax.Excerpt

/-!
# Instrumenting a live function

From a function that exists and the text of its file to its instrumented definition. The text of the
definition is cut out of the file, parsed and stripped, its body is instrumented with a hook of a
fresh name, and it is compiled in a factory; what it captures there has to be the hook or something
that the function captures already.

* `LiveFunction.definition` reads the definition at the place where it stands in the file.
* `LiveFunction.recompile` gives the instrumented definition and its sites.
-/

namespace ErrorTrail

open Syntax

/-- What is known of a function: its names, where it is defined, what it captures, and whether
annotations are evaluated there. -/
structure LiveFunction where
  name : String
  path : String
  file : String
  line : Nat
  captured : List String
  eager : Bool := true
  deriving DecidableEq, Repr, Inhabited

/-- Why a function cannot be instrumented. -/
inductive RecompileError where
  | refused (r : Refusal)
  | unclosed
  | nullCharacter
  | path (e : PathError)
  | unlocated
  /-- the name of the class around it is no name -/
  | ownerMalformed (m : Malformed)
  /-- the name of the class around it makes something else of it -/
  | ownerOther
  deriving Repr

/-- The instrumented definition of a function, and how it is compiled. -/
structure Recompiled where
  definition : SyntaxTree Span
  hook : String
  owner : Option String
  scope : Scope
  /-- what the blocks around the definition offer it -/
  around : Surroundings
  sites : List Location
  deriving Repr, Inhabited

/-- The name that a hook begins with. -/
def hookBase : String := "_wherr_hook"

/-- The block in a list of blocks that stands last. -/
def lastBlock? (s : Scope) : Option Scope := s.inner.getLast?

/-- The block of the definition in a factory, and what the blocks around offer it. -/
def factoryScope? (eager owned : Bool) (factory : SyntaxTree Unit) :
    Option (Scope × Surroundings) := do
  let file := fileScope eager factory
  let outside := file.offers {}
  let function ← lastBlock? file
  let inside := function.offers outside
  let inner ← lastBlock? function
  if owned then
    let definition ← lastBlock? inner
    return (definition, inner.offers inside)
  else return (inner, inside)

namespace LiveFunction

/-- The first definition of the function's name among statements. -/
def find? (f : LiveFunction) (body : List (SyntaxTree Span)) : Option (SyntaxTree Span) :=
  body.find? fun t =>
    match t.form with
    | .functionDef _ name => name = f.name
    | _ => false

/-- The definition of a function, read off the text of its file, which may be missing. -/
def definition (f : LiveFunction) (text? : Option String) :
    Except RecompileError (SyntaxTree Span) := do
  let unavailable (why : String) : RecompileError :=
    .refused (.because .sourceUnavailable "OSError" why f.path)
  let text ← match text? with
    | none => .error (unavailable "source code not available")
    | some t => if t.isEmpty then .error (unavailable "could not get source code") else .ok t
  let (block, before) ← (excerpt text f.line).mapError fun
    | .outOfBounds => unavailable "lineno is out of bounds"
    | .unclosed => .unclosed
  let indented := block.toList.head?.any Text.isBlank
  let source := if indented then "if True:\n" ++ block else block
  if source.contains (Char.ofNat 0) then .error .nullCharacter
  let file ← (parseFile source).mapError fun m =>
    .refused (.because .parseFailed m.kind "" f.path)
  let statements := (file.child 0).items
  let body := match indented, statements with
    | true, .node .ifStmt _ [_, inner, _] :: _ => inner.items
    | _, _ => statements
  match f.find? body with
  | some t => .ok (t.shift (if indented then (before : Int) - 1 else before))
  | none =>
    .error (.refused
      { code := .notAFunction
        message := "no definition of " ++ Text.quoted f.name ++ " at its source position"
        target := f.path })

/-- The class in which the definition is compiled. -/
def owner (f : LiveFunction) : Option String :=
  match ownerClass f.path with
  | some o => some o
  | none => if f.captured.contains classCell then some scopeName else none

/-- The instrumented definition of a function; `shown` is how its file is named at the sites. -/
def recompile (f : LiveFunction) (text? : Option String) (shown : Except PathError String) :
    Except RecompileError Recompiled := do
  let stripped := stripDefinition (← f.definition text?)
  let file ← shown.mapError .path
  let hook := freshName stripped hookBase
  let (definition, sites) ← (instrument ⟨file, hook⟩ stripped).mapError fun
    | .refused r => .refused r
    | .unlocated => .unlocated
  let owner := f.owner
  let factory? ← (factoryModule definition.bare hook f.captured owner).mapError .ownerMalformed
  let failure (message : String) (cause : Option String) : RecompileError :=
    .refused { code := .compileFailed, message, target := f.path, cause }
  match factory? with
  | none => .error .ownerOther
  | some factory =>
    if !factory.compilesWith f.eager then
      .error (failure "SyntaxError: " (some "SyntaxError"))
    match factoryScope? f.eager owner.isSome factory with
    | none => .error (failure "rewritten code object not found" none)
    | some (scope, around) =>
      match (scope.captured around).find? fun n => n ≠ hook && !f.captured.contains n with
      | some n =>
        .error (failure ("rewritten code captures unknown variable " ++ Text.quoted n) none)
      | none => .ok ⟨definition, hook, owner, scope, around, sites⟩

end LiveFunction

end ErrorTrail
