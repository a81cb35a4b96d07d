import ErrorTrail.Site.Propagation
import ErrorTrail.Syntax.Parse

/-!
# Recompiling one definition

A live function is instrumented from its source text. Its definition is stripped of what was
evaluated when it was defined, instrumented, and put into a factory function that holds the hook and
the captured variables as local variables.

* `stripDefinition` removes decorators, annotations and defaults.
* `ownerClass` reads the innermost class around a function off its qualified name.
* `factoryModule` builds the module that holds the factory.
-/

namespace ErrorTrail

open Syntax

def factoryName : String := "__wherr_factory__"

def scopeName : String := "__wherr_scope__"

def classCell : String := "__class__"

/-- How a function inside a function is marked in qualified names. -/
def localsMark : String := "<locals>"

/-- A parameter without its annotation. -/
def stripParameter : SyntaxTree Span → SyntaxTree Span
  | .node (.arg name) span _ => .node (.arg name) span [.node .absent {} []]
  | t => t

/-- The definition without decorators, annotations and defaults. -/
def stripDefinition : SyntaxTree Span → SyntaxTree Span
  | .node (.functionDef a name) span
      [.node .arguments s
        [.node .sequence s₁ positionalOnly, .node .sequence s₂ positional, vararg,
          .node .sequence s₃ keywordOnly, .node .sequence s₄ _, kwarg, .node .sequence s₅ _],
        body, .node .sequence s₆ _, _] =>
    let missing : SyntaxTree Span := .node .absent {} []
    .node (.functionDef a name) span
      [.node .arguments s
        [.node .sequence s₁ (positionalOnly.map stripParameter),
          .node .sequence s₂ (positional.map stripParameter), stripParameter vararg,
          .node .sequence s₃ (keywordOnly.map stripParameter),
          .node .sequence s₄ (keywordOnly.map fun _ => missing), stripParameter kwarg,
          .node .sequence s₅ []],
        body, .node .sequence s₆ [], missing]
  | t => t

/-- The last name of a reversed path that no mark stands next to, `following` being the part after
the path. -/
def lastUnmarked (following : String) : List String → Option String
  | [] => none
  | name :: rest =>
    if name ≠ localsMark ∧ following ≠ localsMark then some name else lastUnmarked name rest

/-- The innermost class around a function, by its qualified name. -/
def ownerClass (path : String) : Option String :=
  match (path.splitOn ".").reverse with
  | [] => none
  | last :: rest => lastUnmarked last rest

/-- The class whose body holds the definition, so that private names and the class cell mean what
they did. The owner is written into a text and read back. -/
def scopeClass (owner : String) (definition : SyntaxTree Unit) :
    Except Malformed (Option (SyntaxTree Unit)) := do
  let file ← parseFile ("class " ++ owner ++ ":\n    pass\n")
  match file.bare with
  | .node .file _ [.node .sequence _
      (.node (.classDef name) a [bases, keywords, _, decorators] :: _)] =>
    .ok (some (.node (.classDef name) a
      [bases, keywords, .node .sequence () [definition], decorators]))
  | _ => .ok none

def definitionName : SyntaxTree Unit → String
  | .node (.functionDef _ name) _ _ => name
  | _ => ""

/-- A function without parameters. -/
def plainFunction (name : String) (body : List (SyntaxTree Unit)) : SyntaxTree Unit :=
  let none_ : SyntaxTree Unit := .node .absent () []
  let empty : SyntaxTree Unit := .node .sequence () []
  .node (.functionDef false name) ()
    [.node .arguments () [empty, empty, none_, empty, empty, none_, empty],
      .node .sequence () body, empty, none_]

/-- The statement that binds the hook and the captured variables in the factory. -/
def cellAssignment (names : List String) : SyntaxTree Unit :=
  .node .assign ()
    [.node .sequence () (names.map fun n => .node (.name n .store) () []),
      .node (.constant .none none) () []]

/-- The module of the factory: a function that binds the hook and the captured variables and holds
the definition, in a class named like its owner if it has one. What the definition does not capture
stays global. `none` if the owner's name is written so that no class comes of it. -/
def factoryModule (definition : SyntaxTree Unit) (hook : String) (captured : List String)
    (owner : Option String) : Except Malformed (Option (SyntaxTree Unit)) := do
  let cells := cellAssignment (hook :: captured.filter (· ≠ classCell))
  let globally (name : String) : List (SyntaxTree Unit) :=
    if captured.contains name then [] else [.node (.globalStmt [name]) () []]
  let inner? ← match owner with
    | some o => do
      let scope? ← scopeClass o definition
      .ok (scope?.map fun scope => globally o ++ [cells, scope])
    | none => .ok (some (globally (definitionName definition) ++ [cells, definition]))
  .ok (inner?.map fun body =>
    .node .file () [.node .sequence () [plainFunction factoryName body]])

end ErrorTrail
