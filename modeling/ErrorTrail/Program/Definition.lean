import ErrorTrail.Program.Construct
import ErrorTrail.Program.Parameters
import ErrorTrail.Program.Variables
import ErrorTrail.Site.Definition
import ErrorTrail.Syntax.Printer.Statement

/-!
# Definitions

What a program defines: functions, and classes, whose body runs once in a space of its own.
-/

namespace ErrorTrail

open Syntax

/-- The name of a function that is written as an expression. -/
def anonymousName : String := "<lambda>"

/-- The line on which a definition begins: that of its first decorator, if it has any. -/
def definitionLine (decorators : List (SyntaxTree Span)) (span : Span) : Nat :=
  let line := match decorators with
    | d :: _ => d.ann.line
    | [] => span.line
  (line.getD 0).toNat

/-- The annotations of a definition, in the order in which they are evaluated. -/
def annotationsOf (args returns : SyntaxTree Span) : List (String × SyntaxTree Span) :=
  let ofParameter : SyntaxTree Span → Option (String × SyntaxTree Span)
    | .node (.arg name) _ [hint] => hint.present?.map fun t => (name, t)
    | _ => none
  let ofParameters : List (String × SyntaxTree Span) := match args with
    | .node .arguments _ [positionalOnly, positional, rest, keywordOnly, _, keywordRest, _] =>
      (positional.items ++ positionalOnly.items ++ [rest] ++ keywordOnly.items
        ++ [keywordRest]).filterMap ofParameter
    | _ => []
  ofParameters ++ (returns.present?.map fun t => ("return", t)).toList

/-- The module in which a block stands. -/
def Env.moduleName (env : Env) : Act Value := do
  return ((← Env.namesIn env.globals).lookup "__name__").getD .none

/-- The text that documents a body, as a value. -/
def documentationValue (body : List (SyntaxTree Span)) : Value :=
  match SyntaxTree.documentation? body with
  | some (text, _) => .str text
  | none => .none

namespace Machine

open Act

variable (m : Machine)

/-- The value of an annotation: its text where annotations are not evaluated. -/
def annotationValue (env : Env) (t : SyntaxTree Span) : Act Value := do
  if env.site.eager then m.evaluate env t
  else match t.render false .test with
    | .ok text => return .str text
    | .error _ => return .none

/-- The defaults of parameters: those by position, and those by name. -/
def defaultsOf (env : Env) : SyntaxTree Span → Act (List Value × Fields)
  | .node .arguments _ [_, _, _, keywordOnly, keywordDefaults, _, defaults] => do
    let values ← defaults.items.mapM (m.evaluate env)
    let named := (keywordOnly.items.filterMap (Parameters.nameOf? env.site.owner)).zip
      keywordDefaults.items
    let keywordValues ← (named.filter fun p => !p.2.isAbsent).mapM fun (name, t) =>
      return (name, ← m.evaluate env t)
    return (values, keywordValues)
  | _ => return ([], [])

/-- A new function with these parameters and this body. -/
def newFunction (env : Env) (name path : String) (args body : SyntaxTree Span) (asynchronous : Bool)
    (line : Nat) (defaults : List Value × Fields) (fields : Fields) : Act Value := do
  let scope := functionScope env.site args body
  allocValue (.function {
    name, path
    locals := path ++ "." ++ localsMark ++ "."
    body := .tree args body (scope.own env.offers) (scope.offers env.offers) env.site asynchronous
      (generates env.site.eager body)
    defaults := defaults.1
    keywordDefaults := defaults.2
    closure := env.captured (scope.captured env.offers)
    globals := env.globals
    file := env.file
    line, fields })

/-- A function that is written as an expression. -/
def lambdaValue (env : Env) (args body : SyntaxTree Span) (span : Span) : Act Value := do
  let defaults ← m.defaultsOf env args
  let statement : SyntaxTree Span := .node .returnStmt span [body]
  newFunction env anonymousName (env.path ++ anonymousName) args (.node .sequence span [statement])
    false (definitionLine [] span) defaults
    [("__module__", ← env.moduleName), ("__doc__", .none)]

/-- What decorators, from the last to the first, make of a value. -/
def decorated (decorators : List Value) (v : Value) : Act Value :=
  decorators.foldrM (fun f v => m.call f [v] []) v

/-- Defines a function. -/
def defineFunction (env : Env) (name : String) (args body : SyntaxTree Span)
    (decorators : List (SyntaxTree Span)) (returns : SyntaxTree Span) (asynchronous : Bool)
    (span : Span) :
    Act Unit := do
  let wrappers ← decorators.mapM (m.evaluate env)
  let defaults ← m.defaultsOf env args
  let annotations ← (annotationsOf args returns).mapM fun (name, t) =>
    return (Value.str (env.spell name), ← m.annotationValue env t)
  let f ← newFunction env name (env.pathOf name) args body asynchronous
    (definitionLine decorators span) defaults
    [("__module__", ← env.moduleName), ("__doc__", documentationValue body.items),
      ("__annotations__", ← allocValue (.dict annotations))]
  env.assign name (← m.decorated wrappers f)

/-! ### Classes -/

/-- Methods that belong to the class without saying so. -/
def implicitClassMethods : List String := ["__init_subclass__", "__class_getitem__"]

/-- The fields of a new class, from the names of its body. -/
def classFields (names : Fields) : Act Fields := do
  let kept ← (names.filter fun f => f.1 != "__qualname__").mapM fun (name, v) => do
    match ← object? v with
    | some (.function _) =>
      if implicitClassMethods.contains name then return (name, ← allocValue (.classMethod v))
      else if name = "__new__" then return (name, ← allocValue (.staticMethod v))
      else return (name, v)
    | _ => return (name, v)
  if kept.any (·.1 == "__eq__") && !kept.any (·.1 == "__hash__") then
    return kept ++ [("__hash__", .none)]
  return kept

/-- Tells the fields of a new class their names. -/
def nameFields (c : Value) (fields : Fields) : Act Unit := do
  for (name, v) in fields do
    if let some f ← userMethod v "__set_name__" then
      let _ ← m.call f [v, c, .str name] []

/-- Tells the class above that there is a new class. -/
def announceClass (c : Value) (keywords : Fields) : Act Unit := do
  let order ← searchOrder c
  match ← findIn "__init_subclass__" (order.drop 1) with
  | some (.field f) =>
    let method ← match ← object? f with
      | some (.classMethod g) => pure g
      | _ => pure f
    let _ ← m.call method [c] keywords
  | _ => if !keywords.isEmpty then typeError "__init_subclass__() takes no keyword arguments"

/-- Runs the body of a class and makes the class. -/
def makeClass (env : Env) (name : String) (bases : List Value) (keywords : Fields)
    (body : SyntaxTree Span) : Act Value := do
  let path := env.pathOf name
  let scope := classScope env.site name body
  let documentation := documentationValue body.items
  let space ← alloc (.space ([("__module__", ← env.moduleName), ("__qualname__", .str path)]
    ++ (if documentation == .none then [] else [("__doc__", documentation)])))
  let cell ← alloc (.cell none)
  let captured := env.captured (scope.captured env.offers)
  let inside : Env := { env with
    cells := (classVariable, cell) :: captured
    own := scope.own env.offers, outer := captured.map (·.1), first := none, space := some space
    offers := scope.offers env.offers
    site := { env.site.into .classBody with owner := some name }
    path := path ++ "." }
  let _ ← m.execute inside body.items
  let names ← Env.namesIn space
  let path := match names.lookup "__qualname__" with
    | some (.str s) => s
    | _ => path
  let fields ← classFields names
  let c ← Construct.newClass name path bases fields
  write cell (.cell (some c))
  m.nameFields c fields
  m.announceClass c (keywords.filter fun f => f.1 != "metaclass")
  return c

end Machine

end ErrorTrail
