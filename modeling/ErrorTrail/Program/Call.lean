import ErrorTrail.Program.Coroutine
import ErrorTrail.Program.Native

/-!
# Calls

Calling a value: a function of the program or a built-in one, a function that is bound to an object
or has some arguments already, a class, or an object whose class says how it is called.
-/

namespace ErrorTrail

open Syntax

namespace Machine

open Act

variable (m : Machine)

/-- The block of a call of a function, its parameters having their values. -/
def enter (f : Function) (parameters : Parameters) (own : List String) (offers : Surroundings)
    (site : Site) (args : List Value) (named : Fields) : Act Env := do
  let given ← parameters.bind f.defaults f.keywordDefaults args named
  let cells ← own.mapM fun n => return (n, ← alloc (.cell (given.lookup n)))
  return {
    cells := cells ++ f.closure
    own, outer := f.closure.map (·.1)
    first := parameters.places.head?
    globals := f.globals
    offers
    site := site.into .function
    path := f.locals
    file := f.file }

/-- Calls a function of the program. -/
def callFunction (v : Value) (f : Function) (args : List Value) (named : Fields) : Act Value := do
  match f.body with
  | .boundary _ true => allocValue (.coroutine false v {} args named)
  | .boundary target false => deeper (Outcome.boundary (m.call target args named))
  | .tree parameters body own offers site asynchronous generator =>
    let env ← enter f (Parameters.ofTree site.owner parameters) own offers site args named
    if generator then allocValue (.generator .fresh asynchronous env [.statements body.items])
    else if asynchronous then allocValue (.coroutine false v env [] [])
    else deeper do return (← m.execute env body.items).result

/-- Arguments by name after others, which they may replace. -/
def mergeNamed (before after : Fields) : Fields :=
  before.filter (fun f => !after.any (·.1 == f.1)) ++ after

def notCallable {α : Type} (v : Value) : Act α := do
  typeError (Text.quoted (← kindName v) ++ " object is not callable")

/-- Calls a value. -/
def invoke (f : Value) (args : List Value) (named : Fields) : Act Value := do
  match f with
  | .native name =>
    if f == completion then
      match args with
      | [v] => m.complete v
      | _ => typeError "a coroutine is required"
    else Native.call m name args named
  | .bound g self => m.call g (self :: args) named
  | .kind _ => Construct.instantiate m f args named
  | .ref r =>
    match ← read r with
    | .function g => m.callFunction f g args named
    | .cls _ _ _ _ _ => Construct.instantiate m f args named
    | .applied g before given => m.call g (before ++ args) (mergeNamed given named)
    | .staticMethod g => m.call g args named
    | _ =>
      match ← userMethod f "__call__" with
      | some g => m.call (← m.bindTo f (← classOf f) g) args named
      | none => notCallable f
  | _ => notCallable f

end Machine

end ErrorTrail
