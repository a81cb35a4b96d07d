import ErrorTrail.Program.Classes

/-!
# The machine

What the parts of evaluation ask of each other. Calling a function may evaluate its body, which may
call functions and compare or show values, which may call methods that a program has defined. Each
part takes a `Machine` for what lies outside it; the evaluator closes the circle with a bound on its
depth.
-/

namespace ErrorTrail

open Syntax

/-- What a suspended program goes on with: a value, or an exception at the place where it stands. -/
inductive Impulse where
  | send (v : Value)
  | raise (error : Value)
  deriving DecidableEq, Repr, Inhabited

/-- What a step of an iterator gives: an item, or the result at its end. -/
inductive Step where
  | item (v : Value)
  | done (v : Value)
  deriving DecidableEq, Repr, Inhabited

/-- What a value is hashed by. Equal values have equal keys. -/
inductive HashKey where
  | number (n : Int)
  | data (bytes : List UInt8)
  | identity (v : Value)
  | tuple (keys : List HashKey)
  deriving BEq, Repr, Inhabited

/-- What surrounds a running program: its settings, the working directory and the files. -/
structure World where
  settings : Except SettingsError Settings := .ok {}
  directory : Option Resolved := none
  disk : String → Option String := fun _ => none
  /-- the modules that can be imported -/
  modules : Fields := []
  deriving Inhabited

structure Machine where
  world : World
  /-- how often a loop may go around, and how many items are taken from an iterator -/
  patience : Nat
  call : Value → List Value → Fields → Act Value
  evaluate : Env → SyntaxTree Span → Act Value
  execute : Env → List (SyntaxTree Span) → Act Flow
  /-- the representation of a value as a program text -/
  repr : Value → Act String
  text : Value → Act String
  equal : Value → Value → Act Bool
  /-- what a comparison of order gives -/
  order : CompareOp → Value → Value → Act Value
  hash : Value → Act HashKey
  /-- the next step of an iterator -/
  resume : Value → Impulse → Act Step
  /-- a member of a value -/
  member : Value → String → Act (Option Value)
  deriving Inhabited

namespace Machine

/-- A machine that does nothing any more. -/
def spent (world : World) : Machine where
  world := world
  patience := 0
  call _ _ _ := throw .exhausted
  evaluate _ _ := throw .exhausted
  execute _ _ := throw .exhausted
  repr _ := throw .exhausted
  text _ := throw .exhausted
  equal _ _ := throw .exhausted
  order _ _ _ := throw .exhausted
  hash _ := throw .exhausted
  resume _ _ := throw .exhausted
  member _ _ := throw .exhausted

end Machine

namespace Act

/-- Runs a step again and again until it gives a result, `limit` times at most. -/
def repeatUntil {α : Type} (step : Act (Option α)) : Nat → Act α
  | 0 => throw .exhausted
  | n + 1 => do
    match ← step with
    | some a => return a
    | none => repeatUntil step n

/-- Runs a step that changes a state until it gives a result, `limit` times at most. -/
def iterate {σ α : Type} (step : σ → Act (σ ⊕ α)) : Nat → σ → Act α
  | 0, _ => throw .exhausted
  | n + 1, s => do
    match ← step s with
    | .inl s' => iterate step n s'
    | .inr a => return a

/-- Raises what leaves a generator. The exceptions that end iterations may not. -/
def failGenerator {α : Type} (asynchronous : Bool) (error : Value) : Act α := do
  let kind := if asynchronous then "async generator" else "generator"
  let wrapped (name : String) : Act α := do
    raise (← allocValue (.exception (.kind .runtimeError)
      [.str (kind ++ " raised " ++ name)] error .plain []))
  if ← isKind error .stopIteration then wrapped "StopIteration"
  else if asynchronous && (← isKind error .stopAsyncIteration) then wrapped "StopAsyncIteration"
  else raise error

/-- The member that the classes a program has made give to the instances of a class. -/
def userMember (c : Value) (name : String) : Act (Option Value) := do
  let order ← searchOrder c
  let rec search : List Value → Act (Option Value)
    | [] => return none
    | .ref r :: rest => do
      match ← read r with
      | .cls _ _ _ _ fields =>
        match fields.lookup name with
        | some v => return some v
        | none => search rest
      | _ => search rest
    | _ :: rest => search rest
  search order

/-- The method of that name that the class of a value has in a program. -/
def userMethod (v : Value) (name : String) : Act (Option Value) := do
  userMember (← classOf v) name

end Act

end ErrorTrail
