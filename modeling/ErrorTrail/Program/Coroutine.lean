import ErrorTrail.Program.Definition
import ErrorTrail.Program.Iteration
import ErrorTrail.Program.Outcome

/-!
# Coroutines

A call of an asynchronous function gives a coroutine, which runs when it is awaited, once and to its
end.
-/

namespace ErrorTrail

open Syntax

/-- The value with which a function ends whose body ends so. -/
def Flow.result : Flow → Value
  | .returned v => v
  | _ => .none

namespace Machine

open Act

variable (m : Machine)

/-- The function that completes a coroutine. -/
def completion : Value := .native "coroutine.complete"

/-- Runs an iterator to its end and gives its result. -/
def exhaust (it : Value) : Act Value :=
  repeatUntil (do
    match ← m.resume it (.send .none) with
    | .item _ => return none
    | .done v => return some v) m.patience

/-- The result of something that can be awaited. -/
def awaitValue (v : Value) : Act Value := do
  match ← object? v with
  | some (.coroutine _ _ _ _ _) => m.call completion [v] []
  | _ =>
    match ← userMethod v "__await__" with
    | some f =>
      let it ← m.call f [v] []
      match ← object? it with
      | some (.coroutine _ _ _ _ _) => m.call completion [it] []
      | _ => m.exhaust it
    | none => typeError ("object " ++ (← kindName v) ++ " can't be used in 'await' expression")

/-- Runs a coroutine. -/
def complete (v : Value) : Act Value := do
  match v with
  | .ref r =>
    match ← read r with
    | .coroutine true _ _ _ _ => fail .runtimeError "cannot reuse already awaited coroutine"
    | .coroutine false f env args named => do
      write r (.coroutine true f env args named)
      match ← object? f with
      | some (.function g) =>
        match g.body with
        | .tree _ body _ _ _ _ _ => deeper do return (← m.execute env body.items).result
        | .boundary target _ =>
          deeper (Outcome.boundary do m.awaitValue (← m.call target args named))
      | _ => typeError "no function"
    | _ => typeError "a coroutine is required"
  | _ => typeError "a coroutine is required"

/-! ### Iteration that waits -/

/-- The iterator over the items of a value; `asynchronous` if its steps are awaited. -/
def iteratorOf (asynchronous : Bool) (v : Value) : Act Value := do
  if !asynchronous then m.iterator v
  else match ← object? v with
    | some (.generator _ true _ _) => return v
    | _ =>
      match ← userMethod v "__aiter__" with
      | some f => m.call f [v] []
      | none => typeError "'async for' requires an object with __aiter__ method"

/-- The next item of such an iterator. -/
def advanceOf (asynchronous : Bool) (it : Value) : Act (Option Value) := do
  if !asynchronous then m.advance it
  else match ← object? it with
    | some (.generator _ true _ _) => m.advance it
    | _ =>
      match ← userMethod it "__anext__" with
      | none => typeError "'async for' received an invalid object"
      | some f =>
        rescue (do return some (← m.awaitValue (← m.call f [it] []))) fun e => do
          if ← isKind e .stopAsyncIteration then return none else raise e

end Machine

end ErrorTrail
