import ErrorTrail.Program.Arithmetic
import ErrorTrail.Program.Iteration
import ErrorTrail.Program.Subscript
import ErrorTrail.Program.Variables

/-!
# Targets of assignments

Assigning to a name, a member, an item, or to several targets at once, of which one may take what
the others leave; and deleting.
-/

namespace ErrorTrail

open Syntax

namespace Machine

open Act

variable (m : Machine)

/-- The first `n` items of an iterator, or fewer if it ends before. -/
def takeItems (it : Value) : Nat → Act (List Value)
  | 0 => return []
  | n + 1 => do
    match ← m.advance it with
    | none => return []
    | some v => return v :: (← takeItems it n)

def tooFew {α : Type} (expected : String) (found : Nat) : Act α :=
  fail .valueError ("not enough values to unpack (expected " ++ expected ++ ", got "
    ++ toString found ++ ")")

/-- Exactly `n` items of a value. -/
def unpack (v : Value) (n : Nat) : Act (List Value) := do
  let it ← m.iterator v
  let found ← m.takeItems it n
  if found.length < n then tooFew (toString n) found.length
  if (← m.advance it).isSome then
    fail .valueError ("too many values to unpack (expected " ++ toString n ++ ")")
  return found

/-- The items of a value, those between the first `before` and the last `after` together in a
list. -/
def unpackAround (v : Value) (before after : Nat) : Act (List Value) := do
  let found ← m.collectFrom (← m.iterator v)
  if found.length < before + after then
    tooFew ("at least " ++ toString (before + after)) found.length
  let middle := (found.drop before).take (found.length - before - after)
  return found.take before ++ (← allocValue (.list middle)) :: found.drop (found.length - after)

/-- The values for several targets, by their nodes. -/
def unpackFor (v : Value) (targets : List (SyntaxTree Span)) : Act (List Value) :=
  match targets.findIdx? isStarred with
  | none => m.unpack v targets.length
  | some i => m.unpackAround v i (targets.length - i - 1)

mutual
/-- Assigns a value to a target. -/
def assignTo (env : Env) : SyntaxTree Span → Value → Act Unit
  | .node (.name id _) _ _, x => env.assign id x
  | .node (.attribute attr _) _ [object], x => do
    m.setMember (← m.evaluate env object) (env.spell attr) x
  | .node (.subscript _) _ [object, key], x => do
    let v ← m.evaluate env object
    m.setItem v (← m.evaluate env key) x
  | .node (.starred _) _ [target], x => assignTo env target x
  | .node (.tuple _) _ [.node .sequence _ targets], x => do
    assignEach env targets (← m.unpackFor x targets)
  | .node (.list _) _ [.node .sequence _ targets], x => do
    assignEach env targets (← m.unpackFor x targets)
  | _, _ => typeError "not a target"
termination_by structural t => t

def assignEach (env : Env) : List (SyntaxTree Span) → List Value → Act Unit
  | t :: ts, x :: xs => do
    assignTo env t x
    assignEach env ts xs
  | _, _ => return ()
end

mutual
/-- Deletes what a target stands for. -/
def deleteTarget (env : Env) : SyntaxTree Span → Act Unit
  | .node (.name id _) _ _ => env.forget id
  | .node (.attribute attr _) _ [object] => do
    deleteMember (← m.evaluate env object) (env.spell attr)
  | .node (.subscript _) _ [object, key] => do
    let v ← m.evaluate env object
    m.deleteItem v (← m.evaluate env key)
  | .node (.tuple _) _ [.node .sequence _ targets] => deleteEach env targets
  | .node (.list _) _ [.node .sequence _ targets] => deleteEach env targets
  | _ => typeError "not a target"
termination_by structural t => t

def deleteEach (env : Env) : List (SyntaxTree Span) → Act Unit
  | [] => return ()
  | t :: ts => do
    deleteTarget env t
    deleteEach env ts
end

/-- Changes what a target stands for by what `f` makes of its value. The parts of the target are
evaluated once. -/
def changeTarget (env : Env) (target : SyntaxTree Span) (f : Value → Act Value) : Act Unit := do
  match target with
  | .node (.name id _) _ _ => env.assign id (← f (← env.read id))
  | .node (.attribute attr _) _ [object] =>
    let v ← m.evaluate env object
    let name := env.spell attr
    m.setMember v name (← f (← m.getMember v name))
  | .node (.subscript _) _ [object, key] =>
    let v ← m.evaluate env object
    let k ← m.evaluate env key
    m.setItem v k (← f (← m.getItem v k))
  | _ => typeError "not a target"

end Machine

end ErrorTrail
