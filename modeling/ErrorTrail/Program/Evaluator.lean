import ErrorTrail.Program.Call
import ErrorTrail.Program.Generator

/-!
# The evaluator

The machine that runs programs. What a machine of some depth asks of another is done by the machine
of the depth below, and the machine of depth zero does nothing any more; so running ends, and with
more depth the same program gets further.

Evaluating an expression goes down its tree and needs no depth for that: the machine below is closed
first (`Machine.closed`), so that it evaluates the parts of an expression itself.
-/

namespace ErrorTrail

open Syntax

namespace Machine

/-- How often a loop may go around, and how many items are taken from an iterator. -/
def maxPatience : Nat := 1000000000

/-- The machine with another evaluation of expressions. -/
def withEvaluate (m : Machine) (e : Env → SyntaxTree Span → Act Value) : Machine :=
  { m with evaluate := e }

/-- The machine whose evaluation goes `n` expressions deep, as the evaluator does. -/
def nested (m : Machine) : Nat → Machine
  | 0 => m
  | n + 1 => m.withEvaluate fun env t => (nested m n).evaluateExpression env t

/-- The machine that evaluates each expression as the evaluator does, as deep as its tree goes. -/
def closed (m : Machine) : Machine :=
  m.withEvaluate fun env t => (m.nested t.subtrees.length).evaluateExpression env t

/-- The machine of a depth. -/
def ofDepth (world : World) : Nat → Machine
  | 0 => spent world
  | n + 1 =>
    { world := world
      patience := maxPatience
      call := fun f args named => (ofDepth world n).invoke f args named
      evaluate := fun env t => (ofDepth world n).closed.evaluate env t
      execute := fun env body => (ofDepth world n).executeAll env body
      repr := fun v => (ofDepth world n).represent v
      text := fun v => (ofDepth world n).describe v
      equal := fun a b => (ofDepth world n).isEqual a b
      order := fun op a b => (ofDepth world n).compareOrder op a b
      hash := fun v => (ofDepth world n).hashOf v
      resume := fun it impulse => (ofDepth world n).step it impulse
      member := fun v name => (ofDepth world n).findMember v name }

/-- A depth that no program reaches whose calls are not nested too deep. -/
def maxLevel : Nat := 1000000

/-- The machine that runs programs. -/
def standard (world : World) : Machine := ofDepth world maxLevel

end Machine

end ErrorTrail
