import ErrorTrail.Syntax.Parse
import ErrorTrail.Syntax.Placement
import ErrorTrail.Syntax.Scope

/-!
# Programs that compile

A tree compiles if its names are declared consistently and everything in it stands where it may; a
text compiles if it has a tree that does.
-/

namespace ErrorTrail.Syntax

/-- Whether a tree of a file compiles. -/
def SyntaxTree.compiles {α : Type} (t : SyntaxTree α) : Bool :=
  (fileScope (evaluatesAnnotations t) t).sound {} && wellPlaced t

/-- Whether a tree of a file that asks for no features compiles where annotations are evaluated or
not. -/
def SyntaxTree.compilesWith {α : Type} (eager : Bool) (t : SyntaxTree α) : Bool :=
  (fileScope eager t).sound {} && (judge { eager } t).allowed

/-- Why a text does not compile: it has no tree, or one that does not compile. -/
inductive CompileError where
  | malformed (m : Malformed)
  | inadmissible
  deriving DecidableEq, Repr, Inhabited

/-- The tree of a text that compiles. -/
def compileFile (source : String) : Except CompileError (SyntaxTree Span) := do
  let t ← (parseFile source).mapError .malformed
  if t.compiles then .ok t else .error .inadmissible

/-- The name under which an error in a text is known. -/
def Malformed.kind : Malformed → String
  | .grammar => "SyntaxError"
  | .indentation => "IndentationError"
  | .tabs => "TabError"

def CompileError.kind : CompileError → String
  | .malformed m => m.kind
  | .inadmissible => "SyntaxError"

end ErrorTrail.Syntax
