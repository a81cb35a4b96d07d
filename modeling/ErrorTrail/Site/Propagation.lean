import ErrorTrail.Location
import ErrorTrail.Refusal
import ErrorTrail.Syntax.Label
import ErrorTrail.Syntax.Names

/-!
# Propagation sites

A propagation expression is a call `r.propagate()` without arguments. Instrumenting a tree turns each
into `hook(r, file, line).propagate()`, where `line` is the line of the word `propagate`; receivers
are instrumented before the calls on them, and every other node stays as it was.

* `SyntaxTree.propagation?` recognises a propagation expression.
* `SyntaxTree.visit` instruments a tree and lists its sites.
* `instrument` instruments the body of one function; its decorators, defaults and annotations are
  evaluated when it is defined and stay as they are.
-/

namespace ErrorTrail

open Syntax

/-- The method whose calls are propagation expressions. -/
def propagateWord : String := "propagate"

namespace Syntax.SyntaxTree

variable {α : Type}

/-- For a propagation expression the annotation of its attribute and its receiver. -/
def propagation? : SyntaxTree α → Option (α × SyntaxTree α)
  | node .call _ [node (.attribute attr _) a [receiver], node .sequence _ [], node .sequence _ []] =>
    if attr = propagateWord then some (a, receiver) else none
  | _ => none

def isPropagation (t : SyntaxTree α) : Bool := t.propagation?.isSome

end Syntax.SyntaxTree

/-- The expression that reads a dotted path. -/
def hookExpr {α : Type} (ann : α) (path : String) : SyntaxTree α :=
  match path.splitOn "." with
  | [] => .node (.name "" .load) ann []
  | head :: attrs =>
    let first : SyntaxTree α := .node (.name head .load) ann []
    attrs.foldl (fun e attr => .node (.attribute attr .load) ann [e]) first

/-- The line of a site: the last line of its word, or the first of the call when the former is
missing or zero. -/
def siteLine? (word call : Span) : Option Int :=
  match word.stop with
  | some n => if n = 0 then call.line else some n
  | none => call.line

/-- How sites are written: the file they name and the path of the function they call. -/
structure Marking where
  file : String
  hook : String
  deriving DecidableEq, Repr, Inhabited

namespace Marking

/-- The call that reports a site and hands its receiver on. -/
def hookCall {α : Type} (m : Marking) (ann none_ : α) (receiver : SyntaxTree α) (line : Int) :
    SyntaxTree α :=
  .node .call ann
    [hookExpr ann m.hook,
      .node .sequence none_
        [receiver, .node (.constant (.str m.file) none) ann [],
          .node (.constant (.int line) none) ann []],
      .node .sequence none_ []]

/-- The propagation expression on an instrumented receiver. -/
def inject {α : Type} (m : Marking) (ann none_ : α) (receiver : SyntaxTree α) (line : Int) :
    SyntaxTree α :=
  .node .call ann
    [.node (.attribute propagateWord .load) ann [m.hookCall ann none_ receiver line],
      .node .sequence none_ [], .node .sequence none_ []]

end Marking

namespace Syntax.SyntaxTree

/-- The line of a propagation expression; zero where none is known. -/
def siteLine (call : Span) (word : Span) : Int := (siteLine? word call).getD 0

/-- Whether every propagation expression of a tree has a line. -/
def isLocated (t : SyntaxTree Span) : Bool :=
  t.subtrees.all fun s =>
    match s.propagation? with
    | some (a, _) => (siteLine? a s.ann).isSome
    | none => true

mutual
/-- Instruments every propagation expression of a tree and lists the sites, each after those of its
receiver. -/
def visit (m : Marking) : SyntaxTree Span → SyntaxTree Span × List Location
  | node form span cs =>
    let inner := visitItems m cs
    let whole := node form span inner.1
    match whole.propagation? with
    | some (a, receiver) =>
      let line := siteLine span a
      (m.inject span {} receiver line, inner.2 ++ [⟨m.file, line⟩])
    | none => (whole, inner.2)

def visitItems (m : Marking) : List (SyntaxTree Span) → List (SyntaxTree Span) × List Location
  | [] => ([], [])
  | t :: ts =>
    let head := visit m t
    let tail := visitItems m ts
    (head.1 :: tail.1, head.2 ++ tail.2)
end

end Syntax.SyntaxTree

/-- Instruments a function's body. -/
def instrumentBody (m : Marking) : SyntaxTree Span → SyntaxTree Span × List Location
  | .node form span [args, .node .sequence s body, decorators, returns] =>
    let inner := SyntaxTree.visitItems m body
    (.node form span [args, .node .sequence s inner.1, decorators, returns], inner.2)
  | t => (t, [])

/-- Whether every propagation expression of a function's body has a line. -/
def bodyIsLocated (t : SyntaxTree Span) : Bool :=
  match t.children with
  | [_, body, _, _] => body.isLocated
  | _ => true

def isFunctionForm : Form → Bool
  | .functionDef _ _ => true
  | _ => false

/-- Why a tree cannot be instrumented: it is no function, or a site has no line. -/
inductive InstrumentError where
  | refused (r : Refusal)
  | unlocated
  deriving Repr

/-- Instruments the body of a function definition. -/
def instrument (m : Marking) (t : SyntaxTree Span) :
    Except InstrumentError (SyntaxTree Span × List Location) :=
  if !isFunctionForm t.form then
    .error (.refused
      { code := .notAFunction
        message := "@wherr applies to function definitions, not " ++ t.form.label
        line := t.ann.line })
  else if bodyIsLocated t then .ok (instrumentBody m t)
  else .error .unlocated

end ErrorTrail
