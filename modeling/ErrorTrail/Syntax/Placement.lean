import ErrorTrail.Syntax.Names
import ErrorTrail.Syntax.Opening
import ErrorTrail.Decimal.Shortest

/-!
# Placement

Which constructs may stand where: `return` and `yield` in functions, `await` in asynchronous ones,
`break` in loops, a starred expression in a display or among arguments, a wildcard in the last case.
What names do is the matter of scopes; this is about everything else that a text can be refused for
though its grammar is right.

* `Pattern.captures` lists the names that a pattern captures, unless it is not allowed.
* `judge` judges a tree and says what it does in its own block (`Verdict`).
* `wellPlaced` judges a whole file.
-/

namespace ErrorTrail.Syntax

variable {α : Type}

/-! ### Patterns -/

/-- A literal key of a mapping pattern, up to equality: a number by its parts, a text, bytes, or
nothing. -/
inductive KeyValue where
  | number (re im : Float)
  | text (s : String)
  | bytes (bs : List UInt8)
  | nothing
  deriving Inhabited

namespace KeyValue

protected def beq : KeyValue → KeyValue → Bool
  | number a b, number c d => a == c && b == d
  | text a, text b => a == b
  | bytes a, bytes b => a == b
  | nothing, nothing => true
  | _, _ => false

instance : BEq KeyValue := ⟨KeyValue.beq⟩

def ofFloatText (t : String) : Float := (Decimal.ofText t).toFloat

def ofConstant : Constant → Option KeyValue
  | .none => some nothing
  | .true => some (number 1 0)
  | .false => some (number 0 0)
  | .ellipsis => none
  | .int n => some (number (Float.ofInt n) 0)
  | .float t => some (number (ofFloatText t) 0)
  | .complex t => some (number 0 (ofFloatText (t.dropEnd 1).copy))
  | .str s => some (text s)
  | .bytes bs => some (bytes bs)

/-- The value of a literal, with a sign and an imaginary part if it has them. -/
def ofTree : SyntaxTree α → Option KeyValue
  | .node (.constant c _) _ _ => ofConstant c
  | .node (.unaryOp .minus) _ [t] =>
    match ofTree t with
    | some (number a b) => some (number (-a) (-b))
    | _ => none
  | .node (.binOp op) _ [l, r] =>
    match ofTree l, op, ofTree r with
    | some (number a b), .add, some (number c d) => some (number (a + c) (b + d))
    | some (number a b), .sub, some (number c d) => some (number (a - c) (b - d))
    | _, _, _ => none
  | _ => none

end KeyValue

/-- Whether a list holds an element twice. -/
def repeats {β : Type} [BEq β] : List β → Bool
  | [] => false
  | x :: xs => xs.contains x || repeats xs

/-- The name of the constant that tells whether checks are on; nothing may be bound to it. -/
def debugWord : String := "__debug__"

/-- Whether a name may be bound. -/
def bindable (name : String) : Bool := name ≠ debugWord

namespace Pattern

/-- The names of the pattern parts taken together, none twice. -/
def together (parts : List (Option (List String))) : Option (List String) := do
  let names := (← parts.mapM id).flatten
  if repeats names || !names.all bindable then none else some names

def isStar : SyntaxTree α → Bool
  | .node (.matchStar _) _ _ => true
  | _ => false

/-- Whether a pattern may be a value: a literal or a dotted name, no text with values in it. -/
def isValue : SyntaxTree α → Bool
  | .node .joinedStr _ _ => false
  | _ => true

/-- At most one star, and not too many patterns before it. -/
def starsFit (patterns : List (SyntaxTree α)) : Bool :=
  (patterns.filter isStar).length ≤ 1
    && (!patterns.any isStar || (patterns.takeWhile fun t => !isStar t).length < 256)

/-- Two alternatives capture the same names. -/
def sameNames (a b : List String) : Bool := a.all b.contains && b.all a.contains

mutual
/-- The names that a pattern captures; `none` if it is not allowed. A pattern that fits everything
is allowed only where `last` holds. -/
def captures (last : Bool) : SyntaxTree α → Option (List String)
  | .node (.matchAs name) _ [inner] =>
    if inner.isAbsent then
      if last then together [some name.toList] else none
    else together [captures last inner, some name.toList]
  | .node (.matchStar name) _ _ => together [some name.toList]
  | .node .matchValue _ [value] => if isValue value then some [] else none
  | .node .matchSequence _ [patterns] =>
    if starsFit patterns.items then together (capturesItems patterns) else none
  | .node (.matchMapping rest) _ [keys, patterns] =>
    if repeats (keys.items.filterMap KeyValue.ofTree) || !keys.items.all isValue then none
    else together (capturesItems patterns ++ [some rest.toList])
  | .node (.matchClass attrs) _ [_, patterns, keywordPatterns] =>
    if repeats attrs || !attrs.all bindable then none
    else together (capturesItems patterns ++ capturesItems keywordPatterns)
  | .node .matchOr _ [patterns] =>
    match capturesAlternatives last patterns with
    | some (first :: others) => if others.all (sameNames first) then some first else none
    | _ => none
  | _ => some []
termination_by structural t => t

def capturesItems : SyntaxTree α → List (Option (List String))
  | .node .sequence _ cs => capturesEach cs
  | _ => []

/-- What each pattern inside another one captures. -/
def capturesEach : List (SyntaxTree α) → List (Option (List String))
  | [] => []
  | t :: ts => captures true t :: capturesEach ts

def capturesAlternatives (last : Bool) : SyntaxTree α → Option (List (List String))
  | .node .sequence _ cs => capturesChoice last cs
  | _ => none

/-- What each alternative captures. Only the last may fit everything. -/
def capturesChoice (last : Bool) : List (SyntaxTree α) → Option (List (List String))
  | [] => some []
  | t :: ts => do
    let names ← captures (last && ts.isEmpty) t
    let others ← capturesChoice last ts
    some (names :: others)
end

end Pattern

/-! ### Verdicts -/

/-- What a tree is judged to be: allowed or not, and what it does in its own block. -/
structure Verdict where
  allowed : Bool := true
  awaits : Bool := false
  yields : Bool := false
  returnsValue : Bool := false
  deriving DecidableEq, Repr, Inhabited

namespace Verdict

protected def and (a b : Verdict) : Verdict :=
  ⟨a.allowed && b.allowed, a.awaits || b.awaits, a.yields || b.yields,
    a.returnsValue || b.returnsValue⟩

instance : AndOp Verdict := ⟨Verdict.and⟩

def require (b : Bool) : Verdict := { allowed := b }

/-- All that a block inside tells the block around it: whether it is allowed. -/
def sealed (v : Verdict) : Verdict := { allowed := v.allowed }

/-- What is never evaluated still makes a generator of the function that it stands in. -/
def unevaluated (v : Verdict) : Verdict := { yields := v.yields }

end Verdict

/-- The kinds of pieces of code that run on their own. -/
inductive Code where
  | file
  | classBody
  | function (asynchronous : Bool)
  | lambda
  | comprehension
  deriving DecidableEq, Repr, Inhabited

/-- Where a tree stands. -/
structure Standing where
  unit : Code := .file
  /-- whether `break` and `continue` find a loop -/
  inLoop : Bool := false
  /-- whether a jump would leave the handler of a group of exceptions -/
  inGroup : Bool := false
  /-- whether annotations are evaluated -/
  eager : Bool := true
  /-- how many blocks of statements are open -/
  depth : Nat := 0
  deriving DecidableEq, Repr, Inhabited

/-- How many blocks of statements may be open at once. -/
def maxDepth : Nat := 20

namespace Standing

/-- The start of a piece of code that stands here. -/
def start (s : Standing) (u : Code) : Standing := { unit := u, eager := s.eager }

def inFunction (s : Standing) : Bool :=
  match s.unit with
  | .file => false
  | .classBody => false
  | _ => true

def isAsync (s : Standing) : Bool := s.unit == .function true

/-- Whether `await` may stand here. -/
def mayAwait (s : Standing) : Bool := s.isAsync || s.unit == .comprehension

/-- Inside `n` more blocks of statements. -/
def deeper (n : Nat) (s : Standing) : Standing := { s with depth := s.depth + n }

def fits (s : Standing) : Verdict := .require (s.depth ≤ maxDepth)

/-- Inside a loop. -/
def loop (s : Standing) : Standing := { s.deeper 1 with inLoop := true }

/-- What a comprehension does in the block around it, `inside` being what it does in its own. One
that waits may stand only where waiting may, unless it is a generator. -/
def settle (s : Standing) (lazy : Bool) (inside : Verdict) : Verdict :=
  let waits := inside.awaits && !lazy
  { allowed := inside.allowed && (!waits || s.mayAwait), awaits := waits }

end Standing

/-- Whether a handler catches everything. -/
def catchesAll : SyntaxTree α → Bool
  | .node (.exceptHandler _) _ [type, _] => type.isAbsent
  | _ => false

/-- Whether only the last handler catches everything. -/
def handlersFit (handlers : List (SyntaxTree α)) : Bool := !handlers.dropLast.any catchesAll

def isStarred : SyntaxTree α → Bool
  | .node (.starred _) _ _ => true
  | _ => false

/-- Whether the elements that are assigned to hold at most one star, and not too many before it. -/
def targetsFit (elements : List (SyntaxTree α)) : Bool :=
  (elements.filter isStarred).length ≤ 1
    && (!elements.any isStarred || (elements.takeWhile fun t => !isStarred t).length < 256)

/-- The names that keywords give, none of them twice. -/
def keywordsFit (keywords : List (SyntaxTree α)) : Bool :=
  let names := keywords.filterMap fun t =>
    match t with
    | .node (.keyword name) _ _ => name
    | _ => none
  !repeats names && names.all bindable

/-- Whether the case of a pattern may stand: only the last one, or one with a condition, may fit
everything. -/
def caseFits (last : Bool) : SyntaxTree α → Bool
  | .node .matchCase _ [pattern, guard, _] =>
    (Pattern.captures (last || !guard.isAbsent) pattern).isSome
  | _ => true

def casesFit : List (SyntaxTree α) → Bool
  | [] => true
  | [t] => caseFits true t
  | t :: ts => caseFits false t && casesFit ts

/-- The names that a parameter list binds may be bound. -/
def parametersFit (t : SyntaxTree α) : Bool :=
  t.subtrees.all fun s =>
    match s with
    | .node (.arg name) _ _ => bindable name
    | _ => true

mutual
/-- Judges a tree. -/
def judge (s : Standing) : SyntaxTree α → Verdict
  | .node (.functionDef asynchronous name) _ [args, body, decorators, returns] =>
    let inside := judge (s.start (.function asynchronous)) body
    .require (bindable name && parametersFit args) &&& judge s decorators &&& judgeDefaults s args
      &&& (if s.eager then judgeAnnotations s args &&& judge s returns else {})
      &&& inside.sealed &&& .require (!(asynchronous && inside.yields && inside.returnsValue))
  | .node .lambda _ [args, body] =>
    .require (parametersFit args) &&& judgeDefaults s args
      &&& (judge (s.start .lambda) body).sealed
  | .node (.classDef name) _ [bases, keywords, body, decorators] =>
    .require (bindable name && keywordsFit keywords.items) &&& judgeElements s bases
      &&& judge s keywords &&& judge s decorators &&& (judge (s.start .classBody) body).sealed
  | .node .returnStmt _ [value] =>
    .require (s.inFunction && !s.inGroup) &&& judge s value
      &&& { returnsValue := !value.isAbsent }
  | .node (.annAssign _) _ [target, hint, value] =>
    let named : Bool := match target.form with
      | .name _ _ => true
      | _ => false
    let evaluated := match s.unit with
      | .file => true
      | .classBody => true
      | _ => false
    (if value.isAbsent then
        if named then .require (target.form.identifiers.all bindable) else judgeParts s target
      else judge s value &&& judge s target)
      &&& (if !s.eager then {} else if evaluated then judge s hint else (judge s hint).unevaluated)
  | .node (.forStmt asynchronous) _ [target, iterable, body, orelse] =>
    .require (!asynchronous || s.isAsync) &&& judge s iterable &&& s.loop.fits
      &&& judge s.loop target &&& judge s.loop body &&& judge s orelse
  | .node .whileStmt _ [test, body, orelse] =>
    judge s test &&& s.loop.fits &&& judge s.loop body &&& judge s orelse
  | .node (.withStmt asynchronous) _ [items, body] =>
    let inside := s.deeper items.items.length
    .require (!asynchronous || s.isAsync) &&& inside.fits &&& judge inside items
      &&& judge inside body
  | .node .matchStmt _ [subject, cases] =>
    judge s subject &&& .require (casesFit cases.items) &&& judge s cases
  | .node (.tryStmt star) _ [body, handlers, orelse, final] =>
    let final? := final.items.length
    let inner := s.deeper (if final? = 0 then 0 else 1)
    let body? := inner.deeper (if handlers.items.isEmpty then 0 else 1)
    let handler := inner.deeper (if handlers.items.isEmpty then 0 else 2)
    .require (handlersFit handlers.items) &&& body?.fits &&& handler.fits
      &&& judge body? body &&& judge inner orelse
      &&& judge (if star then { handler with inLoop := false, inGroup := true } else handler) handlers
      &&& judge (s.deeper (if final? = 0 then 0 else 1)) final
  | .node (.exceptHandler name) _ cs => .require (name.toList.all bindable) &&& judgeList s cs
  | .node .breakStmt _ _ => .require s.inLoop
  | .node .continueStmt _ _ => .require s.inLoop
  | .node (.importFrom source _) _ cs => .require (source ≠ some futureModule) &&& judgeList s cs
  | .node (.alias name asname) _ _ => .require (bindable (importedName name asname))
  | .node .listComp _ [element, clauses] => judgeFirst s clauses &&&
      s.settle false (judgeClauses (s.start .comprehension) clauses
        &&& judge (s.start .comprehension) element)
  | .node .setComp _ [element, clauses] => judgeFirst s clauses &&&
      s.settle false (judgeClauses (s.start .comprehension) clauses
        &&& judge (s.start .comprehension) element)
  | .node .dictComp _ [key, value, clauses] => judgeFirst s clauses &&&
      s.settle false (judgeClauses (s.start .comprehension) clauses
        &&& judge (s.start .comprehension) key &&& judge (s.start .comprehension) value)
  | .node .generatorExp _ [element, clauses] => judgeFirst s clauses &&&
      s.settle true (judgeClauses (s.start .comprehension) clauses
        &&& judge (s.start .comprehension) element)
  | .node .await _ cs => .require s.mayAwait &&& { awaits := true } &&& judgeList s cs
  | .node .yield _ cs => .require s.inFunction &&& { yields := true } &&& judgeList s cs
  | .node .yieldFrom _ cs =>
    .require (s.inFunction && !s.isAsync) &&& { yields := true } &&& judgeList s cs
  | .node .call _ [function, args, keywords] =>
    .require (keywordsFit keywords.items) &&& judge s function &&& judgeElements s args
      &&& judge s keywords
  | .node (.attribute attr ctx) _ cs =>
    .require (ctx = .load || bindable attr) &&& judgeList s cs
  | .node (.name id ctx) _ _ => .require (ctx = .load || bindable id)
  | .node (.list ctx) _ [elements] =>
    .require (ctx = .load || targetsFit elements.items) &&& judgeElements s elements
  | .node (.tuple ctx) _ [elements] =>
    .require (ctx = .load || targetsFit elements.items) &&& judgeElements s elements
  | .node .set _ [elements] => judgeElements s elements
  | .node (.starred _) _ _ => .require false
  | .node _ _ cs => judgeList s cs
termination_by structural t => t

def judgeList (s : Standing) : List (SyntaxTree α) → Verdict
  | [] => {}
  | t :: ts => judge s t &&& judgeList s ts

/-- Judges the children of a target that is not assigned to. -/
def judgeParts (s : Standing) : SyntaxTree α → Verdict
  | .node (.attribute attr _) _ cs => .require (bindable attr) &&& judgeList s cs
  | .node _ _ cs => judgeList s cs

/-- Judges expressions that may be starred. -/
def judgeElements (s : Standing) : SyntaxTree α → Verdict
  | .node .sequence _ cs => judgeEachElement s cs
  | _ => {}

def judgeEachElement (s : Standing) : List (SyntaxTree α) → Verdict
  | [] => {}
  | .node (.starred _) _ cs :: ts => judgeList s cs &&& judgeEachElement s ts
  | t :: ts => judge s t &&& judgeEachElement s ts

def judgeDefaults (s : Standing) : SyntaxTree α → Verdict
  | .node .arguments _ [_, _, _, _, keywordDefaults, _, defaults] =>
    judge s defaults &&& judge s keywordDefaults
  | _ => {}

/-- Judges the annotations of parameters. -/
def judgeAnnotations (s : Standing) : SyntaxTree α → Verdict
  | .node .arguments _ [positionalOnly, positional, vararg, keywordOnly, _, kwarg, _] =>
    judgeAnnotations s positionalOnly &&& judgeAnnotations s positional
      &&& judgeAnnotations s vararg &&& judgeAnnotations s keywordOnly &&& judgeAnnotations s kwarg
  | .node (.arg _) _ cs => judgeEachElement s cs
  | .node .sequence _ cs => judgeAnnotationsList s cs
  | _ => {}

def judgeAnnotationsList (s : Standing) : List (SyntaxTree α) → Verdict
  | [] => {}
  | t :: ts => judgeAnnotations s t &&& judgeAnnotationsList s ts

/-- Judges the first iterable of a comprehension. -/
def judgeFirst (s : Standing) : SyntaxTree α → Verdict
  | .node (.comprehension _) _ [_, iterable, _] => judge s iterable
  | .node .sequence _ (clause :: _) => judgeFirst s clause
  | _ => {}

/-- Judges the clauses of a comprehension without the first iterable. -/
def judgeClauses (s : Standing) : SyntaxTree α → Verdict
  | .node (.comprehension asynchronous) _ [target, _, conditions] =>
    { awaits := asynchronous ≠ 0 } &&& judge s target &&& judge s conditions
  | .node .sequence _ (clause :: clauses) => judgeClauses s clause &&& judgeLaterClauses s clauses
  | _ => {}

def judgeLaterClauses (s : Standing) : List (SyntaxTree α) → Verdict
  | [] => {}
  | .node (.comprehension asynchronous) _ [target, iterable, conditions] :: clauses =>
    { awaits := asynchronous ≠ 0 } &&& judge s target &&& judge s iterable &&& judge s conditions
      &&& judgeLaterClauses s clauses
  | _ :: clauses => judgeLaterClauses s clauses
end

/-- Whether all parts of a file may stand where they do. -/
def wellPlaced : SyntaxTree α → Bool
  | .node .file _ [.node .sequence _ body] =>
    let asked := features body
    asked.all futureFeatures.contains
      && (judgeList { eager := !asked.contains annotationsFeature } (afterOpening body)).allowed
  | t => (judge {} t).allowed

end ErrorTrail.Syntax
