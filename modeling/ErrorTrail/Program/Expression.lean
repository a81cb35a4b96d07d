import ErrorTrail.Program.Coroutine
import ErrorTrail.Program.Format
import ErrorTrail.Program.Matching

/-!
# Expressions

The value of an expression in a block. Parts are evaluated from left to right.
-/

namespace ErrorTrail

open Syntax

/-- What a literal stands for. -/
def constantValue : Constant → Act Value
  | .none => return .none
  | .true => return .bool true
  | .false => return .bool false
  | .ellipsis => return .ellipsis
  | .int n => return .int n
  | .float text => Act.newFloat (Decimal.ofText text).toFloat
  | .complex _ => Act.typeError "imaginary numbers are not known"
  | .str s => return .str s
  | .bytes bs => return .bytes bs

/-- The statements of a generator expression after its first clause, inside out. -/
def clauseBody (element : SyntaxTree Span) :
    List (SyntaxTree Span) → List (SyntaxTree Span) → List (SyntaxTree Span)
  | [], [] => [.node .exprStmt element.ann [.node .yield element.ann [element]]]
  | [], .node (.comprehension asynchronous) span [target, iterable, conditions] :: clauses =>
    [.node (.forStmt (asynchronous ≠ 0)) span
      [target, iterable, .node .sequence {} (clauseBody element conditions.items clauses),
        .node .sequence {} []]]
  | condition :: conditions, clauses =>
    [.node .ifStmt condition.ann
      [condition, .node .sequence {} (clauseBody element conditions clauses), .node .sequence {} []]]
  | [], _ => []
termination_by conditions clauses => (clauses.length, conditions.length)

namespace Machine

open Act

variable (m : Machine)

/-! ### Parts -/

/-- The items of a value that stands starred in a display or call. -/
def starredItems (env : Env) (t : SyntaxTree Span) : Act (List Value) := do
  m.items (← m.evaluate env t)

/-- The values of expressions that may be starred. -/
def evaluateAll (env : Env) : List (SyntaxTree Span) → Act (List Value)
  | [] => return []
  | .node (.starred _) _ [t] :: ts => do
    let xs ← m.starredItems env t
    return xs ++ (← evaluateAll env ts)
  | t :: ts => do
    let v ← m.evaluate env t
    return v :: (← evaluateAll env ts)

/-- The entries of a mapping. -/
def mappingEntries (v : Value) : Act (List (Value × Value)) := do
  match ← mapping? v with
  | some es => return es
  | none =>
    match ← m.member? v "keys" with
    | none => typeError "argument after ** must be a mapping"
    | some keys =>
      (← m.items (← m.call keys [] [])).mapM fun k => return (k, ← m.getItem v k)

/-- The arguments by name of a call. -/
def evaluateKeywords (env : Env) : List (SyntaxTree Span) → Fields → Act Fields
  | [], done => return done
  | .node (.keyword name) _ [t] :: ts, done => do
    let v ← m.evaluate env t
    let more ← match name with
      | some n => pure [(n, v)]
      | none => (← m.mappingEntries v).mapM fun (k, x) => do
        match k with
        | .str s => return (s, x)
        | _ => typeError "keywords must be strings"
    if more.any fun f => done.any (·.1 == f.1) then
      typeError "got multiple values for keyword argument"
    evaluateKeywords env ts (done ++ more)
  | _ :: ts, done => evaluateKeywords env ts done

/-- The entries of a dictionary display. -/
def evaluateEntries (env : Env) : List (SyntaxTree Span × SyntaxTree Span) → List (Value × Value) →
    Act (List (Value × Value))
  | [], done => return done
  | (key, value) :: rest, done => do
    if key.isAbsent then
      evaluateEntries env rest (← m.putAll done (← m.mappingEntries (← m.evaluate env value)))
    else
      let k ← m.evaluate env key
      let v ← m.evaluate env value
      evaluateEntries env rest (← m.put done k v)

/-- The first value whose truth is `stop`, or the last one. -/
def evaluateUntil (env : Env) (stop : Bool) : List (SyntaxTree Span) → Act Value
  | [] => return .none
  | [t] => m.evaluate env t
  | t :: ts => do
    let v ← m.evaluate env t
    if (← m.truth v) == stop then return v else evaluateUntil env stop ts

/-- A chain of comparisons, which ends at the first that does not hold. -/
def evaluateCompare (env : Env) (left : Value) : List CompareOp → List (SyntaxTree Span) → Act Value
  | [op], [t] => do m.compareValues op left (← m.evaluate env t)
  | op :: ops, t :: ts => do
    let right ← m.evaluate env t
    let r ← m.compareValues op left right
    if ← m.truth r then evaluateCompare env right ops ts else return r
  | _, _ => return .bool true

def evaluateOptional (env : Env) (t : SyntaxTree Span) : Act Value := do
  if t.isAbsent then return .none else m.evaluate env t

/-! ### Texts with values -/

/-- A value in a text: converted as the letter says, and formatted. -/
def evaluateFormatted (env : Env) (conversion : Int) (value format : SyntaxTree Span) :
    Act String := do
  let v ← m.evaluate env value
  let v ← if conversion < 0 then pure v else m.convert (Char.ofNat conversion.toNat) v
  if format.isAbsent then m.format v ""
  else match ← m.evaluate env format with
    | .str spec => m.format v spec
    | _ => m.format v ""

def evaluatePieces (env : Env) : List (SyntaxTree Span) → Act String
  | [] => return ""
  | .node (.constant (.str s) _) _ _ :: ts => return s ++ (← evaluatePieces env ts)
  | .node (.formattedValue conversion) _ [value, format] :: ts => do
    let head ← m.evaluateFormatted env conversion value format
    return head ++ (← evaluatePieces env ts)
  | t :: ts => do
    let head ← m.text (← m.evaluate env t)
    return head ++ (← evaluatePieces env ts)

/-! ### Comprehensions -/

def allHold (env : Env) : List (SyntaxTree Span) → Act Bool
  | [] => return true
  | t :: ts => do if ← m.truth (← m.evaluate env t) then allHold env ts else return false

/-- Goes through the clauses of a comprehension, of which the first may have its iterator
already, and does `emit` for each combination. -/
def overClauses (env : Env) (emit : Act Unit) : List (SyntaxTree Span) → Option Value → Act Unit
  | [], _ => emit
  | .node (.comprehension asynchronous) _ [target, iterable, conditions] :: clauses, first => do
    let waits := asynchronous ≠ 0
    let it ← match first with
      | some it => pure it
      | none => do m.iteratorOf waits (← m.evaluate env iterable)
    repeatUntil (do
      match ← m.advanceOf waits it with
      | none => return some ()
      | some v =>
        m.assignTo env target v
        if ← m.allHold env conditions.items then overClauses env emit clauses none
        return none) m.patience
  | _ :: clauses, first => overClauses env emit clauses first

/-- The iterator of the first clause, which is evaluated outside the comprehension. -/
def firstIterator (env : Env) (clauses : List (SyntaxTree Span)) : Act Value := do
  match clauses with
  | .node (.comprehension asynchronous) _ [_, iterable, _] :: _ =>
    m.iteratorOf (asynchronous ≠ 0) (← m.evaluate env iterable)
  | _ => typeError "a comprehension has a clause"

/-- Makes a comprehension: `start` is the object that takes the values in, `emit` puts one in. -/
def comprehend (env : Env) (title : String) (clauses : SyntaxTree Span)
    (elements : List (SyntaxTree Span))
    (emit : Env → Act Unit) : Act Unit := do
  let it ← m.firstIterator env clauses.items
  let inside ← env.comprehension title (comprehensionScope env.site clauses elements)
  deeper (m.overClauses inside (emit inside) clauses.items (some it))

/-- A list comprehension. -/
def listComprehension (env : Env) (element clauses : SyntaxTree Span) : Act Value := do
  let r ← alloc (.list [])
  m.comprehend env "<listcomp>" clauses [element] fun inside => do
    let v ← m.evaluate inside element
    write r (.list (v :: (← listItems r)))
  write r (.list (← listItems r).reverse)
  return .ref r

def setComprehension (env : Env) (element clauses : SyntaxTree Span) : Act Value := do
  let r ← alloc (.set [] false)
  m.comprehend env "<setcomp>" clauses [element] fun inside => do
    let v ← m.evaluate inside element
    match ← read r with
    | .set xs frozen => write r (.set (← m.insert xs v) frozen)
    | _ => return
  return .ref r

def dictComprehension (env : Env) (key value clauses : SyntaxTree Span) : Act Value := do
  let r ← alloc (.dict [])
  m.comprehend env "<dictcomp>" clauses [key, value] fun inside => do
    let k ← m.evaluate inside key
    let v ← m.evaluate inside value
    match ← read r with
    | .dict es => write r (.dict (← m.put es k v))
    | _ => return
  return .ref r

/-- A generator expression. -/
def generatorExpression (env : Env) (element clauses : SyntaxTree Span) : Act Value := do
  let it ← m.firstIterator env clauses.items
  let inside ← env.comprehension "<genexpr>" (comprehensionScope env.site clauses [element])
  match clauses.items with
  | .node (.comprehension asynchronous) _ [target, _, conditions] :: rest =>
    let waits := clauses.items.any fun t => match t.form with
      | .comprehension a => a ≠ 0
      | _ => false
    allocValue (.generator .fresh waits inside
      [.loop it (asynchronous ≠ 0) target (clauseBody element conditions.items rest) []])
  | _ => typeError "a comprehension has a clause"

/-! ### Calls -/

/-- What reaches the members of the classes above the class around a method. -/
def implicitSuper (env : Env) : Act Value := do
  match env.first with
  | none => fail .runtimeError "super(): no arguments"
  | some name =>
    let self ← match env.cells.lookup name with
      | some r => Env.content r
      | none => pure none
    match self, env.cells.lookup classVariable with
    | none, _ => fail .runtimeError "super(): arg[0] deleted"
    | _, none => fail .runtimeError "super(): __class__ cell not found"
    | some self, some r =>
      match ← Env.content r with
      | none => fail .runtimeError "super(): empty __class__ cell"
      | some c => Construct.superOf c self

/-- A call. -/
def evaluateCall (env : Env) (function args keywords : SyntaxTree Span) : Act Value := do
  let f ← m.evaluate env function
  match f, args.items, keywords.items with
  | .kind .superType, [], [] => implicitSuper env
  | .native "globals", [], [] => return .ref env.globals
  | _, _, _ =>
    let values ← m.evaluateAll env args.items
    let named ← m.evaluateKeywords env keywords.items []
    m.call f values named

/-- The value of an expression. -/
def evaluateExpression (env : Env) (t : SyntaxTree Span) : Act Value := do
  match t with
  | .node (.constant c _) _ _ => constantValue c
  | .node (.name id _) _ _ => env.read id
  | .node (.attribute attr _) _ [object] => do
    m.getMember (← m.evaluate env object) (env.spell attr)
  | .node .call _ [function, args, keywords] => m.evaluateCall env function args keywords
  | .node (.subscript _) _ [object, key] =>
    let v ← m.evaluate env object
    m.getItem v (← m.evaluate env key)
  | .node (.boolOp op) _ [values] => m.evaluateUntil env (op == .or) values.items
  | .node .namedExpr _ [target, value] =>
    let v ← m.evaluate env value
    m.assignTo env target v
    return v
  | .node (.binOp op) _ [left, right] =>
    let a ← m.evaluate env left
    m.operate op a (← m.evaluate env right)
  | .node (.unaryOp op) _ [operand] => do m.operateUnary op (← m.evaluate env operand)
  | .node .lambda span [args, body] => m.lambdaValue env args body span
  | .node .ifExp _ [test, body, orelse] =>
    if ← m.truth (← m.evaluate env test) then m.evaluate env body else m.evaluate env orelse
  | .node .dict _ [keys, values] =>
    allocValue (.dict (← m.evaluateEntries env (keys.items.zip values.items) []))
  | .node .set _ [elements] =>
    allocValue (.set (← m.insertAll [] (← m.evaluateAll env elements.items)) false)
  | .node (.list _) _ [elements] => do
    allocValue (.list (← m.evaluateAll env elements.items))
  | .node (.tuple _) _ [elements] => do
    allocValue (.tuple (← m.evaluateAll env elements.items))
  | .node .listComp _ [element, clauses] => m.listComprehension env element clauses
  | .node .setComp _ [element, clauses] => m.setComprehension env element clauses
  | .node .dictComp _ [key, value, clauses] => m.dictComprehension env key value clauses
  | .node .generatorExp _ [element, clauses] => m.generatorExpression env element clauses
  | .node .await _ [value] => do m.awaitValue (← m.evaluate env value)
  | .node (.compare ops) _ [left, comparators] => do
    m.evaluateCompare env (← m.evaluate env left) ops comparators.items
  | .node .joinedStr _ [pieces] => return .str (← m.evaluatePieces env pieces.items)
  | .node (.formattedValue conversion) _ [value, format] =>
    return .str (← m.evaluateFormatted env conversion value format)
  | .node .slice _ [lower, upper, step] =>
    let a ← m.evaluateOptional env lower
    let b ← m.evaluateOptional env upper
    allocValue (.slice a b (← m.evaluateOptional env step))
  | _ => typeError "not an expression"

end Machine

end ErrorTrail
