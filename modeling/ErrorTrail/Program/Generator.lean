import ErrorTrail.Program.Statement

/-!
# Generators

A generator runs its statements one after the other and stops at each `yield`. What is left to do
is a stack of pending parts, innermost first: the statements after the one it stopped at, the loops
they stand in, the handlers and cleanups of `try`, the contexts to leave.

`turn` does the next part and tells with which signal the parts around it go on; `runGenerator`
repeats turns until the generator stops or ends.
-/

namespace ErrorTrail

open Syntax

/-! ### Expressions with `yield` -/

/-- Whether an expression or statement yields. -/
def yieldsIn (t : SyntaxTree Span) : Bool := generates true t

def isYield : Form → Bool
  | .yield => true
  | .yieldFrom => true
  | _ => false

/-- The forms whose parts run on their own. -/
def isSeparate : Form → Bool
  | .lambda => true
  | .listComp => true
  | .setComp => true
  | .dictComp => true
  | .generatorExp => true
  | .functionDef _ _ => true
  | .classDef _ => true
  | _ => false

mutual
/-- The first expression that yields, innermost first, and the tree with a name in its place. -/
def takeYield (name : String) : SyntaxTree Span → Option (SyntaxTree Span × SyntaxTree Span)
  | .node form span cs =>
    if isSeparate form then none
    else match takeFirstYield name cs with
      | some (t, cs') => some (t, .node form span cs')
      | none =>
        if isYield form then some (.node form span cs, .node (.name name .load) span []) else none

def takeFirstYield (name : String) :
    List (SyntaxTree Span) → Option (SyntaxTree Span × List (SyntaxTree Span))
  | [] => none
  | t :: ts =>
    match takeYield name t with
    | some (y, t') => some (y, t' :: ts)
    | none => (takeFirstYield name ts).map fun (y, ts') => (y, t :: ts')
end

/-- Takes the first yielding expression out of what a statement evaluates before anything else. -/
def Syntax.SyntaxTree.takeHead (name : String) (t : SyntaxTree Span) :
    Option (SyntaxTree Span × SyntaxTree Span) :=
  let only (i : Nat) (cs : List (SyntaxTree Span)) :
      Option (SyntaxTree Span × SyntaxTree Span) := do
    let part ← cs[i]?
    let (y, part') ← takeYield name part
    some (y, .node t.form t.ann (cs.set i part'))
  match t with
  | .node .ifStmt _ cs => only 0 cs
  | .node .matchStmt _ cs => only 0 cs
  | .node (.withStmt _) _ cs => only 0 cs
  | .node (.forStmt _) _ cs => only 1 cs
  | .node .whileStmt _ _ => none
  | .node (.tryStmt _) _ _ => none
  | .node (.annAssign _) _ cs => (only 2 cs).or (only 0 cs)
  | t => takeYield name t

namespace Machine

open Act

variable (m : Machine)

/-- What comes after a turn: another turn with a signal, or a value that the generator gives. -/
inductive Turn where
  | next (signal : Signal) (env : Env) (pending : List Pending)
  | pause (v : Value) (env : Env) (pending : List Pending)

/-- A name that no name of the program is. -/
def hiddenName : Act String := return "." ++ toString (← get).objects.size

/-- The block with one more variable. -/
def widened (env : Env) (name : String) : Act Env := do
  let r ← alloc (.cell none)
  return { env with cells := (name, r) :: env.cells, own := name :: env.own }

/-- Starts an expression that yields; what is sent goes to `rest`. -/
def startYield (env : Env) (t : SyntaxTree Span) (rest : List Pending) : Act Turn := do
  match t with
  | .node .yield _ [value] => return .pause (← m.evaluateOptional env value) env rest
  | .node .yieldFrom _ [value] =>
    let it ← m.iterator (← m.evaluate env value)
    return .next .go env (.delegate it :: rest)
  | _ => return .next .go env rest

/-- Starts a statement that yields. -/
def startStatement (env : Env) (t : SyntaxTree Span) (rest : List Pending) : Act Turn := do
  match t with
  | .node .exprStmt _ [value] =>
    if isYield value.form && !value.children.any yieldsIn then
      return ← m.startYield env value rest
  | .node .assign _ [targets, value] =>
    if isYield value.form && !value.children.any yieldsIn then
      return ← m.startYield env value (.store targets.items :: rest)
  | .node .returnStmt _ [value] =>
    if isYield value.form && !value.children.any yieldsIn then
      return ← m.startYield env value (.give :: rest)
  | _ => pure ()
  let name ← hiddenName
  if let some (y, t') := t.takeHead name then
    let target : SyntaxTree Span := .node (.name name .store) {} []
    return ← m.startYield (← widened env name) y (.store [target] :: .statements [t'] :: rest)
  match t with
  | .node .ifStmt _ [test, body, orelse] =>
    let holds ← m.truth (← m.evaluate env test)
    return .next .go env (.statements (if holds then body.items else orelse.items) :: rest)
  | .node .whileStmt _ [test, body, orelse] =>
    return .next .go env (.again test body.items orelse.items :: rest)
  | .node (.forStmt asynchronous) _ [target, iterable, body, orelse] =>
    let it ← m.iteratorOf asynchronous (← m.evaluate env iterable)
    return .next .go env (.loop it asynchronous target body.items orelse.items :: rest)
  | .node (.tryStmt _) _ [body, handlers, orelse, final] =>
    return .next .go env
      (.statements body.items :: .attempt handlers.items orelse.items final.items :: rest)
  | .node (.withStmt asynchronous) span [items, body] =>
    match items.items with
    | .node .withItem _ [context, variable_] :: others =>
      let manager ← m.evaluate env context
      let (v, exit) ← m.enterContext manager asynchronous
      let inside : List (SyntaxTree Span) := if others.isEmpty then body.items else
        [.node (.withStmt asynchronous) span [.node .sequence {} others, body]]
      let leave : Pending := .leave exit manager asynchronous
      match ← observe (if variable_.isAbsent then return else m.assignTo env variable_ v) with
      | .ok _ => return .next .go env (.statements inside :: leave :: rest)
      | .error (.raised e) => return .next (.failed e) env (leave :: rest)
      | .error .exhausted => throw .exhausted
    | _ => return .next .go env (.statements body.items :: rest)
  | .node .matchStmt _ [subject, cases] =>
    match ← m.chooseCase env (← m.evaluate env subject) cases.items with
    | some body => return .next .go env (.statements body :: rest)
    | none => return .next .go env rest
  | _ =>
    match ← m.execute env [t] with
    | .normal => return .next .go env rest
    | f => return .next (.left f) env rest

/-- The signal that a part gets which asked for no value. -/
def plainSignal : Signal → Signal
  | .sent _ => .go
  | s => s

/-- Looks for the handler of an exception. -/
def startHandler (env : Env) (error : Value) (handlers final : List (SyntaxTree Span))
    (rest : List Pending) : Act Turn := do
  let after : List Pending := .cleanup final :: rest
  let before := (← get).handling
  let r ← observe (whileHandling error (m.chooseHandler env error handlers))
  modify fun s => { s with handling := before }
  match r with
  | .ok none => return .next (.failed error) env after
  | .ok (some (name, body)) =>
    if let some n := name then env.assign n error
    return .next .go env (.statements body :: .handled name error :: after)
  | .error (.raised e) => return .next (.failed e) env after
  | .error .exhausted => throw .exhausted

/-- Does the next pending part on a signal. -/
def turn (env : Env) (signal : Signal) (part : Pending) (rest : List Pending) : Act Turn := do
  match part, signal with
  | .store targets, .sent v =>
    targets.forM fun t => m.assignTo env t v
    return .next .go env rest
  | .give, .sent v => return .next (.left (.returned v)) env rest
  | .delegate it, signal =>
    let impulse : Impulse := match signal with
      | .sent v => .send v
      | .failed e => .raise e
      | _ => .send .none
    match ← m.resume it impulse with
    | .item v => return .pause v env (.delegate it :: rest)
    | .done v => return .next (.sent v) env rest
  | part, signal =>
    match part, plainSignal signal with
    | .statements (t :: ts), .go =>
      let after : List Pending := if ts.isEmpty then rest else .statements ts :: rest
      if yieldsIn t then m.startStatement env t after
      else match ← m.execute env [t] with
        | .normal => return .next .go env after
        | f => return .next (.left f) env after
    | .loop _ _ _ _ _, .left .broke => return .next .go env rest
    | .again _ _ _, .left .broke => return .next .go env rest
    | .loop it asynchronous target body orelse, .left .continued =>
      return .next .go env (.loop it asynchronous target body orelse :: rest)
    | .again test body orelse, .left .continued =>
      return .next .go env (.again test body orelse :: rest)
    | .loop it asynchronous target body orelse, .go =>
      match ← m.advanceOf asynchronous it with
      | none => return .next .go env (.statements orelse :: rest)
      | some v =>
        m.assignTo env target v
        return .next .go env (.statements body :: .loop it asynchronous target body orelse :: rest)
    | .again test body orelse, .go =>
      if ← m.truth (← m.evaluate env test) then
        return .next .go env (.statements body :: .again test body orelse :: rest)
      else return .next .go env (.statements orelse :: rest)
    | .attempt _ orelse final, .go =>
      return .next .go env (.statements orelse :: .cleanup final :: rest)
    | .attempt handlers _ final, .failed e => m.startHandler env e handlers final rest
    | .attempt _ _ final, s => return .next s env (.cleanup final :: rest)
    | .cleanup final, s =>
      if final.isEmpty then return .next s env rest
      return .next .go env (.statements final :: .resume s :: rest)
    | .resume s, .go => return .next s env rest
    | .handled name _, s =>
      forgetHandled env name
      return .next s env rest
    | .leave exit manager asynchronous, .failed e =>
      let settled ← whileHandling e (m.leaveContext manager exit asynchronous (some e))
      return .next (if settled then .go else .failed e) env rest
    | .leave exit manager asynchronous, s =>
      let _ ← m.leaveContext manager exit asynchronous none
      return .next s env rest
    | _, s => return .next s env rest

/-- The exceptions that pending parts are handling. -/
def handlingOf (pending : List Pending) : List Value :=
  pending.filterMap fun p => match p with
    | .handled _ e => some e
    | .resume (.failed e) => some e
    | _ => Option.none

/-- How a run of a generator ends. -/
inductive Run where
  | paused (v : Value) (env : Env) (pending : List Pending)
  | ended (v : Value)
  | failed (error : Value)

/-- Does pending parts until the generator gives a value or ends. -/
def runGenerator (signal : Signal) (env : Env) (pending : List Pending) : Act Run := do
  let outside := (← get).handling
  iterate (fun (signal, env, pending) => do
    match pending with
    | [] =>
      modify fun s => { s with handling := outside }
      return .inr (match signal with
        | .left (.returned v) => .ended v
        | .failed e => .failed e
        | _ => .ended .none)
    | part :: rest =>
      modify fun s => { s with handling := handlingOf pending ++ outside }
      let r ← observe (m.turn env signal part rest)
      modify fun s => { s with handling := outside }
      match r with
      | .ok (.next signal env pending) => return .inl (signal, env, pending)
      | .ok (.pause v env pending) => return .inr (.paused v env pending)
      | .error (.raised e) => return .inl (.failed e, env, rest)
      | .error .exhausted => throw .exhausted) m.patience (signal, env, pending)

/-- The next step of a generator. -/
def stepGenerator (r : Ref) (progress : Progress) (asynchronous : Bool) (env : Env)
    (pending : List Pending) (impulse : Impulse) : Act Step := do
  let finish : Act Unit := write r (.generator .finished asynchronous env [])
  match progress, impulse with
  | .running, _ => fail .valueError "generator already executing"
  | .finished, .send _ => return .done .none
  | .finished, .raise e => raise e
  | .fresh, .raise e =>
    finish
    raise e
  | progress, impulse =>
    let signal : Signal := match progress, impulse with
      | .fresh, _ => .go
      | _, .send v => .sent v
      | _, .raise e => .failed e
    write r (.generator .running asynchronous env pending)
    match ← observe (deeper (m.runGenerator signal env pending)) with
    | .ok (.paused v env pending) =>
      write r (.generator .suspended asynchronous env pending)
      return .item v
    | .ok (.ended v) =>
      finish
      return .done v
    | .ok (.failed e) =>
      finish
      failGenerator asynchronous e
    | .error stop =>
      finish
      throw stop

/-- The next step of an iterator. -/
def step (it : Value) (impulse : Impulse) : Act Step := do
  match it, ← object? it, impulse with
  | .ref r, some (.generator progress asynchronous env pending), _ =>
    m.stepGenerator r progress asynchronous env pending impulse
  | _, _, .send _ => m.stepIterator it
  | _, _, .raise e => raise e

end Machine

end ErrorTrail
