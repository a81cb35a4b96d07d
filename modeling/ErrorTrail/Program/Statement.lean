import ErrorTrail.Program.Expression

/-!
# Statements

Running statements in a block, and how they end it: normally, with a value that a function returns,
or by leaving or repeating a loop.
-/

namespace ErrorTrail

open Syntax

namespace Machine

open Act

variable (m : Machine)

/-! ### Loops -/

/-- What the end of a loop's body means for the loop: `none` if it goes on. -/
def afterBody : Flow → Option (Option Flow)
  | .normal => none
  | .continued => none
  | .broke => some (some .normal)
  | .returned v => some (some (.returned v))

/-- Repeats the body of a loop while there is a turn, and runs what follows a loop that was not
left. -/
def loop (env : Env) (turn : Act Bool) (body orelse : List (SyntaxTree Span)) : Act Flow := do
  let ended ← repeatUntil (do
    if ← turn then return afterBody (← m.execute env body) else return some none) m.patience
  match ended with
  | some f => return f
  | none => m.execute env orelse

def executeFor (env : Env) (asynchronous : Bool) (target iterable : SyntaxTree Span)
    (body orelse : List (SyntaxTree Span)) : Act Flow := do
  let it ← m.iteratorOf asynchronous (← m.evaluate env iterable)
  m.loop env (do
    match ← m.advanceOf asynchronous it with
    | none => return false
    | some v =>
      m.assignTo env target v
      return true) body orelse

def executeWhile (env : Env) (test : SyntaxTree Span) (body orelse : List (SyntaxTree Span)) :
    Act Flow :=
  m.loop env (do m.truth (← m.evaluate env test)) body orelse

/-! ### Exceptions -/

/-- An exception as a statement gives it: itself, or a class of exceptions. -/
def exceptionOf (v : Value) : Act Value := do
  let e ← if ← isClass v then m.call v [] [] else pure v
  if ← isException e then return e
  typeError "exceptions must derive from BaseException"

/-- Raises an exception; `cause` is what it was raised from. -/
def executeRaise (env : Env) (error cause : SyntaxTree Span) : Act Flow := do
  if error.isAbsent then
    match (← get).handling with
    | e :: _ => raise e
    | [] => fail .runtimeError "No active exception to reraise"
  let e ← m.exceptionOf (← m.evaluate env error)
  if !cause.isAbsent then
    let c ← m.evaluate env cause
    let c ← if c == .none then pure c else m.exceptionOf c
    if let .ref r := e then Machine.setOwn m r "__cause__" c
  raise e

/-- Whether a handler for a class, or for one of several, takes an exception. -/
def takes (error : Value) : Nat → Value → Act Bool
  | 0, _ => throw .exhausted
  | fuel + 1, c => do
    match ← object? c with
    | some (.tuple cs) => cs.anyM (takes error fuel)
    | _ =>
      if (← isClass c) && (← builtinBase c).isException then isInstance error c
      else typeError "catching classes that do not inherit from BaseException is not allowed"

/-- The name and body of the first handler that takes an exception. -/
def chooseHandler (env : Env) (error : Value) : List (SyntaxTree Span) →
    Act (Option (Option String × List (SyntaxTree Span)))
  | [] => return none
  | .node (.exceptHandler name) _ [type, body] :: handlers => do
    let fits ← if type.isAbsent then pure true
      else do takes error 50 (← m.evaluate env type)
    if fits then return some (name, body.items) else chooseHandler env error handlers
  | _ :: handlers => chooseHandler env error handlers

/-- Takes the name of a handled exception away. -/
def forgetHandled (env : Env) (name : Option String) : Act Unit := do
  if let some n := name then
    env.assign n .none
    env.forget n

/-- Runs the handler for an exception, or raises it again if there is none. -/
def handle (env : Env) (error : Value) (handlers : List (SyntaxTree Span)) : Act Flow :=
  whileHandling error do
    match ← m.chooseHandler env error handlers with
    | none => raise error
    | some (name, body) =>
      if let some n := name then env.assign n error
      ensuring (m.execute env body) (forgetHandled env name)

/-- Runs `body` and then a cleanup, which may end the block differently. -/
def cleaningUp (env : Env) (final : List (SyntaxTree Span)) (body : Act Flow) : Act Flow := do
  if final.isEmpty then return ← body
  let r ← observe body
  let f ← match r with
    | .ok _ => m.execute env final
    | .error (.raised e) => whileHandling e (m.execute env final)
    | .error .exhausted => throw .exhausted
  if f == .normal then Act.resume r else return f

def executeTry (env : Env) (body handlers orelse final : List (SyntaxTree Span)) : Act Flow :=
  m.cleaningUp env final do
    match ← observe (m.execute env body) with
    | .ok .normal => m.execute env orelse
    | .ok f => return f
    | .error (.raised e) => m.handle env e handlers
    | .error .exhausted => throw .exhausted

/-! ### Contexts -/

/-- A method of the class of a value that a statement needs. -/
def neededMethod (v : Value) (name : String) : Act Value := do
  match ← userMethod v name with
  | some f => return f
  | none => typeError "object does not support the context manager protocol"

/-- Enters a context: what it gives, and the method that leaves it. -/
def enterContext (manager : Value) (asynchronous : Bool) : Act (Value × Value) := do
  let enter ← neededMethod manager (if asynchronous then "__aenter__" else "__enter__")
  let exit ← neededMethod manager (if asynchronous then "__aexit__" else "__exit__")
  let v ← m.call enter [manager] []
  let v ← if asynchronous then m.awaitValue v else pure v
  return (v, exit)

/-- Leaves a context, after an exception if there is one; whether the exception is over then. -/
def leaveContext (manager exit : Value) (asynchronous : Bool) (error : Option Value) :
    Act Bool := do
  let args ← match error with
    | none => pure [.none, .none, .none]
    | some e => do pure [← classOf e, e, .none]
  let v ← m.call exit (manager :: args) []
  m.truth (← if asynchronous then m.awaitValue v else pure v)

def executeWith (env : Env) (asynchronous : Bool) (body : List (SyntaxTree Span)) :
    List (SyntaxTree Span) → Act Flow
  | [] => m.execute env body
  | .node .withItem _ [context, variable_] :: items => do
    let manager ← m.evaluate env context
    let (v, exit) ← m.enterContext manager asynchronous
    let r ← observe (do
      if !variable_.isAbsent then m.assignTo env variable_ v
      executeWith env asynchronous body items)
    match r with
    | .ok f =>
      let _ ← m.leaveContext manager exit asynchronous none
      return f
    | .error (.raised e) =>
      let settled ← whileHandling e (m.leaveContext manager exit asynchronous (some e))
      if settled then return .normal else raise e
    | .error .exhausted => throw .exhausted
  | _ :: items => executeWith env asynchronous body items

/-! ### Modules -/

/-- The module of that name. -/
def moduleOf (name : String) : Act Value := do
  match m.world.modules.lookup name with
  | some v => return v
  | none => fail .moduleNotFoundError ("No module named " ++ Text.quoted name)

/-- Brings a module in, under its name or another. -/
def importModule (env : Env) (name : String) (asname : Option String) : Act Unit := do
  let v ← m.moduleOf name
  match asname with
  | some a => env.assign a v
  | none =>
    let top := (name.splitOn ".").headD name
    env.assign top (← m.moduleOf top)

/-- Brings a name of a module in. -/
def importName (env : Env) (source : String) (name : String) (asname : Option String) :
    Act Unit := do
  let v ← m.moduleOf source
  if name = "*" then
    for (n, x) in ← ownFields v do
      if !n.startsWith "_" then env.assign n x
  else
    match ← m.member? v name with
    | some x => env.assign (asname.getD name) x
    | none =>
      match m.world.modules.lookup (source ++ "." ++ name) with
      | some x => env.assign (asname.getD name) x
      | none => fail .importError ("cannot import name " ++ Text.quoted name)

/-! ### Annotations -/

/-- Keeps the annotation of a variable of a file or class. -/
def keepAnnotation (env : Env) (name : String) (v : Value) : Act Unit := do
  let space := env.space.getD env.globals
  let held := (← Env.namesIn space).lookup "__annotations__"
  match held with
  | some d => m.setItem d (.str (env.spell name)) v
  | none => do
    Env.put space "__annotations__" (← allocValue (.dict [(.str (env.spell name), v)]))

def executeAnnotated (env : Env) (simple : Bool) (target type value : SyntaxTree Span) :
    Act Flow := do
  if !value.isAbsent then m.assignTo env target (← m.evaluate env value)
  match env.site.block, target.form, simple with
  | .function, _, _ => return .normal
  | _, .name id _, true =>
    m.keepAnnotation env id (← m.annotationValue env type)
    return .normal
  | _, _, _ =>
    if env.site.eager then
      let _ ← m.evaluate env type
    return .normal

/-! ### All statements -/

/-- Runs a class definition. -/
def executeClass (env : Env) (name : String) (bases keywords body decorators : SyntaxTree Span) :
    Act Flow := do
  let wrappers ← decorators.items.mapM (m.evaluate env)
  let above ← m.evaluateAll env bases.items
  let named ← m.evaluateKeywords env keywords.items []
  let c ← m.makeClass env name above named body
  env.assign name (← m.decorated wrappers c)
  return .normal

/-- Runs a statement. -/
def executeStatement (env : Env) (t : SyntaxTree Span) : Act Flow := do
  match t with
  | .node .exprStmt _ [value] =>
    let _ ← m.evaluate env value
    return .normal
  | .node .assign _ [targets, value] =>
    let v ← m.evaluate env value
    targets.items.forM fun target => m.assignTo env target v
    return .normal
  | .node .returnStmt _ [value] => return .returned (← m.evaluateOptional env value)
  | .node .ifStmt _ [test, body, orelse] =>
    if ← m.truth (← m.evaluate env test) then m.execute env body.items
    else m.execute env orelse.items
  | .node (.functionDef asynchronous name) span [args, body, decorators, returns] =>
    m.defineFunction env name args body decorators.items returns asynchronous span
    return .normal
  | .node (.classDef name) _ [bases, keywords, body, decorators] =>
    m.executeClass env name bases keywords body decorators
  | .node (.augAssign op) _ [target, value] =>
    m.changeTarget env target fun old => do m.operateInPlace op old (← m.evaluate env value)
    return .normal
  | .node (.annAssign simple) _ [target, type, value] =>
    m.executeAnnotated env (simple ≠ 0) target type value
  | .node .deleteStmt _ [targets] =>
    m.deleteEach env targets.items
    return .normal
  | .node (.forStmt asynchronous) _ [target, iterable, body, orelse] =>
    m.executeFor env asynchronous target iterable body.items orelse.items
  | .node .whileStmt _ [test, body, orelse] => m.executeWhile env test body.items orelse.items
  | .node (.withStmt asynchronous) _ [items, body] =>
    m.executeWith env asynchronous body.items items.items
  | .node .matchStmt _ [subject, cases] =>
    match ← m.chooseCase env (← m.evaluate env subject) cases.items with
    | some body => m.execute env body
    | none => return .normal
  | .node .raiseStmt _ [error, cause] => m.executeRaise env error cause
  | .node (.tryStmt _) _ [body, handlers, orelse, final] =>
    m.executeTry env body.items handlers.items orelse.items final.items
  | .node .assertStmt _ [test, message] =>
    if !(← m.truth (← m.evaluate env test)) then
      let args ← if message.isAbsent then pure [] else do pure [← m.evaluate env message]
      raise (← newException .assertionError args)
    return .normal
  | .node .importStmt _ [names] =>
    for n in names.items do
      if let .node (.alias name asname) _ _ := n then m.importModule env name asname
    return .normal
  | .node (.importFrom source level) _ [names] =>
    if (level.getD 0) > 0 then
      fail .importError "attempted relative import with no known parent package"
    for n in names.items do
      if let .node (.alias name asname) _ _ := n then
        m.importName env (source.getD "") name asname
    return .normal
  | .node .breakStmt _ _ => return .broke
  | .node .continueStmt _ _ => return .continued
  | _ => return .normal

/-- Runs statements until one of them ends the block. -/
def executeAll (env : Env) : List (SyntaxTree Span) → Act Flow
  | [] => return .normal
  | t :: ts => do
    match ← m.executeStatement env t with
    | .normal => executeAll env ts
    | f => return f

end Machine

end ErrorTrail
