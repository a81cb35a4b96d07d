import ErrorTrail.Program.Construct

/-!
# Functions and methods of the library

The functions of the library as programs call them: results and their methods, envelopes, locations,
reports and boundaries.
-/

namespace ErrorTrail

namespace LibraryFunction

open Act

/-- A function of a program as a function on values. -/
def apply (m : Machine) (f v : Value) : Act Value := m.call f [v] []

/-! ### Results -/

/-- Calls a method of a result. -/
def callResult (m : Machine) (method : String) (r : Value) (args : List Value) (named : Fields) :
    Act Value := do
  let withFunction (op : (Value → Act Value) → Value → Act Value) : Act Value := do
    op (apply m (← Arguments.one "f" args named)) r
  let plain (op : Value → Act Value) : Act Value := do
    Arguments.nothing args named
    op r
  match method with
  | "is_ok" => plain fun r => return .bool (← Outcome.isOk r)
  | "is_err" => plain fun r => return .bool (← Outcome.isErr r)
  | "__bool__" => plain fun r => return .bool (← Outcome.isOk r)
  | "unwrap" => plain (Outcome.unwrap m.text)
  | "unwrap_err" => plain (Outcome.unwrapErr m.text)
  | "unwrap_or" => do Outcome.unwrapOr (← Arguments.one "default" args named) r
  | "unwrap_or_else" => withFunction Outcome.unwrapOrElse
  | "expect" => do
    let words ← Arguments.one "msg" args named
    if ← Outcome.isOk r then Outcome.ok r
    else Outcome.expect m.text (← m.text words) r
  | "propagate" => plain Outcome.propagate
  | "map" => withFunction Outcome.map
  | "map_err" => withFunction Outcome.mapErr
  | "flat_map" => withFunction Outcome.flatMap
  | "or_else" => withFunction Outcome.orElse
  | "ok" => plain Outcome.ok
  | "err" => plain Outcome.err
  | "match" =>
    if !args.isEmpty then typeError "match() takes no positional arguments"
    match ← Arguments.arrange ["ok", "err"] [] named with
    | [some onOk, some onErr] => Outcome.cases (apply m onOk) (apply m onErr) r
    | _ => typeError "missing argument"
  | _ => fail .attributeError method

/-- Applies a function to the results of an iterable. -/
def overItems (m : Machine) (source : Value) (take : Act (Option Value) → Nat → Act Value) :
    Act Value := do
  let it ← m.iterator source
  take (m.advance it) m.patience

/-! ### Envelopes -/

/-- A location as the arguments of a call give it. -/
def siteOf (m : Machine) (file line : Value) : Act Location := do
  return ⟨← m.text file, ← m.indexOf line⟩

/-- Whether a value is an instance of a class, of one of several, or capable. -/
def instanceIn (m : Machine) (v : Value) : Nat → Value → Act Bool
  | 0, _ => throw .exhausted
  | fuel + 1, c => do
    if c == .kind .capability then
      if ← isKind v .envelope then return true
      return ← Envelope.isCapable m v
    if ← isClass c then return ← isInstance v c
    match ← object? c with
    | some (.tuple cs) => cs.anyM (instanceIn m v fuel)
    | _ => typeError "isinstance() arg 2 must be a type, a tuple of types, or a union"

/-- Calls a method of an envelope, `self` being the class for `new`. -/
def callEnvelope (m : Machine) (method : String) (self : Value) (args : List Value)
    (named : Fields) : Act Value := do
  match method with
  | "push_location" => do
    let (file, line) ← Arguments.two "file" "line" args named
    Envelope.push self (← siteOf m file line)
    return .none
  | "new" =>
    match ← Arguments.arrange ["err", "file", "line"] args named with
    | [some e, some file, some line] =>
      let trail ← newTrail [← siteOf m file line]
      m.call self [e, .ref trail] []
    | _ => typeError "missing argument"
  | "downcast" => do
    let c ← Arguments.one "kind" args named
    let inner ← m.getMember self "inner"
    return if ← instanceIn m inner 50 c then inner else .none
  | "is_" => do
    let c ← Arguments.one "kind" args named
    return .bool (← instanceIn m (← m.getMember self "inner") 50 c)
  | "take_inner" => do
    Arguments.nothing args named
    Envelope.takeInner self
  | "stack" => do
    Arguments.nothing args named
    return .str (← Envelope.stack m.text self)
  | "report" => do
    Arguments.nothing args named
    allocValue (.report (← Envelope.report m.text self))
  | "__reduce__" => do
    let (inner, trail) ← Envelope.view self
    allocValue (.tuple [← classOf self, ← allocValue (.tuple [inner, .ref trail])])
  | _ => fail .attributeError method

/-- Calls a method of an error object of another library. -/
def callForeign (m : Machine) (method : String) (r : Ref) (f : Foreign) (args : List Value)
    (named : Fields) : Act Value := do
  match method with
  | "push_location" => do
    let (file, line) ← Arguments.two "file" "line" args named
    let site ← siteOf m file line
    write r (.foreign { f with pushed := f.pushed ++ [site] })
    return .none
  | "take_inner" => do
    write r (.foreign { f with inner := .none })
    return f.inner
  | "stack" => return .str ""
  | _ => fail .attributeError method

/-! ### Locations, reports, paths and refusals -/

def callLocation (method : String) (self : Value) (args : List Value) (named : Fields) :
    Act Value := do
  match method, self with
  | "model_dump", .location l => l.dump.toValue Datum.maxNesting
  | "model_dump_json", .location l => return .str l.dump.json
  | "model_copy", .location _ => return self
  | "model_construct", _ =>
    match ← Arguments.arrange ["file", "line"] [] named with
    | [some (.str file), some (.int line)] => return .location ⟨file, line⟩
    | _ => typeError "missing argument"
  | "model_validate", _ => do
    let d ← Datum.ofValue Datum.maxNesting (← Arguments.one "obj" args named)
    return .location (← Construct.checked (readLocation d))
  | _, _ => fail .attributeError method

def callReport (method : String) (self : Value) (args : List Value) (named : Fields) :
    Act Value := do
  match method, ← object? self with
  | "format", some (.report r) => return .str r.text
  | "model_dump", some (.report r) => r.dump.toValue Datum.maxNesting
  | "model_dump_json", some (.report r) => return .str r.json
  | "model_copy", some (.report r) => allocValue (.report r)
  | "model_validate", _ => do
    let v ← Arguments.one "obj" args named
    if let some (.report _) ← object? v then return v
    allocValue (.report (← Construct.checked (readReport (← Datum.ofValue Datum.maxNesting v))))
  | "model_construct", _ => do
    match ← Construct.dataOf named with
    | .dict es =>
      let text (name : String) : String := match Datum.field? es name with
        | some (.text s) => s
        | _ => ""
      let trail := match Datum.field? es "locations" with
        | some d => (readLocations d).toOption.getD []
        | none => []
      allocValue (.report ⟨text "message", text "error_type", trail⟩)
    | _ => return .none
  | _, _ => fail .attributeError method

def callPath (method : String) (p : Path) (args : List Value) : Act Value := do
  match method, args with
  | "as_posix", _ => return .str p.text
  | "joinpath", args => do
    let first ← allocValue (.path p)
    Construct.path (first :: args)
  | "is_absolute", _ => return .bool p.isAbsolute
  | "with_name", [.str s] => allocValue (.path ⟨p.root, p.parts.dropLast ++ [s]⟩)
  | "with_suffix", [.str s] =>
    let stem := match (p.name.splitOn ".").reverse with
      | _ :: rest@(_ :: _) => ".".intercalate rest.reverse
      | _ => p.name
    allocValue (.path ⟨p.root, p.parts.dropLast ++ [stem ++ s]⟩)
  | _, _ => fail .attributeError method

/-- Calls a class method of refusals. -/
def callRefusal (m : Machine) (method : String) (c : Value) (args : List Value) (named : Fields) :
    Act Value := do
  match method, args with
  | "create", _ => m.call c args named
  | "from_exc", code :: error :: _ => do
    let message := (← kindName error) ++ ": " ++ (← m.text error)
    m.call c [code, .str message] named
  | _, _ => typeError "missing argument"

/-! ### Boundaries -/

/-- The members of a function that a wrapper of it takes over. -/
def wrappedMembers : List String :=
  ["__module__", "__name__", "__qualname__", "__doc__", "__annotations__"]

/-- Makes a wrapper look like the function that it wraps. -/
def updateWrapper (m : Machine) (wrapper wrapped : Value) : Act Value := do
  for name in wrappedMembers do
    if let some v ← m.member? wrapped name then m.setMember wrapper name v
  for (name, v) in (← ownFields wrapped).filter fun f => !functionOwn.contains f.1 do
    m.setMember wrapper name v
  m.setMember wrapper "__wrapped__" wrapped
  return wrapper

/-- Whether calling a value gives a coroutine. -/
def isAsynchronous (v : Value) : Act Bool := do
  let f := match v with
    | .bound f _ => f
    | v => v
  let f ← match ← object? f with
    | some (.applied g _ _) => pure g
    | _ => pure f
  match ← object? f with
  | some (.function g) =>
    match g.body with
    | .tree _ _ _ _ _ asynchronous generator => return asynchronous && !generator
    | .boundary _ asynchronous => return asynchronous
  | _ => return false

/-- The boundary around a function. -/
def earlyReturn (m : Machine) (f : Value) : Act Value := do
  let asynchronous ← isAsynchronous f
  let name := if asynchronous then "async_boundary" else "boundary"
  let wrapper ← allocValue (.function {
    name, path := "early_return.<locals>." ++ name, body := .boundary f asynchronous
    fields := [("__module__", .str "wherr.core.decorator"), ("__doc__", .none)] })
  updateWrapper m wrapper f

/-- The mark of instrumented functions. -/
def marker : String := "__wherr__"

/-- Whether a value is an instrumented function. -/
def isInstrumented (m : Machine) (f : Value) : Act Bool := do
  match ← m.member? f marker with
  | some v => m.truth v
  | none => return false

/-- Calls a function of the library, those that need a function's text left aside. -/
def call (m : Machine) (name : String) (args : List Value) (named : Fields) : Act Value := do
  match name with
  | "Ok" => do Outcome.success (← Arguments.one "value" args named)
  | "Err" => do Outcome.failure (← Arguments.one "error" args named)
  | "early_return" => do earlyReturn m (← Arguments.one "func" args named)
  | "wherrapper" =>
    match ← Arguments.arrange ["result", "file", "line"] args named with
    | [some r, some file, some line] => Envelope.addSite m r (← siteOf m file line)
    | _ => typeError "missing argument"
  | "sequence" => do overItems m (← Arguments.one "results" args named) Outcome.sequence
  | "traverse" => do
    let (items, f) ← Arguments.two "items" "f" args named
    overItems m items (Outcome.traverse (apply m f))
  | "collect_results" => do overItems m (← Arguments.one "results" args named) Outcome.collect
  | "is_instrumented" => return .bool (← isInstrumented m (← Arguments.one "func" args named))
  | _ => fail .nameError name

end LibraryFunction

end ErrorTrail
