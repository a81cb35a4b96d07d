import ErrorTrail.Program.Copy
import ErrorTrail.Program.Native.Collection
import ErrorTrail.Program.Native.Text
import ErrorTrail.Report

/-!
# Making objects

What calling a class gives. An object is made first and then initialised, by `__init__` if a class
of the program has it. Locations and reports are read from plain data and refused if something is
wrong with it.
-/

namespace ErrorTrail

/-! ### Plain data -/

namespace Datum

/-- A datum as a value. -/
def toValue : Nat → Datum → Act Value
  | 0, _ => throw .exhausted
  | _, .none => return .none
  | _, .bool b => return .bool b
  | _, .int n => return .int n
  | _, .float bits => return .float bits 0
  | _, .text s => return .str s
  | _, .bytes bs => return .bytes bs
  | fuel + 1, .list ds => do Act.allocValue (.list (← ds.mapM (toValue fuel)))
  | fuel + 1, .tuple ds => do Act.allocValue (.tuple (← ds.mapM (toValue fuel)))
  | fuel + 1, .dict es => do
    Act.allocValue (.dict (← es.mapM fun (k, v) => return (← toValue fuel k, ← toValue fuel v)))
  | _, .location l => return .location l
  | _, .other => return .none

/-- A value as a datum; what is no plain data stays unknown. -/
def ofValue : Nat → Value → Act Datum
  | 0, _ => return .other
  | fuel + 1, v => do
    match v with
    | .none => return .none
    | .bool b => return .bool b
    | .int n => return .int n
    | .float bits _ => return .float bits
    | .str s => return .text s
    | .bytes bs => return .bytes bs
    | .location l => return .location l
    | .ref r =>
      match ← Act.read r with
      | .list xs => return .list (← xs.mapM (ofValue fuel))
      | .tuple xs => return .tuple (← xs.mapM (ofValue fuel))
      | .dict es =>
        return .dict (← es.mapM fun (k, v) => return (← ofValue fuel k, ← ofValue fuel v))
      | _ => return .other
    | _ => return .other

/-- How deep data may be nested. -/
def maxNesting : Nat := 200

end Datum

namespace Construct

open Act

/-- What data reads as, or an exception that tells what is wrong with it. -/
def checked {α : Type} (c : Checked α) : Act α := do
  match c with
  | .ok a => return a
  | .error issues =>
    raise (← allocValue (.exception (.kind .validationError) [] .none (.faults issues) []))

def dataOf (named : Fields) : Act Datum := do
  return .dict (← named.mapM fun (k, v) => return (.text k, ← Datum.ofValue Datum.maxNesting v))

def location (named : Fields) : Act Value := do
  return .location (← checked (readLocation (← dataOf named)))

def report (named : Fields) : Act Value := do
  allocValue (.report (← checked (readReport (← dataOf named))))

/-! ### Exceptions -/

/-- The class of an operating system error by its number. -/
def errorByNumber (n : Int) : Kind :=
  if n = 2 then .fileNotFoundError
  else if n = 1 ∨ n = 13 then .permissionError
  else if n = 17 then .fileExistsError
  else if n = 20 then .notADirectoryError
  else if n = 21 then .isADirectoryError
  else if n = 4 then .interruptedError
  else if n = 11 then .blockingIOError
  else if n = 110 then .timeoutError
  else .osError

/-- The arguments that an operating system error keeps, and its fields. -/
def systemError (args : List Value) : List Value × Fields :=
  match args with
  | [errno, words] => (args, [("errno", errno), ("strerror", words)])
  | errno :: words :: file :: rest =>
    if rest.length > 2 then (args, [])
    else
      let fields : Fields := [("errno", errno), ("strerror", words)]
      if file == .none then (args, fields)
      else
        let second := match rest[1]? with
          | some f => if f == .none then [] else [("filename2", f)]
          | none => []
        ([errno, words], fields ++ ("filename", file) :: second)
  | _ => (args, [])

/-- An exception of a built-in class. -/
def exception (c : Value) (args : List Value) : Act Value := do
  let k ← builtinBase c
  if k.isA .osError then
    let (kept, fields) := systemError args
    let c := match c, args with
      | .kind .osError, errno :: _ :: more =>
        match errno.number?, decide (more.length ≤ 3) with
        | some (.int n), true => .kind (errorByNumber n)
        | _, _ => c
      | _, _ => c
    allocValue (.exception c kept .none .plain fields)
  else allocValue (.exception c args .none .plain [])

/-- The refusal that the arguments of its exception tell. -/
def refusal (args : List Value) (named : Fields) : Act Refusal := do
  match ← Arguments.arrange ["code", "message"] args
      (named.filter fun f => f.1 == "code" || f.1 == "message") with
  | [some (.str code), some (.str message)] =>
    match Refusal.Code.ofText? code with
    | none => typeError "no such code"
    | some code =>
      let target := match named.lookup "target" with
        | some (.str t) => t
        | _ => ""
      return { code, message, target }
  | _ => typeError "missing argument"

/-- Initialises an exception of which a built-in class is `k`. -/
def initialiseException (m : Machine) (k : Kind) (r : Ref) (args : List Value) (named : Fields) :
    Act Unit := do
  match ← read r with
  | .exception c _ cause detail fields =>
    if k = .envelope then
      match ← Arguments.arrange ["inner", "locations"] args named with
      | [inner, trail] =>
        let inner := inner.getD .none
        let trail ← match trail with
          | none => pure []
          | some .none => pure []
          | some v => m.items v
        let cause := if ← isException inner then inner else cause
        write r (.exception c [] cause (.envelope inner (← alloc (.list trail))) fields)
      | _ => return
    else if k = .propagation then
      let result ← Arguments.one "result" args named
      write r (.exception c [result] cause (.signal result) fields)
    else if k = .transformError then
      let refused ← refusal args named
      write r (.exception c [.str refused.text] cause (.refusal refused) fields)
    else
      if !named.isEmpty then typeError "exceptions take no keyword arguments"
      if k.isA .osError then
        let (kept, own) := systemError args
        write r (.exception c kept cause detail (own ++ fields.filter fun f => !(own.any (·.1 == f.1))))
      else write r (.exception c args cause detail fields)
  | _ => return

/-- Initialises an object as its built-in class does. -/
def initialise (m : Machine) (v : Value) (args : List Value) (named : Fields) : Act Unit := do
  match v with
  | .ref r =>
    match ← read r with
    | .exception c _ _ _ _ => initialiseException m (← builtinBase c) r args named
    | .instanceOf _ _ => Arguments.nothing args named
    | _ => return
  | _ => return

/-! ### Numbers, texts and containers -/

/-- The whole number that a text spells. -/
def readInteger (text shown : String) (base : Nat) : Act Value := do
  match TextMethod.readInt? base text with
  | some n =>
    let digits := (text.toList.filter fun c => (Text.decimalDigit? c).isSome).length
    if base = 10 && digits > 4300 then
      fail .valueError ("Exceeds the limit (4300 digits) for integer string conversion: value has "
        ++ toString digits ++ " digits; use sys.set_int_max_str_digits() to increase the limit")
    return .int n
  | none =>
    fail .valueError ("invalid literal for int() with base " ++ toString base ++ ": " ++ shown)

def integer (m : Machine) (args : List Value) (named : Fields) : Act Value := do
  match ← Arguments.arrange ["x", "base"] args named with
  | [none, _] => return .int 0
  | [some v, base] =>
    let base ← match base with
      | some b => m.indexOf b
      | none => pure 10
    if base < 0 || base = 1 || base > 36 then
      fail .valueError "int() base must be >= 2 and <= 36, or 0"
    match v, v.number? with
    | .str s, _ => readInteger s (Text.quoted s) base.toNat
    | .bytes bs, _ =>
      let text := (String.fromUTF8? (ByteArray.mk bs.toArray)).getD "x"
      readInteger text (Text.quotedBytes bs) base.toNat
    | _, some (.int n) => return .int n
    | _, some (.float bits) =>
      match magnitude bits with
      | .nan => fail .valueError "cannot convert float NaN to integer"
      | .infinite _ => fail .overflowError "cannot convert float infinity to integer"
      | .finite d => return .int d.truncated
    | _, none =>
      match ← userMethod v "__int__" with
      | some f => m.call f [v] []
      | none => return .int (← m.indexOf v)
  | _ => return .int 0

def floating (m : Machine) (args : List Value) : Act Value := do
  match args with
  | [] => return Value.ofFloat 0.0
  | v :: _ =>
    match v, v.number? with
    | .str s, _ =>
      match TextMethod.readFloat? s with
      | some x => newFloat x
      | none => fail .valueError ("could not convert string to float: " ++ Text.quoted s)
    | _, some (.float _) => return v
    | _, some n => newFloat (← asFloat n)
    | _, none =>
      match ← userMethod v "__float__" with
      | some f => m.call f [v] []
      | none => typeError "float() argument must be a string or a real number"

/-- A range by its bounds. -/
def range (m : Machine) (args : List Value) : Act Value := do
  match ← args.mapM m.indexOf with
  | [stop] => allocValue (.range 0 stop 1)
  | [start, stop] => allocValue (.range start stop 1)
  | [start, stop, step] =>
    if step = 0 then fail .valueError "range() arg 3 must not be zero"
    allocValue (.range start stop step)
  | _ => typeError "range expected 1 to 3 arguments"

/-- The items of a call's argument, if there is one. -/
def itemsOf (m : Machine) (args : List Value) : Act (List Value) := do
  match args with
  | [] => return []
  | [v] => m.items v
  | _ => typeError "expected at most 1 argument"

/-- A path joined from parts. -/
def path (args : List Value) : Act Value := do
  let parts ← args.mapM fun v => do
    match v, ← object? v with
    | .str s, _ => return Path.ofText s
    | _, some (.path p) => return p
    | _, _ => typeError "a path is made of texts"
  let joined := parts.foldl (fun p q => if q.isAbsolute then q else ⟨p.root, p.parts ++ q.parts⟩) {}
  allocValue (.path joined)

/-- The search order of a class with these bases after itself. -/
def orderAfter (bases : List Value) : Act (List Value) := do
  match inheritedOrder bases (← bases.mapM searchOrder) with
  | some order => return order
  | none => typeError "Cannot create a consistent method resolution order (MRO)"

/-- A new class. -/
def newClass (name path : String) (bases : List Value) (fields : Fields) : Act Value := do
  for b in bases do
    if !(← isClass b) then typeError "bases must be types"
    if b == .kind .bool || b == .kind .noneType || b == .kind .function then
      typeError "type is not an acceptable base type"
  let bases := if bases.isEmpty then [.kind .object] else bases
  let order ← orderAfter bases
  let r ← alloc (.cls name path bases [] fields)
  write r (.cls name path bases (.ref r :: order) fields)
  return .ref r

/-- The class of a value, or a new class. -/
def typeOf (m : Machine) (args : List Value) : Act Value := do
  match args with
  | [v] => classOf v
  | [.str name, bases, entries] =>
    let fields := (← CollectionMethod.entriesOf m entries).filterMap fun (k, v) =>
      match k with
      | .str s => some (s, v)
      | _ => none
    newClass name name (← m.items bases) fields
  | _ => typeError "type() takes 1 or 3 arguments"

/-- What reaches the members of the classes above `start` for an object or class. -/
def superOf (start self : Value) : Act Value := do
  let fits ← if ← isClass self then
      if ← isSubclass self start then pure true else isInstance self start
    else isInstance self start
  if !fits then typeError "super(type, obj): obj must be an instance or subtype of type"
  allocValue (.superProxy start self)

/-- An object of a built-in class. -/
def builtin (m : Machine) (k : Kind) (args : List Value) (named : Fields) : Act Value := do
  match k with
  | .object => do
    Arguments.nothing args named
    allocValue (.instanceOf (.kind .object) [])
  | .type => typeOf m args
  | .bool => match args with
    | [] => return .bool false
    | v :: _ => return .bool (← m.truth v)
  | .int => integer m args named
  | .float => floating m args
  | .str => match args with
    | [] => return .str (match named.lookup "object" with | some (.str s) => s | _ => "")
    | [v] => return .str (← m.text v)
    | _ => typeError "decoding is not supported"
  | .bytes => match args with
    | [] => return .bytes []
    | .str s :: _ :: _ => return .bytes s.toUTF8.toList
    | [.str _] => typeError "string argument without an encoding"
    | [.int n] =>
      if n < 0 then fail .valueError "negative count"
      return .bytes (List.replicate n.toNat 0)
    | v :: _ => do
      let ns ← (← m.items v).mapM m.indexOf
      if ns.any fun n => n < 0 || n > 255 then fail .valueError "bytes must be in range(0, 256)"
      return .bytes (ns.map fun n => n.toNat.toUInt8)
  | .list => do allocValue (.list (← itemsOf m args))
  | .tuple => do
    match args with
    | [v] => if let some (.tuple _) ← object? v then return v
    | _ => pure ()
    allocValue (.tuple (← itemsOf m args))
  | .set => do allocValue (.set (← m.insertAll [] (← itemsOf m args)) false)
  | .frozenset => do allocValue (.set (← m.insertAll [] (← itemsOf m args)) true)
  | .dict => do allocValue (.dict (← CollectionMethod.updated m [] args named))
  | .range => range m args
  | .slice => match args with
    | [b] => allocValue (.slice .none b .none)
    | [a, b] => allocValue (.slice a b .none)
    | [a, b, c] => allocValue (.slice a b c)
    | _ => typeError "slice expected 1 to 3 arguments"
  | .property =>
    match ← Arguments.arrange ["fget", "fset", "fdel", "doc"] args named with
    | get :: set :: _ => allocValue (.property (get.getD .none) (set.getD .none))
    | _ => return .none
  | .staticMethod => do allocValue (.staticMethod (← Arguments.one "function" args named))
  | .classMethod => do allocValue (.classMethod (← Arguments.one "function" args named))
  | .superType => match args with
    | [start, self] => superOf start self
    | _ => fail .runtimeError "super(): no arguments"
  | .result =>
    match ← Arguments.arrange ["value", "is_ok"] args named with
    | [some v, some isOk] => Outcome.make (← m.truth isOk) v
    | _ => typeError "missing argument"
  | .location => do
    if !args.isEmpty then typeError "takes 1 positional argument"
    location named
  | .report => do
    if !args.isEmpty then typeError "takes 1 positional argument"
    report named
  | .errorCode => match args with
    | [.str s] =>
      if (Refusal.Code.ofText? s).isSome then return .str s
      else fail .valueError (Text.quoted s ++ " is not a valid ErrorCode")
    | _ => typeError "missing argument"
  | .path => path args
  | .capability => typeError "Protocols cannot be instantiated"
  | k =>
    if k.isException then do
      let e ← exception (.kind k) args
      if let .ref r := e then
        if let .exception (.kind made) _ _ _ _ ← read r then
          if !made.isA .osError then initialiseException m made r args named
      return e
    else typeError ("cannot create instances of " ++ k.name)

/-- An object of a class of the program, not yet initialised. -/
def bare (c : Value) (args : List Value) : Act Value := do
  let k ← builtinBase c
  if k.isException then exception c args else allocValue (.instanceOf c [])

/-- An object of a class. -/
def instantiate (m : Machine) (c : Value) (args : List Value) (named : Fields) : Act Value := do
  match c with
  | .kind k => builtin m k args named
  | _ =>
    let v ← match ← userMember c "__new__" with
      | some f => do m.call (← m.bindToClass c f) (c :: args) named
      | none => bare c args
    if !(← isInstance v c) then return v
    match ← userMember c "__init__" with
    | some f =>
      if (← m.call f (v :: args) named) != .none then typeError "__init__() should return None"
      return v
    | none =>
      if (← userMember c "__new__").isNone then initialise m v args named
      return v

end Construct

end ErrorTrail
