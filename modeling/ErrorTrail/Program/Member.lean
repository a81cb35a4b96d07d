import ErrorTrail.Program.Display
import ErrorTrail.Program.Vocabulary

/-!
# Members

How the members of a value are found, set and taken away.

The classes of the value are searched in order. A property there comes first, then a field of the
object itself, then what else the classes have: a function becomes bound to the object, a class
method to its class. A class that has `__getattr__` answers for members that are nowhere.
-/

namespace ErrorTrail

/-- Fields after one is set. -/
def Fields.put (fs : Fields) (name : String) (v : Value) : Fields :=
  if fs.any (·.1 == name) then fs.map fun f => if f.1 == name then (name, v) else f
  else fs ++ [(name, v)]

def Fields.erase (fs : Fields) (name : String) : Fields := fs.filter fun f => f.1 != name

/-- The fields of a function that are not entries of its own dictionary. -/
def functionOwn : List String := ["__module__", "__doc__", "__annotations__"]

/-- What the classes of a value have under a name. -/
inductive Found where
  /-- a field of a class of the program -/
  | field (v : Value)
  | method (k : Kind)
  | classMethod (k : Kind)
  | property (k : Kind)
  deriving Repr, Inhabited

namespace Act

/-- Searches classes for a name. -/
def findIn (name : String) : List Value → Act (Option Found)
  | [] => return none
  | .kind k :: rest =>
    if k.properties.contains name then return some (.property k)
    else if k.methods.contains name then return some (.method k)
    else if k.classMethods.contains name then return some (.classMethod k)
    else findIn name rest
  | .ref r :: rest => do
    match ← read r with
    | .cls _ _ _ _ fields =>
      match fields.lookup name with
      | some v => return some (.field v)
      | none => findIn name rest
    | _ => findIn name rest
  | _ :: rest => findIn name rest

/-- The fields of an object itself. -/
def ownFields (v : Value) : Act Fields := do
  match ← object? v with
  | some (.instanceOf _ fs) => return fs
  | some (.exception _ _ _ (.envelope inner trail) fs) =>
    return ("inner", inner) :: ("_locations", .ref trail) :: fs
  | some (.exception _ _ _ _ fs) => return fs
  | some (.function f) => return f.fields
  | some (.module _ fs) => return fs
  | _ => return []

/-- Fields as a dictionary. -/
def dictOf (fs : Fields) : Act Value := allocValue (.dict (fs.map fun f => (.str f.1, f.2)))

/-- A list of locations as an object. -/
def newTrail (trail : List Location) : Act Ref := alloc (.list (trail.map .location))

/-- A member of an error object of another library. -/
def foreignMember (v : Value) (f : Foreign) (name : String) : Act (Option Value) := do
  if f.missing.contains name then return none
  if f.blocked.contains name then return some .none
  match name with
  | "inner" => return some f.inner
  | "locations" => return some (.ref (← newTrail f.pushed))
  | "push_location" => return some (.bound (.native "Foreign.push_location") v)
  | "take_inner" => return some (.bound (.native "Foreign.take_inner") v)
  | "stack" => return some (.bound (.native "Foreign.stack") v)
  | _ => return none

end Act

namespace Machine

open Act

variable (m : Machine)

/-- The last part of a dotted name. -/
def lastPart (name : String) : String := (name.splitOn ".").getLast?.getD name

/-- A property of an object of a built-in class. -/
def objectProperty (name : String) : Obj → Act (Option Value)
  | .exception c args cause detail fields => do
    match name, detail with
    | "args", _ => return some (← allocValue (.tuple args))
    | "__cause__", _ => return some cause
    | "result", .signal outcome => return some outcome
    | "locations", .envelope _ trail => return some (.ref trail)
    | "origin", .envelope _ trail => return some ((← listItems trail).head?.getD .none)
    | "code", .refusal r => return some (.str r.code.text)
    | "message", .refusal r => return some (.str r.message)
    | "target", .refusal r => return some (.str r.target)
    | "node", .refusal _ => return some .none
    | "value", _ => return some (args.head?.getD .none)
    | "code", _ => return some (args.head?.getD .none)
    | _, _ =>
      if name.startsWith "__" then return some .none
      if (← builtinBase c).isA .osError then return some ((fields.lookup name).getD .none)
      return none
  | .result isOk payload =>
    return some (if name = "_value" then payload else .bool isOk)
  | .report p => do
    match name with
    | "message" => return some (.str p.message)
    | "error_type" => return some (.str p.errorType)
    | "locations" => return some (← allocValue (.tuple (p.locations.map .location)))
    | "depth" => return some (.int p.depth)
    | _ => return some (p.origin.elim .none .str)
  | .path p => do
    match name with
    | "name" => return some (.str p.name)
    | "parent" =>
      return some (← allocValue (.path { p with parts := p.parts.dropLast }))
    | "parts" =>
      let names := (if p.root.isEmpty then [] else [p.root]) ++ p.parts
      return some (← allocValue (.tuple (names.map .str)))
    | "suffix" => return some (.str (pathSuffix p.name))
    | _ => return some (.str (p.name.dropEnd (pathSuffix p.name).length).copy)
  | .function f => do
    match name with
    | "__name__" => return some (.str f.name)
    | "__qualname__" => return some (.str f.path)
    | "__defaults__" =>
      if f.defaults.isEmpty then return some .none
      return some (← allocValue (.tuple f.defaults))
    | "__kwdefaults__" =>
      if f.keywordDefaults.isEmpty then return some .none
      return some (← dictOf f.keywordDefaults)
    | "__dict__" =>
      return some (← dictOf (f.fields.filter fun e => !functionOwn.contains e.1))
    | _ => return some (.ref f.globals)
  | .range a b c =>
    return some (.int (if name = "start" then a else if name = "stop" then b else c))
  | .slice a b c =>
    return some (if name = "start" then a else if name = "stop" then b else c)
  | .property get set => return some (if name = "fget" then get else set)
  | .staticMethod f => return some f
  | .classMethod f => return some f
  | .module title _ => return some (.str title)
  | .cell content => return content
  | _ => return none
where
  pathSuffix (name : String) : String :=
    match (name.splitOn ".").getLast? with
    | some last =>
      if name.length > last.length + 1 && !last.isEmpty then "." ++ last else ""
    | none => ""

/-- A property of a value. -/
def nativeProperty (v : Value) (name : String) : Act (Option Value) := do
  if name = "__class__" then return some (← classOf v)
  match v with
  | .location l => return some (if name = "file" then .str l.file else .int l.line)
  | .int n =>
    return some (.int (if name = "imag" then 0 else if name = "denominator" then 1 else n))
  | .bool b =>
    return some (.int (if name = "imag" then 0 else if name = "denominator" then 1
      else if b then 1 else 0))
  | .float _ _ => return some (if name = "imag" then Value.ofFloat 0.0 else v)
  | .native f =>
    match name with
    | "__name__" => return some (.str (lastPart f))
    | "__qualname__" => return some (.str f)
    | "__dict__" => return some (← dictOf [])
    | _ => return some .none
  | .bound f self =>
    match name, f with
    | "__self__", _ => return some self
    | "__func__", _ => return some f
    | "__name__", .native g => return some (.str (lastPart g))
    | "__qualname__", .native g => return some (.str g)
    | _, _ => return some .none
  | .ref r => objectProperty name (← read r)
  | _ => return none

/-- What becomes of a field of a class when an instance `self` of the class `c` is asked for it. -/
def bindTo (self c : Value) (v : Value) : Act Value := do
  match v with
  | .ref r =>
    match ← read r with
    | .function _ => return .bound v self
    | .classMethod f => return .bound f c
    | .staticMethod f => return f
    | .property get _ => m.call get [self] []
    | .instanceOf _ _ =>
      match ← userMethod v "__get__" with
      | some f => m.call f [v, self, c] []
      | none => return v
    | _ => return v
  | .native f => return if f.contains '.' then .bound v self else v
  | _ => return v

/-- A method of a built-in class, by the name under which it is called. -/
def nativeMethod (k : Kind) (name : String) : Value := .native (k.name ++ "." ++ name)

def isProperty (v : Value) : Act Bool := do
  match ← object? v with
  | some (.property _ _) => return true
  | _ => return false

/-- A member of an object that is no class. -/
def instanceMember (v : Value) (name : String) : Act (Option Value) := do
  let c ← classOf v
  let found ← findIn name (← searchOrder c)
  match found with
  | some (.property _) => if let some x ← nativeProperty v name then return some x
  | some (.field x) => if ← isProperty x then return some (← m.bindTo v c x)
  | _ => pure ()
  match (← ownFields v).lookup name with
  | some x => return some x
  | none =>
    match found with
    | some (.field x) => return some (← m.bindTo v c x)
    | some (.method k) => return some (.bound (nativeMethod k name) v)
    | some (.classMethod k) => return some (.bound (nativeMethod k name) c)
    | _ =>
      match v, ← object? v with
      | _, some (.foreign f) => if let some x ← foreignMember v f name then return some x
      | _, some (.instanceOf _ fs) => if name = "__dict__" then return some (← dictOf fs)
      | _, some (.exception _ _ _ _ fs) => if name = "__dict__" then return some (← dictOf fs)
      | .bound f _, _ => return ← m.member f name
      | _, _ => pure ()
      match name with
      | "__doc__" => return some .none
      | _ =>
        match ← userMethod v "__getattr__" with
        | some f => return some (← m.call f [v, .str name] [])
        | none => return none

/-- What becomes of a field of a class when the class `c` is asked for it. -/
def bindToClass (c : Value) (v : Value) : Act Value := do
  match ← object? v with
  | some (.classMethod f) => return .bound f c
  | some (.staticMethod f) => return f
  | some (.instanceOf _ _) =>
    match ← userMethod v "__get__" with
    | some f => m.call f [v, .none, c] []
    | none => return v
  | _ => return v

/-- What every class knows of itself. -/
def classFact (c : Value) (name : String) : Act (Option Value) := do
  match name with
  | "__name__" => return some (.str (← className c))
  | "__qualname__" =>
    match ← object? c with
    | some (.cls _ path _ _ _) => return some (.str path)
    | _ => return some (.str (← className c))
  | "__class__" => return some (.kind .type)
  | "__mro__" => return some (← allocValue (.tuple (← searchOrder c)))
  | "__bases__" =>
    match c, ← object? c with
    | _, some (.cls _ _ bases _ _) => return some (← allocValue (.tuple bases))
    | .kind k, _ => return some (← allocValue (.tuple (k.parent.toList.map .kind)))
    | _, _ => return none
  | "__dict__" =>
    match ← object? c with
    | some (.cls _ _ _ _ fields) => return some (← dictOf fields)
    | _ => return some (← dictOf [])
  | "mro" => return some (.bound (.native "type.mro") c)
  | "__match_args__" =>
    if c == .kind .result then return some (← allocValue (.tuple [.str "_value"])) else return none
  | _ => return none

/-- A member of a class. -/
def classMember (c : Value) (name : String) : Act (Option Value) := do
  if let some x ← classFact c name then return some x
  match ← findIn name (← searchOrder c) with
  | some (.field x) => return some (← m.bindToClass c x)
  | some (.method k) => return some (nativeMethod k name)
  | some (.classMethod k) => return some (.bound (nativeMethod k name) c)
  | some (.property k) => return some (nativeMethod k name)
  | none =>
    match name, c with
    | _, .kind .errorCode => return (Refusal.Code.ofText? name).map fun code => .str code.text
    | "__module__", .kind k => return some (.str (k.origin.getD "builtins"))
    | "__doc__", _ => return some .none
    | _, _ => return none

/-- A member of the classes above `start` for `self`. -/
def superMember (start self : Value) (name : String) : Act (Option Value) := do
  let asClass ← isClass self
  let c ← if asClass then pure self else classOf self
  let order ← searchOrder c
  match ← findIn name ((order.dropWhile (· != start)).drop 1) with
  | some (.field x) =>
    if asClass then return some (← m.bindToClass c x) else return some (← m.bindTo self c x)
  | some (.method k) =>
    return some (if asClass then nativeMethod k name else .bound (nativeMethod k name) self)
  | some (.classMethod k) => return some (.bound (nativeMethod k name) c)
  | some (.property _) => nativeProperty self name
  | none => return none

/-- A member of a value; `none` if it has none of that name. -/
def findMember (v : Value) (name : String) : Act (Option Value) := do
  if ← isClass v then m.classMember v name
  else if let (.native f, "__module__") := (v, name) then
    return some (.str ((libraryOrigin? f).getD "builtins"))
  else match ← object? v with
    | some (.superProxy start self) => m.superMember start self name
    | _ => m.instanceMember v name

/-- A member of a value, or an `AttributeError`. -/
def getMember (v : Value) (name : String) : Act Value := do
  match ← m.member v name with
  | some x => return x
  | none =>
    fail .attributeError (Text.quoted (← kindName v) ++ " object has no attribute "
      ++ Text.quoted name)

/-- A member of a value, nothing being found also if looking for it raises an `AttributeError`. -/
def member? (v : Value) (name : String) : Act (Option Value) :=
  rescue (m.member v name) fun e => do
    if ← isKind e .attributeError then return none else raise e

/-- Whether a value has a member. -/
def hasMember (v : Value) (name : String) : Act Bool := return (← m.member? v name).isSome

/-! ### Changes -/

/-- The error of a change of what cannot change. -/
def frozen {α : Type} (name : String) : Act α := do
  raise (← allocValue
    (.exception (.kind .validationError) [] .none (.faults [⟨[.field name], .frozen⟩]) []))

def noMember {α : Type} (name : String) : Act α :=
  fail .attributeError ("no attribute " ++ Text.quoted name ++ " can be set")

/-- Sets a field of an object itself. -/
def setOwn (r : Ref) (name : String) (x : Value) : Act Unit := do
  match ← read r with
  | .instanceOf c fs => write r (.instanceOf c (fs.put name x))
  | .cls n p b o fs => write r (.cls n p b o (fs.put name x))
  | .module n fs => write r (.module n (fs.put name x))
  | .function f =>
    match name, x with
    | "__name__", .str s => write r (.function { f with name := s })
    | "__qualname__", .str s => write r (.function { f with path := s })
    | _, _ => write r (.function { f with fields := f.fields.put name x })
  | .exception c args cause detail fs =>
    match name, detail, x with
    | "__cause__", _, _ => write r (.exception c args x detail fs)
    | "inner", .envelope _ trail, _ => write r (.exception c args cause (.envelope x trail) fs)
    | "_locations", .envelope inner _, .ref t =>
      write r (.exception c args cause (.envelope inner t) fs)
    | "result", .signal _, _ => write r (.exception c args cause (.signal x) fs)
    | "args", _, .ref t =>
      match ← read t with
      | .tuple xs => write r (.exception c xs cause detail fs)
      | .list xs => write r (.exception c xs cause detail fs)
      | _ => typeError "arguments come in a sequence"
    | _, _, _ =>
      if ["__context__", "__traceback__", "__suppress_context__"].contains name then return
      write r (.exception c args cause detail (fs.put name x))
  | .result isOk payload =>
    match name with
    | "_value" => write r (.result isOk x)
    | "_is_ok" => write r (.result (← m.truth x) payload)
    | _ => noMember name
  | .foreign f =>
    if name = "inner" then write r (.foreign { f with inner := x }) else noMember name
  | .report _ => frozen name
  | _ => noMember name

/-- Sets a member of a value. -/
def setMember (v : Value) (name : String) (x : Value) : Act Unit := do
  match v with
  | .location _ => frozen name
  | .ref r =>
    if !(← isClass v) then
      match ← findIn name (← searchOrder (← classOf v)) with
      | some (.field p) =>
        if let some (.property _ set) ← object? p then
          if set == .none then return ← noMember name
          let _ ← m.call set [v, x] []
          return
      | some (.property .envelope) => return ← noMember name
      | _ => pure ()
      if let some f ← userMethod v "__setattr__" then
        let _ ← m.call f [v, .str name, x] []
        return
    m.setOwn r name x
  | .kind _ => typeError "a built-in class cannot be changed"
  | _ => noMember name

/-- Takes a member away. -/
def deleteMember (v : Value) (name : String) : Act Unit := do
  let without (fs : Fields) : Act Fields := do
    if fs.any (·.1 == name) then return fs.erase name else noMember name
  match v with
  | .ref r =>
    match ← read r with
    | .instanceOf c fs => write r (.instanceOf c (← without fs))
    | .cls n p b o fs => write r (.cls n p b o (← without fs))
    | .module n fs => write r (.module n (← without fs))
    | .function f => write r (.function { f with fields := ← without f.fields })
    | .exception c args cause detail fs => write r (.exception c args cause detail (← without fs))
    | _ => noMember name
  | .location _ => frozen name
  | _ => noMember name

end Machine

end ErrorTrail
