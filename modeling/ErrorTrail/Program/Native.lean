import ErrorTrail.Program.Annotate
import ErrorTrail.Program.Coroutine
import ErrorTrail.Program.Native.Basic

/-!
# Built-in functions

Calls a built-in function by its name. A method is named after its class, `list.append`, and gets the
object it belongs to as its first argument.
-/

namespace ErrorTrail

namespace Native

open Act

/-- Calls a method of an object that is a reference. -/
def withObject (v : Value) (f : Ref → Obj → Act Value) : Act Value := do
  match v with
  | .ref r => f r (← read r)
  | _ => typeError "a method got an object of another class"

/-- Calls a method that every object has. -/
def callObject (m : Machine) (method : String) (self : Value) (args : List Value)
    (named : Fields) : Act Value := do
  match method, args with
  | "__init__", _ => do
    Construct.initialise m self args named
    return .none
  | "__new__", _ => Construct.bare self args
  | "__repr__", _ =>
    match self with
    | .ref r => return .str (← m.reprObject self r (← read r))
    | _ => return .str (← m.represent self)
  | "__str__", _ => return .str (← m.describeNative self)
  | "__eq__", [other] =>
    match self, other with
    | .ref a, .ref b =>
      if a = b then return .bool true else m.equalObjects (← read a) (← read b)
    | _, _ => return if self == other then .bool true else .notImplemented
  | "__ne__", [other] => return .bool !(← m.equal self other)
  | "__hash__", _ => return .int (BasicFunction.hashNumber 50 (.identity self))
  | "__setattr__", [.str name, x] =>
    match self with
    | .ref r => do
      Machine.setOwn m r name x
      return .none
    | _ => typeError "no members can be set"
  | "__getattribute__", [.str name] => m.getMember self name
  | "__format__", [.str spec] => return .str (← m.formatNative self spec)
  | "__init_subclass__", _ => return .none
  | _, _ => typeError "wrong number of arguments"

/-- Raises that an iterator is at its end, with its result. -/
def stop {α : Type} (v : Value) : Act α := do
  raise (← newException .stopIteration (if v == .none then [] else [v]))

/-- The next item of an iterator after an impulse. -/
def nextItem (m : Machine) (it : Value) (impulse : Impulse) : Act Value := do
  match ← m.resume it impulse with
  | .item v => return v
  | .done v => stop v

/-- An exception as the arguments of a raising method give it. -/
def exceptionFrom (m : Machine) (args : List Value) : Act Value := do
  match args with
  | [] => typeError "missing argument"
  | v :: rest =>
    if ← isClass v then m.call v (rest.take 1) []
    else if ← isException v then return v
    else typeError "exceptions must be classes or instances deriving from BaseException"

/-- Calls a method of a generator. -/
def callGenerator (m : Machine) (method : String) (self : Value) (args : List Value) :
    Act Value := do
  match method, args with
  | "__iter__", _ => return self
  | "__next__", _ => nextItem m self (.send .none)
  | "send", [v] => withObject self fun _ o => do
    match o with
    | .generator .fresh _ _ _ =>
      if v != .none then typeError "can't send non-None value to a just-started generator"
    | _ => pure ()
    nextItem m self (.send v)
  | "throw", args => do nextItem m self (.raise (← exceptionFrom m args))
  | "close", _ => do
    let stopped ← rescue
      (do
        match ← m.resume self (.raise (← newException .generatorExit [])) with
        | .item _ => return false
        | .done _ => return true)
      fun e => do
        if (← isKind e .generatorExit) || (← isKind e .stopIteration) then return true else raise e
    if !stopped then fail .runtimeError "generator ignored GeneratorExit"
    return .none
  | _, _ => typeError "wrong number of arguments"

/-- Calls a method of a coroutine. -/
def callCoroutine (m : Machine) (method : String) (self : Value) (args : List Value) :
    Act Value := do
  match method with
  | "__await__" => return self
  | "send" => do stop (← m.call Machine.completion [self] [])
  | "throw" => do raise (← exceptionFrom m args)
  | "close" => withObject self fun r o => do
    match o with
    | .coroutine _ f env args named => write r (.coroutine true f env args named)
    | _ => pure ()
    return .none
  | _ => fail .attributeError method

/-- Calls a method of a property, which gives another property. -/
def callProperty (method : String) (self : Value) (args : List Value) : Act Value :=
  withObject self fun _ o => do
    match method, o, args with
    | "getter", .property _ set, [f] => allocValue (.property f set)
    | "setter", .property get _, [f] => allocValue (.property get f)
    | "deleter", .property get set, _ => allocValue (.property get set)
    | _, _, _ => typeError "wrong number of arguments"

/-- Calls a method of a number. -/
def callNumber (method : String) (self : Value) : Act Value := do
  match method, self.number? with
  | "bit_length", some (.int n) => return .int (if n = 0 then 0 else n.natAbs.log2 + 1)
  | "conjugate", some _ => return self
  | "is_integer", some (.float bits) =>
    match magnitude bits with
    | .finite d => return .bool d.isWhole
    | _ => return .bool false
  | _, _ => typeError "wrong number of arguments"

/-- Calls a method of a built-in class on an object. -/
def callMethod (m : Machine) (cls method : String) (self : Value) (args : List Value)
    (named : Fields) : Act Value := do
  match cls with
  | "object" => callObject m method self args named
  | "Result" => LibraryFunction.callResult m method self args named
  | "Wherr" => LibraryFunction.callEnvelope m method self args named
  | "Foreign" => withObject self fun r o => do
    match o with
    | .foreign f => LibraryFunction.callForeign m method r f args named
    | _ => typeError "no error object"
  | "Location" => LibraryFunction.callLocation method self args named
  | "WherrReport" => LibraryFunction.callReport method self args named
  | "TransformError" => LibraryFunction.callRefusal m method self args named
  | "PosixPath" => withObject self fun _ o => do
    match o with
    | .path p => LibraryFunction.callPath method p args
    | _ => typeError "no path"
  | "str" =>
    match self with
    | .str s => TextMethod.call m method s args named
    | _ => typeError "a text is required"
  | "bytes" =>
    match self with
    | .bytes bs => TextMethod.callBytes method bs
    | _ => typeError "bytes are required"
  | "int" => callNumber method self
  | "float" => callNumber method self
  | "list" => withObject self fun r o => do
    match o with
    | .list xs => CollectionMethod.callList m method r xs args named
    | _ => typeError "a list is required"
  | "tuple" => withObject self fun _ o => do
    match o with
    | .tuple xs =>
      CollectionMethod.callTuple m method (fun _ => "tuple.index(x): x not in tuple") xs args named
    | _ => typeError "a tuple is required"
  | "range" => withObject self fun _ o => do
    match o.items? with
    | some xs => CollectionMethod.callTuple m method (· ++ " is not in range") xs args named
    | none => typeError "a range is required"
  | "dict" =>
    if method = "fromkeys" then
      match args with
      | keys :: rest => do
        let v := rest.head?.getD .none
        allocValue (.dict (← m.putAll [] ((← m.items keys).map fun k => (k, v))))
      | [] => typeError "missing argument"
    else withObject self fun r o => do
      match o with
      | .dict es => CollectionMethod.callDict m method r es args named
      | .space fs =>
        CollectionMethod.callDict m method r (fs.map fun f => (.str f.1, f.2)) args named
      | _ => typeError "a dictionary is required"
  | "set" => withSet self
  | "frozenset" => withSet self
  | "iterator" => if method = "__iter__" then return self else nextItem m self (.send .none)
  | "generator" => callGenerator m method self args
  | "coroutine" => callCoroutine m method self args
  | "property" => callProperty method self args
  | "type" => do allocValue (.list (← searchOrder self))
  | "function" =>
    match method, args with
    | "__get__", .none :: _ => return self
    | "__get__", object :: _ => return .bound self object
    | _, _ => m.call self args named
  | "method" => m.call self args named
  | "BaseException" =>
    match method, self, args with
    | "add_note", .ref r, [note] => do
      let notes ← match ← m.member? self "__notes__" with
        | some v => m.items v
        | none => pure []
      Machine.setOwn m r "__notes__" (← allocValue (.list (notes ++ [note])))
      return .none
    | "with_traceback", _, _ => return self
    | _, _, _ => typeError "wrong number of arguments"
  | "functools" => BasicFunction.callTool m method (self :: args) named
  | _ => fail .attributeError method
where
  withSet (self : Value) : Act Value := withObject self fun r o => do
    match o with
    | .set xs frozen => CollectionMethod.callSet m method r xs frozen args named
    | _ => typeError "a set is required"

/-- Calls a built-in function by its name. -/
def call (m : Machine) (name : String) (args : List Value) (named : Fields) : Act Value := do
  match name.splitOn "." with
  | [cls, method] =>
    match args with
    | self :: rest => callMethod m cls method self rest named
    | [] =>
      if cls = "functools" && method = "partial" then typeError "missing argument"
      else typeError ("descriptor " ++ Text.quoted method ++ " needs an argument")
  | _ =>
    match name with
    | "wherr" => do Annotate.annotate m (← Arguments.one "func" args named)
    | "instrument_function" => Annotate.instrumentFunction m args named
    | _ =>
      if libraryFunctions.contains name then LibraryFunction.call m name args named
      else BasicFunction.call m name args named

end Native

end ErrorTrail
