import ErrorTrail.Exchange.Error
import ErrorTrail.Program.Session

/-!
# Values of programs as records

How the values of a running program are written as JSON values and read back. Plain data is written
as in `ErrorTrail.Exchange.Datum`; results, exceptions, envelopes and error objects of other
libraries have names of their own. Reading makes new objects; an object that has a name already is
read by its name.
-/

namespace ErrorTrail.Exchange

open Json (tag)

/-- What values are read with: a machine, the classes and functions beyond the built-in ones, and
the objects that have a name. -/
structure Workspace where
  machine : Machine
  known : Fields := []
  objects : Fields := []
  deriving Inhabited

namespace Workspace

/-- The object of that name. -/
def object (w : Workspace) (name : String) : Act Value := do
  match w.objects.lookup name with
  | some v => return v
  | none => Act.raise (← Act.newException .keyError [.str name])

/-- The class of that name. -/
def classNamed (w : Workspace) (name : String) : Act Value := do
  let library : List Kind := [.envelope, .result, .foreign, .propagation, .noneType]
  match w.known.lookup name, (Kind.named ++ library).find? fun k => k.name == name with
  | some c, _ => return c
  | none, some k => return .kind k
  | none, none => Act.fail .nameError name

/-- The value of a record, `fuel` levels deep. -/
def readWithin (w : Workspace) : Nat → Json → Act Value
  | 0, _ => throw .exhausted
  | fuel + 1, j => do
    let read := readWithin w fuel
    match j with
    | .null => return .none
    | .bool b => return .bool b
    | .string s => return .str s
    | .int n => return .int n
    | .float t => Act.newFloat (floatOf t)
    | .array xs => do Act.allocValue (.list (← xs.mapM read))
    | .object [("$int", .string t)] => return .int (intOf t)
    | .object [("$float", .string t)] => Act.newFloat (floatOf t)
    | .object [("$bytes", .string t)] => return .bytes (Text.bytesOfHex t)
    | .object [("$tuple", v)] => do Act.allocValue (.tuple (← v.items.mapM read))
    | .object [("$dict", v)] => do
      let entries ← v.items.mapM fun e => do
        match e.items with
        | [k, x] => return (← read k, ← read x)
        | _ => return (.none, .none)
      Act.allocValue (.dict (← w.machine.putAll [] entries))
    | .object [("$ok", v)] => do Outcome.success (← read v)
    | .object [("$err", v)] => do Outcome.failure (← read v)
    | .object [("$reg", .string name)] => w.object name
    | .object [("$loc", v)] => return .location (readPair v)
    | .object [("$exc", .array [.string name, args])] => do
      let c ← w.classNamed name
      w.machine.call c (← args.items.mapM read) []
    | .object [("$wherr", .array [inner, trail])] => do
      Envelope.make (.kind .envelope) (← read inner)
        (trail.items.map fun l => .location (readPair l))
    | .object [("$foreign", v)] => do
      let inner ← read ((v.field? "inner").getD .null)
      Act.allocValue (.foreign
        { missing := ((v.field? "missing").map Json.strings).getD []
          blocked := ((v.field? "none").map Json.strings).getD []
          inner })
    | .object _ => return .none

/-- The value of a record. -/
def read (w : Workspace) (j : Json) : Act Value := w.readWithin (j.height + 1) j

/-- The value of a field; none if there is no such field. -/
def readField (w : Workspace) (j : Json) (key : String) : Act Value :=
  w.read ((j.field? key).getD .null)

/-- Calls a method of a value. -/
def method (w : Workspace) (v : Value) (name : String) (args : List Value) (named : Fields := []) :
    Act Value := do
  w.machine.call (← w.machine.getMember v name) args named

end Workspace

/-! ### Writing values -/

def writeTrail (trail : List Value) : Json := writeLocations (Envelope.locations trail)

/-- The record of a value, `fuel` levels deep. -/
def writeWithin : Nat → Value → Act Json
  | 0, _ => throw .exhausted
  | fuel + 1, v => do
    let write := writeWithin fuel
    match v with
    | .none => return .null
    | .bool b => return .bool b
    | .int n => return writeInt n
    | .float bits _ => return writeFloat bits
    | .str s => return .string s
    | .bytes bs => return tag "$bytes" (.string (Text.hexOfBytes bs))
    | .location l => return tag "$loc" (writeLocation l)
    | .ref r =>
      match ← Act.read r with
      | .list xs => return .array (← xs.mapM write)
      | .tuple xs => return tag "$tuple" (.array (← xs.mapM write))
      | .dict es =>
        return tag "$dict" (.array (← es.mapM fun (k, x) => do
          return .array [← write k, ← write x]))
      | .result true x => return tag "$ok" (← write x)
      | .result false x => return tag "$err" (← write x)
      | .exception c args _ detail _ =>
        match detail with
        | .envelope inner trail =>
          let name ← if c == .kind .envelope then pure "wherr" else Act.className c
          return tag ("$" ++ name)
            (.array [← write inner, writeTrail (← Machine.listItems trail)])
        | .signal outcome => return tag "$propagation" (← write outcome)
        | _ => return tag "$exc" (.array [.string (← Act.className c), .array (← args.mapM write)])
      | .foreign f => return tag "$foreign" (writeLocations f.pushed)
      | _ => return tag "$obj" (.string (← Act.kindName v))
    | _ => return tag "$obj" (.string (← Act.kindName v))

/-- The record of a value. An object in itself is not written. -/
def writeValue (v : Value) : Act Json := do writeWithin ((← get).objects.size + 1) v

/-! ### Writing exceptions -/

/-- The built-in exceptions that are written with their text. -/
def spoken : List Kind :=
  [.runtimeError, .valueError, .propagation, .keyError, .zeroDivisionError, .envelope]

/-- A refusal that a program has raised. A text that begins with the name of another error repeats
that error. -/
def writeRaisedRefusal (r : Refusal) : Json :=
  let name := r.message.toList.takeWhile Syntax.Token.isNamePart
  let named := !name.isEmpty && (": ".toList.isPrefixOf (r.message.toList.drop name.length))
  writeRefusal { r with cause := if named then some (String.ofList name) else none }

/-- An exception as an error. Its text and cause are told if its class is one of a program or its
text is the library's own. -/
def writeException (m : Machine) (e : Value) : Act Json := do
  match ← Act.object? e with
  | some (.exception c _ cause detail _) =>
    match detail with
    | .faults issues => return writeIssues issues
    | .refusal r => return writeRaisedRefusal r
    | _ =>
      let name ← Act.className c
      let silent := match c with
        | .kind k => !spoken.contains k
        | _ => false
      if silent then return errorKind name
      match ← Act.observe (m.text e) with
      | .error _ => return errorKind name
      | .ok words =>
        let tail ← if cause == .none then pure [] else do pure [("cause", ← writeValue cause)]
        return .object ([("error", .string name), ("message", .string words)] ++ tail)
  | _ => return errorKind (← Act.kindName e)

/-- Why running stopped, as an error. -/
def writeStop (m : Machine) : Stop → Act Json
  | .raised e => writeException m e
  | .exhausted => return errorKind "RecursionError"

/-- What a step answers, an error standing in its place. -/
def answering (m : Machine) (step : Act Json) : Act Json := do
  match ← Act.observe step with
  | .ok j => return j
  | .error stop => writeStop m stop

/-- A value as the answer of a step. -/
def answerValue (v : Value) : Act Json := return .object [("v", ← writeValue v)]

end ErrorTrail.Exchange
