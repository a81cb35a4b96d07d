import ErrorTrail.Program.Equality

/-!
# Texts of values

The representation of a value as a program text (`Machine.represent`) and the text that stands for
it (`Machine.describe`). The two differ for texts themselves and for exceptions, whose text is that
of their arguments. A class of a program gives its own by `__repr__` and `__str__`.

An envelope is shown as the error in it, followed by a line for each location it came through.
-/

namespace ErrorTrail

/-- What stands for the place of an object in memory. -/
def somewhere : String := " at 0x?"

/-- The text of a propagation that no boundary catches, by the representation of its result. -/
def escapedText (shown : String) : String :=
  "propagate() on " ++ shown ++ " escaped without an early_return boundary"

namespace Machine

open Act

variable (m : Machine)

def reprAll : List Value → Act (List String)
  | [] => return []
  | v :: vs => return (← m.repr v) :: (← reprAll vs)

/-- A list of items between brackets. -/
def showItems (opening closing : String) (items : List Value) : Act String := do
  return opening ++ ", ".intercalate (← m.reprAll items) ++ closing

def showTuple (items : List Value) : Act String := do
  return Report.tupleText (← m.reprAll items)

def showEntries : List (Value × Value) → Act (List String)
  | [] => return []
  | (k, v) :: rest => do
    let key ← m.repr k
    let value ← m.repr v
    return (key ++ ": " ++ value) :: (← showEntries rest)

def showDict (entries : List (Value × Value)) : Act String := do
  return "\x7b" ++ ", ".intercalate (← m.showEntries entries) ++ "\x7d"

/-- Shows an object, or `again` if it is part of what is being shown. -/
def showOnce (r : Ref) (again : String) (body : Act String) : Act String := do
  let before := (← get).showing
  if before.contains r then return again
  modify fun s => { s with showing := r :: before }
  ensuring (deeper body) (modify fun s => { s with showing := before })

/-- The lines that the locations of an envelope add to its text. -/
def showTrail : List Value → Act String
  | [] => return ""
  | v :: vs => do
    let head ← m.text v
    return "\nat " ++ head ++ (← showTrail vs)

/-- The items of a list object. -/
def listItems (r : Ref) : Act (List Value) := do
  match ← read r with
  | .list xs => return xs
  | _ => return []

/-- The module that the class of an object is from. -/
def moduleName (c : Value) : Act String := do
  match ← userMember c "__module__" with
  | some (.str s) => return s
  | _ => return ""

/-- The name of a class with the module it is from. -/
def fullClassName (c : Value) : Act String := do
  match c with
  | .kind k => return k.fullName
  | .ref r =>
    match ← read r with
    | .cls _ path _ _ _ => return (← moduleName c) ++ "." ++ path
    | _ => return ""
  | _ => return ""

/-- The representation of an exception: its class and arguments. -/
def showException (c : Value) (args : List Value) : Act String := do
  let name ← className c
  match args with
  | [a] => return name ++ "(" ++ (← m.repr a) ++ ")"
  | _ => return name ++ (← m.showTuple args)

/-- The representation of an object, unless its class has its own. -/
def reprObject (v : Value) (r : Ref) : Obj → Act String
  | .list xs => showOnce r "[...]" (m.showItems "[" "]" xs)
  | .tuple xs => showOnce r "(...)" (m.showTuple xs)
  | .dict es => showOnce r "\x7b...\x7d" (m.showDict es)
  | .set [] true => return "frozenset()"
  | .set [] false => return "set()"
  | .set xs true => showOnce r "frozenset(...)" (m.showItems "frozenset(\x7b" "\x7d)" xs)
  | .set xs false => showOnce r "set(...)" (m.showItems "\x7b" "\x7d" xs)
  | .view part dict => do
    let entries ← match ← read dict with
      | .dict es => pure es
      | _ => pure []
    let title ← kindName v
    match part with
    | .keys => m.showItems (title ++ "([") "])" (entries.map (·.1))
    | .values => m.showItems (title ++ "([") "])" (entries.map (·.2))
    | .entries => do
      let pairs ← entries.mapM fun e => allocValue (.tuple [e.1, e.2])
      m.showItems (title ++ "([") "])" pairs
  | .range a b c =>
    return "range(" ++ toString a ++ ", " ++ toString b
      ++ (if c = 1 then "" else ", " ++ toString c) ++ ")"
  | .slice a b c => m.showItems "slice(" ")" [a, b, c]
  | .result isOk payload => do
    let shown ← deeper (m.repr payload)
    return (if isOk then "Ok(" else "Err(") ++ shown ++ ")"
  | .exception _ _ _ (.envelope inner trail) _ => do
    let head ← deeper (m.repr inner)
    return head ++ (← m.showTrail (← listItems trail))
  | .exception c args _ _ _ => deeper (m.showException c args)
  | .foreign _ => return "foreign"
  | .report p => return p.repr
  | .path p => return "PosixPath(" ++ Text.quoted p.text ++ ")"
  | .instanceOf c _ => return "<" ++ (← fullClassName c) ++ " object" ++ somewhere ++ ">"
  | .cls _ _ _ _ _ => return "<class " ++ Text.quoted (← fullClassName v) ++ ">"
  | .function f => return "<function " ++ f.path ++ somewhere ++ ">"
  | .staticMethod f => return "<staticmethod(" ++ (← m.repr f) ++ ")>"
  | .classMethod f => return "<classmethod(" ++ (← m.repr f) ++ ")>"
  | .space fs => return "\x7b" ++ ", ".intercalate (fs.map fun f => Text.quoted f.1) ++ "\x7d"
  | .module name _ => return "<module " ++ Text.quoted name ++ ">"
  | .generator _ asynchronous env _ =>
    return "<" ++ (if asynchronous then "async_generator" else "generator") ++ " object "
      ++ env.path ++ somewhere ++ ">"
  | o => return "<" ++ (← className o.cls?) ++ " object" ++ somewhere ++ ">"

/-- The representation of a value as a program text. -/
def represent (v : Value) : Act String := do
  match v with
  | .none => return "None"
  | .bool b => return if b then "True" else "False"
  | .int n =>
    let shown := toString n
    if shown.length > 4300 then
      fail .valueError ("Exceeds the limit (4300 digits) for integer string conversion; "
        ++ "use sys.set_int_max_str_digits() to increase the limit")
    return shown
  | .float b _ => return (Number.float b).text
  | .str s => return Text.quoted s
  | .bytes bs => return Text.quotedBytes bs
  | .ellipsis => return "Ellipsis"
  | .notImplemented => return "NotImplemented"
  | .location l => return l.repr
  | .kind k => return "<class " ++ Text.quoted k.fullName ++ ">"
  | .native name =>
    return if nativeKind name = .function then "<function " ++ name ++ somewhere ++ ">"
      else "<built-in function " ++ name ++ ">"
  | .bound (.native name) self =>
    if nativeKind name = .function then
      return "<bound method " ++ name ++ " of " ++ (← m.repr self) ++ ">"
    return "<built-in method " ++ name ++ somewhere ++ ">"
  | .bound f self => do
    let path := match ← object? f with
      | some (.function g) => g.path
      | _ => ""
    return "<bound method " ++ path ++ " of " ++ (← m.repr self) ++ ">"
  | .ref r =>
    match ← userMethod v "__repr__" with
    | some f =>
      match ← m.call f [v] [] with
      | .str s => return s
      | _ => typeError "__repr__ returned no text"
    | none => m.reprObject v r (← read r)

/-- The text of an exception by its arguments. -/
def describeArgs (k : Kind) (fields : Fields) (args : List Value) : Act String := do
  if k.isA .keyError then
    if let [a] := args then return ← m.repr a
  if k.isA .osError then
    if let some errno := fields.lookup "errno" then
      let number ← m.text errno
      let words ← m.text ((fields.lookup "strerror").getD .none)
      let head := "[Errno " ++ number ++ "] " ++ words
      match fields.lookup "filename", fields.lookup "filename2" with
      | some a, some b => return head ++ ": " ++ (← m.repr a) ++ " -> " ++ (← m.repr b)
      | some a, none => return head ++ ": " ++ (← m.repr a)
      | none, _ => return head
  match args with
  | [] => return ""
  | [a] => m.text a
  | _ => m.showTuple args

/-- The text of an exception, unless its class has its own. -/
def describeException (c : Value) (args : List Value) (detail : Detail) (fields : Fields) :
    Act String := do
  match detail with
  | .envelope inner trail =>
    let head ← if inner == .none then pure "" else m.text inner
    return head ++ (← m.showTrail (← listItems trail))
  | .signal outcome => return escapedText (← m.repr outcome)
  | _ => m.describeArgs (← builtinBase c) fields args

/-- The text of a value, unless a class of the program gives one. -/
def describeNative (v : Value) : Act String := do
  match v with
  | .str s => return s
  | .location l => return l.text
  | .ref r =>
    match ← read r with
    | .exception c args _ detail fields => deeper (m.describeException c args detail fields)
    | .report p => return p.text
    | .path p => return p.text
    | _ => m.repr v
  | _ => m.repr v

/-- The text of a value. -/
def describe (v : Value) : Act String := do
  match ← userMethod v "__str__" with
  | some f =>
    match ← m.call f [v] [] with
    | .str s => return s
    | _ => typeError "__str__ returned no text"
  | none => m.describeNative v

end Machine

end ErrorTrail
