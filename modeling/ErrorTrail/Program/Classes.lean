import ErrorTrail.Program.Value
import ErrorTrail.Program.Vocabulary

/-!
# Classes of objects

Which class a value is an instance of, and in which order the classes above a class are searched
(`searchOrder`). The order of a class with several bases keeps the order of each base and the order
in which the bases are given.
-/

namespace ErrorTrail

namespace Obj

/-- The class of an object. -/
def cls? : Obj → Value
  | list _ => .kind .list
  | tuple _ => .kind .tuple
  | dict _ => .kind .dict
  | set _ true => .kind .frozenset
  | set _ false => .kind .set
  | view .keys _ => .kind .dictKeys
  | view .values _ => .kind .dictValues
  | view .entries _ => .kind .dictItems
  | range _ _ _ => .kind .range
  | slice _ _ _ => .kind .slice
  | result _ _ => .kind .result
  | exception c _ _ _ _ => c
  | foreign _ => .kind .foreign
  | report _ => .kind .report
  | path _ => .kind .path
  | instanceOf c _ => c
  | cls _ _ _ _ _ => .kind .type
  | function _ => .kind .function
  | property _ _ => .kind .property
  | staticMethod _ => .kind .staticMethod
  | classMethod _ => .kind .classMethod
  | superProxy _ _ => .kind .superType
  | cell _ => .kind .cell
  | space _ => .kind .dict
  | module _ _ => .kind .module
  | applied _ _ _ => .kind .builtinFunction
  | iterator _ => .kind .iterator
  | generator _ false _ _ => .kind .generator
  | generator _ true _ _ => .kind .asyncGenerator
  | coroutine _ _ _ _ _ => .kind .coroutine

end Obj

namespace Act

/-- The class of a built-in function or method. -/
def nativeKind (name : String) : Kind :=
  if (libraryOrigin? name).isSome then .function
  else if name.contains '.' then .methodDescriptor
  else .builtinFunction

/-- The class of a value. -/
def classOf : Value → Act Value
  | .none => return .kind .noneType
  | .bool _ => return .kind .bool
  | .int _ => return .kind .int
  | .float _ _ => return .kind .float
  | .str _ => return .kind .str
  | .bytes _ => return .kind .bytes
  | .ellipsis => return .kind .ellipsis
  | .notImplemented => return .kind .notImplemented
  | .location _ => return .kind .location
  | .kind _ => return .kind .type
  | .native name => return .kind (nativeKind name)
  | .bound (.native name) _ =>
    return .kind (if nativeKind name = .function then .method else .builtinMethod)
  | .bound _ _ => return .kind .method
  | .ref r => return (← read r).cls?

/-- The classes that are searched for an attribute of instances of a class. -/
def searchOrder : Value → Act (List Value)
  | .kind k => return k.ancestors.map .kind
  | .ref r => do
    match ← read r with
    | .cls _ _ _ mro _ => return mro
    | _ => return []
  | _ => return []

/-- Whether a value is a class. -/
def isClass : Value → Act Bool
  | .kind _ => return true
  | .ref r => do
    match ← read r with
    | .cls _ _ _ _ _ => return true
    | _ => return false
  | _ => return false

/-- Whether one class is another or below it. -/
def isSubclass (c ancestor : Value) : Act Bool := return (← searchOrder c).contains ancestor

/-- Whether a value is an instance of a class. -/
def isInstance (v c : Value) : Act Bool := do isSubclass (← classOf v) c

def isKind (v : Value) (k : Kind) : Act Bool := isInstance v (.kind k)

/-- The name of a class. -/
def className : Value → Act String
  | .kind k => return k.name
  | .ref r => do
    match ← read r with
    | .cls name _ _ _ _ => return name
    | _ => return ""
  | _ => return ""

/-- The name of the class of a value. -/
def kindName (v : Value) : Act String := do className (← classOf v)

/-- Whether a value is an exception. -/
def isException (v : Value) : Act Bool := do
  match ← object? v with
  | some (.exception _ _ _ _ _) => return true
  | _ => return false

/-- The nearest built-in class of a class. -/
def builtinBase (c : Value) : Act Kind := do
  let order ← searchOrder c
  return (order.findSome? fun v => match v with
    | .kind k => some k
    | _ => none).getD .object

end Act

/-! ### Search order -/

/-- The first head of the lists that stands in none of their tails. -/
def goodHead (lists : List (List Value)) : Option Value :=
  lists.findSome? fun l =>
    match l with
    | [] => none
    | h :: _ => if lists.any fun m => m.tail.contains h then none else some h

/-- Merges orders, `fuel` classes at most; `none` if they do not agree. -/
def mergeOrders : Nat → List (List Value) → Option (List Value)
  | 0, _ => none
  | fuel + 1, lists =>
    let rest := lists.filter fun l => !l.isEmpty
    if rest.isEmpty then some []
    else do
      let h ← goodHead rest
      let later ← mergeOrders fuel (rest.map fun l => if l.head? == some h then l.tail else l)
      some (h :: later)

/-- The search order of a new class after itself. -/
def inheritedOrder (bases : List Value) (orders : List (List Value)) : Option (List Value) :=
  mergeOrders (orders.flatten.length + bases.length + 1) (orders ++ [bases])

end ErrorTrail
