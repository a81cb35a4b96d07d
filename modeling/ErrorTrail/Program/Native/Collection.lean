import ErrorTrail.Program.Arithmetic
import ErrorTrail.Program.Native.Arguments

/-!
# Methods of lists, tuples, dictionaries, sets and ranges
-/

namespace ErrorTrail

namespace CollectionMethod

open Act

/-- The keys of values under a function; the values themselves without one. -/
def keysOf (m : Machine) (key : Option Value) (xs : List Value) : Act (List (Value × Value)) := do
  match key with
  | none => return xs.map fun x => (x, x)
  | some .none => return xs.map fun x => (x, x)
  | some f => xs.mapM fun x => return (← m.call f [x] [], x)

/-- Values in order, those with equal keys in the order in which they were. -/
def sorted (m : Machine) (xs : List Value) (key backwards : Option Value) : Act (List Value) := do
  let keyed ← keysOf m key xs
  let backwards ← match backwards with
    | some v => m.truth v
    | none => pure false
  if backwards then
    return ((← m.sortByKey keyed.reverse).map (·.2)).reverse
  return (← m.sortByKey keyed).map (·.2)

/-- The place of the first equal item from `i` on. -/
def firstPlace (m : Machine) (x : Value) : List Value → Nat → Act (Option Nat)
  | [], _ => return none
  | y :: ys, i => do
    if ← m.sameItem y x then return some i else firstPlace m x ys (i + 1)

/-- How many items are equal to a value. -/
def countOf (m : Machine) (x : Value) : List Value → Act Nat
  | [] => return 0
  | y :: ys => do
    let here := if ← m.sameItem y x then 1 else 0
    return here + (← countOf m x ys)

/-- The place of the first equal item; `missing` tells, by the representation of the value, that
there is none. -/
def indexIn (m : Machine) (missing : String → String) (xs : List Value) (args : List Value) :
    Act Value := do
  match args with
  | x :: bounds =>
    let start ← match bounds[0]? with
      | some b => pure (clampBound xs.length 0 xs.length (← m.indexOf b)).toNat
      | none => pure 0
    match ← firstPlace m x (xs.drop start) start with
    | some i => return .int i
    | none => fail .valueError (missing (← m.repr x))
  | [] => typeError "missing argument"

/-- Calls a method of a list. -/
def callList (m : Machine) (method : String) (r : Ref) (xs : List Value) (args : List Value)
    (named : Fields) : Act Value := do
  let keep (ys : List Value) : Act Value := do
    write r (.list ys)
    return .none
  match method with
  | "append" => keep (xs ++ [← Arguments.one "object" args named])
  | "extend" => do
    let ys ← m.items (← Arguments.one "iterable" args named)
    keep ((← Machine.listItems r) ++ ys)
  | "pop" => do
    if xs.isEmpty then fail .indexError "pop from empty list"
    let i ← match ← Arguments.optional "index" args named with
      | some v => m.indexOf v
      | none => pure (-1)
    match placeOf xs.length i with
    | some i =>
      write r (.list (xs.eraseIdx i))
      return xs[i]?.getD .none
    | none => fail .indexError "pop index out of range"
  | "insert" => do
    let (i, x) ← Arguments.two "index" "object" args named
    let place := (clampBound xs.length 0 xs.length (← m.indexOf i)).toNat
    keep (xs.take place ++ x :: xs.drop place)
  | "remove" => do
    match ← firstPlace m (← Arguments.one "value" args named) xs 0 with
    | some i => keep (xs.eraseIdx i)
    | none => fail .valueError "list.remove(x): x not in list"
  | "reverse" => keep xs.reverse
  | "sort" => do
    if !args.isEmpty then typeError "sort() takes no positional arguments"
    match ← Arguments.arrange ["key", "reverse"] [] named with
    | [key, backwards] => keep (← sorted m xs key backwards)
    | _ => return .none
  | "index" => indexIn m (· ++ " is not in list") xs args
  | "count" => return .int (← countOf m (← Arguments.one "value" args named) xs)
  | "clear" => keep []
  | "copy" => allocValue (.list xs)
  | _ => fail .attributeError method

/-- Calls a method of a tuple, or of a range with its numbers. -/
def callTuple (m : Machine) (method : String) (missing : String → String) (xs : List Value)
    (args : List Value) (named : Fields) : Act Value := do
  match method with
  | "index" => indexIn m missing xs args
  | "count" => return .int (← countOf m (← Arguments.one "value" args named) xs)
  | _ => fail .attributeError method

/-- A pair of items, number `i` of a sequence of entries. -/
def entryOf (m : Machine) (i : Nat) (v : Value) : Act (Value × Value) := do
  let xs ← rescue (m.items v) fun _ =>
    typeError "cannot convert dictionary update sequence element to a sequence"
  match xs with
  | [k, w] => return (k, w)
  | _ =>
    fail .valueError ("dictionary update sequence element #" ++ toString i ++ " has length "
      ++ toString xs.length ++ "; 2 is required")

/-- The entries that a value gives a dictionary. -/
def entriesOf (m : Machine) (v : Value) : Act (List (Value × Value)) := do
  match ← object? v with
  | some (.dict es) => return es
  | some (.space fs) => return fs.map fun f => (.str f.1, f.2)
  | _ =>
    match ← m.member? v "keys" with
    | some keys =>
      (← m.items (← m.call keys [] [])).mapM fun k => return (k, ← m.getItem v k)
    | none => (← m.items v).zipIdx.mapM fun (x, i) => entryOf m i x

/-- A dictionary after the entries of a call's arguments are put into it. -/
def updated (m : Machine) (es : List (Value × Value)) (args : List Value) (named : Fields) :
    Act (List (Value × Value)) := do
  let es ← match args with
    | [] => pure es
    | [v] => do m.putAll es (← entriesOf m v)
    | _ => typeError "expected at most 1 argument"
  m.putAll es (named.map fun f => (.str f.1, f.2))

/-- Calls a method of a dictionary. -/
def callDict (m : Machine) (method : String) (r : Ref) (es : List (Value × Value))
    (args : List Value) (named : Fields) : Act Value := do
  let keep (es : List (Value × Value)) : Act Value := do
    write r (.dict es)
    return .none
  match method with
  | "get" =>
    match ← Arguments.arrange ["key", "default"] args named with
    | [some k, d] => return (← m.lookup? es k).getD (d.getD .none)
    | _ => typeError "missing argument"
  | "items" => allocValue (.view .entries r)
  | "keys" => allocValue (.view .keys r)
  | "values" => allocValue (.view .values r)
  | "pop" =>
    match ← Arguments.arrange ["key", "default"] args named with
    | [some k, d] =>
      match ← m.position? (es.map (·.1)) k, d with
      | some i, _ =>
        write r (.dict (es.eraseIdx i))
        return (es[i]?.map (·.2)).getD .none
      | none, some d => return d
      | none, none => Machine.keyError k
    | _ => typeError "missing argument"
  | "popitem" =>
    match es.getLast? with
    | some (k, v) =>
      write r (.dict es.dropLast)
      allocValue (.tuple [k, v])
    | none => Machine.keyError (.str "popitem(): dictionary is empty")
  | "setdefault" =>
    match ← Arguments.arrange ["key", "default"] args named with
    | [some k, d] =>
      match ← m.lookup? es k with
      | some v => return v
      | none =>
        let v := d.getD .none
        write r (.dict (← m.put es k v))
        return v
    | _ => typeError "missing argument"
  | "update" => keep (← updated m es args named)
  | "copy" => allocValue (.dict es)
  | "clear" => keep []
  | _ => fail .attributeError method

/-- Calls a method of a set. -/
def callSet (m : Machine) (method : String) (r : Ref) (xs : List Value) (frozen : Bool)
    (args : List Value) (named : Fields) : Act Value := do
  let keep (ys : List Value) : Act Value := do
    write r (.set ys frozen)
    return .none
  let new (ys : List Value) : Act Value := allocValue (.set ys frozen)
  let combine (op : Syntax.BinaryOp) : Act (List Value) :=
    args.foldlM (fun acc v => do
      let ys ← m.insertAll [] (← m.items v)
      return (← m.operateSets op acc ys).getD acc) xs
  let without (x : Value) (missing : Act Value) : Act Value := do
    match ← m.position? xs x with
    | some i => keep (xs.eraseIdx i)
    | none => missing
  let other : Act (List Value) := do m.insertAll [] (← m.items (← Arguments.one "other" args named))
  match method with
  | "add" => keep (← m.insert xs (← Arguments.one "elem" args named))
  | "remove" => do
    let x ← Arguments.one "elem" args named
    without x (Machine.keyError x)
  | "discard" => do without (← Arguments.one "elem" args named) (return .none)
  | "update" => do keep (← combine .bitOr)
  | "union" => do new (← combine .bitOr)
  | "intersection" => do new (← combine .bitAnd)
  | "difference" => do new (← combine .sub)
  | "symmetric_difference" => do new (← combine .bitXor)
  | "issubset" => return .bool (← m.included (← other) xs)
  | "issuperset" => return .bool (← m.included xs (← other))
  | "isdisjoint" => do
    let shared ← m.operateSets .bitAnd xs (← other)
    return .bool (shared.getD []).isEmpty
  | "pop" =>
    match xs with
    | x :: rest =>
      write r (.set rest frozen)
      return x
    | [] => Machine.keyError (.str "pop from an empty set")
  | "clear" => keep []
  | "copy" => new xs
  | _ => fail .attributeError method

end CollectionMethod

end ErrorTrail
