import ErrorTrail.Program.Iteration

/-!
# Subscripts

Items and slices of values. A negative index counts from the end. Subscripting a generic built-in
class gives the class itself, as annotations do.
-/

namespace ErrorTrail

/-- The place that an index means in a sequence of length `n`. -/
def placeOf (n : Nat) (i : Int) : Option Nat :=
  let j := if i < 0 then i + n else i
  if 0 ≤ j ∧ j < n then some j.toNat else none

/-- A bound of a slice brought between `low` and `high`. -/
def clampBound (n : Nat) (low high : Int) (i : Int) : Int :=
  let j := if i < 0 then i + n else i
  max low (min high j)

/-- The places that a slice means in a sequence of length `n`. -/
def slicePlaces (n : Nat) (start stop : Option Int) (step : Int) : List Nat :=
  let ends : Int × Int := if step > 0 then (0, n) else (-1, n - 1)
  let first := (start.map (clampBound n ends.1 ends.2)).getD (if step > 0 then ends.1 else ends.2)
  let last := (stop.map (clampBound n ends.1 ends.2)).getD (if step > 0 then ends.2 else ends.1)
  (List.range (rangeLength first last step)).map fun (k : Nat) => (first + k * step).toNat

/-- The items at some places. -/
def pick {α : Type} (xs : List α) (places : List Nat) : List α := places.filterMap fun i => xs[i]?

/-- The built-in classes that have kinds of items as parameters. -/
def genericKinds : List Kind :=
  [.list, .tuple, .dict, .set, .frozenset, .type, .result, .iterator, .generator, .coroutine]

namespace Machine

open Act

variable (m : Machine)

/-- A whole number as it is given for an index. -/
def indexOf (v : Value) : Act Int := do
  match v with
  | .int n => return n
  | .bool b => return if b then 1 else 0
  | _ =>
    match ← userMethod v "__index__" with
    | some f =>
      match ← m.call f [v] [] with
      | .int n => return n
      | _ => typeError "__index__ returned no whole number"
    | none => typeError "indices must be integers or slices"

def boundOf (v : Value) : Act (Option Int) := do
  if v == .none then return none else return some (← m.indexOf v)

/-- The places that a slice means. -/
def placesOf (n : Nat) (start stop step : Value) : Act (List Nat) := do
  let s ← m.boundOf step
  if s = some 0 then fail .valueError "slice step cannot be zero"
  return slicePlaces n (← m.boundOf start) (← m.boundOf stop) (s.getD 1)

/-- A slice, if a value is one. -/
def slice? (v : Value) : Act (Option (Value × Value × Value)) := do
  match ← object? v with
  | some (.slice a b c) => return some (a, b, c)
  | _ => return none

/-- The item of a sequence at an index. -/
def itemAt {α : Type} (xs : List α) (key : Value) : Act α := do
  match placeOf xs.length (← m.indexOf key) with
  | some i =>
    match xs[i]? with
    | some x => return x
    | none => fail .indexError "index out of range"
  | none => fail .indexError "index out of range"

def keyError {α : Type} (key : Value) : Act α := do
  raise (← newException .keyError [key])

/-- The item of a value for a key. -/
def getItem (v key : Value) : Act Value := do
  match v with
  | .str s =>
    match ← slice? key with
    | some (a, b, c) =>
      return .str (String.ofList (pick s.toList (← m.placesOf s.length a b c)))
    | none => return .str (String.singleton (← m.itemAt s.toList key))
  | .bytes bs =>
    match ← slice? key with
    | some (a, b, c) => return .bytes (pick bs (← m.placesOf bs.length a b c))
    | none => return .int (← m.itemAt bs key).toNat
  | .kind k =>
    if genericKinds.contains k then return v else typeError "type is not subscriptable"
  | .ref r =>
    match ← read r with
    | .list xs =>
      match ← slice? key with
      | some (a, b, c) => allocValue (.list (pick xs (← m.placesOf xs.length a b c)))
      | none => m.itemAt xs key
    | .tuple xs =>
      match ← slice? key with
      | some (a, b, c) => allocValue (.tuple (pick xs (← m.placesOf xs.length a b c)))
      | none => m.itemAt xs key
    | .range a b c => m.itemAt (rangeItems a c (rangeLength a b c)) key
    | .dict es =>
      match ← m.lookup? es key with
      | some x => return x
      | none => keyError key
    | .space fs =>
      match key with
      | .str name =>
        match fs.lookup name with
        | some x => return x
        | none => keyError key
      | _ => keyError key
    | .cls _ _ _ _ _ =>
      match ← userMember v "__class_getitem__" with
      | some f => m.call (← m.bindToClass v f) [key] []
      | none => typeError "type is not subscriptable"
    | _ =>
      match ← userMethod v "__getitem__" with
      | some f => m.call f [v, key] []
      | none => typeError "object is not subscriptable"
  | _ => typeError "object is not subscriptable"

/-- A list after the items at some places are replaced. -/
def replaceSlice (xs new : List Value) (places : List Nat) (contiguous : Option Nat) :
    Act (List Value) := do
  match contiguous with
  | some start => return xs.take start ++ new ++ xs.drop (start + places.length)
  | none =>
    if new.length != places.length then
      fail .valueError ("attempt to assign sequence of size " ++ toString new.length
        ++ " to extended slice of size " ++ toString places.length)
    return (places.zip new).foldl (fun xs (i, v) => xs.set i v) xs

/-- Where a slice without a step begins. -/
def sliceStart (n : Nat) (start step : Value) : Act (Option Nat) := do
  match ← m.boundOf step with
  | none => return some ((← m.boundOf start).map (clampBound n 0 n) |>.getD 0).toNat
  | some 1 => return some ((← m.boundOf start).map (clampBound n 0 n) |>.getD 0).toNat
  | some _ => return none

/-- Sets the item of a value for a key. -/
def setItem (v key x : Value) : Act Unit := do
  match v with
  | .ref r =>
    match ← read r with
    | .list xs =>
      match ← slice? key with
      | some (a, b, c) =>
        let places ← m.placesOf xs.length a b c
        let new ← m.items x
        write r (.list (← replaceSlice xs new places (← m.sliceStart xs.length a c)))
      | none =>
        match placeOf xs.length (← m.indexOf key) with
        | some i => write r (.list (xs.set i x))
        | none => fail .indexError "list assignment index out of range"
    | .dict es => write r (.dict (← m.put es key x))
    | .space fs =>
      match key with
      | .str name => write r (.space (fs.put name x))
      | _ => typeError "names are texts"
    | _ =>
      match ← userMethod v "__setitem__" with
      | some f =>
        let _ ← m.call f [v, key, x] []
        return
      | none => typeError "object does not support item assignment"
  | _ => typeError "object does not support item assignment"

/-- Takes the item of a value for a key away. -/
def deleteItem (v key : Value) : Act Unit := do
  match v with
  | .ref r =>
    match ← read r with
    | .list xs =>
      match ← slice? key with
      | some (a, b, c) =>
        let places ← m.placesOf xs.length a b c
        let kept := (xs.zipIdx.filter fun e => !places.contains e.2).map (·.1)
        write r (.list kept)
      | none =>
        match placeOf xs.length (← m.indexOf key) with
        | some i => write r (.list (xs.eraseIdx i))
        | none => fail .indexError "list assignment index out of range"
    | .dict es =>
      match ← m.position? (es.map (·.1)) key with
      | some i => write r (.dict (es.eraseIdx i))
      | none => keyError key
    | _ =>
      match ← userMethod v "__delitem__" with
      | some f =>
        let _ ← m.call f [v, key] []
        return
      | none => typeError "object does not support item deletion"
  | _ => typeError "object does not support item deletion"

end Machine

end ErrorTrail
