import ErrorTrail.Program.Envelope

/-!
# Copies

A deep copy of a value has a new object for every object that can change. Shared objects stay shared
in the copy. An exception is copied by making one of its class from copies of its arguments, an
envelope from the error in it and its locations. A class of a program can tell by `__reduce__` what
its objects are made from instead.
-/

namespace ErrorTrail

namespace Copy

open Act

/-- The objects copied so far with their copies. -/
abbrev Memo := List (Ref × Value)

/-- What an object says that it is made from: a function and its arguments. -/
def recipe? (m : Machine) (v : Value) : Act (Option (Value × List Value)) := do
  match ← userMethod v "__reduce__" with
  | none => return none
  | some f =>
    match ← object? (← m.call f [v] []) with
    | some (.tuple (make :: args :: _)) =>
      match ← object? args with
      | some (.tuple xs) => return some (make, xs)
      | _ => typeError "the arguments must be a tuple"
    | _ => typeError "__reduce__ must return a tuple"

mutual
/-- A deep copy, `fuel` levels deep. With `anew` tuples are made anew as well. -/
def deep (m : Machine) (anew : Bool) : Nat → Memo → Value → Act (Value × Memo)
  | 0, _, _ => throw .exhausted
  | fuel + 1, memo, v => do
    match v with
    | .ref r =>
      match memo.lookup r with
      | some w => return (w, memo)
      | none =>
        match ← read r with
        | .list xs =>
          let copy ← alloc (.list [])
          let (ys, memo) ← deepAll m anew fuel ((r, .ref copy) :: memo) xs
          write copy (.list ys)
          return (.ref copy, memo)
        | .tuple xs =>
          let (ys, memo) ← deepAll m anew fuel memo xs
          if xs == ys && (!anew || xs.isEmpty) then return (v, memo)
          let copy ← allocValue (.tuple ys)
          return (copy, (r, copy) :: memo)
        | .dict es =>
          let copy ← alloc (.dict [])
          let (ks, memo) ← deepAll m anew fuel ((r, .ref copy) :: memo) (es.map (·.1))
          let (vs, memo) ← deepAll m anew fuel memo (es.map (·.2))
          write copy (.dict (ks.zip vs))
          return (.ref copy, memo)
        | .set xs frozen =>
          let (ys, memo) ← deepAll m anew fuel memo xs
          let copy ← allocValue (.set ys frozen)
          return (copy, (r, copy) :: memo)
        | .result isOk payload =>
          let copy ← alloc (.result isOk payload)
          let (w, memo) ← deep m anew fuel ((r, .ref copy) :: memo) payload
          write copy (.result isOk w)
          return (.ref copy, memo)
        | .exception c _ _ (.envelope inner trail) _ =>
          let (inner, memo) ← deep m anew fuel memo inner
          let (trail, memo) ← deep m anew fuel memo (.ref trail)
          let copy ← m.call c [inner, trail] []
          return (copy, (r, copy) :: memo)
        | .exception c args _ _ fields =>
          let args := match args, fields.lookup "filename" with
            | [a, b], some f => [a, b, f]
            | args, _ => args
          let (make, args, fields) ← match ← recipe? m v with
            | some (make, args) => pure (make, args, [])
            | none => pure (c, args, fields)
          let (args, memo) ← deepAll m anew fuel memo args
          let copy ← m.call make args []
          let (values, memo) ← deepAll m anew fuel ((r, copy) :: memo) (fields.map (·.2))
          for (name, w) in (fields.map (·.1)).zip values do
            m.setMember copy name w
          return (copy, memo)
        | .instanceOf c fields =>
          let copy ← alloc (.instanceOf c [])
          let (values, memo) ← deepAll m anew fuel ((r, .ref copy) :: memo) (fields.map (·.2))
          write copy (.instanceOf c ((fields.map (·.1)).zip values))
          return (.ref copy, memo)
        | _ => return (v, memo)
    | v => return (v, memo)

def deepAll (m : Machine) (anew : Bool) : Nat → Memo → List Value → Act (List Value × Memo)
  | 0, _, _ => throw .exhausted
  | _ + 1, memo, [] => return ([], memo)
  | fuel + 1, memo, v :: vs => do
    let (w, memo) ← deep m anew fuel memo v
    let (ws, memo) ← deepAll m anew fuel memo vs
    return (w :: ws, memo)
end

/-- A copy of an envelope that holds the same error and a list of the same locations. -/
def shallow (m : Machine) (v : Value) : Act Value := do
  match ← object? v with
  | some (.exception c _ _ (.envelope inner trail) _) => m.call c [inner, .ref trail] []
  | some (.exception c args _ _ fields) => do
    let copy ← m.call c args []
    for (name, w) in fields do
      m.setMember copy name w
    return copy
  | some (.list xs) => allocValue (.list xs)
  | some (.dict es) => allocValue (.dict es)
  | some (.set xs false) => allocValue (.set xs false)
  | some (.result isOk payload) => Outcome.make isOk payload
  | some (.instanceOf c fields) => allocValue (.instanceOf c fields)
  | _ => return v

end Copy

end ErrorTrail
