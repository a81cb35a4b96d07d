import ErrorTrail.Program.Numeric

/-!
# Truth and length

Which values count as true, and how many items a value holds. A class of a program says so by its
methods `__bool__` and `__len__`.
-/

namespace ErrorTrail

/-- How many numbers a range holds. -/
def rangeLength (start stop step : Int) : Nat :=
  if step > 0 then (if start < stop then ((stop - start - 1) / step + 1).toNat else 0)
  else if step < 0 then (if stop < start then ((start - stop - 1) / (-step) + 1).toNat else 0)
  else 0

/-- How many items an object of a built-in class holds. -/
def Obj.length? : Obj → Option Nat
  | .list xs => some xs.length
  | .tuple xs => some xs.length
  | .dict es => some es.length
  | .set xs _ => some xs.length
  | .range a b c => some (rangeLength a b c)
  | .space fs => some fs.length
  | _ => none

namespace Machine

open Act

variable (m : Machine)

/-- The length of a value; `none` if it has none. -/
def length? (v : Value) : Act (Option Nat) := do
  match v with
  | .str s => return some s.length
  | .bytes bs => return some bs.length
  | .ref r =>
    let o ← read r
    let o ← match o with
      | .view _ dict => read dict
      | o => pure o
    match o.length? with
    | some n => return some n
    | none =>
      match ← userMethod v "__len__" with
      | none => return none
      | some f =>
        match ← m.call f [v] [] with
        | .int n =>
          if n < 0 then fail .valueError "__len__() should return >= 0" else return some n.toNat
        | .bool b => return some (if b then 1 else 0)
        | _ => typeError "a length is a whole number"
  | _ => return none

/-- Whether a value counts as true. -/
def truth (v : Value) : Act Bool := do
  match v with
  | .none => return false
  | .bool b => return b
  | .int n => return n != 0
  | .float bits _ => return !(Number.float bits).isZero
  | .str s => return !s.isEmpty
  | .bytes bs => return !bs.isEmpty
  | .ref r =>
    match ← read r with
    | .result isOk _ => return isOk
    | o =>
      match o.length? with
      | some n => return n != 0
      | none =>
        match ← userMethod v "__bool__" with
        | some f =>
          match ← m.call f [v] [] with
          | .bool b => return b
          | _ => typeError "__bool__ should return bool"
        | none =>
          match ← m.length? v with
          | some n => return n != 0
          | none => return true
  | _ => return true

end Machine

end ErrorTrail
