import ErrorTrail.Program.Machine

/-!
# Arguments of built-in functions

Brings the arguments of a call into the order of the parameters of a built-in function.
-/

namespace ErrorTrail

namespace Arguments

open Act

/-- What a parameter is given by position or by name. -/
def given (args : List Value) (named : Fields) (i : Nat) (name : String) : Option Value :=
  (args[i]?).orElse fun _ => named.lookup name

/-- The arguments in the order of the parameters `names`; too many, or of other names, are an
error. -/
def arrange (names : List String) (args : List Value) (named : Fields) :
    Act (List (Option Value)) := do
  if args.length > names.length then typeError "too many arguments"
  for (name, _) in named do
    match names.findIdx? (· == name) with
    | none => typeError ("unexpected keyword argument " ++ name)
    | some i => if i < args.length then typeError ("multiple values for argument " ++ name)
  return names.zipIdx.map fun (name, i) => given args named i name

/-- The single argument of a call. -/
def one (name : String) (args : List Value) (named : Fields) : Act Value := do
  match ← arrange [name] args named with
  | [some v] => return v
  | _ => typeError "missing argument"

/-- The two arguments of a call. -/
def two (a b : String) (args : List Value) (named : Fields) : Act (Value × Value) := do
  match ← arrange [a, b] args named with
  | [some v, some w] => return (v, w)
  | _ => typeError "missing argument"

/-- The arguments of a call that takes some or none. -/
def optional (name : String) (args : List Value) (named : Fields) : Act (Option Value) := do
  match ← arrange [name] args named with
  | [v] => return v
  | _ => return none

/-- Fails if there is any argument. -/
def nothing (args : List Value) (named : Fields) : Act Unit := do
  if !args.isEmpty || !named.isEmpty then typeError "no arguments are taken"

end Arguments

end ErrorTrail
