import ErrorTrail.Refusal

/-!
# Targets

What can be annotated: a plain function that has a name, does not generate and wraps no other
function.
-/

namespace ErrorTrail

/-- What is known of an object that is to be annotated. -/
structure Target where
  /-- the qualified name, or the representation of what has none -/
  label : String
  /-- the name of its class -/
  className : String
  isFunction : Bool := false
  name : String := ""
  generates : Bool := false
  /-- whether it wraps another function -/
  wraps : Bool := false
  deriving DecidableEq, Repr, Inhabited

namespace Target

/-- The name of a function written as an expression. -/
def lambdaName : String := "<lambda>"

/-- Why an object cannot be annotated, if it cannot. -/
def objection? (t : Target) : Option Refusal :=
  let refusal (code : Refusal.Code) (message : String) : Option Refusal :=
    some { code, message, target := t.label }
  if !t.isFunction then
    refusal .notAFunction ("@wherr applies to functions, not " ++ t.className)
  else if t.name = lambdaName then
    refusal .notAFunction "lambdas have no early-return boundary; use a def"
  else if t.generates then
    refusal .unsupported "generator functions cannot return a Result"
  else if t.wraps then
    refusal .notInnermost "@wherr must be the innermost decorator"
  else none

/-- Refuses an object that cannot be annotated. -/
def check (t : Target) : Except Refusal Unit :=
  match t.objection? with
  | some r => .error r
  | none => .ok ()

end Target

end ErrorTrail
