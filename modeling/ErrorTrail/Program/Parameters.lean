import ErrorTrail.Program.Machine

/-!
# Parameters

The parameters of a function and how the arguments of a call are given to them (`bind`). Arguments by
position fill the parameters from left to right, those by name go to the parameter of that name, and
what is left over is collected if the function asks for it. A parameter that gets nothing takes its
default.
-/

namespace ErrorTrail

open Syntax

/-- The parameters of a function. -/
structure Parameters where
  positionalOnly : List String := []
  positional : List String := []
  /-- collects the other arguments by position -/
  rest : Option String := none
  keywordOnly : List String := []
  /-- collects the other arguments by name -/
  keywordRest : Option String := none
  deriving DecidableEq, Repr, Inhabited

namespace Parameters

/-- The name of a parameter. -/
def nameOf? (owner : Option String) : SyntaxTree Span → Option String
  | .node (.arg name) _ _ => some (privateName owner name)
  | _ => none

/-- The parameters that a definition in the class `owner` lists. -/
def ofTree (owner : Option String) : SyntaxTree Span → Parameters
  | .node .arguments _ [positionalOnly, positional, rest, keywordOnly, _, keywordRest, _] =>
    let names (t : SyntaxTree Span) : List String := t.items.filterMap (nameOf? owner)
    ⟨names positionalOnly, names positional, nameOf? owner rest, names keywordOnly,
      nameOf? owner keywordRest⟩
  | _ => {}

/-- The parameters that arguments by position fill. -/
def places (p : Parameters) : List String := p.positionalOnly ++ p.positional

/-- The parameters that arguments by name can go to. -/
def named (p : Parameters) : List String := p.positional ++ p.keywordOnly

open Act

/-- What a parameter gets: what it is given, or its default. -/
def settle (given defaults : Fields) (name : String) : Act (String × Value) := do
  match (given.lookup name).orElse fun _ => defaults.lookup name with
  | some v => return (name, v)
  | none => typeError ("missing required argument: " ++ Text.quoted name)

/-- Gives the arguments of a call to the parameters. The defaults by position belong to the last
parameters. -/
def bind (p : Parameters) (defaults : List Value) (keywordDefaults : Fields) (args : List Value)
    (keywords : Fields) : Act Fields := do
  let byPosition := p.places.zip args
  let extra := args.drop p.places.length
  if p.rest.isNone && !extra.isEmpty then typeError "takes fewer positional arguments"
  let (fitting, others) := keywords.partition fun f => p.named.contains f.1
  if fitting.any fun f => byPosition.any (·.1 == f.1) then
    typeError "got multiple values for argument"
  if p.keywordRest.isNone && !others.isEmpty then typeError "got an unexpected keyword argument"
  let given := byPosition ++ fitting
  let ordered := (p.places.drop (p.places.length - defaults.length)).zip defaults
  let simple ← p.places.mapM (settle given ordered)
  let only ← p.keywordOnly.mapM (settle given keywordDefaults)
  let rest ← p.rest.toList.mapM fun name => return (name, ← allocValue (.tuple extra))
  let keywordRest ← p.keywordRest.toList.mapM fun name => do
    return (name, ← allocValue (.dict (others.map fun f => (.str f.1, f.2))))
  return simple ++ only ++ rest ++ keywordRest

end Parameters

end ErrorTrail
