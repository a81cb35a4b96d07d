import ErrorTrail.Program.Native.Library
import ErrorTrail.Program.Target

/-!
# Patterns

Whether a value fits a pattern, and which names the pattern captures then. Names are given their
values only after the whole pattern fits.
-/

namespace ErrorTrail

open Syntax

/-- The names that a pattern captures. -/
abbrev Captures := List (String × Value)

/-- The built-in classes whose pattern with one part takes the whole value. -/
def Kind.matchesWhole : List Kind :=
  [.bool, .bytes, .dict, .float, .frozenset, .int, .list, .set, .str, .tuple]

namespace Machine

open Act

variable (m : Machine)

/-- The items of a sequence that a pattern can take apart. -/
def sequence? (v : Value) : Act (Option (List Value)) := do
  match ← object? v with
  | some (.list xs) => return some xs
  | some (.tuple xs) => return some xs
  | some (.range a b c) => return (Obj.range a b c).items?
  | _ => return none

/-- The entries of a mapping that a pattern can take apart. -/
def mapping? (v : Value) : Act (Option (List (Value × Value))) := do
  match ← object? v with
  | some (.dict es) => return some es
  | some (.space fs) => return some (fs.map fun f => (.str f.1, f.2))
  | _ => return none

/-- The captures of two parts that both have to fit. -/
def both (first : Act (Option Captures)) (second : Act (Option Captures)) :
    Act (Option Captures) := do
  match ← first with
  | none => return none
  | some a =>
    match ← second with
    | none => return none
    | some b => return some (a ++ b)

/-- The parts of a value that the positional parts of a class pattern are about. -/
def positionalParts (c v : Value) (n : Nat) : Act (Option (List Value)) := do
  if n = 0 then return some []
  let whole := match c with
    | .kind k => Kind.matchesWhole.contains k
    | _ => false
  if whole then
    if n = 1 then return some [v] else typeError "accepts 1 positional sub-pattern"
  match ← m.member? c "__match_args__" with
  | none => typeError "accepts 0 positional sub-patterns"
  | some names =>
    let names ← m.items names
    if names.length < n then typeError "accepts fewer positional sub-patterns"
    let parts ← (names.take n).mapM fun name => do
      match name with
      | .str s => m.member? v s
      | _ => typeError "__match_args__ elements must be strings"
    return parts.mapM id

/-- The values of the keys of a mapping pattern, if the mapping has all of them. -/
def valuesAt (entries : List (Value × Value)) (keys : List Value) : Act (Option (List Value)) := do
  return (← keys.mapM (m.lookup? entries)).mapM id

/-- The entries of a mapping without some keys, as a dictionary. -/
def otherEntries (entries : List (Value × Value)) (keys : List Value) : Act Value := do
  let others ← entries.filterM fun e => return !(← m.contained e.1 keys)
  allocValue (.dict others)

def captureOf (name : Option String) (v : Value) : Captures := (name.map fun n => (n, v)).toList

def isStarPattern : SyntaxTree Span → Bool
  | .node (.matchStar _) _ _ => true
  | _ => false

mutual
/-- What a pattern captures of a value that fits it. -/
def matchPattern (env : Env) : SyntaxTree Span → Value → Act (Option Captures)
  | .node .matchValue _ [value], v => do
    return if ← m.equal v (← m.evaluate env value) then some [] else none
  | .node (.matchSingleton c) _ _, v =>
    let fits : Bool := match c with
      | .none => v == .none
      | .true => v == .bool true
      | .false => v == .bool false
      | _ => false
    return if fits then some [] else none
  | .node .matchSequence _ [.node .sequence _ patterns], v => do
    match ← sequence? v with
    | none => return none
    | some xs =>
      match patterns.findIdx? isStarPattern with
      | none => if xs.length = patterns.length then matchEach env patterns xs else return none
      | some i =>
        let after := patterns.length - i - 1
        if xs.length < i + after then return none
        let middle := (xs.drop i).take (xs.length - i - after)
        let held ← allocValue (.list middle)
        matchEach env patterns (xs.take i ++ held :: xs.drop (xs.length - after))
  | .node (.matchMapping rest) _ [.node .sequence _ keys, .node .sequence _ patterns], v => do
    match ← mapping? v with
    | none => return none
    | some entries =>
      let keys ← keys.mapM (m.evaluate env)
      match ← m.valuesAt entries keys with
      | none => return none
      | some values =>
        both (matchEach env patterns values) do
          if rest.isSome then return some (captureOf rest (← m.otherEntries entries keys))
          else return some []
  | .node (.matchClass attrs) _ [cls, .node .sequence _ patterns, .node .sequence _ named], v => do
    let c ← m.evaluate env cls
    if !(← isClass c) then typeError "called match pattern must be a class"
    if !(← LibraryFunction.instanceIn m v 50 c) then return none
    match ← m.positionalParts c v patterns.length with
    | none => return none
    | some parts =>
      both (matchEach env patterns parts) do
        match (← attrs.mapM fun a => m.member? v (env.spell a)).mapM id with
        | none => return none
        | some values => matchEach env named values
  | .node (.matchStar name) _ _, v => return some (captureOf name v)
  | .node (.matchAs name) _ [.node .absent _ _], v => return some (captureOf name v)
  | .node (.matchAs name) _ [inner], v =>
    both (matchPattern env inner v) (return some (captureOf name v))
  | .node .matchOr _ [.node .sequence _ patterns], v => matchFirst env patterns v
  | _, _ => return none
termination_by structural t => t

/-- Every pattern on its value. -/
def matchEach (env : Env) : List (SyntaxTree Span) → List Value → Act (Option Captures)
  | [], [] => return some []
  | t :: ts, x :: xs => both (matchPattern env t x) (matchEach env ts xs)
  | _, _ => return none

/-- The first pattern that a value fits. -/
def matchFirst (env : Env) : List (SyntaxTree Span) → Value → Act (Option Captures)
  | [], _ => return none
  | t :: ts, v => do
    match ← matchPattern env t v with
    | some captures => return some captures
    | none => matchFirst env ts v
end

/-- Gives captured names their values. -/
def bindCaptures (env : Env) (captures : Captures) : Act Unit :=
  captures.forM fun (name, v) => env.assign name v

/-- The body of the first case that a value fits. -/
def chooseCase (env : Env) (v : Value) :
    List (SyntaxTree Span) → Act (Option (List (SyntaxTree Span)))
  | [] => return none
  | .node .matchCase _ [pattern, guard, body] :: cases => do
    match ← m.matchPattern env pattern v with
    | none => chooseCase env v cases
    | some captures =>
      bindCaptures env captures
      let holds ← if guard.isAbsent then pure true else do m.truth (← m.evaluate env guard)
      if holds then return some body.items else chooseCase env v cases
  | _ :: cases => chooseCase env v cases

end Machine

end ErrorTrail
