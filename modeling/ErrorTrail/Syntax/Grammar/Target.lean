import ErrorTrail.Syntax.Grammar.Reader

/-!
# Targets

An expression that can be assigned or deleted is a name, an attribute, a subscript, or a display of
such; `SyntaxTree.retarget` gives it the context it has as a target.
-/

namespace ErrorTrail.Syntax

namespace SyntaxTree

variable {α : Type}

mutual
/-- The expression as a target; only an assigned one may be starred. -/
def retarget (ctx : Context) : SyntaxTree α → Option (SyntaxTree α)
  | node (.name id _) a cs => some (node (.name id ctx) a cs)
  | node (.attribute attr _) a cs => some (node (.attribute attr ctx) a cs)
  | node (.subscript _) a cs => some (node (.subscript ctx) a cs)
  | node (.starred _) a cs =>
    if ctx = .store then (retargetItems ctx cs).map (node (.starred ctx) a) else none
  | node (.list _) a cs => (retargetItems ctx cs).map (node (.list ctx) a)
  | node (.tuple _) a cs => (retargetItems ctx cs).map (node (.tuple ctx) a)
  | node .sequence a cs => (retargetItems ctx cs).map (node .sequence a)
  | _ => none

def retargetItems (ctx : Context) : List (SyntaxTree α) → Option (List (SyntaxTree α))
  | [] => some []
  | t :: ts => do
    let t' ← retarget ctx t
    let ts' ← retargetItems ctx ts
    some (t' :: ts')
end

/-- Whether a target is a single place: a name, an attribute or a subscript. -/
def isSingleTarget : SyntaxTree α → Bool
  | node (.name _ _) _ _ => true
  | node (.attribute _ _) _ _ => true
  | node (.subscript _) _ _ => true
  | _ => false

end SyntaxTree

namespace Reader

/-- The expression as a target, or a fault of grammar. -/
def asTarget (ctx : Context) (t : Parsed) : Reader Parsed :=
  match t.retarget ctx with
  | some t' => pure t'
  | none => throw .grammar

/-- One or more targets before the word `in` or an end, a tuple if there is a comma. -/
def targets (self : Rule → Reader Parsed) : Reader Parsed := do
  let first ← line
  let (items, comma) ← commaList startsStarred (self .target)
  match items, comma with
  | [t], false => pure t
  | ts, _ => mk (.tuple .store) first [many ts]

/-- A target, starred ones included. -/
def target (self : Rule → Reader Parsed) (primary : Reader Parsed) : Reader Parsed := do
  let first ← line
  if ← acceptOp "*" then
    if ← isOp "*" then fault
    let t ← self .target
    mk (.starred .store) first [t]
  else asTarget .store (← primary)

end Reader

end ErrorTrail.Syntax
