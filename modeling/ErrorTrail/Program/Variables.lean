import ErrorTrail.Program.Member
import ErrorTrail.Syntax.Placement

/-!
# Variables

How a running block reads, sets and deletes names. A variable of a function is a cell, which the
functions inside share; a class body and a file keep their names in a `space`. A name that is
nowhere is looked for among what every program knows.
-/

namespace ErrorTrail

open Syntax

/-- What every program knows under a name. -/
def builtinValue? (name : String) : Option Value :=
  if builtinFunctions.contains name then some (.native name)
  else match Kind.named.find? fun k => k.name == name with
    | some k => some (.kind k)
    | none =>
      match name with
      | "NotImplemented" => some .notImplemented
      | "Ellipsis" => some .ellipsis
      | "EnvironmentError" => some (.kind .osError)
      | "IOError" => some (.kind .osError)
      | "__debug__" => some (.bool true)
      | _ => none

namespace Env

open Act

/-- A name as this block spells it. -/
def spell (env : Env) (name : String) : String := privateName env.site.owner name

/-- The names in a space. -/
def namesIn (r : Ref) : Act Fields := do
  match ← Act.read r with
  | .space fs => return fs
  | _ => return []

/-- Sets a name in a space. -/
def put (r : Ref) (name : String) (v : Value) : Act Unit := do
  write r (.space ((← namesIn r).put name v))

/-- What a cell holds. -/
def content (r : Ref) : Act (Option Value) := do
  match ← Act.read r with
  | .cell v => return v
  | _ => return none

def unknown {α : Type} (name : String) : Act α :=
  fail .nameError ("name " ++ Text.quoted name ++ " is not defined")

/-- A name of the file or of every program. -/
def readGlobal (env : Env) (name : String) : Act Value := do
  match (← namesIn env.globals).lookup name with
  | some v => return v
  | none =>
    match builtinValue? name with
    | some v => return v
    | none =>
      if name = "__builtins__" then return .none else unknown name

/-- What a name that lives in cells holds. -/
def readCell (env : Env) (name : String) : Act Value := do
  let held ← match env.cells.lookup name with
    | some r => content r
    | none => pure none
  match held with
  | some v => return v
  | none =>
    if env.own.contains name then
      fail .unboundLocalError ("cannot access local variable " ++ Text.quoted name
        ++ " where it is not associated with a value")
    else
      fail .nameError ("cannot access free variable " ++ Text.quoted name
        ++ " where it is not associated with a value in enclosing scope")

/-- The value of a name. -/
def read (env : Env) (name : String) : Act Value := do
  let name := env.spell name
  match env.space with
  | some r =>
    match (← namesIn r).lookup name with
    | some v => return v
    | none => if env.outer.contains name then env.readCell name else env.readGlobal name
  | none =>
    if env.own.contains name || env.outer.contains name then env.readCell name
    else env.readGlobal name

/-- Gives a name a value. -/
def assign (env : Env) (name : String) (v : Value) : Act Unit := do
  let name := env.spell name
  match env.space, env.own.contains name, env.outer.contains name with
  | some r, true, _ => put r name v
  | none, false, false => put env.globals name v
  | some _, false, false => put env.globals name v
  | _, _, _ =>
    match env.cells.lookup name with
    | some r => write r (.cell (some v))
    | none => unknown name

/-- Takes the value of a name away. -/
def forget (env : Env) (name : String) : Act Unit := do
  let name := env.spell name
  let without (r : Ref) : Act Unit := do
    let fs ← namesIn r
    if fs.any (·.1 == name) then write r (.space (fs.erase name)) else unknown name
  match env.space, env.own.contains name, env.outer.contains name with
  | some r, true, _ => without r
  | none, false, false => without env.globals
  | some _, false, false => without env.globals
  | _, _, _ =>
    let _ ← env.readCell name
    match env.cells.lookup name with
    | some r => write r (.cell none)
    | none => unknown name

/-! ### Blocks inside -/

/-- New cells for names. -/
def newCells (names : List String) : Act (List (String × Ref)) :=
  names.mapM fun n => return (n, ← alloc (.cell none))

/-- The cells of this block that a block inside takes. -/
def captured (env : Env) (names : List String) : List (String × Ref) :=
  names.filterMap fun n => (env.cells.lookup n).map fun r => (n, r)

/-- The block of a comprehension that stands in this block. -/
def comprehension (env : Env) (title : String) (scope : Scope) : Act Env := do
  let captured := env.captured (scope.captured env.offers)
  let own := scope.own env.offers
  return { env with
    cells := (← newCells own) ++ captured, own, outer := captured.map (·.1), first := none,
    space := none, offers := scope.offers env.offers, site := env.site.into .comprehension,
    path := env.path ++ title ++ "." }

/-- The qualified name of something of that name that is defined in this block. -/
def pathOf (env : Env) (name : String) : String :=
  let spelled := env.spell name
  if env.own.contains spelled || env.outer.contains spelled then env.path ++ name else name

/-- The block of a whole file. -/
def ofFile (globals : Ref) (file : String) (eager : Bool) : Env :=
  { globals, file, site := { eager } }

end Env

/-- Whether a call of a function with this body gives a generator. -/
def generates (eager : Bool) (body : SyntaxTree Span) : Bool :=
  (judge (({ eager } : Standing).start (.function true)) body).yields

end ErrorTrail
