import ErrorTrail.Program.Definition
import ErrorTrail.Program.Native.Library
import ErrorTrail.Site.Recompilation
import ErrorTrail.Site.Target

/-!
# Annotating functions

What the annotation does to a function of a running program: it is recompiled from its text with its
sites instrumented, keeps its captured variables, and gets a boundary around it. A function that is
annotated already stays as it is.
-/

namespace ErrorTrail

open Syntax

namespace Annotate

open Act

/-- Raises a refusal; the error that it tells of is its cause. -/
def refuse {α : Type} (r : Refusal) : Act α := do
  let cause ← match r.cause with
    | some name =>
      let special := [Kind.osError, .syntaxError, .indentationError, .tabError]
      match special.find? fun k => k.name == name with
      | some k => newException k [.str (r.message.drop (name.length + 2)).copy]
      | none => pure .none
    | none => pure .none
  raise (← allocValue (.exception (.kind .transformError) [.str r.text] cause (.refusal r) []))

/-- Raises the error of a path. -/
def failPath {α : Type} : PathError → Act α
  | .nullCharacter => fail .valueError "embedded null byte"
  | .noDirectory => do
    let (args, fields) := Construct.systemError [.int 2, .str "No such file or directory"]
    raise (← allocValue (.exception (.kind .fileNotFoundError) args .none .plain fields))

/-- What the annotation knows of a value. -/
def targetOf (m : Machine) (v : Value) : Act Target := do
  let named ← match ← m.member? v "__qualname__" with
    | some x => if ← m.truth x then pure (some x) else pure none
    | none => pure none
  let label ← match named with
    | some x => m.text x
    | none => m.repr v
  let className ← kindName v
  match ← object? v with
  | some (.function f) =>
    let generates := match f.body with
      | .tree _ _ _ _ _ _ generator => generator
      | .boundary _ _ => false
    return { label, className, isFunction := true, name := f.name, generates
             wraps := ← m.hasMember v "__wrapped__" }
  | _ =>
    match v with
    | .native name =>
      return { label, className, isFunction := nativeKind name = .function, name }
    | _ => return { label, className }

/-- Refuses what cannot be annotated. -/
def check (m : Machine) (v : Value) : Act Unit := do
  match (← targetOf m v).check with
  | .ok _ => return
  | .error r => refuse r

/-- The settings of the program. -/
def settings (m : Machine) : Act Settings := do
  match m.world.settings with
  | .ok s => return s
  | .error (.invalid issues) =>
    raise (← allocValue (.exception (.kind .validationError) [] .none (.faults issues) []))
  | .error .unreadable => fail .settingsError "error parsing value"

/-- Raises the error of a function that cannot be recompiled. -/
def failRecompile {α : Type} : RecompileError → Act α
  | .refused r => refuse r
  | .unclosed => fail .tokenError "EOF in multi-line statement"
  | .nullCharacter => fail .valueError "source code string cannot contain null bytes"
  | .path e => failPath e
  | .unlocated => fail .attributeError "lineno"
  | .ownerMalformed m =>
    let k := match m with
      | .grammar => Kind.syntaxError
      | .indentation => .indentationError
      | .tabs => .tabError
    fail k "invalid syntax"
  | .ownerOther => fail .assertionError ""

/-- The function of the recompiled definition, with the values of the function's defaults and its
captured variables. -/
def rebuilt (f : Function) (site : Site) (r : Recompiled) : Act Value := do
  let hook ← alloc (.cell (some (.native "wherrapper")))
  let cells := (r.scope.captured r.around).filterMap fun n =>
    if n = r.hook then some (n, hook) else (f.closure.lookup n).map fun c => (n, c)
  match r.definition with
  | .node (.functionDef asynchronous _) span [args, body, _, _] =>
    allocValue (.function { f with
      locals := (match r.owner with
        | some o =>
          (if f.closure.any (·.1 == o) then factoryName ++ "." ++ localsMark ++ "." else "")
          ++ o ++ "." ++ f.name
        | none =>
          (if f.closure.any (·.1 == f.name) then factoryName ++ "." ++ localsMark ++ "." else "")
            ++ f.name) ++ "." ++ localsMark ++ "."
      body := .tree args body (r.scope.own r.around) (r.scope.offers r.around)
        { site with owner := r.owner } asynchronous (generates site.eager body)
      closure := cells
      line := definitionLine [] span
      fields := [("__module__", .none), ("__doc__", .none)] })
  | _ => fail .systemError "no definition"

/-- The message about an instrumented function. -/
def message (path : String) (sites : List Location) : LogRecord :=
  ⟨.debug, "instrumented " ++ path ++ ": " ++ toString sites.length ++ " propagation site(s)"⟩

/-- The style and the directory that arguments give in place of the settings. -/
def displayOf (m : Machine) (s : Settings) (named : Fields) : Act (PathStyle × Option Path) := do
  let style ← match named.lookup "path_style" with
    | some v =>
      if ← m.truth v then
        pure (match v with
          | .str "full" => PathStyle.full
          | .str "name" => .name
          | _ => .relative)
      else pure s.pathStyle
    | none => pure s.pathStyle
  match named.lookup "path_root" with
  | some (.str t) => return (style, if t.isEmpty then s.pathRoot else some (Path.ofText t))
  | some v =>
    match ← object? v with
    | some (.path p) => return (style, some p)
    | _ => return (style, s.pathRoot)
  | none => return (style, s.pathRoot)

/-- A copy of a function of the library, none of which has a site. -/
def copyLibrary (m : Machine) (v : Value) (name : String) : Act Value := do
  let copy ← allocValue (.function { name, path := name, body := .boundary v false })
  let copy ← LibraryFunction.updateWrapper m copy v
  m.setMember copy "__wherr_sites__" (← allocValue (.tuple []))
  log (message name [])
  return copy

/-- A copy of a function whose sites are instrumented. -/
def instrumentFunction (m : Machine) (args : List Value) (named : Fields) : Act Value := do
  let v ← match args, named.lookup "func" with
    | [v], none => pure v
    | [], some v => pure v
    | _, _ => typeError "instrument_function() takes 1 positional argument"
  if named.any fun f => !(["func", "path_style", "path_root"].contains f.1) then
    typeError "unexpected keyword argument"
  check m v
  let s ← settings m
  match ← object? v with
  | some (.function f) =>
    match f.body with
    | .tree _ _ _ _ site _ _ =>
      let (style, root) ← displayOf m s named
      let live : LiveFunction :=
        { name := f.name, path := f.path, file := f.file, line := f.line
          captured := f.closure.map (·.1), eager := site.eager }
      match live.recompile (m.world.disk f.file) (displayPath m.world.directory style root f.file) with
      | .error e => failRecompile e
      | .ok r =>
        let wrapped ← LibraryFunction.updateWrapper m (← rebuilt f site r) v
        m.setMember wrapped "__wherr_sites__" (← allocValue (.tuple (r.sites.map .location)))
        log (message f.path r.sites)
        return wrapped
    | .boundary _ _ =>
      refuse (.because .sourceUnavailable "OSError" "could not get source code" f.path)
  | _ =>
    match v with
    | .native name => copyLibrary m v name
    | _ => typeError "not a function"

/-- What the annotation makes of a function. -/
def annotate (m : Machine) (v : Value) : Act Value := do
  if ← LibraryFunction.isInstrumented m v then return v
  check m v
  let target ← if (← settings m).enabled then instrumentFunction m [v] [] else pure v
  let boundary ← LibraryFunction.earlyReturn m target
  m.setMember boundary LibraryFunction.marker (.bool true)
  return boundary

end Annotate

end ErrorTrail
