import ErrorTrail.Program.Evaluator

/-!
# Sessions

Running whole files and expressions. A session holds the machine and the modules that a file can
import; each file runs with global names of its own.

* `Session.load` runs a file, `Session.evaluate` an expression among the names of a file.
* `Session.annotated` lists the annotated functions of a file, `Session.sites` their sites.
-/

namespace ErrorTrail

open Syntax

/-- A session: the machine that runs its programs. -/
structure Session where
  machine : Machine
  deriving Inhabited

namespace Session

open Act

/-! ### The library in programs -/

/-- What a program can be given of the library, by name. -/
def libraryValues : Fields :=
  (libraryFunctions.map fun name => (name, Value.native name))
    ++ [Kind.result, .location, .report, .envelope, .propagation, .transformError, .errorCode,
        .capability].map fun k => (k.name, .kind k)

/-- The features that a file can ask for, as the names of a module. -/
def featureValues : Act Fields :=
  futureFeatures.mapM fun name => return (name, ← allocValue (.instanceOf (.kind .object) []))

/-- The library's own modules, each with the names that it gives. -/
def libraryModules : List (String × List String) :=
  let errors := ["ErrorCode", "TransformError", "Result", "Ok", "Err", "Propagation", "Location",
    "WherrReport", "sequence", "traverse", "collect_results"]
  let core := ["wherr", "early_return", "is_instrumented"]
  let sites := ["Wherr", "WherrError", "wherrapper"]
  [("wherr", core ++ sites ++ errors ++ ["instrument_function"]), ("wherr.core", core),
    ("wherr.runtime", sites), ("wherr.foundation", errors), ("wherr.foundation.errors", errors),
    ("wherr.transform", ["instrument_function"])]

/-- A new module. -/
def newModule (name : String) (fields : Fields) : Act (String × Value) := do
  return (name, ← allocValue (.module name fields))

/-- The modules that programs can import. -/
def newModules : Act Fields := do
  let own ← libraryModules.mapM fun (name, names) =>
    newModule name (names.filterMap fun n => (libraryValues.lookup n).map fun v => (n, v))
  let tools ← newModule "functools" (functionTools.map fun n => (n, .native ("functools." ++ n)))
  let paths ← newModule "pathlib" [("Path", .kind .path), ("PurePath", .kind .path),
    ("PosixPath", .kind .path), ("PurePosixPath", .kind .path)]
  let features ← newModule "__future__" (← featureValues)
  return own ++ [tools, paths, features]

/-- A new session in a world, which gets the modules. -/
def start (world : World) : Act Session := do
  let modules ← newModules
  return ⟨Machine.standard { world with modules }⟩

/-! ### Files and expressions -/

/-- New global names for a file. -/
def newGlobals (name : String) (names : Fields) : Act Ref :=
  alloc (.space (("__name__", .str name) :: names))

/-- Raises the error of a text that does not compile. -/
def failCompile {α : Type} (e : CompileError) : Act α :=
  let k := match e with
    | .malformed .indentation => Kind.indentationError
    | .malformed .tabs => .tabError
    | _ => .syntaxError
  fail k "invalid syntax"

def rejectNull (source : String) : Act Unit := do
  if source.contains (Char.ofNat 0) then
    fail .valueError "source code string cannot contain null bytes"

/-- Runs a file among global names. -/
def load (s : Session) (globals : Ref) (file source : String) : Act Unit := do
  rejectNull source
  match compileFile source with
  | .error e => failCompile e
  | .ok t =>
    let body := (t.child 0).items
    let documentation := documentationValue body
    if documentation != .none then Env.put globals "__doc__" documentation
    let _ ← s.machine.execute (Env.ofFile globals file (evaluatesAnnotations t)) body

/-- The value of an expression among global names. A coroutine is run to its end. -/
def evaluate (s : Session) (globals : Ref) (source : String) : Act Value := do
  rejectNull source
  match parseExpression source with
  | .error m => failCompile (.malformed m)
  | .ok t =>
    if !t.compilesWith true then failCompile .inadmissible
    let v ← s.machine.evaluate (Env.ofFile globals "<string>" true) t
    match ← object? v with
    | some (.coroutine _ _ _ _ _) => s.machine.awaitValue v
    | _ => return v

/-! ### Annotated functions -/

/-- The functions that a file has defined among its global names. -/
def functions (globals : Ref) : Act Fields := do
  let names ← Env.namesIn globals
  let own := names.lookup "__name__"
  names.filterM fun (_, v) => do
    match ← object? v with
    | some (.function f) => return f.fields.lookup "__module__" == own
    | _ => return false

/-- The sites of the functions of a file that have them. -/
def sites (s : Session) (globals : Ref) : Act (List (String × List Location)) := do
  (← functions globals).filterMapM fun (name, v) => do
    match ← s.machine.member? v "__wherr_sites__" with
    | some held => return some (name, Envelope.locations (← s.machine.items held))
    | none => return none

/-- The names of the annotated functions of a file. -/
def annotated (s : Session) (globals : Ref) : Act (List String) := do
  return (← (← functions globals).filterM fun f =>
    LibraryFunction.isInstrumented s.machine f.2).map (·.1)

end Session

end ErrorTrail
