import ErrorTrail.Log
import ErrorTrail.Site.Boundary
import ErrorTrail.Syntax.Compile
import ErrorTrail.Syntax.Printer.Statement

/-!
# Building instrumented files

The build step takes the text of a file to the text of the instrumented file, which imports the
package under an alias that the file does not use, and has to compile. A file without annotated
functions stays as it is.

* `encloseSource` reads a text and instruments its tree.
* `transformSource` gives the instrumented text.
* `findSites` lists the sites.
-/

namespace ErrorTrail

open Syntax

/-- What a build depends on besides the text: where settings come from, and the working directory
if there is one. -/
structure Host where
  sources : Sources := {}
  directory : Option Resolved := none
  deriving Repr, Inhabited

/-- Why a build fails. -/
inductive BuildError where
  /-- the text holds a null character; later versions of the parser refuse such a text -/
  | nullCharacter
  /-- the name of the file holds one -/
  | nullInName
  | refused (r : Refusal)
  | settings (e : SettingsError)
  | path (e : PathError)
  | unprintable (e : Unprintable)
  | unlocated
  deriving Repr

def BuildError.ofInstrument : InstrumentError → BuildError
  | .refused r => .refused r
  | .unlocated => .unlocated

/-- The name that an alias of the package begins with. -/
def aliasBase : String := "_wherr"

/-- The instrumented tree of a text, with the alias that it uses and what was done. -/
structure Enclosed where
  tree : SyntaxTree Span
  package : String
  record : Record
  deriving Repr, Inhabited

/-- Reads a text and instruments its tree. -/
def encloseSource (host : Host) (source file : String) : Except BuildError Enclosed := do
  if file.contains (Char.ofNat 0) then .error .nullInName
  if source.contains (Char.ofNat 0) then .error .nullCharacter
  let tree ← (parseFile source).mapError fun m =>
    .refused (.because .parseFailed m.kind "" file)
  let settings ← (Settings.load host.sources).mapError .settings
  let shown ← (displayPath host.directory settings.pathStyle settings.pathRoot file).mapError .path
  let package := freshName tree aliasBase
  let (tree, record) ← (encloseFile shown package tree).mapError .ofInstrument
  .ok ⟨tree, package, record⟩

/-- The text of an instrumented file, and the message about it if anything was instrumented. -/
structure Built where
  text : String
  log : Option LogRecord := none
  deriving DecidableEq, Repr, Inhabited

/-- The message about an instrumented file. -/
def buildMessage (file : String) (record : Record) : LogRecord :=
  ⟨.info, "rewrote " ++ (Path.ofText file).name ++ ": " ++ toString record.functions.length
    ++ " function(s), " ++ toString record.sites.length ++ " site(s)"⟩

/-- The text of the instrumented file. -/
def transformSource (host : Host) (source file : String) : Except BuildError Built := do
  let done ← encloseSource host source file
  if done.record.functions.isEmpty then .ok { text := source }
  else
    let printed ← (insertImport done.package done.tree).print.mapError .unprintable
    let output := printed ++ "\n"
    match compileFile output with
    | .error e => .error (.refused (.because .compileFailed e.kind "" file))
    | .ok _ => .ok { text := output, log := some (buildMessage file done.record) }

/-- The sites of a file, each with the dotted path of its function. -/
def findSites (host : Host) (source file : String) : Except BuildError (List (String × Location)) :=
  (encloseSource host source file).map fun done => done.record.sites

end ErrorTrail
