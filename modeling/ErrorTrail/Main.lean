import ErrorTrail.Command

/-!
# Command line

Runs the commands on real files, with settings from the environment and the file `.env`.
-/

namespace ErrorTrail

/-- The variables that settings are read from. -/
def settingVariables : List String :=
  ["WHERR_ENABLED", "WHERR_PATH_STYLE", "WHERR_PATH_ROOT", "WHERR_LOGGING", "WHERR_LOGGING__LEVEL",
    "WHERR_LOG_LEVEL"]

/-- The setting variables of the environment. -/
def readEnvironment : IO (List (String × String)) := do
  let mut found := []
  for name in settingVariables do
    if let some value ← IO.getEnv name then
      found := found ++ [(name, value)]
  return found

/-- What stands at a path of the file system. -/
def readEntry (path : String) : IO Entry := do
  try
    return .file (← IO.FS.readBinFile path)
  catch _ => return .missing

def readTextFile? (path : String) : IO (Option String) := do
  try
    return some (← IO.FS.readFile path)
  catch _ => return none

/-- What surrounds a command. -/
def readHost : IO Host := do
  let directory ← try
      pure (some (pathNames (← IO.currentDir).toString))
    catch _ => pure none
  return ⟨⟨[], ← readEnvironment, ← readTextFile? ".env"⟩, directory⟩

/-- The text that tells why a command broke off. -/
def CommandError.text : CommandError → String
  | .settings (.invalid issues) =>
    "\n".intercalate (issues.map fun i => i.complaint.message)
  | .settings .unreadable => "error parsing value for field \"logging\""
  | .undecodable => "the file is not encoded in UTF-8"
  | .build _ => "the file cannot be built"

/-- Writes the file of an ending and shows what it has to tell. -/
def finish (ending : Ending) : IO UInt32 := do
  if let some (path, text) := ending.written then
    let parent : Path := ⟨path.root, path.parts.dropLast⟩
    IO.FS.createDirAll parent.text
    IO.FS.writeFile path.text text
  IO.print ending.shown
  IO.eprint ending.said
  return ending.exit.toUInt32

end ErrorTrail

open ErrorTrail in
def main (words : List String) : IO UInt32 := do
  let host ← readHost
  let source := match splitCommand words with
    | .ok (name, rest) => match Command.parse name rest with
      | .ok c => c.source
      | .error _ => ""
    | .error _ => ""
  let entry ← readEntry source
  match runCommand host (fun _ => entry) words with
  | .ok ending => finish ending
  | .error e =>
    IO.eprintln e.text
    return 1
