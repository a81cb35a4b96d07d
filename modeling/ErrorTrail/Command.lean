import ErrorTrail.Folder
import ErrorTrail.Site.Build

/-!
# Commands

The build step as commands: `build` gives the instrumented text of a file, `sites` lists the sites in
it. What a command does is a value, an `Ending`, so that reading and writing files stays outside.

* `Command.parse` reads the words of a command line.
* `runCommand` answers them.
-/

namespace ErrorTrail

/-- What is asked for. -/
inductive Command where
  | build (source : String) (output : Option String)
  | sites (source : String)
  deriving DecidableEq, Repr, Inhabited

/-- How a command ends: its exit code, what it shows, what it says beside that, and the file it
writes. -/
structure Ending where
  exit : Nat := 0
  shown : String := ""
  said : String := ""
  written : Option (Path × String) := none
  deriving DecidableEq, Repr, Inhabited

/-- Why a command breaks off without an ending. -/
inductive CommandError where
  | settings (e : SettingsError)
  | undecodable
  | build (e : BuildError)
  deriving Repr

/-! ### Words -/

/-- The words of a command after its name: those in their places, the file to write, and whether
help is asked for. -/
structure Words where
  plain : List String := []
  output : Option String := none
  help : Bool := false
  deriving DecidableEq, Repr, Inhabited

/-- How a command is used. -/
inductive Usage where
  | wrong
  | help
  deriving DecidableEq, Repr, Inhabited

def outputOption : String := "--output"

/-- Reads words: `-o FILE`, `-oFILE`, `--output FILE` and `--output=FILE` name the file to write if
the command writes one; after `--` every word stands for itself. -/
def readWords (writes : Bool) : List String → Words → Option Words
  | [], done => some done
  | "--" :: rest, done => some { done with plain := done.plain ++ rest }
  | word :: rest, done =>
    if word = "--help" then readWords writes rest { done with help := true }
    else if word.length ≤ 1 || !word.startsWith "-" then
      readWords writes rest { done with plain := done.plain ++ [word] }
    else if !writes then none
    else if word.startsWith (outputOption ++ "=") then
      readWords writes rest { done with output := some (word.drop (outputOption.length + 1)).copy }
    else if word.startsWith "-o" && word.length > 2 then
      readWords writes rest { done with output := some (word.drop 2).copy }
    else if word = outputOption || word = "-o" then
      match rest with
      | value :: rest => readWords writes rest { done with output := some value }
      | [] => none
    else none

/-- The names of the commands. -/
def commandNames : List String := ["rewrite", "sites"]

/-- The name of the command and the words after it. -/
def splitCommand : List String → Except Usage (String × List String)
  | [] => .error .wrong
  | "--help" :: _ => .error .help
  | "--" :: name :: rest => if commandNames.contains name then .ok (name, rest) else .error .wrong
  | name :: rest => if commandNames.contains name then .ok (name, rest) else .error .wrong

namespace Command

/-- Reads the words after the name of a command. -/
def parse (name : String) (words : List String) : Except Usage Command :=
  match readWords (name == "rewrite") words {} with
  | none => .error .wrong
  | some w =>
    if w.help then .error .help
    else match w.plain with
      | [source] => .ok (if name = "rewrite" then .build source w.output else .sites source)
      | _ => .error .wrong

/-- The file that a command reads. -/
def source : Command → String
  | build s _ => s
  | sites s => s

/-- Line breaks of every kind as line feeds. -/
def lineFeeds : List Char → List Char
  | [] => []
  | '\r' :: '\n' :: cs => '\n' :: lineFeeds cs
  | '\r' :: cs => '\n' :: lineFeeds cs
  | c :: cs => c :: lineFeeds cs

/-- The text of a file. -/
def fileText? (content : ByteArray) : Option String :=
  (String.fromUTF8? content).map fun s => String.ofList (lineFeeds s.toList)

/-- What a command says about a refusal. -/
def refused (r : Refusal) : Ending := { exit := 1, said := "error: " ++ r.text ++ "\n" }

/-- The line of a site in the list. -/
def siteLine (site : String × Location) : String := site.2.text ++ "\t" ++ site.1 ++ "\n"

/-- What a command makes of the text of its file. -/
def answer (host : Host) (level : LogLevel) (text : String) : Command → Except BuildError Ending
  | build source output => do
    let built ← transformSource host text (Path.ofText source).text
    let logged := match built.log with
      | some r => if r.isShown level then r.text ++ "\n" else ""
      | none => ""
    match output with
    | none => return { shown := built.text, said := logged }
    | some file =>
      let path := Path.ofText file
      return { said := logged ++ "wrote " ++ path.text ++ "\n", written := some (path, built.text) }
  | sites source => do
    let found ← findSites host text (Path.ofText source).text
    return {
      shown := String.join (found.map siteLine)
      said := if found.isEmpty then "no propagation sites in @wherr functions\n" else "" }

/-- What a command makes of what stands at the path of its file. -/
def run (host : Host) (level : LogLevel) (c : Command) : Entry → Except CommandError Ending
  | .file content =>
    match fileText? content with
    | none => .error .undecodable
    | some text =>
      match c.answer host level text with
      | .ok ending => .ok ending
      | .error (.refused r) => .ok (refused r)
      | .error e => .error (.build e)
  | _ => .ok { exit := 2 }

end Command

/-- How the commands are used. -/
def usageText : String :=
  "Usage: wherr rewrite [-o FILE] SOURCE\n       wherr sites SOURCE\n"

def Usage.ending : Usage → Ending
  | .wrong => { exit := 2, said := usageText }
  | .help => { shown := usageText }

/-- Answers a command line. The settings are read before the words after the command's name. -/
def runCommand (host : Host) (find : String → Entry) (words : List String) :
    Except CommandError Ending :=
  match splitCommand words with
  | .error usage => .ok usage.ending
  | .ok (name, rest) => do
    let settings ← (Settings.load host.sources).mapError .settings
    match Command.parse name rest with
    | .error usage => return usage.ending
    | .ok c => c.run host settings.level (find c.source)

end ErrorTrail
