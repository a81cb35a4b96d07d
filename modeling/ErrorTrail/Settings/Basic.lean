import ErrorTrail.Path
import ErrorTrail.Validation
import ErrorTrail.Json
import ErrorTrail.Settings.EnvFile

/-!
# Settings

Whether functions are instrumented, how files are named at their sites, and from which level on
messages are logged. A setting is looked for among the arguments, then in the environment, then in
the environment file, and has a default. Names of variables begin with `WHERR_`, in either case;
`WHERR_LOGGING` is a JSON object, whose field `level` the variable `WHERR_LOGGING__LEVEL` overrides,
and the environment variable `WHERR_LOG_LEVEL` is the level when neither gives one.

* `Settings.load` reads the settings, or says what is wrong with them.
* `Cache.get` reads them once and keeps them until the cache is cleared.
-/

namespace ErrorTrail

/-- The levels of log messages, in order. -/
inductive LogLevel where
  | debug
  | info
  | warning
  | error
  | critical
  deriving DecidableEq, Repr, Inhabited

namespace LogLevel

def text : LogLevel → String
  | .debug => "DEBUG"
  | .info => "INFO"
  | .warning => "WARNING"
  | .error => "ERROR"
  | .critical => "CRITICAL"

def rank : LogLevel → Nat
  | .debug => 0
  | .info => 1
  | .warning => 2
  | .error => 3
  | .critical => 4

def all : List LogLevel := [.debug, .info, .warning, .error, .critical]

end LogLevel

def PathStyle.text : PathStyle → String
  | .full => "full"
  | .relative => "relative"
  | .name => "name"

def PathStyle.all : List PathStyle := [.full, .relative, .name]

structure Settings where
  enabled : Bool := true
  pathStyle : PathStyle := .relative
  pathRoot : Option Path := none
  level : LogLevel := .warning
  deriving DecidableEq, Repr, Inhabited

/-- Why there are no settings: values that are not allowed, or a variable that is no JSON text. -/
inductive SettingsError where
  | invalid (issues : List Issue)
  | unreadable
  deriving DecidableEq, Repr, Inhabited

/-- Where settings come from: arguments, the environment, the text of the environment file. -/
structure Sources where
  arguments : List (String × Json) := []
  env : List (String × String) := []
  envFile : Option String := none
  deriving Repr, Inhabited

namespace Settings

/-- A text in small letters. -/
def lowerText (s : String) : String := s.map Char.toLower

/-- A text in capitals; two letters beyond ASCII have capitals within it. -/
def upperText (s : String) : String :=
  s.map fun c => if c = 'ı' then 'I' else if c = 'ſ' then 'S' else c.toUpper

/-! ### Values -/

/-- The words for the two truth values. -/
def trueWords : List String := ["1", "on", "t", "true", "y", "yes"]

def falseWords : List String := ["0", "off", "f", "false", "n", "no"]

def readBool : Json → Except Complaint Bool
  | .bool b => .ok b
  | .string s =>
    if trueWords.contains (lowerText s) then .ok true
    else if falseWords.contains (lowerText s) then .ok false
    else .error .boolParsing
  | .int n => if n = 0 then .ok false else if n = 1 then .ok true else .error .boolParsing
  | .float t =>
    let x := (Decimal.ofText t).toFloat
    if x == 0.0 then .ok false
    else if x == 1.0 && !t.startsWith "-" then .ok true
    else if x == x.floor && t != "nan" && t != "inf" && t != "-inf" then .error .boolParsing
    else .error .boolType
  | _ => .error .boolType

def readStyle : Json → Except Complaint PathStyle
  | .string s =>
    match PathStyle.all.find? fun p => p.text == lowerText s with
    | some p => .ok p
    | none => .error (.literal (PathStyle.all.map PathStyle.text))
  | _ => .error (.literal (PathStyle.all.map PathStyle.text))

def readRoot : Json → Except Complaint (Option Path)
  | .null => .ok none
  | .string s => .ok (some (Path.ofText s))
  | _ => .error .pathType

def readLevel : Json → Except Complaint LogLevel
  | .string s =>
    match LogLevel.all.find? fun l => l.text == upperText s with
    | some l => .ok l
    | none => .error (.literal (LogLevel.all.map LogLevel.text))
  | _ => .error (.literal (LogLevel.all.map LogLevel.text))

/-! ### Sources -/

/-- The name by which variables begin. -/
def variablePrefix : String := "wherr_"

/-- Variables under names in small letters; of two spellings the later wins. -/
def foldNames {α : Type} (vars : List (String × α)) : List (String × α) :=
  vars.foldl (fun acc (n, v) => EnvFile.assign acc (lowerText n) v) []

/-- Puts a value at the end of a path of fields; a field that holds no object is left. -/
def nest : List String → Json → List (String × Json) → List (String × Json)
  | [], _, fs => fs
  | [k], v, fs => Json.put fs k v
  | k :: ks, v, fs =>
    match fs.lookup k with
    | some (.object sub) => Json.put fs k (.object (nest ks v sub))
    | some _ => fs
    | none => Json.put fs k (.object (nest ks v []))

/-- The fields that variables with a longer name give. -/
def nestedFields (start : String) (vars : List (String × Option String)) : List (String × Json) :=
  vars.foldl (fun fs (n, v) =>
    if n.startsWith start then
      let path := ((n.drop start.length).copy).splitOn "__"
      nest path (v.elim .null .string) fs
    else fs) []

/-- The logging fields under their names in small letters. -/
def foldLoggingFields (fs : List (String × Json)) : List (String × Json) :=
  fs.foldl (fun acc (k, v) =>
    Json.put acc (if lowerText k = "level" then "level" else k) v) []

/-- The logging settings that variables give, if they give any. -/
def loggingFrom (vars : List (String × Option String)) : Except SettingsError (Option Json) :=
  let nested := nestedFields (variablePrefix ++ "logging__") vars
  match (vars.lookup (variablePrefix ++ "logging")).join with
  | none => .ok (if nested.isEmpty then none else some (.object (foldLoggingFields nested)))
  | some text =>
    match Json.parse text with
    | none => .error .unreadable
    | some (.object fs) => .ok (some (.object (foldLoggingFields (Json.overlayFields fs nested))))
    | some .null => .ok none
    | some v => .ok (some v)

/-- The settings that variables give. -/
def fieldsFrom (vars : List (String × Option String)) :
    Except SettingsError (List (String × Json)) := do
  let plain (field : String) : List (String × Json) :=
    match (vars.lookup (variablePrefix ++ field)).join with
    | some v => [(field, .string v)]
    | none => []
  let logging ← loggingFrom vars
  .ok (plain "enabled" ++ plain "path_style" ++ plain "path_root"
    ++ logging.toList.map fun v => ("logging", v))

/-- The value of a setting that is given, or its default. -/
def fieldOr {α : Type} (fs : List (String × Json)) (name : String) (default : α)
    (read : Json → Except Complaint α) : Except Issue α :=
  match fs.lookup name with
  | none => .ok default
  | some v => (read v).mapError fun c => ⟨[.field name], c⟩

/-- The level when no logging settings give one. -/
def environmentLevel (env : List (String × String)) : Except Issue LogLevel :=
  match (foldNames env).lookup (variablePrefix ++ "log_level") with
  | none => .ok .warning
  | some s => (readLevel (.string s)).mapError fun c => ⟨[.field "level"], c⟩

/-- The level of the logging settings that are given. -/
def loggingLevel (env : List (String × String)) : Json → Except Issue LogLevel
  | .object fs =>
    let level : Except Issue LogLevel := match fs.lookup "level" with
      | some v => (readLevel v).mapError fun c => ⟨[.field "level"], c⟩
      | none => environmentLevel env
    level.mapError fun i : Issue => { i with place := .field "logging" :: i.place }
  | _ => .error ⟨[.field "logging"], .modelType "LoggingSettings"⟩

def issueOf {α : Type} : Except Issue α → List Issue
  | .error i => [i]
  | .ok _ => []

/-- The settings of given fields. Faults are told in the order of the fields, but a fault in the
level of the environment stands alone. -/
def ofFields (env : List (String × String)) (fs : List (String × Json)) :
    Except SettingsError Settings := do
  let default? : Option LogLevel ← match fs.lookup "logging" with
    | some _ => pure none
    | none => ((environmentLevel env).map some).mapError fun i => SettingsError.invalid [i]
  let enabled := fieldOr fs "enabled" true readBool
  let style := fieldOr fs "path_style" .relative readStyle
  let root := fieldOr fs "path_root" none readRoot
  let level : Except Issue LogLevel := match default? with
    | some l => .ok l
    | none => loggingLevel env ((fs.lookup "logging").getD .null)
  match enabled, style, root, level with
  | .ok e, .ok s, .ok r, .ok l => .ok ⟨e, s, r, l⟩
  | _, _, _, _ =>
    .error (.invalid (issueOf enabled ++ issueOf style ++ issueOf root ++ issueOf level))

/-- The fields of all sources, earlier sources over later ones. -/
def gather (s : Sources) : Except SettingsError (List (String × Json)) := do
  let fromEnv ← fieldsFrom ((foldNames s.env).map fun (n, v) => (n, some v))
  let fromFile ← match s.envFile with
    | some text => fieldsFrom (foldNames (EnvFile.parse s.env text))
    | none => .ok []
  .ok (Json.overlayFields (Json.overlayFields fromFile fromEnv) s.arguments)

/-- The settings of the sources. -/
def load (s : Sources) : Except SettingsError Settings := do
  ofFields s.env (← gather s)

end Settings

/-! ### Cache -/

/-- Settings once read, with a number that tells one reading from another. -/
structure Cache where
  kept : Option (Nat × Settings) := none
  /-- How many readings have succeeded. -/
  count : Nat := 0
  deriving DecidableEq, Repr, Inhabited

namespace Cache

/-- The kept settings, or those of the sources, which are kept if they can be read. -/
def get (c : Cache) (s : Sources) : Except SettingsError (Nat × Settings) × Cache :=
  match c.kept with
  | some k => (.ok k, c)
  | none =>
    match Settings.load s with
    | .ok settings => (.ok (c.count, settings), ⟨some (c.count, settings), c.count + 1⟩)
    | .error e => (.error e, c)

/-- Forgets the kept settings. -/
def clear (c : Cache) : Cache := { c with kept := none }

end Cache

end ErrorTrail
