import ErrorTrail.Settings.Basic

/-!
# Settings of a running program

The environment of a program may change between the times at which it asks for its settings, and its
cache may be cleared. `Configuration.step` is one such event, and `Configuration.answer` is what
asking gives.
-/

namespace ErrorTrail

/-- What may happen that concerns the settings of a program. -/
inductive SettingsStep where
  /-- a variable of the environment is given a value -/
  | assign (name value : String)
  | remove (name : String)
  /-- the settings are asked for -/
  | get
  | clear
  deriving DecidableEq, Repr, Inhabited

/-- What a program reads its settings from, and the settings it keeps. -/
structure Configuration where
  env : List (String × String) := []
  envFile : Option String := none
  cache : Cache := {}
  deriving Repr, Inhabited

namespace Configuration

/-- Where the settings come from at the moment. -/
def sources (p : Configuration) : Sources := { env := p.env, envFile := p.envFile }

/-- What asking gives: the settings and the number of their reading, or why there are none. -/
def answer (p : Configuration) : Except SettingsError (Nat × Settings) :=
  (p.cache.get p.sources).1

/-- What one event makes of a configuration. -/
def step (p : Configuration) : SettingsStep → Configuration
  | .assign name value => { p with env := EnvFile.assign p.env name value }
  | .remove name => { p with env := p.env.filter (·.1 != name) }
  | .get => { p with cache := (p.cache.get p.sources).2 }
  | .clear => { p with cache := p.cache.clear }

/-- A configuration after several events. -/
def after (p : Configuration) (steps : List SettingsStep) : Configuration := steps.foldl step p

/-- What is given each time the settings are asked for. -/
def answers (p : Configuration) : List SettingsStep → List (Except SettingsError (Nat × Settings))
  | [] => []
  | .get :: rest => p.answer :: (p.step .get).answers rest
  | e :: rest => (p.step e).answers rest

end Configuration

end ErrorTrail
