/-!
# Refusals

Why a function or a file cannot be instrumented, and the text that says so.
-/

namespace ErrorTrail

/-- The kinds of refusal. -/
inductive Refusal.Code where
  | notAFunction
  | notInnermost
  | unsupported
  | sourceUnavailable
  | parseFailed
  | compileFailed
  deriving DecidableEq, Repr, Inhabited

def Refusal.Code.text : Refusal.Code → String
  | .notAFunction => "NOT_A_FUNCTION"
  | .notInnermost => "NOT_INNERMOST"
  | .unsupported => "UNSUPPORTED"
  | .sourceUnavailable => "SOURCE_UNAVAILABLE"
  | .parseFailed => "PARSE_FAILED"
  | .compileFailed => "COMPILE_FAILED"

def Refusal.Code.all : List Refusal.Code :=
  [.notAFunction, .notInnermost, .unsupported, .sourceUnavailable, .parseFailed, .compileFailed]

/-- The kind that a text names. -/
def Refusal.Code.ofText? (s : String) : Option Refusal.Code :=
  Refusal.Code.all.find? fun c => c.text == s

/-- A refusal: its kind, what is wrong, what it is about, and the line if one is known. -/
structure Refusal where
  code : Refusal.Code
  message : String
  target : String := ""
  line : Option Int := none
  /-- The kind of error that caused it, when the message repeats that error's text. -/
  cause : Option String := none
  deriving DecidableEq, Repr, Inhabited

/-- The text of a refusal. -/
def Refusal.text (r : Refusal) : String :=
  "[" ++ r.code.text ++ "] " ++ r.message
    ++ (if r.target.isEmpty then "" else " in " ++ r.target)
    ++ r.line.elim "" fun n => " (line " ++ toString n ++ ")"

/-- A refusal caused by another error, whose kind and text it repeats. -/
def Refusal.because (code : Refusal.Code) (kind text target : String) : Refusal :=
  { code, message := kind ++ ": " ++ text, target, cause := some kind }

end ErrorTrail
