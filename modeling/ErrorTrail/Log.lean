import ErrorTrail.Settings.Basic

/-!
# Log messages

The messages that instrumenting leaves behind. `LogRecord.text` is the line in which one is shown.
-/

namespace ErrorTrail

/-- A message and its level. -/
structure LogRecord where
  level : LogLevel
  message : String
  deriving DecidableEq, Repr, Inhabited

namespace LogRecord

/-- The name under which instrumenting logs. -/
def logger : String := "wherr.transform"

/-- The line that shows a message. -/
def text (r : LogRecord) : String := r.level.text ++ " " ++ logger ++ ": " ++ r.message

/-- Whether a message is shown from the level `least` on. -/
def isShown (least : LogLevel) (r : LogRecord) : Bool := least.rank ≤ r.level.rank

end LogRecord

end ErrorTrail
