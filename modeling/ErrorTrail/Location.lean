import ErrorTrail.Text.Quoted

/-!
# Locations

A location is the place of one propagation: a file and a line. A trail is the list of the locations
that an error came through, innermost first.
-/

namespace ErrorTrail

structure Location where
  file : String
  line : Int
  deriving DecidableEq, Repr, Inhabited

namespace Location

/-- The text of a location. -/
def text (l : Location) : String := l.file ++ ":" ++ toString l.line

/-- The representation of a location as a program text. -/
def repr (l : Location) : String :=
  "Location(file=" ++ Text.quoted l.file ++ ", line=" ++ toString l.line ++ ")"

end Location

/-- What a trail adds to the text of an error. -/
def trailText (trail : List Location) : String :=
  String.join (trail.map fun l => "\nat " ++ l.text)

/-- A trail with each location on a line of its own. -/
def stackText (trail : List Location) : String :=
  String.join (trail.map fun l => "at " ++ l.text ++ "\n")

end ErrorTrail
