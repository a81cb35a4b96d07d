import ErrorTrail.Program.Member
import ErrorTrail.Program.Outcome

/-!
# Envelopes

An envelope is an exception that holds another error and the list of the locations it came through,
innermost first. Any object with the members of an envelope can take its place: it is `capable`.

`Envelope.addSite` is what an instrumented site does to a result: a failure whose error is capable
is told the site and stays the same object, any other failure becomes the failure of a new
envelope with this one location, and all else passes.
-/

namespace ErrorTrail

namespace Envelope

open Act

/-- A new envelope of the class `c`; an exception in it is its cause. The list of locations is its
own. -/
def make (c inner : Value) (trail : List Value) : Act Value := do
  let cause := if ← isException inner then inner else .none
  let list ← alloc (.list trail)
  allocValue (.exception c [] cause (.envelope inner list) [])

/-- A new envelope with one location. -/
def new (c inner : Value) (site : Location) : Act Value := make c inner [.location site]

/-- The error in an envelope and its list of locations. -/
def view (v : Value) : Act (Value × Ref) := do
  match ← object? v with
  | some (.exception _ _ _ (.envelope inner trail) _) => return (inner, trail)
  | _ => fail .attributeError "no envelope"

/-- Adds an item to the end of a list object. -/
def append (list : Ref) (v : Value) : Act Unit := do
  match ← read list with
  | .list xs => write list (.list (xs ++ [v]))
  | _ => return

/-- Adds a location to the trail of an envelope. -/
def push (v : Value) (site : Location) : Act Unit := do
  append (← view v).2 (.location site)

/-- Takes the error out of an envelope. -/
def takeInner (v : Value) : Act Value := do
  match v with
  | .ref r =>
    match ← read r with
    | .exception c args cause (.envelope inner trail) fields =>
      write r (.exception c args cause (.envelope .none trail) fields)
      return inner
    | _ => fail .attributeError "no envelope"
  | _ => fail .attributeError "no envelope"

/-- The locations among values. -/
def locations (trail : List Value) : List Location :=
  trail.filterMap fun
    | .location l => some l
    | _ => Option.none

/-- A snapshot of an envelope. -/
def report (text : Value → Act String) (v : Value) : Act Report := do
  let (inner, trail) ← view v
  let message ← if inner == .none then pure "" else text inner
  return ⟨message, ← kindName inner, locations (← Machine.listItems trail)⟩

/-- The trail as text, a location to a line. -/
def stack (text : Value → Act String) (v : Value) : Act String := do
  let (_, trail) ← view v
  let lines ← (← Machine.listItems trail).mapM fun l => return "at " ++ (← text l) ++ "\n"
  return String.join lines

/-! ### Sites -/

/-- The members that make an object capable, and whether each is a method, which must not be
nothing. -/
def capabilities : List (String × Bool) :=
  [("inner", false), ("locations", false), ("push_location", true), ("take_inner", true),
    ("stack", true)]

/-- Whether a value has a member that it needs to be capable. -/
def hasCapability (m : Machine) (v : Value) (member : String × Bool) : Act Bool := do
  match ← m.member? v member.1 with
  | none => return false
  | some x => return !(member.2 && x == .none)

/-- Whether a value has all of some members. -/
def hasAll (m : Machine) (v : Value) : List (String × Bool) → Act Bool
  | [] => return true
  | p :: ps => do
    if ← hasCapability m v p then hasAll m v ps else return false

/-- Whether a value can take the place of an envelope. -/
def isCapable (m : Machine) (v : Value) : Act Bool := hasAll m v capabilities

/-- What an instrumented site does to a result. -/
def addSite (m : Machine) (result : Value) (site : Location) : Act Value := do
  match ← Outcome.view? result with
  | none => return result
  | some (true, _) => return result
  | some (false, error) =>
    if ← isCapable m error then
      let push ← m.getMember error "push_location"
      let _ ← m.call push [.str site.file, .int site.line] []
      return result
    else
      Outcome.failure (← new (.kind .envelope) error site)

end Envelope

end ErrorTrail
