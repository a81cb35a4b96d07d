import ErrorTrail.Datum
import ErrorTrail.Validation
import ErrorTrail.Text.Classes

/-!
# Reports

A report is a snapshot of an error with its trail, made of plain data only. Locations and reports
are read back from plain data and checked on the way.

* `Report.dump` writes a report as data, with its depth and origin, which reading back leaves aside.
* `readLocation` and `readReport` read and check data. A location that is given as such is taken as
  it is.
-/

namespace ErrorTrail

structure Report where
  message : String
  errorType : String
  locations : List Location := []
  deriving DecidableEq, Repr, Inhabited

namespace Report

/-- How many annotated functions the error passed. -/
def depth (r : Report) : Nat := r.locations.length

/-- The first location of the trail. -/
def origin (r : Report) : Option String := r.locations.head?.map Location.text

/-- The text of a report. -/
def text (r : Report) : String := r.message ++ trailText r.locations

/-- A report as data. -/
def dump (r : Report) : Datum :=
  .dict [(.text "message", .text r.message), (.text "error_type", .text r.errorType),
    (.text "locations", .list (r.locations.map Location.dump)), (.text "depth", .int r.depth),
    (.text "origin", r.origin.elim .none .text)]

/-- A report as JSON. -/
def json (r : Report) : String := r.dump.json

/-- The elements of a tuple as a program text. -/
def tupleText (items : List String) : String :=
  match items with
  | [item] => "(" ++ item ++ ",)"
  | _ => "(" ++ ", ".intercalate items ++ ")"

/-- The representation of a report as a program text. -/
def repr (r : Report) : String :=
  "WherrReport(message=" ++ Text.quoted r.message ++ ", error_type=" ++ Text.quoted r.errorType
    ++ ", locations=" ++ tupleText (r.locations.map Location.repr)
    ++ ", depth=" ++ toString r.depth
    ++ ", origin=" ++ r.origin.elim "None" Text.quoted ++ ")"

end Report

/-! ### Reading -/

/-- What reading a value gives: the value, or what is wrong and where. -/
abbrev Checked (α : Type) := Except (List Issue) α

namespace Checked

def refuse {α : Type} (c : Complaint) : Checked α := .error [⟨[], c⟩]

/-- A value at a step further inside. -/
def at_ {α : Type} (p : Place) (c : Checked α) : Checked α := c.mapError (Issue.under p)

/-- Both values, or what is wrong with either. -/
def both {α β : Type} (a : Checked α) (b : Checked β) : Checked (α × β) :=
  match a, b with
  | .ok x, .ok y => .ok (x, y)
  | .error xs, .ok _ => .error xs
  | .ok _, .error ys => .error ys
  | .error xs, .error ys => .error (xs ++ ys)

/-- All values, or what is wrong with any of them. -/
def all {α : Type} : List (Checked α) → Checked (List α)
  | [] => .ok []
  | c :: cs => (both c (all cs)).map fun p => p.1 :: p.2

end Checked

open Checked

/-- Reads a text; bytes are taken if they are the encoding of one. -/
def readText : Datum → Checked String
  | .text s => .ok s
  | .bytes bs =>
    match String.fromUTF8? (ByteArray.mk bs.toArray) with
    | some s => .ok s
    | none => refuse .stringUnicode
  | _ => refuse .stringType

/-- Digits without leading zeros, of which one stays before a point or the end. -/
def afterZeros : List Char → Option (List Char)
  | [] => none
  | c :: cs =>
    if c = '-' ∨ ('1' ≤ c ∧ c ≤ '9') then some (c :: cs)
    else if c = '0' then skip c cs
    else none
where
  skip (previous : Char) : List Char → Option (List Char)
    | [] => some [previous]
    | c :: cs =>
      if c = '0' ∨ c = '_' then skip c cs
      else if '1' ≤ c ∧ c ≤ '9' then some (c :: cs)
      else if c = '.' then some (previous :: c :: cs)
      else none

/-- A whole number without a point and zeros after it. -/
def beforePoint (cs : List Char) : List Char :=
  let tail := (cs.dropWhile (· ≠ '.')).drop 1
  if cs.contains '.' && tail.all (· = '0') then cs.takeWhile (· ≠ '.') else cs

/-- Whether underscores stand between digits only. -/
def underscoresFit : List Char → Bool
  | '_' :: _ => false
  | cs => cs.getLast? != some '_' && !hasPair cs
where
  hasPair : List Char → Bool
    | '_' :: '_' :: _ => true
    | _ :: cs => hasPair cs
    | [] => false

/-- The number that plain digits give, the first of them no zero unless it is the only one. -/
def plainNumber? (cs : List Char) : Option Int :=
  let digits (ds : List Char) : Option Nat :=
    if ds.isEmpty || !ds.all Char.isDigit || (ds.head? = some '0' && ds.length > 1) then none
    else some (Decimal.natOfDigits ds)
  match cs with
  | '-' :: ds => (digits ds).map fun n => -(n : Int)
  | ds => (digits ds).map fun n => (n : Int)

/-- Reads a whole number from a text: blanks around it, a sign, underscores between digits and a
point with zeros are taken. -/
def readNumberText (s : String) : Checked Int :=
  let cs := (Text.trimBlanks s).toList
  let unsigned := match cs with
    | '+' :: '-' :: _ => none
    | '+' :: ds => some ds
    | ds => some ds
  match unsigned.bind afterZeros with
  | none => refuse .intParsing
  | some ds =>
    let whole := beforePoint ds
    if !underscoresFit whole then refuse .intParsing
    else match plainNumber? (whole.filter (· ≠ '_')) with
      | some n => if whole.length > 4300 then refuse .intParsingSize else .ok n
      | none => refuse .intParsing

/-- Reads a whole number from a floating one. -/
def readFloat (bits : UInt64) : Checked Int :=
  let x := Float.ofBits bits
  if x.isNaN || x.isInf then refuse .finiteNumber
  else if x != x.floor then refuse .intFromFloat
  else if x.abs ≥ 9223372036854775808.0 then refuse .intParsingSize
  else .ok x.toInt64.toInt

/-- Reads a whole number. -/
def readInt : Datum → Checked Int
  | .bool b => .ok (if b then 1 else 0)
  | .int n => .ok n
  | .float bits => readFloat bits
  | .text s => readNumberText s
  | .bytes bs =>
    match String.fromUTF8? (ByteArray.mk bs.toArray) with
    | some s => readNumberText s
    | none => refuse .intParsing
  | _ => refuse .intType

/-- The place that a key of data stands for. -/
def keyPlace : Datum → Place
  | .text s => .field s
  | .int n => .index n
  | .bool b => .index (if b then 1 else 0)
  | .none => .field "None"
  | .float bits => .field (Decimal.Style.program.renderFloat (Float.ofBits bits))
  | .bytes bs => .field (Text.quotedBytes bs)
  | _ => .field "?"

/-- A field that has to be given. -/
def required {α : Type} (entries : List (Datum × Datum)) (name : String)
    (read : Datum → Checked α) : Checked α :=
  at_ (.field name) (match Datum.field? entries name with
    | some d => read d
    | none => refuse .missing)

/-- What is wrong with fields beyond the known ones. -/
def extraIssues (known : List String) (entries : List (Datum × Datum)) : List Issue :=
  entries.filterMap fun e =>
    match e.1 with
    | .text s => if known.contains s then none else some ⟨[.field s], .extraForbidden⟩
    | k => some ⟨[keyPlace k], .invalidKey⟩

/-- A file name is not empty. -/
def readFile (d : Datum) : Checked String := do
  let s ← readText d
  if s.isEmpty then refuse .tooShort else .ok s

/-- A line is not negative. -/
def readLine (d : Datum) : Checked Int := do
  let n ← readInt d
  if n < 0 then refuse .negative else .ok n

/-- Reads a location; one that is given as such is taken as it is. -/
def readLocation : Datum → Checked Location
  | .location l => .ok l
  | .dict entries =>
    let fields := both (required entries "file" readFile) (required entries "line" readLine)
    match fields, extraIssues ["file", "line"] entries with
    | .ok (file, line), [] => .ok ⟨file, line⟩
    | .ok _, extra => .error extra
    | .error issues, extra => .error (issues ++ extra)
  | _ => refuse (.modelType "Location")

/-- Reads locations, each under its number from `i` on. -/
def readLocationsFrom (i : Nat) : List Datum → List (Checked Location)
  | [] => []
  | d :: ds => at_ (.index i) (readLocation d) :: readLocationsFrom (i + 1) ds

def readLocations : Datum → Checked (List Location)
  | .list items => all (readLocationsFrom 0 items)
  | .tuple items => all (readLocationsFrom 0 items)
  | _ => refuse .tupleType

/-- Reads a report. Fields beyond its own are left aside. -/
def readReport : Datum → Checked Report
  | .dict entries =>
    let locations : Checked (List Location) := match Datum.field? entries "locations" with
      | some d => at_ (.field "locations") (readLocations d)
      | none => .ok []
    (both (required entries "message" readText)
      (both (required entries "error_type" readText) locations)).map fun p =>
        ⟨p.1, p.2.1, p.2.2⟩
  | _ => refuse (.modelType "WherrReport")

end ErrorTrail
