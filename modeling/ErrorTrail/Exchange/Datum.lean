import ErrorTrail.Json
import ErrorTrail.Report
import ErrorTrail.Text.Hexadecimal

/-!
# Data as records

How plain data is written as a JSON value and read back. What JSON has itself is written as it is;
everything else, and a number that JSON readers may round, is an object with one field, whose name
begins with `$` and tells the kind.
-/

namespace ErrorTrail.Exchange

open Json (tag)

/-! ### Numbers -/

/-- A whole number; from 2^53 on it is written as a text. -/
def writeInt (n : Int) : Json :=
  if n.natAbs < 2 * FloatParts.hiddenBit then .int n else tag "$int" (.string (toString n))

/-- A floating number, as the text that reads back. -/
def writeFloat (bits : UInt64) : Json :=
  tag "$float" (.string (Decimal.Style.program.renderFloat (Float.ofBits bits)))

/-- The floating number that a text gives. -/
def floatOf (text : String) : Float :=
  match text with
  | "nan" => 0.0 / 0.0
  | "inf" => 1.0 / 0.0
  | "-inf" => -1.0 / 0.0
  | _ =>
    if text.startsWith "-" then -(Decimal.ofText (text.drop 1).copy).toFloat
    else (Decimal.ofText text).toFloat

/-- The whole number that a text gives. -/
def intOf (text : String) : Int := text.toInt?.getD 0

/-! ### Locations -/

/-- A location as a file and a line. -/
def writeLocation (l : Location) : Json := .array [.string l.file, writeInt l.line]

def writeLocations (ls : List Location) : Json := .array (ls.map writeLocation)

/-- The whole number of a value, plain or as a text. -/
def intIn (j : Json) : Int :=
  match j, j.tagged? with
  | .int n, _ => n
  | _, some ("$int", .string t) => intOf t
  | _, _ => 0

/-- The location of a file and a line. -/
def readPair (j : Json) : Location :=
  match j.items with
  | [.string file, line] => ⟨file, intIn line⟩
  | _ => ⟨"", 0⟩

/-! ### Data -/

/-- The datum of a value, `fuel` levels deep. -/
def readDatumWithin : Nat → Json → Datum
  | 0, _ => .none
  | fuel + 1, j =>
    let read := readDatumWithin fuel
    match j with
    | .null => .none
    | .bool b => .bool b
    | .int n => .int n
    | .float t => .float (floatOf t).toBits
    | .string s => .text s
    | .array xs => .list (xs.map read)
    | .object fields =>
      match fields with
      | [("$int", .string t)] => .int (intOf t)
      | [("$float", .string t)] => .float (floatOf t).toBits
      | [("$bytes", .string t)] => .bytes (Text.bytesOfHex t)
      | [("$tuple", v)] => .tuple (v.items.map read)
      | [("$dict", v)] => .dict (v.items.map fun e =>
          match e.items with
          | [k, x] => (read k, read x)
          | _ => (.none, .none))
      | [("$loc", v)] => .location (readPair v)
      | _ => .other

/-- The datum of a value. -/
def readDatum (j : Json) : Datum := readDatumWithin j.height j

mutual
/-- A datum as a value. -/
def writeDatum : Datum → Json
  | .none => .null
  | .bool b => .bool b
  | .int n => writeInt n
  | .float bits => writeFloat bits
  | .text s => .string s
  | .bytes bs => tag "$bytes" (.string (Text.hexOfBytes bs))
  | .list xs => .array (writeData xs)
  | .tuple xs => tag "$tuple" (.array (writeData xs))
  | .dict es => tag "$dict" (.array (writeEntries es))
  | .location l => tag "$loc" (writeLocation l)
  | .other => .null

def writeData : List Datum → List Json
  | [] => []
  | d :: ds => writeDatum d :: writeData ds

def writeEntries : List (Datum × Datum) → List Json
  | [] => []
  | (k, v) :: es => .array [writeDatum k, writeDatum v] :: writeEntries es
end

/-! ### Reports -/

/-- What a report shows of itself, as fields. -/
def reportFields (r : Report) : List (String × Json) :=
  [("str", .string r.text), ("format", .string r.text), ("repr", .string r.repr),
    ("depth", .int r.depth), ("origin", r.origin.elim .null .string), ("dump", writeDatum r.dump),
    ("json", .string r.json)]

end ErrorTrail.Exchange
