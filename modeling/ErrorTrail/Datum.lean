import ErrorTrail.Location
import ErrorTrail.Decimal.Shortest

/-!
# Plain data

Data without identity, as it is read from outside and written to it: the values that locations and
reports are made from and dumped to.

* `Datum.json` writes a datum as JSON, without blanks.
-/

namespace ErrorTrail

inductive Datum where
  | none
  | bool (b : Bool)
  | int (n : Int)
  | float (bits : UInt64)
  | text (s : String)
  | bytes (bs : List UInt8)
  | list (items : List Datum)
  | tuple (items : List Datum)
  | dict (entries : List (Datum × Datum))
  | location (l : Location)
  /-- anything else -/
  | other
  deriving Repr, Inhabited

/-- A character in a JSON text. -/
def jsonChar (c : Char) : List Char :=
  match c with
  | '"' => ['\\', '"']
  | '\\' => ['\\', '\\']
  | '\n' => ['\\', 'n']
  | '\r' => ['\\', 'r']
  | '\t' => ['\\', 't']
  | c =>
    if c.toNat = 8 then ['\\', 'b']
    else if c.toNat = 12 then ['\\', 'f']
    else if c.toNat < 32 then '\\' :: 'u' :: Text.hexDigits 4 c.toNat
    else [c]

/-- A text as a JSON text. -/
def jsonText (s : String) : String := String.ofList ('"' :: s.toList.flatMap jsonChar ++ ['"'])

namespace Datum

mutual
/-- A datum as JSON. -/
def json : Datum → String
  | .none => "null"
  | .bool b => if b then "true" else "false"
  | .int n => toString n
  | .float bits => Decimal.Style.program.renderFloat (Float.ofBits bits)
  | .text s => jsonText s
  | .bytes _ => "null"
  | .list items => "[" ++ ",".intercalate (jsonItems items) ++ "]"
  | .tuple items => "[" ++ ",".intercalate (jsonItems items) ++ "]"
  | .dict entries => "\x7b" ++ ",".intercalate (jsonEntries entries) ++ "\x7d"
  | .location l =>
    "\x7b\"file\":" ++ jsonText l.file ++ ",\"line\":" ++ toString l.line ++ "\x7d"
  | .other => "null"

def jsonItems : List Datum → List String
  | [] => []
  | d :: ds => json d :: jsonItems ds

def jsonEntries : List (Datum × Datum) → List String
  | [] => []
  | (k, v) :: rest => (json k ++ ":" ++ json v) :: jsonEntries rest
end

/-- The value of a field. -/
def field? (entries : List (Datum × Datum)) (name : String) : Option Datum :=
  entries.findSome? fun e =>
    match e.1 with
    | .text s => if s = name then some e.2 else Option.none
    | _ => Option.none

end Datum

/-- A location as plain data. -/
def Location.dump (l : Location) : Datum :=
  .dict [(.text "file", .text l.file), (.text "line", .int l.line)]

end ErrorTrail
