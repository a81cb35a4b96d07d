import ErrorTrail.Syntax.Literal

/-!
# JSON texts

The values that a setting can be given as, and how a JSON text is read. Objects keep the order of
their fields; a field given twice keeps its first place and its last value.
-/

namespace ErrorTrail

inductive Json where
  | null
  | bool (b : Bool)
  | int (n : Int)
  | float (text : String)
  | string (s : String)
  | array (items : List Json)
  | object (fields : List (String × Json))
  deriving Repr, Inhabited

namespace Json

/-- A field put into an object: in its old place if it has one. -/
def put (fields : List (String × Json)) (key : String) (value : Json) : List (String × Json) :=
  if fields.any fun f => f.1 == key then
    fields.map fun f => if f.1 == key then (key, value) else f
  else fields ++ [(key, value)]

def fieldsOf : Json → Option (List (String × Json))
  | .object fs => some fs
  | _ => none

mutual
/-- One value laid over another: objects field by field, anything else in the place of it. -/
def overlay (base : Json) : Json → Json
  | .object new =>
    match base with
    | .object old => .object (overlayFields old new)
    | _ => .object new
  | v => v

def overlayFields (old : List (String × Json)) : List (String × Json) → List (String × Json)
  | [] => old
  | (k, v) :: rest =>
    let merged := match old.lookup k with
      | some o => overlay o v
      | none => v
    overlayFields (put old k merged) rest
end

/-! ### Looking into values -/

/-- The field of that name of an object. -/
def field? (j : Json) (key : String) : Option Json := j.fieldsOf.bind fun fs => fs.lookup key

def string? : Json → Option String
  | .string s => some s
  | _ => none

def int? : Json → Option Int
  | .int n => some n
  | _ => none

/-- The items of an array; none of anything else. -/
def items : Json → List Json
  | .array xs => xs
  | _ => []

/-- The texts in an array. -/
def strings (j : Json) : List String := j.items.filterMap string?

/-- The text in a field; empty if there is none. -/
def text (j : Json) (key : String) : String := ((j.field? key).bind string?).getD ""

def text? (j : Json) (key : String) : Option String := (j.field? key).bind string?

def number? (j : Json) (key : String) : Option Int := (j.field? key).bind int?

/-- The items of an array in a field. -/
def list (j : Json) (key : String) : List Json := ((j.field? key).map items).getD []

/-- Whether a field is true. -/
def flag (j : Json) (key : String) : Bool :=
  match j.field? key with
  | some (.bool b) => b
  | _ => false

/-- The only field of an object with a single one. -/
def tagged? : Json → Option (String × Json)
  | .object [f] => some f
  | _ => none

/-- An object with a single field. -/
def tag (key : String) (j : Json) : Json := .object [(key, j)]

/-- How deep a value is nested. -/
def height : Json → Nat
  | .array items => heightOfItems items + 1
  | .object fields => heightOfFields fields + 1
  | _ => 1
where
  heightOfItems : List Json → Nat
    | [] => 0
    | j :: js => max (height j) (heightOfItems js)
  heightOfFields : List (String × Json) → Nat
    | [] => 0
    | (_, j) :: fs => max (height j) (heightOfFields fs)

/-! ### Reading -/

def isJsonBlank (c : Char) : Bool := c == ' ' || c == '\t' || c == '\n' || c == '\r'

def skipBlanks (cs : List Char) : List Char := cs.dropWhile isJsonBlank

/-- The rest of a text after a word. -/
def afterWord? (w : String) (cs : List Char) : Option (List Char) :=
  if w.toList.isPrefixOf cs then some (cs.drop w.length) else none

/-- A string after its opening quote. Control characters must be escaped; the two halves of a
surrogate pair make one character. -/
def readString : Nat → List Char → Option (List Char × List Char)
  | 0, _ => none
  | _ + 1, [] => none
  | _ + 1, '"' :: cs => some ([], cs)
  | fuel + 1, '\\' :: c :: cs =>
    let one (d : Char) := (readString fuel cs).map fun r => (d :: r.1, r.2)
    match c with
    | '"' => one '"'
    | '\\' => one '\\'
    | '/' => one '/'
    | 'b' => one (Char.ofNat 8)
    | 'f' => one (Char.ofNat 12)
    | 'n' => one '\n'
    | 'r' => one '\r'
    | 't' => one '\t'
    | 'u' => do
      let v ← Syntax.hexPrefix 4 cs
      let rest := cs.drop 4
      let low := match rest with
        | '\\' :: 'u' :: more => if 0xd800 ≤ v ∧ v < 0xdc00 then Syntax.hexPrefix 4 more else none
        | _ => none
      match low with
      | some l =>
        if 0xdc00 ≤ l ∧ l < 0xe000 then
          let point := 0x10000 + (v - 0xd800) * 0x400 + (l - 0xdc00)
          (readString fuel (rest.drop 6)).map fun r => (Char.ofNat point :: r.1, r.2)
        else (readString fuel rest).map fun r => (Syntax.charOfPoint v :: r.1, r.2)
      | none => (readString fuel rest).map fun r => (Syntax.charOfPoint v :: r.1, r.2)
    | _ => none
  | fuel + 1, c :: cs =>
    if c.toNat < 32 then none else (readString fuel cs).map fun r => (c :: r.1, r.2)

/-- A number: whole digits without leading zeros, then optional fraction and exponent. -/
def readNumber (cs : List Char) : Option (Json × List Char) :=
  let (sign, digitsOn) := match cs with
    | '-' :: ds => (['-'], ds)
    | ds => ([], ds)
  let whole := match digitsOn with
    | '0' :: _ => ['0']
    | ds => ds.takeWhile Char.isDigit
  if whole.isEmpty then none
  else
    let rest := digitsOn.drop whole.length
    let (fraction, rest) := match rest with
      | '.' :: ds =>
        let f := ds.takeWhile Char.isDigit
        if f.isEmpty then ([], rest) else ('.' :: f, ds.drop f.length)
      | _ => ([], rest)
    let (exponent, rest) := match rest with
      | e :: ds =>
        if e = 'e' ∨ e = 'E' then
          let (mark, ds') := match ds with
            | '+' :: more => (['+'], more)
            | '-' :: more => (['-'], more)
            | more => ([], more)
          let x := ds'.takeWhile Char.isDigit
          if x.isEmpty then ([], rest) else (e :: mark ++ x, ds'.drop x.length)
        else ([], rest)
      | [] => ([], rest)
    if fraction.isEmpty && exponent.isEmpty then
      let n : Int := Syntax.digitsValue 10 whole
      some (.int (if sign.isEmpty then n else -n), rest)
    else some (.float (String.ofList (sign ++ whole ++ fraction ++ exponent)), rest)

/-- What is being read: a value, the rest of an array, the rest of an object. -/
inductive Goal where
  | value
  | items (done : List Json)
  | fields (done : List (String × Json))

/-- Reads a value or the rest of a container, whose opening mark is taken; blanks before it are
skipped. -/
def readGoal : Nat → Goal → List Char → Option (Json × List Char)
  | 0, _, _ => none
  | fuel + 1, .value, cs =>
    match skipBlanks cs with
    | '"' :: rest =>
      (readString (rest.length + 1) rest).map fun r => (.string (String.ofList r.1), r.2)
    | '[' :: rest =>
      match skipBlanks rest with
      | ']' :: rest => some (.array [], rest)
      | rest => readGoal fuel (.items []) rest
    | '\x7b' :: rest =>
      match skipBlanks rest with
      | '\x7d' :: rest => some (.object [], rest)
      | rest => readGoal fuel (.fields []) rest
    | cs =>
      match afterWord? "null" cs, afterWord? "true" cs, afterWord? "false" cs, afterWord? "NaN" cs,
          afterWord? "Infinity" cs, afterWord? "-Infinity" cs with
      | some r, _, _, _, _, _ => some (.null, r)
      | _, some r, _, _, _, _ => some (.bool true, r)
      | _, _, some r, _, _, _ => some (.bool false, r)
      | _, _, _, some r, _, _ => some (.float "nan", r)
      | _, _, _, _, some r, _ => some (.float "inf", r)
      | _, _, _, _, _, some r => some (.float "-inf", r)
      | _, _, _, _, _, _ => readNumber cs
  | fuel + 1, .items done, cs => do
    let (v, rest) ← readGoal fuel .value cs
    match skipBlanks rest with
    | ',' :: rest => readGoal fuel (.items (done ++ [v])) rest
    | ']' :: rest => some (.array (done ++ [v]), rest)
    | _ => none
  | fuel + 1, .fields done, cs =>
    match skipBlanks cs with
    | '"' :: rest => do
      let (key, rest) ← readString (rest.length + 1) rest
      match skipBlanks rest with
      | ':' :: rest => do
        let (v, rest) ← readGoal fuel .value rest
        let done := put done (String.ofList key) v
        match skipBlanks rest with
        | ',' :: rest => readGoal fuel (.fields done) rest
        | '\x7d' :: rest => some (.object done, rest)
        | _ => none
      | _ => none
    | _ => none

/-- Reads a whole JSON text. -/
def parse (s : String) : Option Json := do
  let (v, rest) ← readGoal (2 * s.length + 2) .value s.toList
  if (skipBlanks rest).isEmpty then some v else none

end Json

end ErrorTrail
