import ErrorTrail.Program.Subscript

/-!
# Formatted text

How a value is written in a given format: filled up to a width, with a number of digits, in a
base. `Machine.format` writes a value; `Machine.percent` and `Machine.fillIn` put values into a text
that has marks for them.
-/

namespace ErrorTrail

/-- What is wrong with a format, or with a value in it. -/
inductive FormatFault where
  | malformed
  | missingPrecision
  | bothGroupings
  /-- groups of digits in a notation that has none -/
  | grouping (mark style : Char)
  | unknownStyle (style : Char) (className : String)
  | signOfText
  | alternateText
  | alignmentOfText
  | zeroOfText
  | precisionOfInteger
  | zeroOfInteger
  | signOfCharacter
  | alternateCharacter
  | noCharacter
  deriving DecidableEq, Repr, Inhabited

/-- A character of a format in a message. -/
def FormatFault.shown (c : Char) : String :=
  if 32 < c.toNat && c.toNat < 128 then String.singleton c
  else "\\x" ++ String.ofList (Nat.toDigits 16 c.toNat)

def FormatFault.message : FormatFault → String
  | malformed => "Invalid format specifier"
  | missingPrecision => "Format specifier missing precision"
  | bothGroupings => "Cannot specify both ',' and '_'."
  | grouping mark style => "Cannot specify '" ++ shown mark ++ "' with '" ++ shown style ++ "'."
  | unknownStyle style name =>
    "Unknown format code '" ++ shown style ++ "' for object of type '" ++ name ++ "'"
  | signOfText => "Sign not allowed in string format specifier"
  | alternateText => "Alternate form (#) not allowed in string format specifier"
  | alignmentOfText => "'=' alignment not allowed in string format specifier"
  | zeroOfText => "Negative zero coercion (z) not allowed in string format specifier"
  | precisionOfInteger => "Precision not allowed in integer format specifier"
  | zeroOfInteger => "Negative zero coercion (z) not allowed in integer format specifier"
  | signOfCharacter => "Sign not allowed with integer format specifier 'c'"
  | alternateCharacter => "Alternate form (#) not allowed with integer format specifier 'c'"
  | noCharacter => "%c arg not in range(0x110000)"

/-- A format: the character that fills up to the width, the side on which the text stands, the sign of
positive numbers, whether a rounded zero loses its sign, whether the base is shown, the width, the
mark between groups of digits, the number of digits and the kind of notation. -/
structure Layout where
  fill : Char := ' '
  align : Option Char := none
  sign : Option Char := none
  plainZero : Bool := false
  alternate : Bool := false
  width : Nat := 0
  grouping : Option Char := none
  precision : Option Nat := none
  style : Option Char := none
  deriving DecidableEq, Repr, Inhabited

namespace Layout

def isAlign (c : Char) : Bool := c == '<' || c == '>' || c == '^' || c == '='

/-- Reads leading digits. -/
def readDigits (cs : List Char) : Option Nat × List Char :=
  let ds := cs.takeWhile Char.isDigit
  (if ds.isEmpty then none else some (Decimal.natOfDigits ds), cs.dropWhile Char.isDigit)

/-- The styles that have groups of digits. -/
def hasGroups (mark : Char) : Option Char → Bool
  | none => true
  | some c => "deEfFgG%".contains c || (mark == '_' && "boxX".contains c)

/-- Reads the number of digits and the style of a format. -/
def readStyle (l : Layout) (cs : List Char) : Except FormatFault Layout := do
  let (l, cs) ← match cs with
    | '.' :: cs =>
      match readDigits cs with
      | (some p, cs) => .ok ({ l with precision := some p }, cs)
      | (none, _) => .error .missingPrecision
    | cs => .ok (l, cs)
  match cs with
  | [] => .ok l
  | [c] => .ok { l with style := some c }
  | _ => .error .malformed

/-- Reads a format after its alignment and sign. -/
def readRest (l : Layout) (cs : List Char) : Except FormatFault Layout := do
  let (l, cs) := match cs with
    | 'z' :: cs => ({ l with plainZero := true }, cs)
    | cs => (l, cs)
  let (l, cs) := match cs with
    | '#' :: cs => ({ l with alternate := true }, cs)
    | cs => (l, cs)
  let (l, cs) := match cs with
    | '0' :: cs =>
      (if l.align.isNone then { l with fill := '0', align := some '=' } else l, '0' :: cs)
    | cs => (l, cs)
  let (width, cs) := readDigits cs
  let l := { l with width := width.getD 0 }
  let (l, cs) ← match cs with
    | ',' :: '_' :: _ => .error .bothGroupings
    | '_' :: ',' :: _ => .error .bothGroupings
    | ',' :: cs => .ok ({ l with grouping := some ',' }, cs)
    | '_' :: cs => .ok ({ l with grouping := some '_' }, cs)
    | cs => .ok (l, cs)
  readStyle l cs

/-- Reads a format. -/
def read (s : String) : Except FormatFault Layout :=
  let (l, cs) : Layout × List Char := match s.toList with
    | f :: a :: cs =>
      if isAlign a then ({ fill := f, align := some a }, cs)
      else if isAlign f then ({ align := some f }, a :: cs)
      else ({}, f :: a :: cs)
    | [a] => if isAlign a then ({ align := some a }, []) else ({}, [a])
    | [] => ({}, [])
  match cs with
  | '+' :: cs => readRest { l with sign := some '+' } cs
  | '-' :: cs => readRest { l with sign := some '-' } cs
  | ' ' :: cs => readRest { l with sign := some ' ' } cs
  | cs => readRest l cs

/-- Fails if digits are grouped in a style without groups; `style` is the one of the kind of value. -/
def checkGroups (l : Layout) (style : Option Char) : Except FormatFault Unit :=
  match l.grouping with
  | some mark =>
    let style := l.style.orElse fun _ => style
    if hasGroups mark style then .ok () else .error (.grouping mark (style.getD 's'))
  | none => .ok ()

/-- Fills a text up to the width; `head` stays in front of what fills after a sign. -/
def fit (l : Layout) (defaultAlign : Char) (head body : String) : String :=
  let missing := l.width - (head.length + body.length)
  let filling (n : Nat) : String := String.ofList (List.replicate n l.fill)
  match l.align.getD defaultAlign with
  | '<' => head ++ body ++ filling missing
  | '^' => filling (missing / 2) ++ head ++ body ++ filling (missing - missing / 2)
  | '=' => head ++ filling missing ++ body
  | _ => filling missing ++ head ++ body

/-- Digits in groups of `n` from the right. -/
def grouped (mark : Option Char) (n : Nat) (digits : List Char) : List Char :=
  match mark with
  | none => digits
  | some c =>
    let backwards := digits.reverse.zipIdx.flatMap fun (d, i) =>
      if i > 0 && i % n = 0 then [c, d] else [d]
    backwards.reverse

/-- What stands before the digits of a number. -/
def signText (l : Layout) (negative : Bool) : String :=
  if negative then "-"
  else match l.sign with
    | some '+' => "+"
    | some ' ' => " "
    | _ => ""

/-- Writes a text. -/
def writeText (l : Layout) (className s : String) : Except FormatFault String := do
  l.checkGroups (some 's')
  if let some c := l.style then
    if c != 's' then .error (.unknownStyle c className)
  if l.sign.isSome then .error .signOfText
  if l.plainZero then .error .zeroOfText
  if l.alternate then .error .alternateText
  if l.align == some '=' then .error .alignmentOfText
  .ok (l.fit '<' "" ((l.precision.map fun p => (s.take p).copy).getD s))

/-- Writes a whole number in a base. -/
def writeInt (l : Layout) (className : String) (n : Int) : Except FormatFault String := do
  l.checkGroups none
  let based (base group : Nat) (mark : String) (capital : Bool) : String :=
    let ds := Nat.toDigits base n.natAbs
    let ds := if capital then ds.map Char.toUpper else ds
    l.fit '>' (l.signText (n < 0) ++ (if l.alternate then mark else ""))
      (String.ofList (grouped l.grouping group ds))
  let style := l.style.getD 'd'
  if !"dnboxXc".contains style then .error (.unknownStyle style className)
  if l.precision.isSome then .error .precisionOfInteger
  if l.plainZero then .error .zeroOfInteger
  match style with
  | 'b' => .ok (based 2 4 "0b" false)
  | 'o' => .ok (based 8 4 "0o" false)
  | 'x' => .ok (based 16 4 "0x" false)
  | 'X' => .ok (based 16 4 "0X" true)
  | 'c' =>
    if l.sign.isSome then .error .signOfCharacter
    if l.alternate then .error .alternateCharacter
    if 0 ≤ n ∧ n < 0x110000 then .ok (l.fit '<' "" (String.singleton (Char.ofNat n.toNat)))
    else .error .noCharacter
  | _ => .ok (based 10 3 "" false)

/-- A quotient rounded to a whole number, a half to the even neighbour. -/
def roundDiv (num den : Nat) : Nat :=
  let q := num / den
  let r := 2 * (num % den)
  if r > den ∨ (r = den ∧ q % 2 = 1) then q + 1 else q

/-- A finite number times a power of ten, rounded. -/
def scaled (d : Dyadic) (power : Int) : Nat :=
  roundDiv (d.mantissa.natAbs * Nat.pow 2 d.exponent.toNat * Nat.pow 10 power.toNat)
    (Nat.pow 2 (-d.exponent).toNat * Nat.pow 10 (-power).toNat)

/-- Digits padded with zeros in front. -/
def padded (width : Nat) (ds : List Char) : List Char :=
  List.replicate (width - ds.length) '0' ++ ds

/-- A number with `p` digits after the point. -/
def fixed (d : Dyadic) (p : Nat) : List Char × List Char :=
  let ds := padded (p + 1) (Nat.toDigits 10 (scaled d p))
  (ds.take (ds.length - p), ds.drop (ds.length - p))

/-- The digits of a number with one before the point and `p` after it, and the exponent. -/
def scientific (d : Dyadic) (p : Nat) : List Char × Int :=
  if d.mantissa = 0 then (List.replicate (p + 1) '0', 0)
  else
    let guess : Int :=
      ((Nat.toDigits 10 (scaled d 340)).length : Int) - 341
    let ds := Nat.toDigits 10 (scaled d (p - guess))
    if ds.length > p + 1 then (ds.take (p + 1), guess + 1) else (ds, guess)

def exponentText (e : Int) : String :=
  (if e < 0 then "e-" else "e+") ++ String.ofList (padded 2 (Nat.toDigits 10 e.natAbs))

def withoutZeros (ds : List Char) : List Char := (ds.reverse.dropWhile (· = '0')).reverse

def pointed (whole fraction : List Char) : String :=
  String.ofList whole ++ (if fraction.isEmpty then "" else "." ++ String.ofList fraction)

/-- A number with `p` digits, in positional notation if its exponent is small. -/
def general (l : Layout) (d : Dyadic) (p : Nat) : String :=
  let p := max p 1
  let (ds, e) := scientific d (p - 1)
  let kept (fraction : List Char) := if l.alternate then fraction else withoutZeros fraction
  if -4 ≤ e ∧ e < p then
    let (whole, fraction) := fixed d (p - 1 - e).toNat
    pointed (grouped l.grouping 3 whole) (kept fraction)
  else pointed (ds.take 1) (kept (ds.drop 1)) ++ exponentText e

/-- Writes a floating number. -/
def writeFloat (l : Layout) (className : String) (bits : UInt64) : Except FormatFault String := do
  l.checkGroups none
  let negative := (FloatParts.ofBits bits).negative
  let finish (body : String) : Except FormatFault String :=
    let isZero := body.toList.all fun c => !c.isDigit || c == '0'
    .ok (l.fit '>' (l.signText (negative && !(l.plainZero && isZero))) body)
  let capital (s : String) : String := s.map Char.toUpper
  match magnitude bits with
  | .nan => .ok (l.fit '>' (l.signText false) "nan")
  | .infinite _ => finish "inf"
  | .finite d =>
    let p := l.precision.getD 6
    let positional (d : Dyadic) : String :=
      let (whole, fraction) := fixed d p
      pointed (grouped l.grouping 3 whole) fraction
    let exponential : String :=
      let (ds, e) := scientific d p
      pointed (ds.take 1) (ds.drop 1) ++ exponentText e
    match l.style with
    | none =>
      match l.precision with
      | none =>
        finish (Decimal.Style.program.renderFloat (Float.ofBits bits).abs)
      | some p =>
        let s := l.general d p
        finish (if s.contains '.' || s.contains 'e' then s else s ++ ".0")
    | some 'f' => finish (positional d)
    | some 'F' => finish (positional d)
    | some 'e' => finish exponential
    | some 'E' => finish (capital exponential)
    | some 'g' => finish (l.general d p)
    | some 'G' => finish (capital (l.general d p))
    | some 'n' => finish (l.general d p)
    | some '%' => finish (positional ⟨d.mantissa * 100, d.exponent⟩ ++ "%")
    | some c => .error (.unknownStyle c className)

end Layout

namespace Machine

open Act

variable (m : Machine)

/-- Raises what is wrong with a format. -/
def failFormat {α : Type} (e : FormatFault) : Act α :=
  fail (if e = .noCharacter then .overflowError else .valueError) e.message

/-- A whole number as a floating one. -/
def floatOfInt (n : Int) : Act UInt64 := do
  let x := Float.ofInt n
  if x.isInf then fail .overflowError "int too large to convert to float"
  return x.toBits

/-- Writes a value in a format, unless its class has its own way. -/
def formatNative (v : Value) (spec : String) : Act String := do
  if spec.isEmpty then return ← m.text v
  let className ← kindName v
  let written ← match v, v.number?, Layout.read spec with
    | .str _, _, .error e => failFormat e
    | _, some _, .error e => failFormat e
    | .str s, _, .ok l => pure (l.writeText className s)
    | _, some (.float bits), .ok l => pure (l.writeFloat className bits)
    | _, some (.int n), .ok l =>
      if ("eEfFgG%".toList.map some).contains l.style then do
        pure (l.writeFloat className (← floatOfInt n))
      else pure (l.writeInt className n)
    | _, none, _ => typeError "unsupported format string"
  match written with
  | .ok s => return s
  | .error e => failFormat e

/-- Writes a value in a format. -/
def format (v : Value) (spec : String) : Act String := do
  match ← userMethod v "__format__" with
  | some f =>
    match ← m.call f [v, .str spec] [] with
    | .str s => return s
    | _ => typeError "__format__ must return a str"
  | none => m.formatNative v spec

/-- What a conversion makes of a value before it is written. -/
def convert (letter : Char) (v : Value) : Act Value := do
  match letter with
  | 'r' => return .str (← m.repr v)
  | 's' => return .str (← m.text v)
  | 'a' => return .str (asciiOnly (← m.repr v))
  | _ => return v
where
  asciiOnly (s : String) : String :=
    String.ofList (s.toList.flatMap fun c => if c.toNat < 128 then [c] else Text.escaped c)

/-! ### Texts with marks -/

/-- A value in the notation of a mark such as `%5.2f`. -/
def percentValue (flags : List Char) (width : Nat) (precision : Option Nat) (letter : Char)
    (v : Value) : Act String := do
  let layout : Layout :=
    { fill := if flags.contains '0' && !flags.contains '-' then '0' else ' '
      align := some (if flags.contains '-' then '<' else if flags.contains '0' then '=' else '>')
      sign := if flags.contains '+' then some '+' else if flags.contains ' ' then some ' ' else none
      alternate := flags.contains '#', width, precision }
  let cut (s : String) : String := (precision.map fun p => (s.take p).copy).getD s
  let plain (s : String) : String := { layout with fill := ' ' }.fit '>' "" s
  match letter, v.number? with
  | 's', _ => return plain (cut (← m.text v))
  | 'r', _ => return plain (cut (← m.repr v))
  | 'a', _ => do
    match ← m.convert 'a' v with
    | .str s => return plain (cut s)
    | _ => return ""
  | 'c', some (.int n) => return plain (String.singleton (Char.ofNat n.toNat))
  | 'c', _ => return plain (← m.text v)
  | _, none => typeError "a number is required"
  | _, some n =>
    let whole : Int := match n with
      | .int i => i
      | .float bits =>
        match magnitude bits with
        | .finite d => d.truncated
        | _ => 0
    let written :=
      if ['d', 'i', 'u'].contains letter then
        { layout with precision := none, style := some 'd' }.writeInt "" whole
      else if ['x', 'X', 'o'].contains letter then
        { layout with precision := none, style := some letter }.writeInt "" whole
      else { layout with style := some letter }.writeFloat "" n.toFloat.toBits
    match written with
    | .ok s => return s
    | .error e => failFormat e

/-- What a mark is replaced by: the next value, or the value of a key. -/
structure Marked where
  values : List Value
  mapping : Option Value

/-- Replaces the marks in the rest of a text of `size` characters. -/
def percentFrom (size fuel : Nat) (state : Marked) (cs : List Char) : Act String := do
  match fuel, cs with
  | 0, _ => return ""
  | _, [] =>
    if state.values.isEmpty || state.mapping.isSome then return ""
    else typeError "not all arguments converted during string formatting"
  | fuel + 1, '%' :: '%' :: rest => return "%" ++ (← percentFrom size fuel state rest)
  | fuel + 1, '%' :: rest => do
    let (key, rest) := match rest with
      | '(' :: rest =>
        (some (String.ofList (rest.takeWhile (· ≠ ')'))), (rest.dropWhile (· ≠ ')')).drop 1)
      | rest => (none, rest)
    let flags := rest.takeWhile fun c => ['-', '+', ' ', '#', '0'].contains c
    let (width, rest) := Layout.readDigits (rest.drop flags.length)
    let (precision, rest) := match rest with
      | '.' :: rest => let (p, rest) := Layout.readDigits rest; (some (p.getD 0), rest)
      | rest => (none, rest)
    match rest with
    | [] => fail .valueError "incomplete format"
    | letter :: rest =>
      if !"sracdiuxXoeEfFgG".contains letter then
        fail .valueError ("unsupported format character '" ++ String.singleton letter ++ "' (0x"
          ++ String.ofList (Nat.toDigits 16 letter.toNat) ++ ") at index "
          ++ toString (size - rest.length - 1))
      let (v, state) ← match key, state.mapping, state.values with
        | some k, some d, _ => pure (← m.getItem d (.str k), state)
        | some _, none, _ => typeError "format requires a mapping"
        | none, _, v :: vs => pure (v, { state with values := vs })
        | none, _, [] => typeError "not enough arguments for format string"
      let shown ← m.percentValue flags (width.getD 0) precision letter v
      return shown ++ (← percentFrom size fuel state rest)
  | fuel + 1, c :: rest => return String.singleton c ++ (← percentFrom size fuel state rest)

/-- A text with its `%` marks replaced. -/
def percent (s : String) (v : Value) : Act String := do
  let state : Marked ← match ← object? v with
    | some (.tuple xs) => pure ⟨xs, none⟩
    | some (.dict _) => pure ⟨[v], some v⟩
    | _ => pure ⟨[v], none⟩
  m.percentFrom s.length (s.length + 1) state s.toList

/-- The value that a field such as `0.name[key]` means. -/
def fieldPath (v : Value) : Nat → List Char → Act Value
  | 0, _ => return v
  | _, [] => return v
  | fuel + 1, '.' :: rest => do
    let name := rest.takeWhile fun c => c != '.' && c != '['
    fieldPath (← m.getMember v (String.ofList name)) fuel (rest.drop name.length)
  | fuel + 1, '[' :: rest => do
    let key := rest.takeWhile (· ≠ ']')
    let k : Value := match (String.ofList key).toNat? with
      | some n => .int n
      | none => .str (String.ofList key)
    fieldPath (← m.getItem v k) fuel (rest.drop (key.length + 1))
  | _, _ => fail .valueError "Only '.' or '[' may follow ']' in format field specifier"

/-- How the fields of a text are numbered: the number of the next field, or `none` once a field has
given its own number. -/
abbrev Numbering := Option Nat

/-- The inside of a field, up to the brace that closes it, and the rest after that brace. -/
def fieldInside : Nat → List Char → List Char → Option (List Char × List Char)
  | _, _, [] => none
  | 0, done, '\x7d' :: rest => some (done.reverse, rest)
  | depth + 1, done, '\x7d' :: rest => fieldInside depth ('\x7d' :: done) rest
  | depth, done, '\x7b' :: rest => fieldInside (depth + 1) ('\x7b' :: done) rest
  | depth, done, c :: rest => fieldInside depth (c :: done) rest

/-- The value that a field names, and the numbering after it. -/
def fieldValue (args : List Value) (named : Fields) (numbering : Numbering) (fresh : Bool)
    (name : String) : Act (Value × Numbering × Bool) := do
  let at_ (i : Nat) : Act Value := match args[i]? with
    | some v => return v
    | none =>
      fail .indexError
        ("Replacement index " ++ toString i ++ " out of range for positional args tuple")
  if name.isEmpty then
    match numbering with
    | some i => return (← at_ i, some (i + 1), false)
    | none =>
      fail .valueError "cannot switch from manual field specification to automatic field numbering"
  else match name.toNat? with
    | some i =>
      if numbering.isSome && !fresh then
        fail .valueError "cannot switch from automatic field numbering to manual field specification"
      return (← at_ i, none, false)
    | none =>
      match named.lookup name with
      | some v => return (v, numbering, fresh)
      | none => keyError (.str name)

/-- Replaces the fields of a text, `depth` levels of them inside each other. -/
def fillFrom (args : List Value) (named : Fields) (depth fuel : Nat) (numbering : Numbering)
    (fresh : Bool) (cs : List Char) : Act (String × Numbering × Bool) := do
  match fuel, cs with
  | 0, _ => return ("", numbering, fresh)
  | _, [] => return ("", numbering, fresh)
  | fuel + 1, '\x7b' :: '\x7b' :: rest => do
    let (tail, state) ← fillFrom args named depth fuel numbering fresh rest
    return ("\x7b" ++ tail, state)
  | fuel + 1, '\x7d' :: '\x7d' :: rest => do
    let (tail, state) ← fillFrom args named depth fuel numbering fresh rest
    return ("\x7d" ++ tail, state)
  | _, '\x7d' :: _ => fail .valueError "Single '\x7d' encountered in format string"
  | _, ['\x7b'] => fail .valueError "Single '\x7b' encountered in format string"
  | fuel + 1, '\x7b' :: rest => do
    if depth = 0 then fail .valueError "Max string recursion exceeded"
    match fieldInside 0 [] rest with
    | none => fail .valueError "expected '\x7d' before end of string"
    | some (field, rest) =>
      let head := field.takeWhile fun c => c != ':' && c != '!'
      let after := field.drop head.length
      let (conversion, after) ← match after with
        | '!' :: c :: ':' :: spec => pure (some c, ':' :: spec)
        | ['!', c] => pure (some c, [])
        | '!' :: _ => fail .valueError "expected ':' after conversion specifier"
        | after => pure (none, after)
      let name := String.ofList (head.takeWhile fun c => c != '.' && c != '[')
      let path := head.drop name.length
      let (v, numbering, fresh) ← fieldValue args named numbering fresh name
      let v ← m.fieldPath v (path.length + 1) path
      let v ← match conversion with
        | some c => m.convert c v
        | none => pure v
      let (spec, numbering, fresh) ← match after.drop 1 with
        | [] => pure ("", numbering, fresh)
        | spec => fillFrom args named (depth - 1) fuel numbering fresh spec
      let shown ← m.format v spec
      let (tail, state) ← fillFrom args named depth fuel numbering fresh rest
      return (shown ++ tail, state)
  | fuel + 1, c :: rest => do
    let (tail, state) ← fillFrom args named depth fuel numbering fresh rest
    return (String.singleton c ++ tail, state)

/-- A text with its fields replaced by values. -/
def fillIn (s : String) (args : List Value) (named : Fields) : Act String :=
  return (← m.fillFrom args named 2 (s.length + 1) (some 0) true s.toList).1

end Machine

end ErrorTrail
