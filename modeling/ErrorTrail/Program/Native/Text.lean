import ErrorTrail.Program.Arithmetic
import ErrorTrail.Program.Native.Arguments
import ErrorTrail.Text.Case
import ErrorTrail.Text.Hexadecimal

/-!
# Methods of texts and bytes
-/

namespace ErrorTrail

namespace TextMethod

open Act Text

/-- Where a text first stands in another from a place on. -/
def findFrom (needle : List Char) : List Char → Nat → Option Nat
  | [], i => if needle.isEmpty then some i else none
  | c :: cs, i =>
    if needle.isPrefixOf (c :: cs) then some i else findFrom needle cs (i + 1)

/-- Where a text last stands in another. -/
def findLast (needle s : List Char) : Option Nat :=
  (findFrom needle.reverse s.reverse 0).map fun i => s.length - i - needle.length

/-- A text cut at each place where `mark` stands, `limit` times at most. -/
def cutAt (mark : List Char) : Nat → Option Nat → List Char → List Char → List (List Char)
  | 0, _, current, rest => [current.reverse ++ rest]
  | _, some 0, current, rest => [current.reverse ++ rest]
  | _, _, current, [] => [current.reverse]
  | fuel + 1, limit, current, c :: rest =>
    if mark.isPrefixOf (c :: rest) then
      current.reverse :: cutAt mark fuel (limit.map (· - 1)) [] ((c :: rest).drop mark.length)
    else cutAt mark fuel limit (c :: current) rest

/-- The words of a text between blanks, `limit` cuts at most. -/
def words : Nat → Option Nat → List Char → List (List Char)
  | 0, _, _ => []
  | fuel + 1, limit, s =>
    let s := s.dropWhile isBlank
    if s.isEmpty then []
    else if limit = some 0 then [(s.reverse.dropWhile isBlank).reverse]
    else s.takeWhile (!isBlank ·) :: words fuel (limit.map (· - 1)) (s.dropWhile (!isBlank ·))

def splitText (mark : Option (List Char)) (limit : Option Nat) (s : List Char) : List (List Char) :=
  match mark with
  | some k => cutAt k (s.length + 1) limit [] s
  | none => words (s.length + 1) limit s

/-- Cuts counted from the end. -/
def splitFromEnd (mark : Option (List Char)) (limit : Option Nat) (s : List Char) :
    List (List Char) :=
  (splitText (mark.map List.reverse) limit s.reverse).reverse.map List.reverse

def isLineBreak (c : Char) : Bool :=
  let n := c.toNat
  (10 ≤ n && n ≤ 13) || (28 ≤ n && n ≤ 30) || n == 0x85 || n == 0x2028 || n == 0x2029

/-- The lines of a text. -/
def lines (keep : Bool) : Nat → List Char → List (List Char)
  | 0, _ => []
  | _, [] => []
  | fuel + 1, s =>
    let line := s.takeWhile (!isLineBreak ·)
    let rest := s.drop line.length
    let mark := match rest with
      | '\r' :: '\n' :: _ => ['\r', '\n']
      | c :: _ => [c]
      | [] => []
    (if keep then line ++ mark else line) :: lines keep fuel (rest.drop mark.length)

/-- A text with one replaced by another wherever it stands. -/
def replaceText (old new : List Char) (limit : Option Nat) (s : List Char) : List Char :=
  if old.isEmpty then
    let n := (limit.getD (s.length + 1))
    let body := s.zipIdx.flatMap fun (c, i) => if i < n then new ++ [c] else [c]
    if s.length < n then body ++ new else body
  else List.intercalate new (cutAt old (s.length + 1) limit [] s)

/-- A text with blanks in the place of tabs, as far as the next stop; `column` is where it begins. -/
def withoutTabs (size column : Nat) : List Char → List Char
  | [] => []
  | '\t' :: cs =>
    let n := if size = 0 then 0 else size - column % size
    List.replicate n ' ' ++ withoutTabs size (column + n) cs
  | c :: cs => c :: withoutTabs size (if c == '\n' || c == '\r' then 0 else column + 1) cs

/-- Every word with a capital first letter and small ones after it. -/
def titled : Bool → List Char → List Char
  | _, [] => []
  | inWord, c :: cs =>
    (if inWord then small c else capital c) :: titled (isCased c) cs

def isAlphabetic (c : Char) : Bool := isIdentifierStart c && c != '_'

/-- Characters that are shown as numbers. -/
def isNumeric (c : Char) : Bool :=
  isAnyDigit c || ['½', '¼', '¾', '⅓', '⅔', '⅛', '〇', '一', '二', '三'].contains c

/-- The integer that a text spells in a base. -/
def readInt? (base : Nat) (s : String) : Option Int :=
  let cs := (trimBlanks s).toList
  let (negative, cs) := match cs with
    | '-' :: cs => (true, cs)
    | '+' :: cs => (false, cs)
    | cs => (false, cs)
  let marked (mark : Char) (b : Nat) (cs : List Char) : Option (List Char) :=
    match cs with
    | '0' :: m :: rest => if small m == mark && (base = b || base = 0) then some rest else none
    | _ => none
  let (actual, cs, prefixed) :=
    match marked 'x' 16 cs, marked 'o' 8 cs, marked 'b' 2 cs with
    | some rest, _, _ => (16, rest, true)
    | _, some rest, _ => (8, rest, true)
    | _, _, some rest => (2, rest, true)
    | _, _, _ => (if base = 0 then 10 else base, cs, false)
  let cs := match cs with
    | '_' :: rest => if prefixed then rest else cs
    | cs => cs
  let digit (c : Char) : Option Nat :=
    match decimalDigit? c with
    | some d => if d < actual then some d else none
    | none =>
      let l := small c
      if 'a' ≤ l && l ≤ 'z' then
        let d := l.toNat - 87
        if d < actual then some d else none
      else none
  let rec go (previous : Bool) (n : Nat) : List Char → Option Nat
    | [] => if previous then some n else none
    | '_' :: rest => if previous then go false n rest else none
    | c :: rest =>
      match digit c with
      | some d => go true (n * actual + d) rest
      | none => none
  let vague := base = 0 && !prefixed && cs.head? = some '0' && cs.any fun c => c != '0' && c != '_'
  if vague then none else (go false 0 cs).map fun n => if negative then -(n : Int) else n

/-- The floating number that a text spells. -/
def readFloat? (s : String) : Option Float :=
  let t := String.ofList ((trimBlanks s).toList.map small)
  let (negative, body) := if t.startsWith "-" then (true, (t.drop 1).copy)
    else if t.startsWith "+" then (false, (t.drop 1).copy) else (false, t)
  let signed (x : Float) : Float := if negative then -x else x
  if body = "inf" || body = "infinity" then some (signed (1.0 / 0.0))
  else if body = "nan" then some (signed (0.0 / 0.0))
  else
    let cs := body.toList.map fun c => ((decimalDigit? c).map fun d => Char.ofNat (48 + d)).getD c
    let digits (cs : List Char) : Bool :=
      !cs.isEmpty && cs.head? != some '_' && cs.getLast? != some '_'
        && cs.all fun c => c.isDigit || c == '_'
    let mantissa := cs.takeWhile (· ≠ 'e')
    let exponent := cs.drop mantissa.length
    let whole := mantissa.takeWhile (· ≠ '.')
    let fraction := (mantissa.dropWhile (· ≠ '.')).drop 1
    let mantissaFits := (digits whole && (fraction.isEmpty || digits fraction))
      || (whole.isEmpty && digits fraction && mantissa.contains '.')
    let exponentFits := match exponent with
      | [] => true
      | _ :: '-' :: ds => digits ds
      | _ :: '+' :: ds => digits ds
      | _ :: ds => digits ds
    if mantissaFits && exponentFits then some (signed (Decimal.ofText (String.ofList cs)).toFloat)
    else none

def textValue (cs : List Char) : Value := .str (String.ofList cs)

def newTexts (parts : List (List Char)) : Act Value := allocValue (.list (parts.map textValue))

def textOf (v : Value) : Act (List Char) := do
  match v with
  | .str s => return s.toList
  | _ => typeError "must be str"

def natOf (v : Value) : Act (Option Nat) := do
  match v.number? with
  | some (.int n) => return if n < 0 then none else some n.toNat
  | _ => typeError "must be an integer"

def limitOf (v : Option Value) : Act (Option Nat) := do
  match v with
  | some v => natOf v
  | none => return none

/-- What a text is stripped of. -/
def stripTest (v : Option Value) : Act (Char → Bool) := do
  match v with
  | none => return isBlank
  | some .none => return isBlank
  | some v => do
    let cs ← textOf v
    return fun c => cs.contains c

/-- The part of a text between two bounds, and where it begins. -/
def between (m : Machine) (s : List Char) (start stop : Option Value) : Act (List Char × Nat) := do
  let bound (v : Option Value) : Act (Option Int) := match v with
    | some v => m.boundOf v
    | none => return none
  let a := ((← bound start).map (clampBound s.length 0 s.length)).getD 0
  let b := ((← bound stop).map (clampBound s.length 0 s.length)).getD s.length
  return ((s.take b.toNat).drop a.toNat, a.toNat)

/-- Whether a text begins, or with `atEnd` ends, with one of some texts. -/
def affixed (atEnd : Bool) (s : List Char) (v : Value) : Act Bool := do
  let test (t : List Char) : Bool :=
    if atEnd then t.reverse.isPrefixOf s.reverse else t.isPrefixOf s
  match ← object? v with
  | some (.tuple vs) => vs.anyM fun v => return test (← textOf v)
  | _ => return test (← textOf v)

/-- Fills a text up to a width. -/
def justify (side : Char) (s : List Char) (args : List Value) (named : Fields) : Act Value := do
  match ← Arguments.arrange ["width", "fillchar"] args named with
  | [some w, fill] =>
    let c ← match fill with
      | some f => do
        match ← textOf f with
        | [c] => pure c
        | _ => typeError "The fill character must be exactly one character long"
      | none => pure ' '
    let width := (← natOf w).getD 0
    let missing := width - s.length
    let left := if side = '<' then 0 else if side = '>' then missing
      else missing / 2 + (if missing % 2 = 1 && width % 2 = 1 then 1 else 0)
    return textValue (List.replicate left c ++ s ++ List.replicate (missing - left) c)
  | _ => typeError "missing argument"

def notFound {α : Type} : Act α := fail .valueError "substring not found"

/-- Cuts a text in three around the first, or last, place of another. -/
def partition (last : Bool) (s mark : List Char) : Act Value := do
  if mark.isEmpty then fail .valueError "empty separator"
  match if last then findLast mark s else findFrom mark s 0 with
  | some i =>
    allocValue (.tuple [textValue (s.take i), textValue mark, textValue (s.drop (i + mark.length))])
  | none =>
    allocValue (.tuple (if last then [.str "", .str "", textValue s]
      else [textValue s, .str "", .str ""]))

/-- Splits a text. -/
def split (fromEnd : Bool) (s : List Char) (args : List Value) (named : Fields) : Act Value := do
  match ← Arguments.arrange ["sep", "maxsplit"] args named with
  | [sep, limit] =>
    let mark ← match sep with
      | none => pure none
      | some .none => pure none
      | some v => do
        let k ← textOf v
        if k.isEmpty then fail .valueError "empty separator"
        pure (some k)
    let limit ← limitOf limit
    newTexts (if fromEnd then splitFromEnd mark limit s else splitText mark limit s)
  | _ => typeError "missing argument"

/-- Where a text stands in another. -/
def search (m : Machine) (last : Bool) (s : List Char) (args : List Value) : Act (Option Nat) := do
  match args with
  | needle :: bounds =>
    let (part, offset) ← between m s bounds[0]? bounds[1]?
    let t ← textOf needle
    return (if last then findLast t part else findFrom t part 0).map (· + offset)
  | [] => typeError "missing argument"

/-- How often a text stands in another without overlaps. -/
def count (needle s : List Char) : Nat :=
  if needle.isEmpty then s.length + 1 else (cutAt needle (s.length + 1) none [] s).length - 1

/-- Calls a method of a text. -/
def call (m : Machine) (method : String) (text : String) (args : List Value) (named : Fields) :
    Act Value := do
  let s := text.toList
  let allOf (p : Char → Bool) : Value := .bool (!s.isEmpty && s.all p)
  match method with
  | "split" => split false s args named
  | "rsplit" => split true s args named
  | "join" =>
    let parts ← (← m.items (← Arguments.one "iterable" args named)).mapM textOf
    return textValue (List.intercalate s parts)
  | "isdigit" => return allOf isAnyDigit
  | "isdecimal" => return allOf fun c => (decimalDigit? c).isSome
  | "isnumeric" => return allOf isNumeric
  | "isalpha" => return allOf isAlphabetic
  | "isalnum" => return allOf fun c => isAlphabetic c || isNumeric c
  | "isspace" => return allOf isBlank
  | "isupper" => return .bool (s.any isCased && !s.any isSmall)
  | "islower" => return .bool (s.any isCased && !s.any isCapital)
  | "isidentifier" => return .bool (isIdentifier text)
  | "upper" => return textValue (s.flatMap capitals)
  | "lower" => return textValue (s.map small)
  | "casefold" =>
    return textValue (s.flatMap fun c => if c.toNat = 0xdf then ['s', 's'] else [small c])
  | "title" => return textValue (titled false s)
  | "capitalize" =>
    return textValue (match s with | [] => [] | c :: cs => capital c :: cs.map small)
  | "swapcase" => return textValue (s.map fun c => if isCapital c then small c else capital c)
  | "strip" =>
    let p ← stripTest (← Arguments.optional "chars" args named)
    return textValue ((s.dropWhile p).reverse.dropWhile p).reverse
  | "lstrip" =>
    return textValue (s.dropWhile (← stripTest (← Arguments.optional "chars" args named)))
  | "rstrip" =>
    let strips ← stripTest (← Arguments.optional "chars" args named)
    return textValue (s.reverse.dropWhile strips).reverse
  | "startswith" => affixes false
  | "endswith" => affixes true
  | "replace" =>
    match ← Arguments.arrange ["old", "new", "count"] args named with
    | [some old, some new, limit] =>
      return textValue (replaceText (← textOf old) (← textOf new) (← limitOf limit) s)
    | _ => typeError "missing argument"
  | "find" => return .int ((← search m false s args).elim (-1) Int.ofNat)
  | "rfind" => return .int ((← search m true s args).elim (-1) Int.ofNat)
  | "index" => match ← search m false s args with
    | some i => return .int i
    | none => notFound
  | "rindex" => match ← search m true s args with
    | some i => return .int i
    | none => notFound
  | "count" =>
    match args with
    | needle :: bounds =>
      let (part, _) ← between m s bounds[0]? bounds[1]?
      return .int (count (← textOf needle) part)
    | [] => typeError "missing argument"
  | "format" => return .str (← m.fillIn text args named)
  | "splitlines" =>
    let keep ← match ← Arguments.optional "keepends" args named with
      | some v => m.truth v
      | none => pure false
    newTexts (lines keep (s.length + 1) s)
  | "zfill" =>
    let width := (← natOf (← Arguments.one "width" args named)).getD 0
    let (head, body) := match s with
      | c :: cs => if c == '-' || c == '+' then ([c], cs) else ([], s)
      | [] => ([], s)
    return textValue (head ++ List.replicate (width - s.length) '0' ++ body)
  | "ljust" => justify '<' s args named
  | "rjust" => justify '>' s args named
  | "center" => justify '^' s args named
  | "partition" => partition false s (← textOf (← Arguments.one "sep" args named))
  | "rpartition" => partition true s (← textOf (← Arguments.one "sep" args named))
  | "removeprefix" =>
    let t ← textOf (← Arguments.one "prefix" args named)
    return textValue (if t.isPrefixOf s then s.drop t.length else s)
  | "removesuffix" =>
    let t ← textOf (← Arguments.one "suffix" args named)
    return textValue (if !t.isEmpty && t.isSuffixOf s then s.take (s.length - t.length) else s)
  | "expandtabs" =>
    let size ← match ← Arguments.optional "tabsize" args named with
      | some v => pure ((← natOf v).getD 0)
      | none => pure 8
    return textValue (withoutTabs size 0 s)
  | "encode" => return .bytes text.toUTF8.toList
  | _ => fail .attributeError method
where
  affixes (atEnd : Bool) : Act Value := do
    match args with
    | v :: bounds =>
      let (part, _) ← between m text.toList bounds[0]? bounds[1]?
      return .bool (← affixed atEnd part v)
    | [] => typeError "missing argument"

/-- Calls a method of bytes. -/
def callBytes (method : String) (bs : List UInt8) : Act Value := do
  match method with
  | "decode" =>
    match String.fromUTF8? (ByteArray.mk bs.toArray) with
    | some s => return .str s
    | none => raise (← newException .unicodeDecodeError [])
  | "hex" => return .str (hexOfBytes bs)
  | _ => fail .attributeError method

end TextMethod

end ErrorTrail
