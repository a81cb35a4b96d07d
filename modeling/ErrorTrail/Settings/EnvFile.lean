import ErrorTrail.Text.Classes
import ErrorTrail.Text.Quoted
import ErrorTrail.Syntax.Token.Lexer

/-!
# Environment files

A file of assignments `NAME=value`, a line each. A name may follow `export` and stand in single
quotes; a value may stand in single or double quotes, then it can hold line breaks and escapes, or
run to the end of its line, where a blank and `#` begin a comment. A name without `=` has no value.
A line of any other form is skipped. A value may refer to earlier names and to the environment:
`${NAME}`, or `${NAME:-otherwise}`.
-/

namespace ErrorTrail.EnvFile

open Text

def isLineEnd (c : Char) : Bool := c == '\n' || c == '\r'

/-- White space within a line. -/
def isInnerBlank (c : Char) : Bool := isBlank c && !isLineEnd c

/-- The text after the end of a line and the blanks before it. -/
def endLine? (cs : List Char) : Option (List Char) :=
  match cs.dropWhile isInnerBlank with
  | [] => some []
  | '\r' :: '\n' :: rest => some rest
  | c :: rest => if isLineEnd c then some rest else none

/-- The text after the current line. -/
def skipLine (cs : List Char) : List Char := (cs.dropWhile fun c => !isLineEnd c).drop 1

/-- The text after a comment, if one begins here. -/
def skipComment (cs : List Char) : List Char :=
  match cs.dropWhile isInnerBlank with
  | '#' :: rest => rest.dropWhile fun c => !isLineEnd c
  | _ => cs

/-- The text after the word `export` and blanks. -/
def skipExport (cs : List Char) : List Char :=
  if "export".toList.isPrefixOf cs then
    let rest := cs.drop 6
    if rest.head?.any isInnerBlank then rest.dropWhile isInnerBlank else cs
  else cs

/-- A quoted value after its opening quote: up to the first quote without a backslash before it, or
up to the last quote of all if there is none. The second part is the text after the quote. -/
def quotedValue (q : Char) : List Char → Option (List Char × List Char)
  | [] => none
  | '\\' :: c :: cs =>
    if c = q then
      match quotedValue q cs with
      | some (v, rest) => some ('\\' :: q :: v, rest)
      | none => some (['\\'], cs)
    else (quotedValue q (c :: cs)).map fun r => ('\\' :: r.1, r.2)
  | c :: cs => if c = q then some ([], cs) else (quotedValue q cs).map fun r => (c :: r.1, r.2)

/-- Replaces the escapes of a quoted value. -/
def unescape (escapes : List (Char × Char)) : List Char → List Char
  | '\\' :: c :: cs =>
    match escapes.lookup c with
    | some d => d :: unescape escapes cs
    | none => '\\' :: unescape escapes (c :: cs)
  | c :: cs => c :: unescape escapes cs
  | [] => []

def singleEscapes : List (Char × Char) := [('\\', '\\'), ('\'', '\'')]

def doubleEscapes : List (Char × Char) :=
  [('\\', '\\'), ('\'', '\''), ('"', '"'), ('a', Char.ofNat 7), ('b', Char.ofNat 8),
    ('f', Char.ofNat 12), ('n', '\n'), ('r', '\r'), ('t', '\t'), ('v', Char.ofNat 11)]

/-- The part of a value before a comment: white space and then `#`. -/
def beforeComment : List Char → List Char
  | [] => []
  | c :: cs =>
    if isBlank c && ((cs.dropWhile isBlank).head? == some '#') then [] else c :: beforeComment cs

/-- An unquoted value, and the text from the end of its line on. -/
def plainValue (cs : List Char) : List Char × List Char :=
  let line := cs.takeWhile fun c => !isLineEnd c
  ((((beforeComment line).reverse.dropWhile isBlank).reverse), cs.drop line.length)

/-- A name, if the text begins with one; a comment has none. -/
def readName (cs : List Char) : Option (Option (List Char) × List Char) :=
  match cs with
  | '#' :: _ => some (none, cs)
  | '\'' :: rest =>
    let name := rest.takeWhile (· ≠ '\'')
    if name.isEmpty || name.length = rest.length then none
    else some (some name, rest.drop (name.length + 1))
  | _ =>
    let name := cs.takeWhile fun c => c ≠ '=' && c ≠ '#' && !isBlank c
    if name.isEmpty then none else some (some name, cs.drop name.length)

def readValue (cs : List Char) : Option (List Char × List Char) :=
  match cs with
  | '\'' :: rest => (quotedValue '\'' rest).map fun r => (unescape singleEscapes r.1, r.2)
  | '"' :: rest => (quotedValue '"' rest).map fun r => (unescape doubleEscapes r.1, r.2)
  | _ => some (plainValue cs)

/-- One line: its assignment, if it has one, and the rest of the text. -/
def readLine (cs : List Char) : Option (String × Option String) × List Char :=
  let start := skipExport (cs.dropWhile isBlank)
  match readName start with
  | none => (none, skipLine start)
  | some (name, rest) =>
    let rest := rest.dropWhile isInnerBlank
    let valued : Option (Option (List Char) × List Char) × List Char := match rest with
      | '=' :: more =>
        let more := more.dropWhile isInnerBlank
        ((readValue more).map fun r => (some r.1, r.2), more)
      | _ => (some (none, rest), rest)
    match valued with
    | (none, failed) => (none, skipLine failed)
    | (some (value, rest), _) =>
      let after := skipComment rest
      match endLine? after with
      | none => (none, skipLine after)
      | some rest =>
        (name.map fun n => (String.ofList n, value.map String.ofList), rest)

/-- The assignments of a text; each line takes a character at least. -/
def readLines : Nat → List Char → List (String × Option String)
  | 0, _ => []
  | fuel + 1, cs =>
    if (cs.dropWhile isBlank).isEmpty then []
    else
      let (binding, rest) := readLine cs
      binding.toList ++ readLines fuel rest

/-- Puts a value into a list of names, in its old place if it has one. -/
def assign {α : Type} (bindings : List (String × α)) (name : String) (value : α) :
    List (String × α) :=
  if bindings.any fun b => b.1 == name then
    bindings.map fun b => if b.1 == name then (name, value) else b
  else bindings ++ [(name, value)]

/-- Replaces references to names by their values. -/
def interpolate (known : String → Option String) : Nat → List Char → List Char
  | 0, cs => cs
  | _ + 1, [] => []
  | fuel + 1, '$' :: '\x7b' :: cs =>
    let name := cs.takeWhile fun c => c ≠ '\x7d' && c ≠ ':'
    let after := cs.drop name.length
    let reference : Option (List Char × List Char) := match after with
      | '\x7d' :: rest => some ([], rest)
      | ':' :: '-' :: more =>
        let default := more.takeWhile (· ≠ '\x7d')
        match more.drop default.length with
        | '\x7d' :: rest => some (default, rest)
        | _ => none
      | _ => none
    match reference with
    | some (default, rest) =>
      ((known (String.ofList name)).map String.toList).getD default ++ interpolate known fuel rest
    | none => '$' :: '\x7b' :: interpolate known fuel cs
  | fuel + 1, c :: cs => c :: interpolate known fuel cs

/-- The names and values of an environment file, the environment being given. -/
def parse (env : List (String × String)) (text : String) : List (String × Option String) :=
  let cs := Syntax.Token.normalLines text.toList
  (readLines (cs.length + 1) cs).foldl (fun acc (name, value) =>
    let known (n : String) : Option String :=
      match acc.lookup n with
      | some v => some (v.getD "")
      | none => env.lookup n
    let value := value.map fun v => String.ofList (interpolate known (v.length + 1) v.toList)
    assign acc name value) []

end ErrorTrail.EnvFile
