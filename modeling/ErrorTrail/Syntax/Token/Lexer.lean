import ErrorTrail.Syntax.Token

/-!
# Reading tokens

`Token.scan` turns a source text into its tokens. A logical line ends at a line break outside of
brackets that no backslash joins to the next line; lines that hold blanks or a comment alone give no
token. The indentation of a logical line is its number of blank columns, a tab reaching to the next
multiple of eight; it must also be consistent when a tab counts as one column.

Every step takes at least one character off the text, so the length of the text bounds the number of
steps.
-/

namespace ErrorTrail.Syntax.Token

/-- Line breaks in one form, and one at the end of the last line. -/
def normalLines : List Char → List Char
  | [] => []
  | '\r' :: '\n' :: cs => '\n' :: normalLines cs
  | '\r' :: cs => '\n' :: normalLines cs
  | ['\n'] => ['\n']
  | [c] => [c, '\n']
  | c :: cs => c :: normalLines cs

def isNameStart (c : Char) : Bool := c.isAlpha || c == '_' || c.toNat ≥ 128

def isNamePart (c : Char) : Bool := c.isAlphanum || c == '_' || c.toNat ≥ 128

/-! ### Numbers -/

/-- Digits of a class with single underscores between them; at least one digit. -/
def digitRun (isDigit : Char → Bool) : List Char → Option (List Char × List Char)
  | c :: cs =>
    if isDigit c then
      match cs with
      | '_' :: d :: ds =>
        if isDigit d then (digitRun isDigit (d :: ds)).map fun r => (c :: '_' :: r.1, r.2) else none
      | d :: ds =>
        if isDigit d then (digitRun isDigit (d :: ds)).map fun r => (c :: r.1, r.2)
        else if d = '_' then none else some ([c], d :: ds)
      | [] => some ([c], [])
    else none
  | [] => none

/-- Whether the text goes on with a word that ends there. -/
def startsWord (w : List Char) (cs : List Char) : Bool :=
  cs.take w.length == w && !((cs.drop w.length).head?.any isNamePart)

/-- Whether a number may end before this text: at no letter, save at the beginning of an operator
word. -/
def numberEnds (cs : List Char) : Bool :=
  match cs with
  | 'i' :: c :: _ => c == 'f' || c == 'n' || c == 's'
  | c :: _ =>
    !isNamePart c || ["and", "else", "for", "or", "not"].any fun w => startsWord w.toList cs
  | [] => true

/-- The part of a number from its exponent on. -/
def exponentAndUnit (cs : List Char) : Option (List Char × List Char) :=
  let exponent : Option (List Char × List Char × Bool) := match cs with
    | e :: rest =>
      if e = 'e' ∨ e = 'E' then
        match rest with
        | s :: d :: ds =>
          if s = '+' ∨ s = '-' then
            (digitRun Char.isDigit (d :: ds)).map fun r => (e :: s :: r.1, r.2, true)
          else if s.isDigit then (digitRun Char.isDigit rest).map fun r => (e :: r.1, r.2, true)
          else if numberEnds cs then some ([], cs, false) else none
        | s :: [] =>
          if s.isDigit then some ([e, s], [], true)
          else if s = '+' ∨ s = '-' then none
          else if numberEnds cs then some ([], cs, false) else none
        | [] => none
      else some ([], cs, true)
    | [] => some ([], [], true)
  match exponent with
  | none => none
  | some (_, _, false) => some ([], cs)
  | some (text, c :: rest, true) =>
    if c = 'j' ∨ c = 'J' then (if numberEnds rest then some (text ++ [c], rest) else none)
    else if numberEnds (c :: rest) then some (text, c :: rest) else none
  | some (text, [], true) => some (text, [])

/-- The part of a number after its whole digits. -/
def afterWhole (cs : List Char) : Option (List Char × List Char) :=
  match cs with
  | '.' :: rest =>
    match rest with
    | d :: _ =>
      if d.isDigit then do
        let (fraction, rest) ← digitRun Char.isDigit rest
        let (tail, rest) ← exponentAndUnit rest
        some ('.' :: fraction ++ tail, rest)
      else (exponentAndUnit rest).map fun r => ('.' :: r.1, r.2)
    | [] => some (['.'], [])
  | _ => exponentAndUnit cs

/-- A number in a base that a letter marks: digits after single underscores. -/
def basedNumber (mark : Char) (isDigit : Char → Bool) (cs : List Char) :
    Option (List Char × List Char) := do
  let cs' := match cs with
    | '_' :: rest => rest
    | _ => cs
  let (ds, rest) ← digitRun isDigit cs'
  if numberEnds rest && !(rest.head?.any Char.isDigit) then some ('0' :: mark :: ds, rest) else none

def isHexDigit (c : Char) : Bool := c.isDigit || ('a' ≤ c && c ≤ 'f') || ('A' ≤ c && c ≤ 'F')

/-- A number at the beginning of the text, which begins with a digit or with a point and a digit.
A whole number other than zero does not begin with a zero. -/
def number (cs : List Char) : Option (List Char × List Char) :=
  match cs with
  | '.' :: _ => afterWhole cs
  | '0' :: c :: rest =>
    if c = 'x' ∨ c = 'X' then basedNumber c isHexDigit rest
    else if c = 'o' ∨ c = 'O' then basedNumber c (fun d => '0' ≤ d && d ≤ '7') rest
    else if c = 'b' ∨ c = 'B' then basedNumber c (fun d => d == '0' || d == '1') rest
    else do
      let (whole, rest) ← digitRun Char.isDigit cs
      let (tail, rest) ← afterWhole rest
      if tail.isEmpty && whole.any (fun d => d != '0' && d != '_') then none
      else some (whole ++ tail, rest)
  | _ => do
    let (whole, rest) ← digitRun Char.isDigit cs
    let (tail, rest) ← afterWhole rest
    some (whole ++ tail, rest)

/-! ### Text literals -/

/-- The letters before an opening quote, if the text begins with a literal. -/
def literalMarks (cs : List Char) : Option (List Char × List Char) :=
  let isQuote (c : Char) := c == '"' || c == '\''
  let single := fun (c : Char) => ['r', 'u', 'b', 'f'].contains c.toLower
  let double := fun (c d : Char) =>
    [['b', 'r'], ['r', 'b'], ['f', 'r'], ['r', 'f']].contains [c.toLower, d.toLower]
  match cs with
  | a :: b :: c :: _ =>
    if isQuote a then some ([], cs)
    else if isQuote b && single a then some ([a], cs.drop 1)
    else if isQuote c && double a b then some ([a, b], cs.drop 2)
    else none
  | a :: b :: [] =>
    if isQuote a then
      some ([], cs)
    else if isQuote b && single a then some ([a], cs.drop 1) else none
  | a :: [] => if isQuote a then some ([], cs) else none
  | [] => none

/-- The body of a literal closed by `size` quotes `q`, and the text after them. -/
def literalBody (q : Char) (triple : Bool) : List Char → Option (List Char × List Char)
  | [] => none
  | '\\' :: c :: cs => (literalBody q triple cs).map fun r => ('\\' :: c :: r.1, r.2)
  | c :: cs =>
    if c = q then
      if triple then
        match cs with
        | a :: b :: rest =>
          if a = q ∧ b = q then some ([], rest)
          else (literalBody q triple cs).map fun r => (c :: r.1, r.2)
        | _ => none
      else some ([], cs)
    else if c = '\n' ∧ !triple then none
    else (literalBody q triple cs).map fun r => (c :: r.1, r.2)

/-- A whole literal from its opening quote on. -/
def literal (cs : List Char) : Option (List Char × List Char) :=
  match cs with
  | q :: a :: b :: rest =>
    if a = q ∧ b = q then literalBody q true rest
    else if a = q then some ([], b :: rest)
    else literalBody q false (a :: b :: rest)
  | q :: a :: [] => if a = q then some ([], []) else none
  | _ => none

/-! ### Operators -/

def operators3 : List String := ["**=", "...", "//=", "<<=", ">>="]

def operators2 : List String :=
  ["!=", "%=", "&=", "**", "*=", "+=", "-=", "->", "//", "/=", ":=", "<<", "<=", "==", ">=", ">>",
    "@=", "^=", "|="]

def operators1 : List Char :=
  ['(', ')', '[', ']', '\x7b', '\x7d', ',', '.', ':', ';', '+', '-', '*', '/', '%', '&', '|', '^',
    '~', '<', '>', '=', '@']

/-- The longest operator at the beginning of the text. -/
def operator? (cs : List Char) : Option (String × List Char) :=
  let text (n : Nat) := String.ofList (cs.take n)
  if operators3.contains (text 3) then some (text 3, cs.drop 3)
  else if operators2.contains (text 2) then some (text 2, cs.drop 2)
  else match cs with
    | c :: rest => if operators1.contains c then some (text 1, rest) else none
    | [] => none

/-- Whether a closing bracket belongs to an opening one. -/
def closes (opening closing : String) : Bool :=
  opening == "(" && closing == ")" || opening == "[" && closing == "]"
    || opening == "\x7b" && closing == "\x7d"

/-! ### Lines -/

/-- Where reading stands. -/
structure State where
  line : Nat := 1
  /-- The open indentations with tabs of width eight and of width one, innermost first. -/
  indents : List (Nat × Nat) := []
  /-- The open brackets, innermost first. -/
  brackets : List String := []
  /-- Whether the next character begins a line. -/
  fresh : Bool := true

/-- The blank columns at the beginning of a line: with tabs to multiples of eight and with tabs of
one column, the lines joined by backslashes, and the rest. A form feed begins the count anew. The
columns before the first backslash are the indentation of a joined line. -/
def blankColumns : Nat → List Char → Nat → Nat → Option Nat → Nat →
    Option (Nat × Nat × Nat × List Char)
  | 0, _, _, _, _, _ => none
  | fuel + 1, cs, col, alt, joined, lines =>
    let done := some (match joined with
      | some c => (c, c, lines, cs)
      | none => (col, alt, lines, cs))
    match cs with
    | ' ' :: rest => blankColumns fuel rest (col + 1) (alt + 1) joined lines
    | '\t' :: rest => blankColumns fuel rest ((col / 8 + 1) * 8) (alt + 1) joined lines
    | '\x0c' :: rest => blankColumns fuel rest 0 0 joined lines
    | '\\' :: rest =>
      match rest with
      | '\n' :: c :: rest' =>
        let joined := match joined with
          | some (k + 1) => some (k + 1)
          | _ => if col = 0 then none else some col
        blankColumns fuel (c :: rest') col alt joined (lines + 1)
      | _ => none
    | _ => done

/-- Closes indentations deeper than `col`. -/
def closeIndents (col : Nat) : List (Nat × Nat) → Nat × List (Nat × Nat)
  | (c, a) :: rest =>
    if col < c then let r := closeIndents col rest; (r.1 + 1, r.2) else (0, (c, a) :: rest)
  | [] => (0, [])

/-- The indentation tokens for a line that begins at a column. -/
def indentation (col alt : Nat) (indents : List (Nat × Nat)) :
    Except Malformed (List Kind × List (Nat × Nat)) :=
  let (top, topAlt) := indents.headD (0, 0)
  if col = top then (if alt = topAlt then .ok ([], indents) else .error .tabs)
  else if top < col then
    if indents.length + 1 ≥ 100 then .error .indentation
    else if alt ≤ topAlt then .error .tabs
    else .ok ([.indent], (col, alt) :: indents)
  else
    let (closed, rest) := closeIndents col indents
    let (base, baseAlt) := rest.headD (0, 0)
    if col ≠ base then .error .indentation
    else if alt ≠ baseAlt then .error .tabs
    else .ok (List.replicate closed .dedent, rest)

def countLines (cs : List Char) : Nat := cs.count '\n'

/-- What one step finds: tokens and where to go on, or the end. -/
inductive Step where
  | more (tokens : List Token) (state : State) (rest : List Char)
  | done (tokens : List Token)

/-- The step at the beginning of a line. -/
def lineStep (st : State) (cs : List Char) : Step :=
  let bad (why : Malformed) : Step := .done [⟨.bad why, st.line, st.line⟩]
  match blankColumns (cs.length + 1) cs 0 0 none 0 with
  | none => bad .grammar
  | some (col, alt, lines, rest) =>
    let line := st.line + lines
    match rest with
    | '#' :: _ =>
      .more [] { st with line := line + 1, fresh := true } ((rest.dropWhile (· ≠ '\n')).drop 1)
    | '\n' :: rest' => .more [] { st with line := line + 1, fresh := true } rest'
    | _ =>
      if !st.brackets.isEmpty then .more [] { st with line := line, fresh := false } rest
      else match indentation col alt st.indents with
        | .error why => bad why
        | .ok (kinds, indents) =>
          .more (kinds.map fun k => ⟨k, line, line⟩) { st with line, indents, fresh := false } rest

/-- The step within a line. -/
def tokenStep (st : State) (cs : List Char) : Step :=
  let bad : Step := .done [⟨.bad .grammar, st.line, st.line⟩]
  let one (kind : Kind) (rest : List Char) : Step := .more [⟨kind, st.line, st.line⟩] st rest
  match cs with
  | [] => if st.brackets.isEmpty then .done [⟨.stop, st.line, st.line⟩] else bad
  | c :: rest =>
    if c = ' ' ∨ c = '\t' ∨ c = '\x0c' then .more [] st rest
    else if c = '#' then .more [] st (rest.dropWhile (· ≠ '\n'))
    else if c = '\n' then
      let next := { st with line := st.line + 1, fresh := true }
      if st.brackets.isEmpty then .more [⟨.newline, st.line, st.line⟩] next rest
      else .more [] next rest
    else if c = '\\' then
      match rest with
      | '\n' :: d :: rest' => .more [] { st with line := st.line + 1 } (d :: rest')
      | _ => bad
    else match literalMarks cs with
    | some (marks, quotesOn) =>
      match literal quotesOn with
      | none => bad
      | some (body, rest') =>
        let last := st.line + countLines body
        .more [⟨.literal ⟨marks, body, st.line⟩, st.line, last⟩] { st with line := last } rest'
    | none =>
      if isNameStart c then
        let word := cs.takeWhile isNamePart
        let text := String.ofList word
        if word.all (·.toNat < 128) || Text.isIdentifier text then
          one (.name text) (cs.dropWhile isNamePart)
        else bad
      else if c.isDigit || (c == '.' && rest.head?.any Char.isDigit) then
        match number cs with
        | some (text, rest') => one (.number (String.ofList text)) rest'
        | none => bad
      else match operator? cs with
        | none => bad
        | some (op, rest') =>
          if op == "(" || op == "[" || op == "\x7b" then
            if st.brackets.length ≥ 200 then bad
            else .more [⟨.op op, st.line, st.line⟩] { st with brackets := op :: st.brackets } rest'
          else if op == ")" || op == "]" || op == "\x7d" then
            match st.brackets with
            | opening :: outer =>
              if closes opening op then
                .more [⟨.op op, st.line, st.line⟩] { st with brackets := outer } rest'
              else bad
            | [] => bad
          else one (.op op) rest'

/-- Repeats steps; `fuel` bounds their number. -/
def scanFrom : Nat → State → List Char → List Token
  | 0, st, _ => [⟨.bad .grammar, st.line, st.line⟩]
  | fuel + 1, st, cs =>
    match if st.fresh then lineStep st cs else tokenStep st cs with
    | .done ts => ts
    | .more ts st' rest => ts ++ scanFrom fuel st' rest

/-- The tokens of a source text. -/
def scan (source : String) : List Token :=
  let cs := normalLines source.toList
  scanFrom (2 * cs.length + 2) {} cs

/-- The tokens of an expression that begins on a given line, as if in brackets. -/
def scanWithin (line : Nat) (cs : List Char) : List Token :=
  scanFrom (2 * cs.length + 4) { line, fresh := false } cs

end ErrorTrail.Syntax.Token
