import ErrorTrail.Syntax.Token.Lexer

/-!
# Excerpts

How the text of one definition is cut out of a file. `definitionStart` finds the line on which the
text of a definition begins, and `excerpt` takes the block of lines that begins there: the
decorators, the head of the definition and its indented body.

The text is read leniently: what is no token counts as one all the same, since only the words that
begin definitions, brackets, line ends and indentation matter. A bracket or text that is still open
at the end of the file leaves the block `unclosed`.
-/

namespace ErrorTrail.Syntax.Excerpt

/-- The lines of a text, each with its line break. -/
def linesOf : List Char → List (List Char)
  | [] => []
  | c :: cs =>
    if c = '\n' then [c] :: linesOf cs
    else match linesOf cs with
      | [] => [[c]]
      | l :: ls => (c :: l) :: ls

/-! ### Where a definition begins -/

/-- Whether blanks, a word and another blank begin a line; what follows is tested too. -/
def beginsWith (word : List Char) (rest : List Char → Bool) (line : List Char) : Bool :=
  let cs := line.dropWhile Text.isBlank
  word.isPrefixOf cs && rest (cs.drop word.length)

def blankNext (cs : List Char) : Bool := cs.head?.any Text.isBlank

/-- Whether a line holds the word that begins an unnamed function. -/
def holdsLambda (before : Char) : List Char → Bool
  | [] => false
  | c :: cs =>
    (!Token.isNamePart before && "lambda".toList.isPrefixOf (c :: cs)
      && ((c :: cs).drop 6).head?.any fun d => d == ':' || Text.isBlank d)
    || holdsLambda c cs

/-- Whether a definition or a decorator begins on a line. -/
def beginsDefinition (line : List Char) : Bool :=
  beginsWith "def".toList blankNext line
    || beginsWith "async".toList (fun r => blankNext r && beginsWith "def".toList blankNext r) line
    || holdsLambda ' ' line
    || beginsWith "@".toList (fun _ => true) line

/-- The index of the line, `i` or one before it, on which a definition begins, or that of the first
line; `none` if there is no such line. -/
def definitionStart (lines : List (List Char)) : Nat → Option Nat
  | 0 => some 0
  | i + 1 =>
    match lines[i + 1]? with
    | none => none
    | some line => if beginsDefinition line then some (i + 1) else definitionStart lines i

/-! ### Where it ends -/

/-- What a lenient reading meets. -/
inductive Mark where
  | word (text : String)
  | decorator
  | newline
  | indent
  | dedent
  | other
  deriving DecidableEq, Repr, Inhabited

/-- How far the block is known: the indentation inside it, and its last line so far. -/
structure Extent where
  indent : Int := 0
  unnamed : Bool := false
  started : Bool := false
  skipping : Bool := false
  decorating : Bool := false
  last : Nat := 1
  deriving DecidableEq, Repr, Inhabited

/-- The words that begin a definition. -/
def definitionWords : List String := ["def", "class", "lambda"]

/-- The block after another mark on a line; `none` if the block has ended. -/
def Extent.next (e : Extent) (line : Nat) (mark : Mark) : Option Extent :=
  if !e.started && !e.decorating then
    match mark with
    | .decorator => some { e with decorating := true, skipping := true }
    | .word w =>
      if definitionWords.contains w then
        some { e with started := true, unnamed := w == "lambda", skipping := true }
      else some { e with skipping := true }
    | _ => some { e with skipping := true }
  else
    match mark with
    | .newline => some { e with skipping := false, last := line, decorating := false }
    | .indent =>
      some (if e.skipping then e else { e with indent := e.indent + 1, skipping := true })
    | .dedent =>
      if e.skipping then some e
      else if e.indent ≤ 1 then none
      else some { e with indent := e.indent - 1 }
    | _ => if e.skipping || e.indent ≠ 0 then some e else none

/-- Where a lenient reading stands. -/
structure State where
  line : Nat := 1
  indents : List Nat := []
  /-- how many brackets are open -/
  open_ : Int := 0
  /-- whether the line is joined to the one before -/
  joined : Bool := false
  fresh : Bool := true
  extent : Extent := {}
  deriving Inhabited

/-- The outcome of a step. -/
inductive Step where
  | more (state : State) (rest : List Char)
  | finished (last : Nat)
  | unclosed

/-- Goes on after a mark. -/
def State.meet (st : State) (mark : Mark) (rest : List Char) : Step :=
  match st.extent.next st.line mark with
  | none => .finished st.extent.last
  | some e =>
    if e.unnamed && mark == .newline then .finished e.last else .more { st with extent := e } rest

/-- The column that blanks at the beginning of a line reach. -/
def column : Nat → List Char → Nat × List Char
  | n, ' ' :: cs => column (n + 1) cs
  | n, '\t' :: cs => column ((n / 8 + 1) * 8) cs
  | _, '\x0c' :: cs => column 0 cs
  | n, cs => (n, cs)

/-- The step at the beginning of a line. The characters are kept until no indentation closes. -/
def lineStep (st : State) (cs : List Char) : Step :=
  if st.open_ ≠ 0 || st.joined then
    if cs.isEmpty then .unclosed else .more { st with fresh := false, joined := false } cs
  else
    let (col, rest) := column 0 cs
    match rest with
    | [] => .finished st.extent.last
    | '#' :: _ => .more { st with line := st.line + 1 } ((rest.dropWhile (· ≠ '\n')).drop 1)
    | '\n' :: after => .more { st with line := st.line + 1 } after
    | _ =>
      let top := st.indents.headD 0
      if top < col then State.meet { st with indents := col :: st.indents, fresh := false } .indent rest
      else if col = top then .more { st with fresh := false } rest
      else if col = 0 || st.indents.contains col then
        State.meet { st with indents := st.indents.drop 1 } .dedent cs
      else .finished st.extent.last

/-- The step within a line. -/
def wordStep (st : State) (cs : List Char) : Step :=
  match cs with
  | [] => if st.open_ ≠ 0 || st.joined then .unclosed else .finished st.extent.last
  | c :: rest =>
    if c = ' ' ∨ c = '\t' ∨ c = '\x0c' then .more st rest
    else if c = '#' then .more st (rest.dropWhile (· ≠ '\n'))
    else if c = '\n' then
      let next : State := { st with fresh := true }
      if st.open_ > 0 then .more { next with line := st.line + 1 } rest
      else match State.meet next .newline rest with
        | .more s r => .more { s with line := s.line + 1 } r
        | s => s
    else if c = '\\' ∧ rest.head? = some '\n' then
      .more { st with joined := true, fresh := true, line := st.line + 1 } (rest.drop 1)
    else match Token.literalMarks cs with
    | some (marks, quotesOn) =>
      match Token.literal quotesOn, quotesOn with
      | some (body, after), _ =>
        match st.meet .other after with
        | .more s r => .more { s with line := s.line + Token.countLines body } r
        | s => s
      | none, q :: q' :: q'' :: _ =>
        if q = q' ∧ q = q'' then .unclosed else st.meet .other (cs.drop (marks.length + 1))
      | none, _ => st.meet .other (cs.drop (marks.length + 1))
    | none =>
      if Token.isNameStart c then
        let word := String.ofList (cs.takeWhile Token.isNamePart)
        st.meet (.word word) (cs.dropWhile Token.isNamePart)
      else if c.isDigit then st.meet .other (cs.dropWhile fun d => Token.isNamePart d || d == '.')
      else if c = '(' ∨ c = '[' ∨ c = '\x7b' then
        State.meet { st with open_ := st.open_ + 1 } .other rest
      else if c = ')' ∨ c = ']' ∨ c = '\x7d' then
        State.meet { st with open_ := st.open_ - 1 } .other rest
      else if c = '@' then st.meet (if rest.head? = some '=' then .other else .decorator) rest
      else st.meet .other rest

/-- How many lines the block at the beginning of a text has; `none` if something is unclosed.
`fuel` bounds the number of steps. -/
def blockFrom : Nat → State → List Char → Option Nat
  | 0, st, _ => some st.extent.last
  | fuel + 1, st, cs =>
    match if st.fresh then lineStep st cs else wordStep st cs with
    | .more st' rest => blockFrom fuel st' rest
    | .finished last => some last
    | .unclosed => none

/-- How many lines the block at the beginning of a text has; `none` if something is unclosed. A step
reads a character, begins a line or closes an indentation, which some line has opened. -/
def blockLines (cs : List Char) : Option Nat := blockFrom (3 * cs.length + 3) {} cs

end Excerpt

/-- Why the text of a definition cannot be cut out: there is no such line, or something in it is
unclosed. -/
inductive ExcerptError where
  | outOfBounds
  | unclosed
  deriving DecidableEq, Repr, Inhabited

/-- The text of the definition that begins on a line, counted from one, and the number of lines
before it. -/
def excerpt (text : String) (line : Nat) : Except ExcerptError (String × Nat) :=
  let lines := Excerpt.linesOf (Token.normalLines text.toList)
  match Excerpt.definitionStart lines (line - 1) with
  | none => .error .outOfBounds
  | some before =>
    let rest := lines.drop before
    match Excerpt.blockLines rest.flatten with
    | none => .error .unclosed
    | some count => .ok (String.ofList (rest.take count).flatten, before)

end ErrorTrail.Syntax
