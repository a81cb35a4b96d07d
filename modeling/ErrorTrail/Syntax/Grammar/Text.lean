import ErrorTrail.Syntax.Grammar.Reader
import ErrorTrail.Syntax.Token.Lexer
import ErrorTrail.Syntax.Literal

/-!
# Text literals

Adjacent literals make one constant, or a joined text if one of them is a template: a literal whose
braces hold expressions, each with an optional conversion and an optional format, which is a
template itself. A double brace stands for a brace.
-/

namespace ErrorTrail.Syntax.Reader

/-- A part of a joined text. -/
inductive Piece where
  | text (cs : List Char)
  | value (t : Parsed)

/-- Neighbouring texts as one, empty ones left out. -/
def mergePieces : List Piece → List Piece
  | [] => []
  | .text cs :: ps =>
    match mergePieces ps with
    | .text ds :: qs => .text (cs ++ ds) :: qs
    | qs => if cs.isEmpty then qs else .text cs :: qs
  | .value t :: ps => .value t :: mergePieces ps

/-- How the text before an expression ends: at a doubled brace, which it includes, or before a
brace or the end. -/
inductive TextEnd where
  | doubled
  | here

/-- The characters before the next expression. Within a format (`nested`) a brace is never doubled. -/
def textBefore (raw nested : Bool) : Nat → List Char → Option (List Char × TextEnd × List Char)
  | 0, _ => none
  | _ + 1, [] => some ([], .here, [])
  | fuel + 1, c :: cs =>
    let brace (c : Char) (cs : List Char) (before : List Char) :
        Option (List Char × TextEnd × List Char) :=
      if nested then some (before, .here, c :: cs)
      else match cs with
        | d :: ds =>
          if d = c then some (before ++ [c], .doubled, ds)
          else if c = '\x7d' then none else some (before, .here, c :: cs)
        | [] => if c = '\x7d' then none else some (before, .here, [c])
    if c = '\\' ∧ !raw then
      match cs with
      | 'N' :: '\x7b' :: ds =>
        let named := ds.takeWhile (· ≠ '\x7d')
        (textBefore raw nested fuel ((ds.dropWhile (· ≠ '\x7d')).drop 1)).map fun r =>
          (['\\', 'N', '\x7b'] ++ named ++ ['\x7d'] ++ r.1, r.2)
      | d :: ds =>
        if d = '\x7b' ∨ d = '\x7d' then brace d ds ['\\']
        else (textBefore raw nested fuel ds).map fun r => (c :: d :: r.1, r.2)
      | [] => some (['\\'], .here, [])
    else if c = '\x7b' ∨ c = '\x7d' then brace c cs []
    else (textBefore raw nested fuel cs).map fun r => (c :: r.1, r.2)

/-- Inside which quotes a scan for the end of an expression stands. -/
inductive Quotes where
  | none
  | single (q : Char)
  | triple (q : Char)

/-- The characters of an expression up to the `!`, `:`, `=` or brace that ends it. It holds neither
backslash nor comment, and its brackets match. -/
def expressionText : Nat → Quotes → List Char → List Char → Option (List Char × List Char)
  | 0, _, _, _ => none
  | _ + 1, _, _, [] => none
  | fuel + 1, quotes, open_, c :: cs =>
    let go (quotes : Quotes) (open_ : List Char) (taken rest : List Char) :=
      (expressionText fuel quotes open_ rest).map fun r => (taken ++ r.1, r.2)
    if c = '\\' then none
    else match quotes with
    | .single q => go (if c = q then .none else .single q) open_ [c] cs
    | .triple q =>
      match cs with
      | a :: b :: ds =>
        if c = q ∧ a = q ∧ b = q then go .none open_ [c, a, b] ds else go (.triple q) open_ [c] cs
      | _ => go (.triple q) open_ [c] cs
    | .none =>
      if c = '\'' ∨ c = '"' then
        match cs with
        | a :: b :: ds =>
          if a = c ∧ b = c then go (.triple c) open_ [c, a, b] ds else go (.single c) open_ [c] cs
        | _ => go (.single c) open_ [c] cs
      else if c = '[' ∨ c = '\x7b' ∨ c = '(' then
        if open_.length ≥ 200 then none else go .none (c :: open_) [c] cs
      else if c = '#' then none
      else if open_.isEmpty ∧ ['!', ':', '\x7d', '=', '<', '>'].contains c then
        match cs with
        | '=' :: ds =>
          if c = '!' ∨ c = '=' ∨ c = '<' ∨ c = '>' then go .none open_ [c, '='] ds
          else some ([], c :: cs)
        | _ => if c = '<' ∨ c = '>' then go .none open_ [c] cs else some ([], c :: cs)
      else if c = ']' ∨ c = '\x7d' ∨ c = ')' then
        match open_ with
        | o :: outer =>
          if Token.closes (String.ofList [o]) (String.ofList [c]) then
            go .none outer [c] cs
          else none
        | [] => none
      else go .none open_ [c] cs

/-- Whether a character is a blank within ASCII. -/
def isAsciiBlank (c : Char) : Bool := c == ' ' || (9 ≤ c.toNat && c.toNat ≤ 13)

/-- Reads the expression of a template as if it stood in brackets. -/
def readEmbedded (self : Rule → Reader Parsed) (line : Nat) (cs : List Char) : Reader Parsed := do
  if cs.all isAsciiBlank then throw .grammar
  let here ← get
  set (Cursor.mk (Token.scanWithin line ('(' :: cs ++ [')', '\n'])) line)
  let t ← self .starExpressions
  set here
  pure t

def lift {α : Type} : Option α → Reader α
  | some a => pure a
  | none => throw .grammar

/-- What is shown before the value of an expression, and what is left: the text of the expression with the
blanks after it, if an equals sign follows it. -/
def shownText (source : List Char) : List Char → Option (List Char) × List Char
  | '=' :: more =>
    (some (source ++ ['='] ++ more.takeWhile isAsciiBlank), more.dropWhile isAsciiBlank)
  | cs => (none, cs)

/-- The conversion of a value, if one is written, and what is left. -/
def conversionMark : List Char → Option (Option Int × List Char)
  | '!' :: c :: more => if c = 's' ∨ c = 'r' ∨ c = 'a' then some (some (c.toNat : Int), more) else none
  | ['!'] => none
  | cs => some (none, cs)

/-- The number of line breaks in a text up to `rest`, with which it ends. -/
def linesUpTo (rest cs : List Char) : Nat := Token.countLines (cs.take (cs.length - rest.length))

/-- Where a template is read: in a literal whose nodes take the lines of `place`. -/
structure TemplatePlace where
  raw : Bool
  place : Extent

/-- The pieces of a template, and what is left. `level` counts the formats around it; a format ends
before a closing brace, the whole template at its end. -/
def template (self : Rule → Reader Parsed) (p : TemplatePlace) :
    Nat → Nat → Nat → List Char → Reader (List Piece × List Char × Nat)
  | 0, _, _, _ => throw .grammar
  | fuel + 1, level, line, cs => do
    let (text, stop, rest) ← lift (textBefore p.raw (level > 0) (cs.length + 1) cs)
    let decoded ← lift (literalText p.raw text)
    let line' := line + linesUpTo rest cs
    match stop, rest with
    | .doubled, _ =>
      let (ps, rest, line) ← template self p fuel level line' rest
      pure (.text decoded :: ps, rest, line)
    | .here, '\x7b' :: inner =>
      if level ≥ 2 then throw .grammar
      let (source, after) ← lift (expressionText (inner.length + 1) .none [] inner)
      let value ← readEmbedded self line' source
      let (shown, after) := shownText source after
      let (conversion, after) ← lift (conversionMark after)
      let line'' := line' + linesUpTo after inner
      let (format, after, line'') ← match after with
        | ':' :: more => do
          if more.isEmpty then throw .grammar
          let (ps, more, line'') ← template self p fuel (level + 1) line'' more
          let values := (mergePieces ps).map fun
            | .text cs => SyntaxTree.node (.constant (.str (String.ofList cs)) none) p.place []
            | .value t => t
          pure (some (SyntaxTree.node .joinedStr p.place [many values]), more, line'')
        | _ => pure (none, after, line'')
      match after with
      | '\x7d' :: after =>
        let conversion := conversion.getD (if shown.isSome && format.isNone then 114 else -1)
        let node := SyntaxTree.node (.formattedValue conversion) p.place [value, format.getD absent]
        let (ps, rest, line) ← template self p fuel level line'' after
        pure (.text decoded :: .text (shown.getD []) :: .value node :: ps, rest, line)
      | _ => throw .grammar
    | .here, _ => pure ([.text decoded], rest, line')

/-- The pieces of one text literal. -/
def literalPieces (self : Rule → Reader Parsed) (place : Extent) (l : Literal) :
    Reader (List Piece) := do
  if l.has 'f' then
    let n := l.body.length + 1
    let (ps, rest, _) ← template self ⟨l.has 'r', place⟩ n 0 l.line l.body
    if rest.isEmpty then pure ps else throw .grammar
  else
    let cs ← lift (literalText (l.has 'r') l.body)
    pure [.text cs]

/-- The literals that stand next to each other. -/
def takeLiterals : Reader (List Literal) :=
  loop (fun acc => do
    match ← peek with
    | .literal l => advance; pure (some (acc ++ [l]))
    | _ => pure none) []

/-- One or more text or byte literals. -/
def literals (self : Rule → Reader Parsed) : Reader Parsed := do
  let first ← line
  let ls ← takeLiterals
  let place : Extent := some (first, (← get).last)
  if ls.any (·.has 'b') then
    if ls.all (·.has 'b') then
      let parts ← ls.mapM fun l => lift (decodeBytes (l.has 'r') (l.body.length + 1) l.body)
      pure (.node (.constant (.bytes parts.flatten) none) place [])
    else throw .grammar
  else
    let pieces ← ls.mapM (literalPieces self place)
    let kind := if (ls.head?.map (·.marks)) = some ['u'] then some "u" else none
    let merged := mergePieces pieces.flatten
    if ls.any (·.has 'f') then
      let values := merged.map fun
        | .text cs => SyntaxTree.node (.constant (.str (String.ofList cs)) kind) place []
        | .value t => t
      pure (.node .joinedStr place [many values])
    else
      let text := match merged with
        | [.text cs] => cs
        | _ => []
      pure (.node (.constant (.str (String.ofList text)) kind) place [])

end ErrorTrail.Syntax.Reader
