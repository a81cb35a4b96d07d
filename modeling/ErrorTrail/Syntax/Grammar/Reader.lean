import ErrorTrail.Syntax.Tree
import ErrorTrail.Syntax.Token
import ErrorTrail.Text.Compatibility

/-!
# Reading trees from tokens

A `Reader` takes tokens off the front of a list and answers a tree, or says how the text is
malformed. The grammar is written as functions over `Rule → Reader Parsed`, which read whatever a
rule describes; `ErrorTrail.Syntax.Parse` closes the recursion.
-/

namespace ErrorTrail.Syntax

/-- A tree with the lines that its nodes occupy. -/
abbrev Parsed := SyntaxTree Extent

/-- The tokens to come, and the line on which the last one taken ended. -/
structure Cursor where
  rest : List Token
  last : Nat := 1

abbrev Reader (α : Type) := StateT Cursor (Except Malformed) α

/-- The rules of the grammar that refer to each other. -/
inductive Rule where
  /-- A condition, an alternative or a function without name. -/
  | expression
  | disjunction
  | inversion
  | bitOr
  | factor
  /-- An expression or an assignment expression. -/
  | named
  /-- A named expression or a starred one. -/
  | starNamed
  /-- Expressions, possibly starred, that make a tuple when commas part them. -/
  | starExpressions
  /-- A yield expression or star expressions. -/
  | yieldOrStar
  | target
  | pattern
  | statement
  /-- The statements after a colon. -/
  | block

namespace Reader

/-- The kind of the next token. -/
def peek : Reader Token.Kind := do
  match (← get).rest with
  | t :: _ => pure t.kind
  | [] => pure .stop

/-- The kind of the token after the next. -/
def peekSecond : Reader Token.Kind := do
  match (← get).rest with
  | _ :: t :: _ => pure t.kind
  | _ => pure .stop

/-- The line on which the next token begins. -/
def line : Reader Nat := do
  match (← get).rest with
  | t :: _ => pure t.first
  | [] => pure (← get).last

/-- Gives up at the next token. A change of indentation where none may be is a fault of
indentation. -/
def fault {α : Type} : Reader α := do
  match ← peek with
  | .bad why => throw why
  | .indent => throw .indentation
  | .dedent => throw .indentation
  | _ => throw .grammar

/-- Takes the next token. -/
def advance : Reader Unit := modify fun c =>
  match c.rest with
  | t :: ts => ⟨ts, t.last⟩
  | [] => c

/-- Takes the next token if it is of a kind. -/
def accept (k : Token.Kind) : Reader Bool := do
  if (← peek) = k then advance; pure true else pure false

def acceptOp (op : String) : Reader Bool := accept (.op op)

/-- Takes an operator where one may stand. -/
def acceptOpIf (allowed : Bool) (op : String) : Reader Bool :=
  if allowed then acceptOp op else pure false

/-- Takes the next token if it is a given word. -/
def acceptWord (w : String) : Reader Bool := accept (.name w)

def isOp (op : String) : Reader Bool := do pure ((← peek) = .op op)

def isWord (w : String) : Reader Bool := do pure ((← peek) = .name w)

def expect (k : Token.Kind) : Reader Unit := do
  unless ← accept k do fault

def expectOp (op : String) : Reader Unit := expect (.op op)

def expectWord (w : String) : Reader Unit := expect (.name w)

/-- Whether a token is a name that is not reserved. -/
def isNameToken : Token.Kind → Bool
  | .name w => !reserved.contains w
  | _ => false

/-- Takes a name, in its composed spelling. -/
def identifier : Reader String := do
  match ← peek with
  | .name w => if reserved.contains w then fault else advance; pure (Text.composed w)
  | _ => fault

/-- A node that began on line `first` and ends with the last token taken. -/
def mk (form : Form) (first : Nat) (children : List Parsed) : Reader Parsed := do
  pure (.node form (some (first, (← get).last)) children)

/-- A node without a place of its own. -/
def unplaced (form : Form) (children : List Parsed) : Parsed := .node form none children

def many (ts : List Parsed) : Parsed := .node .sequence none ts

def absent : Parsed := .node .absent none []

/-- Repeats a step until it answers `none`; `fuel` bounds the repetitions. -/
def iterate {α : Type} (step : α → Reader (Option α)) : Nat → α → Reader α
  | 0, a => pure a
  | fuel + 1, a => do
    match ← step a with
    | none => pure a
    | some b => iterate step fuel b

/-- Repeats a step that takes a token each time. -/
def loop {α : Type} (step : α → Reader (Option α)) (a : α) : Reader α := do
  iterate step ((← get).rest.length + 1) a

/-- The first reader, or the second from the same place if the first gives up. -/
def orElse {α : Type} (p q : Reader α) : Reader α := fun c =>
  match p c with
  | .ok r => .ok r
  | .error _ => q c

/-- Whether an expression may begin with a token. -/
def startsExpression : Token.Kind → Bool
  | .name w =>
    !reserved.contains w || ["True", "False", "None", "not", "lambda", "await"].contains w
  | .number _ => true
  | .literal _ => true
  | .op o => ["(", "[", "\x7b", "-", "+", "~", "..."].contains o
  | _ => false

def startsStarred (k : Token.Kind) : Bool := k = .op "*" || startsExpression k

/-- Items with commas between them and perhaps one after the last; tells whether there was a
comma. -/
def commaList (starts : Token.Kind → Bool) (item : Reader Parsed) :
    Reader (List Parsed × Bool) := do
  let first ← item
  let items ← loop (fun (acc : List Parsed) => do
    if (← isOp ",") && starts (← peekSecond) then
      advance
      let next ← item
      pure (some (acc ++ [next]))
    else pure none) [first]
  let trailing ← acceptOp ","
  pure (items, trailing || items.length > 1)

end Reader

end ErrorTrail.Syntax
