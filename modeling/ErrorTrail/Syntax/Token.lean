import ErrorTrail.Text.Classes

/-!
# Tokens

A source text is read as lines of tokens: names, numbers, text literals and operators, with
`newline` at the end of each logical line and `indent`, `dedent` where the indentation changes.
Reading stops at the first character sequence that is no token; the last token is then `bad` and
says why.
-/

namespace ErrorTrail.Syntax

/-- Why a text is not a program: its tokens or their order, its indentation, or an indentation that
depends on the width of tabs. -/
inductive Malformed where
  | grammar
  | indentation
  | tabs
  deriving DecidableEq, Repr, Inhabited

/-- A text literal as it is written: the letters before the quotes and what stands between them. -/
structure Literal where
  marks : List Char
  body : List Char
  /-- The first line of the body. -/
  line : Nat
  deriving DecidableEq, Repr, Inhabited

/-- Whether a literal has one of the letters before its quotes, in either case. -/
def Literal.has (l : Literal) (c : Char) : Bool := l.marks.any fun m => m.toLower == c

inductive Token.Kind where
  | name (text : String)
  | number (text : String)
  | literal (l : Literal)
  | op (text : String)
  | newline
  | indent
  | dedent
  | stop
  | bad (why : Malformed)
  deriving DecidableEq, Repr, Inhabited

/-- A token with the lines on which it begins and ends. -/
structure Token where
  kind : Token.Kind
  first : Nat
  last : Nat
  deriving DecidableEq, Repr, Inhabited

/-- The reserved words. -/
def reserved : List String :=
  ["False", "None", "True", "and", "as", "assert", "async", "await", "break", "class", "continue",
    "def", "del", "elif", "else", "except", "finally", "for", "from", "global", "if", "import",
    "in", "is", "lambda", "nonlocal", "not", "or", "pass", "raise", "return", "try", "while",
    "with", "yield"]

end ErrorTrail.Syntax
