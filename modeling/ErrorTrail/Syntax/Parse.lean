import ErrorTrail.Syntax.Grammar.Statement

/-!
# Parsing

`parseFile` reads a whole source text and `parseExpression` a single expression. The rules of the
grammar refer to each other; `Rule.read` closes that recursion with a bound on its depth that no
text of the given length exceeds, since between two rules that take no token there are fewer than
twenty others.
-/

namespace ErrorTrail.Syntax

open Reader in
/-- Reads what a rule describes, `self` reading the rules inside. -/
def Rule.step (self : Rule → Reader Parsed) : Rule → Reader Parsed
  | .expression => Reader.expression self
  | .disjunction => Reader.disjunction self
  | .inversion => Reader.inversion self
  | .bitOr => Reader.bitOr self
  | .factor => Reader.factor self
  | .named => Reader.named self
  | .starNamed => Reader.starNamed self
  | .starExpressions => Reader.starExpressions self
  | .yieldOrStar => Reader.yieldOrStar self
  | .target => Reader.target self (Reader.awaited self)
  | .pattern => Reader.pattern self
  | .statement => Reader.statement self
  | .block => Reader.block self

/-- Reads what a rule describes, rules nesting at most `fuel` deep. -/
def Rule.read : Nat → Rule → Reader Parsed
  | 0, _ => throw .grammar
  | fuel + 1, r => Rule.step (Rule.read fuel) r

/-- A depth of rules that a text does not exceed. -/
def depthBound (source : String) : Nat := 20 * (source.length + 20)

/-- Reads a whole file. -/
def fileReader (fuel : Nat) : Reader Parsed := do
  let body ← Reader.statements (Rule.read fuel)
  Reader.expect .stop
  pure (Reader.unplaced .file [Reader.many body])

/-- Runs a reader on a source text. -/
def readWith (r : Reader Parsed) (source : String) : Except Malformed Parsed :=
  (r ⟨Token.scan source, 1⟩).map (·.1)

/-- The tree of a source text with the lines of its nodes. -/
def parseLines (source : String) : Except Malformed Parsed :=
  readWith (fileReader (depthBound source)) source

/-- Reads a single expression. -/
def expressionReader (fuel : Nat) : Reader Parsed := do
  let first ← Reader.line
  let t ← Reader.tupleOr first
    (← Reader.commaList Reader.startsExpression (Rule.read fuel .expression))
  Reader.loop (fun (_ : Unit) => do if ← Reader.accept .newline then pure (some ()) else pure none) ()
  Reader.expect .stop
  pure t

/-- The tree of a source text. -/
def parseFile (source : String) : Except Malformed (SyntaxTree Span) :=
  (parseLines source).map (SyntaxTree.map Span.ofExtent)

/-- The tree of an expression. -/
def parseExpression (source : String) : Except Malformed (SyntaxTree Span) :=
  (readWith (expressionReader (depthBound source)) source).map (SyntaxTree.map Span.ofExtent)

end ErrorTrail.Syntax
