import ErrorTrail.Syntax.Grammar.Target
import ErrorTrail.Syntax.Grammar.Text

/-!
# Expressions

From the loosest to the tightest binding: conditions and functions without name, `or`, `and`, `not`,
comparisons, the binary operators in six levels, signs, powers, `await`, and the trailers of calls,
subscripts and attributes.
-/

namespace ErrorTrail.Syntax.Reader

variable (self : Rule → Reader Parsed)

/-! ### Operators -/

/-- Operands of one level, joined from the left. -/
def leftAssoc (ops : List (String × BinaryOp)) (operand : Reader Parsed) : Reader Parsed := do
  let first ← line
  let left ← operand
  loop (fun left => do
    match ← peek with
    | .op o =>
      match ops.lookup o with
      | some op => do
        advance
        let right ← operand
        some <$> mk (.binOp op) first [left, right]
      | none => pure none
    | _ => pure none) left

def term : Reader Parsed :=
  leftAssoc [("*", .mult), ("/", .div), ("//", .floorDiv), ("%", .mod), ("@", .matMult)]
    (self .factor)

def bitOr : Reader Parsed :=
  leftAssoc [("|", .bitOr)] <| leftAssoc [("^", .bitXor)] <| leftAssoc [("&", .bitAnd)] <|
    leftAssoc [("<<", .lShift), (">>", .rShift)] <| leftAssoc [("+", .add), ("-", .sub)] <| term self

/-- Takes a comparison operator. -/
def compareOp? : Reader (Option CompareOp) := do
  match ← peek with
  | .op o =>
    match [("==", CompareOp.eq), ("!=", .notEq), ("<", .lt), ("<=", .ltE), (">", .gt),
        (">=", .gtE)].lookup o with
    | some op => advance; pure (some op)
    | none => pure none
  | .name "in" => advance; pure (some .inside)
  | .name "is" =>
    advance
    if ← acceptWord "not" then pure (some .isNot) else pure (some .is)
  | .name "not" =>
    if (← peekSecond) = .name "in" then advance; advance; pure (some .notIn) else pure none
  | _ => pure none

def comparison : Reader Parsed := do
  let first ← line
  let left ← self .bitOr
  let pairs ← loop (fun (acc : List (CompareOp × Parsed)) => do
    match ← compareOp? with
    | some op => do
      let right ← self .bitOr
      pure (some (acc ++ [(op, right)]))
    | none => pure none) []
  if pairs.isEmpty then pure left
  else mk (.compare (pairs.map (·.1))) first [left, many (pairs.map (·.2))]

def inversion : Reader Parsed := do
  let first ← line
  if ← acceptWord "not" then
    let t ← self .inversion
    mk (.unaryOp .not) first [t]
  else comparison self

/-- Two or more operands joined by a word, or one operand alone. -/
def wordJoined (word : String) (op : BoolOp) (operand : Reader Parsed) : Reader Parsed := do
  let first ← line
  let head ← operand
  let items ← loop (fun (acc : List Parsed) => do
    if ← acceptWord word then
      let next ← operand
      pure (some (acc ++ [next]))
    else pure none) [head]
  if items.length = 1 then pure head else mk (.boolOp op) first [many items]

def disjunction : Reader Parsed := wordJoined "or" .or <| wordJoined "and" .and (self .inversion)

/-! ### Parameters -/

/-- The parameters of a function as far as they have been read. -/
structure Parameters where
  positionalOnly : List Parsed := []
  positional : List Parsed := []
  vararg : Parsed := absent
  keywordOnly : List Parsed := []
  keywordDefaults : List Parsed := []
  kwarg : Parsed := absent
  defaults : List Parsed := []
  /-- Whether a star has been read, and whether a parameter must still follow it. -/
  star : Bool := false
  needsKeyword : Bool := false
  slash : Bool := false
  closed : Bool := false

def Parameters.toTree (p : Parameters) : Parsed :=
  unplaced .arguments [many p.positionalOnly, many p.positional, p.vararg, many p.keywordOnly,
    many p.keywordDefaults, p.kwarg, many p.defaults]

/-- A parameter's name and, where allowed, its annotation. -/
def parameter (annotated starHint : Bool) : Reader Parsed := do
  let first ← line
  let id ← identifier
  if ← acceptOpIf annotated ":" then
    let t ← if starHint && (← isOp "*") then self .starNamed else self .expression
    mk (.arg id) first [t]
  else mk (.arg id) first [absent]

/-- One parameter or separator. -/
def parameterStep (annotated : Bool) (p : Parameters) : Reader Parameters := do
  if p.closed then fault
  if ← acceptOp "/" then
    if p.slash || p.star || p.positional.isEmpty then throw .grammar
    pure { p with positionalOnly := p.positional, positional := [], slash := true }
  else if ← acceptOp "**" then
    if p.needsKeyword then throw .grammar
    let a ← parameter self annotated false
    pure { p with kwarg := a, closed := true }
  else if ← acceptOp "*" then
    if p.star then throw .grammar
    if ← isOp "," then pure { p with star := true, needsKeyword := true }
    else
      let a ← parameter self annotated annotated
      pure { p with star := true, vararg := a }
  else
    let a ← parameter self annotated false
    let default? ← if ← acceptOp "=" then some <$> self .expression else pure none
    if p.star then
      pure { p with
        keywordOnly := p.keywordOnly ++ [a]
        keywordDefaults := p.keywordDefaults ++ [default?.getD absent]
        needsKeyword := false }
    else match default? with
      | some d => pure { p with positional := p.positional ++ [a], defaults := p.defaults ++ [d] }
      | none =>
        if p.defaults.isEmpty then pure { p with positional := p.positional ++ [a] }
        else throw .grammar

/-- Parameters up to a closing token, with annotations or without. -/
def parameters (annotated : Bool) (close : Token.Kind) : Reader Parsed := do
  let p ← loop (fun (p : Parameters) => do
    if (← peek) = close then pure none
    else
      let p ← parameterStep self annotated p
      unless (← peek) = close do expectOp ","
      pure (some p)) {}
  if p.needsKeyword then throw .grammar
  pure p.toTree

/-! ### Conditions, functions without name, assignment expressions -/

def expression : Reader Parsed := do
  let first ← line
  if ← acceptWord "lambda" then
    let ps ← parameters self false (.op ":")
    expectOp ":"
    let body ← self .expression
    mk .lambda first [ps, body]
  else
    let body ← self .disjunction
    if ← acceptWord "if" then
      let test ← self .disjunction
      expectWord "else"
      let other ← self .expression
      mk .ifExp first [test, body, other]
    else pure body

def named : Reader Parsed := do
  let first ← line
  if isNameToken (← peek) && (← peekSecond) = .op ":=" then
    let id ← identifier
    let target ← mk (.name id .store) first []
    expectOp ":="
    let value ← self .expression
    mk .namedExpr first [target, value]
  else
    let t ← self .expression
    if ← isOp ":=" then fault
    pure t

def starNamed : Reader Parsed := do
  let first ← line
  if ← acceptOp "*" then
    let t ← self .bitOr
    mk (.starred .load) first [t]
  else self .named

/-- A tuple if there is a comma, the item alone otherwise. -/
def tupleOr (first : Nat) (items : List Parsed × Bool) : Reader Parsed := do
  match items with
  | ([t], false) => pure t
  | (ts, _) => mk (.tuple .load) first [many ts]

def starExpression : Reader Parsed := do
  let first ← line
  if ← acceptOp "*" then
    let t ← self .bitOr
    mk (.starred .load) first [t]
  else self .expression

def starExpressions : Reader Parsed := do
  let first ← line
  tupleOr first (← commaList startsStarred (starExpression self))

def yieldOrStar : Reader Parsed := do
  let first ← line
  if ← acceptWord "yield" then
    if ← acceptWord "from" then
      let t ← self .expression
      mk .yieldFrom first [t]
    else if startsStarred (← peek) then
      let t ← self .starExpressions
      mk .yield first [t]
    else mk .yield first [absent]
  else self .starExpressions

/-! ### Comprehensions -/

/-- Whether a comprehension's clause begins here. -/
def startsClause : Reader Bool := do
  if ← isWord "for" then pure true
  else if ← isWord "async" then pure ((← peekSecond) = .name "for")
  else pure false

def clause : Reader Parsed := do
  let asynchronous ← acceptWord "async"
  expectWord "for"
  let target ← targets self
  expectWord "in"
  let iter ← self .disjunction
  let ifs ← loop (fun (acc : List Parsed) => do
    if ← acceptWord "if" then
      let t ← self .disjunction
      pure (some (acc ++ [t]))
    else pure none) []
  pure (unplaced (.comprehension (if asynchronous then 1 else 0)) [target, iter, many ifs])

/-- One or more clauses. -/
def clauses : Reader Parsed := do
  let head ← clause self
  let all ← loop (fun (acc : List Parsed) => do
    if ← startsClause then
      let c ← clause self
      pure (some (acc ++ [c]))
    else pure none) [head]
  pure (many all)

def isStarred : Parsed → Bool
  | .node (.starred _) _ _ => true
  | _ => false

/-! ### Displays -/

/-- What stands after an opening parenthesis. -/
def parenthesised (first : Nat) : Reader Parsed := do
  if ← acceptOp ")" then mk (.tuple .load) first [many []]
  else if ← isWord "yield" then
    let t ← self .yieldOrStar
    expectOp ")"
    pure t
  else
    let head ← self .starNamed
    if ← startsClause then
      if isStarred head then throw .grammar
      let gens ← clauses self
      expectOp ")"
      mk .generatorExp first [head, gens]
    else if ← isOp "," then
      advance
      let rest ← if ← isOp ")" then pure [] else (·.1) <$> commaList startsStarred (self .starNamed)
      expectOp ")"
      mk (.tuple .load) first [many (head :: rest)]
    else
      if isStarred head then fault
      expectOp ")"
      pure head

/-- What stands after an opening bracket. -/
def bracketed (first : Nat) : Reader Parsed := do
  if ← acceptOp "]" then mk (.list .load) first [many []]
  else
    let head ← self .starNamed
    if ← startsClause then
      if isStarred head then throw .grammar
      let gens ← clauses self
      expectOp "]"
      mk .listComp first [head, gens]
    else
      let rest ← loop (fun (acc : List Parsed) => do
        if (← isOp ",") && startsStarred (← peekSecond) then
          advance
          let t ← self .starNamed
          pure (some (acc ++ [t]))
        else pure none) [head]
      let _ ← acceptOp ","
      expectOp "]"
      mk (.list .load) first [many rest]

/-- A key with its value; an unpacked mapping has no key. -/
def keyValue : Reader (Parsed × Parsed) := do
  if ← acceptOp "**" then
    let t ← self .bitOr
    pure (absent, t)
  else
    let k ← self .expression
    expectOp ":"
    let v ← self .expression
    pure (k, v)

/-- The rest of a mapping after its first pair. -/
def mapping (first : Nat) (head : Parsed × Parsed) : Reader Parsed := do
  if ← startsClause then
    if head.1.isAbsent then throw .grammar
    let gens ← clauses self
    expectOp "\x7d"
    mk .dictComp first [head.1, head.2, gens]
  else
    let pairs ← loop (fun (acc : List (Parsed × Parsed)) => do
      if ← isOp "," then
        let k ← peekSecond
        if k = .op "**" || startsExpression k then
          advance
          let kv ← keyValue self
          pure (some (acc ++ [kv]))
        else pure none
      else pure none) [head]
    let _ ← acceptOp ","
    expectOp "\x7d"
    mk .dict first [many (pairs.map (·.1)), many (pairs.map (·.2))]

/-- What stands after an opening brace. -/
def braced (first : Nat) : Reader Parsed := do
  if ← acceptOp "\x7d" then mk .dict first [many [], many []]
  else if ← isOp "**" then mapping self first (← keyValue self)
  else
    let assigns := isNameToken (← peek) && (← peekSecond) = .op ":="
    let head ← self .starNamed
    if ← acceptOpIf (!assigns && !isStarred head) ":" then
      let v ← self .expression
      mapping self first (head, v)
    else if ← startsClause then
      if isStarred head then throw .grammar
      let gens ← clauses self
      expectOp "\x7d"
      mk .setComp first [head, gens]
    else
      let rest ← loop (fun (acc : List Parsed) => do
        if (← isOp ",") && startsStarred (← peekSecond) then
          advance
          let t ← self .starNamed
          pure (some (acc ++ [t]))
        else pure none) [head]
      let _ ← acceptOp ","
      expectOp "\x7d"
      mk .set first [many rest]

def atom : Reader Parsed := do
  let first ← line
  match ← peek with
  | .name "True" => advance; mk (.constant .true none) first []
  | .name "False" => advance; mk (.constant .false none) first []
  | .name "None" => advance; mk (.constant .none none) first []
  | .name _ =>
    let id ← identifier
    mk (.name id .load) first []
  | .number text =>
    match numberConstant text with
    | some c => advance; mk (.constant c none) first []
    | none => throw .grammar
  | .literal _ => literals self
  | .op "(" => advance; parenthesised self first
  | .op "[" => advance; bracketed self first
  | .op "\x7b" => advance; braced self first
  | .op "..." => advance; mk (.constant .ellipsis none) first []
  | _ => fault

/-! ### Calls, subscripts, attributes -/

/-- The arguments of a call as far as they have been read. -/
structure Arguments where
  args : List Parsed := []
  keywords : List Parsed := []
  /-- Whether a keyword argument, and an unpacked mapping, has been read. -/
  keyword : Bool := false
  unpacked : Bool := false

/-- One argument. After a keyword argument only keyword and unpacked ones may follow, after an
unpacked mapping no unpacked sequence. -/
def argument (a : Arguments) : Reader Arguments := do
  let first ← line
  if ← acceptOp "**" then
    let t ← self .expression
    let k ← mk (.keyword none) first [t]
    pure { a with keywords := a.keywords ++ [k], keyword := true, unpacked := true }
  else if ← acceptOp "*" then
    if a.unpacked then throw .grammar
    let t ← self .expression
    let s ← mk (.starred .load) first [t]
    pure { a with args := a.args ++ [s] }
  else if isNameToken (← peek) && (← peekSecond) = .op "=" then
    let id ← identifier
    expectOp "="
    let t ← self .expression
    let k ← mk (.keyword (some id)) first [t]
    pure { a with keywords := a.keywords ++ [k], keyword := true }
  else
    let t ← self .named
    if a.keyword then throw .grammar
    pure { a with args := a.args ++ [t] }

/-- The arguments after an opening parenthesis, the closing one included. -/
def callArguments (a : Arguments) : Reader Arguments := do
  let a ← loop (fun (a : Arguments) => do
    if ← isOp ")" then pure none
    else
      let a ← argument self a
      unless ← isOp ")" do expectOp ","
      pure (some a)) a
  expectOp ")"
  pure a

/-- A call of `f`; a generator may be the only argument without parentheses of its own. -/
def callOf (first : Nat) (f : Parsed) : Reader Parsed := do
  let openLine := (← get).last
  let plain := !(isNameToken (← peek) && (← peekSecond) = .op "=") && startsExpression (← peek)
  if plain then
    let head ← self .named
    if ← startsClause then
      let gens ← clauses self
      expectOp ")"
      let g ← mk .generatorExp openLine [head, gens]
      mk .call first [f, many [g], many []]
    else
      unless ← isOp ")" do expectOp ","
      let a ← callArguments self { args := [head] }
      mk .call first [f, many a.args, many a.keywords]
  else
    let a ← callArguments self {}
    mk .call first [f, many a.args, many a.keywords]

/-- The optional bound of a slice. -/
def bound : Reader Parsed := do
  if startsExpression (← peek) then self .expression else pure absent

/-- A slice, an index, or a starred index. -/
def sliceItem : Reader Parsed := do
  let first ← line
  if ← acceptOp "*" then
    let t ← self .expression
    mk (.starred .load) first [t]
  else
    let assigns := isNameToken (← peek) && (← peekSecond) = .op ":="
    let lower ← if ← isOp ":" then pure absent else self .named
    if ← acceptOpIf (!assigns) ":" then
      let upper ← bound self
      let step ← if ← acceptOp ":" then bound self else pure absent
      mk .slice first [lower, upper, step]
    else pure lower

def subscriptOf (first : Nat) (t : Parsed) : Reader Parsed := do
  let inner ← line
  let starts (k : Token.Kind) := startsStarred k || k = .op ":"
  let (items, comma) ← commaList starts (sliceItem self)
  let index ← match items, comma with
    | [i], false => if isStarred i then mk (.tuple .load) inner [many items] else pure i
    | _, _ => mk (.tuple .load) inner [many items]
  expectOp "]"
  mk (.subscript .load) first [t, index]

def primary : Reader Parsed := do
  let first ← line
  let head ← atom self
  loop (fun t => do
    if ← acceptOp "." then
      let attr ← identifier
      some <$> mk (.attribute attr .load) first [t]
    else if ← acceptOp "(" then some <$> callOf self first t
    else if ← acceptOp "[" then some <$> subscriptOf self first t
    else pure none) head

def awaited : Reader Parsed := do
  let first ← line
  if ← acceptWord "await" then
    let t ← primary self
    mk .await first [t]
  else primary self

def factor : Reader Parsed := do
  let first ← line
  let signed (op : UnaryOp) : Reader Parsed := do
    advance
    let t ← self .factor
    mk (.unaryOp op) first [t]
  match ← peek with
  | .op "+" => signed .plus
  | .op "-" => signed .minus
  | .op "~" => signed .invert
  | _ =>
    let base ← awaited self
    if ← acceptOp "**" then
      let e ← self .factor
      mk (.binOp .pow) first [base, e]
    else pure base

end ErrorTrail.Syntax.Reader
