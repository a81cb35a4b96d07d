import ErrorTrail.Syntax.Grammar.Expression

/-!
# Patterns of case distinctions
-/

namespace ErrorTrail.Syntax.Reader

variable (self : Rule → Reader Parsed)

/-- A number, perhaps with a minus sign. -/
def signedNumber : Reader Parsed := do
  let first ← line
  if ← acceptOp "-" then
    let inner ← line
    match ← peek with
    | .number text =>
      let c ← lift (numberConstant text)
      advance
      let t ← mk (.constant c none) inner []
      mk (.unaryOp .minus) first [t]
    | _ => fault
  else match ← peek with
    | .number text =>
      let c ← lift (numberConstant text)
      advance
      mk (.constant c none) first []
    | _ => fault

def isImaginary : Parsed → Bool
  | .node (.constant (.complex _) _) _ _ => true
  | .node (.unaryOp _) _ [.node (.constant (.complex _) _) _ _] => true
  | _ => false

/-- A number, or a real number plus or minus an imaginary one. -/
def numberLiteral : Reader Parsed := do
  let first ← line
  let left ← signedNumber
  let sum (op : BinaryOp) : Reader Parsed := do
    advance
    if isImaginary left then throw .grammar
    let second ← line
    match ← peek with
    | .number text =>
      let c ← lift (numberConstant text)
      advance
      let right ← mk (.constant c none) second []
      if isImaginary right then mk (.binOp op) first [left, right] else throw .grammar
    | _ => fault
  if ← isOp "+" then sum .add
  else if ← isOp "-" then sum .sub
  else pure left

/-- A name followed by attributes, one at least if `dotted`. -/
def dottedName : Reader Parsed := do
  let first ← line
  let id ← identifier
  let head ← mk (.name id .load) first []
  loop (fun t => do
    if ← acceptOp "." then
      let attr ← identifier
      some <$> mk (.attribute attr .load) first [t]
    else pure none) head

/-- The name a pattern binds; the underscore binds nothing. -/
def captureName : Reader String := do
  if ← isWord "_" then fault
  let id ← identifier
  match ← peek with
  | .op "." => throw .grammar
  | .op "(" => throw .grammar
  | .op "=" => throw .grammar
  | _ => pure id

/-- A pattern, or a starred name. -/
def starPattern : Reader Parsed := do
  let first ← line
  if ← acceptOp "*" then
    if ← acceptWord "_" then mk (.matchStar none) first []
    else
      let id ← captureName
      mk (.matchStar (some id)) first []
  else self .pattern

/-- Whether a pattern may begin with a token. -/
def startsPattern (k : Token.Kind) : Bool :=
  match k with
  | .name w => !reserved.contains w || ["True", "False", "None"].contains w
  | .number _ => true
  | .literal _ => true
  | .op o => ["(", "[", "\x7b", "-", "*"].contains o
  | _ => false

/-- Patterns up to a closing bracket, and whether a comma follows one of them. -/
def patternItems (close : String) : Reader (List Parsed × Bool) := do
  if ← isOp close then pure ([], false)
  else commaList startsPattern (starPattern self)

def isStarPattern : Parsed → Bool
  | .node (.matchStar _) _ _ => true
  | _ => false

/-- The key of a mapping pattern: a literal or a dotted name. -/
def patternKey : Reader Parsed := do
  let first ← line
  match ← peek with
  | .name "True" => advance; mk (.constant .true none) first []
  | .name "False" => advance; mk (.constant .false none) first []
  | .name "None" => advance; mk (.constant .none none) first []
  | .name _ =>
    let t ← dottedName
    match t with
    | .node (.name _ _) _ _ => throw .grammar
    | _ => pure t
  | .literal _ => literals self
  | _ => numberLiteral

/-- What stands after the opening brace of a mapping pattern. -/
def mappingPattern (first : Nat) : Reader Parsed := do
  let (pairs, rest) ← loop (fun (acc : List (Parsed × Parsed) × Option String) => do
    if (← isOp "\x7d") then pure none
    else if acc.2.isSome then fault
    else if ← acceptOp "**" then
      let id ← captureName
      unless ← isOp "\x7d" do expectOp ","
      pure (some (acc.1, some id))
    else
      let k ← patternKey self
      expectOp ":"
      let p ← self .pattern
      unless ← isOp "\x7d" do expectOp ","
      pure (some (acc.1 ++ [(k, p)], none))) ([], none)
  expectOp "\x7d"
  mk (.matchMapping rest) first [many (pairs.map (·.1)), many (pairs.map (·.2))]

/-- The arguments of a class pattern: patterns first, then named ones. -/
structure ClassPattern where
  patterns : List Parsed := []
  attrs : List String := []
  attrPatterns : List Parsed := []

/-- What stands after the opening parenthesis of a class pattern. -/
def classPattern (first : Nat) (cls : Parsed) : Reader Parsed := do
  let a ← loop (fun (a : ClassPattern) => do
    if ← isOp ")" then pure none
    else
      let a ← if isNameToken (← peek) && (← peekSecond) = .op "=" then do
          let id ← identifier
          expectOp "="
          let p ← self .pattern
          pure { a with attrs := a.attrs ++ [id], attrPatterns := a.attrPatterns ++ [p] }
        else if a.attrs.isEmpty then do
          let p ← self .pattern
          pure { a with patterns := a.patterns ++ [p] }
        else fault
      unless ← isOp ")" do expectOp ","
      pure (some a)) {}
  expectOp ")"
  mk (.matchClass a.attrs) first [cls, many a.patterns, many a.attrPatterns]

/-- A pattern that needs no parentheses next to `|`. -/
def closedPattern : Reader Parsed := do
  let first ← line
  match ← peek with
  | .name "True" => advance; mk (.matchSingleton .true) first []
  | .name "False" => advance; mk (.matchSingleton .false) first []
  | .name "None" => advance; mk (.matchSingleton .none) first []
  | .name "_" =>
    match ← peekSecond with
    | .op "." => named first
    | .op "(" => named first
    | _ => advance; mk (.matchAs none) first [absent]
  | .name _ => named first
  | .literal _ =>
    let t ← literals self
    mk .matchValue first [t]
  | .op "(" =>
    advance
    let (items, comma) ← patternItems self ")"
    expectOp ")"
    match items, comma with
    | [p], false => if isStarPattern p then throw .grammar else pure p
    | ps, _ => mk .matchSequence first [many ps]
  | .op "[" =>
    advance
    let (items, _) ← patternItems self "]"
    expectOp "]"
    mk .matchSequence first [many items]
  | .op "\x7b" => advance; mappingPattern self first
  | _ =>
    let t ← numberLiteral
    mk .matchValue first [t]
where
  /-- A pattern that begins with a name: a capture, a dotted name or a class. -/
  named (first : Nat) : Reader Parsed := do
    let t ← dottedName
    if ← acceptOp "(" then classPattern self first t
    else match t with
      | .node (.name id _) _ _ =>
        if ← isOp "=" then fault
        mk (.matchAs (some id)) first [absent]
      | _ => mk .matchValue first [t]

/-- Alternatives, perhaps with a name for the whole. -/
def pattern : Reader Parsed := do
  let first ← line
  let head ← closedPattern self
  let items ← loop (fun (acc : List Parsed) => do
    if ← acceptOp "|" then
      let p ← closedPattern self
      pure (some (acc ++ [p]))
    else pure none) [head]
  let whole ← if items.length = 1 then pure head else mk .matchOr first [many items]
  if ← acceptWord "as" then
    let id ← captureName
    mk (.matchAs (some id)) first [whole]
  else pure whole

/-- The pattern of a case, where commas need no brackets. -/
def topPattern : Reader Parsed := do
  let first ← line
  let (items, comma) ← commaList startsPattern (starPattern self)
  match items, comma with
  | [p], false => if isStarPattern p then fault else pure p
  | ps, _ => mk .matchSequence first [many ps]

end ErrorTrail.Syntax.Reader
