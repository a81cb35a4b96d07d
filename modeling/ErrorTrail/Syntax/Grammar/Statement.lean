import ErrorTrail.Syntax.Grammar.Pattern

/-!
# Statements

Statements are read as `sequence` trees, since one line can hold several of them. After a colon
stands a block: the rest of the line, or an indented group of lines.
-/

namespace ErrorTrail.Syntax.Reader

variable (self : Rule → Reader Parsed)

/-! ### Simple statements -/

def augmented : List (String × BinaryOp) :=
  [("+=", .add), ("-=", .sub), ("*=", .mult), ("@=", .matMult), ("/=", .div), ("%=", .mod),
    ("&=", .bitAnd), ("|=", .bitOr), ("^=", .bitXor), ("<<=", .lShift), (">>=", .rShift),
    ("**=", .pow), ("//=", .floorDiv)]

/-- An expression statement or any kind of assignment. -/
def assignment : Reader Parsed := do
  let first ← line
  let bareName := isNameToken (← peek) && (← peekSecond) = .op ":"
  let yields ← isWord "yield"
  let head ← self .yieldOrStar
  if yields then mk .exprStmt first [head]
  else match ← peek with
  | .op ":" =>
    if !head.isSingleTarget then fault
    advance
    let target ← asTarget .store head
    let hint ← self .expression
    let value ← if ← acceptOp "=" then self .yieldOrStar else pure absent
    mk (.annAssign (if bareName then 1 else 0)) first [target, hint, value]
  | .op "=" =>
    let (targets, value) ← loop (fun (acc : List Parsed × Parsed) => do
      if ← acceptOp "=" then
        let target ← asTarget .store acc.2
        let yields ← isWord "yield"
        let value ← self .yieldOrStar
        if yields && (← isOp "=") then fault
        pure (some (acc.1 ++ [target], value))
      else pure none) ([], head)
    mk .assign first [many targets, value]
  | .op o =>
    match augmented.lookup o with
    | some op => do
      if !head.isSingleTarget then throw .grammar
      advance
      let target ← asTarget .store head
      let value ← self .yieldOrStar
      mk (.augAssign op) first [target, value]
    | none => mk .exprStmt first [head]
  | _ => mk .exprStmt first [head]

/-- Names with commas between them. -/
def nameList : Reader (List String) := do
  let head ← identifier
  loop (fun acc => do
    if ← acceptOp "," then
      let id ← identifier
      pure (some (acc ++ [id]))
    else pure none) [head]

/-- Names with dots between them, as one text. -/
def dottedText : Reader String := do
  let head ← identifier
  loop (fun acc => do
    if ← acceptOp "." then
      let id ← identifier
      pure (some (acc ++ "." ++ id))
    else pure none) head

def asName : Reader (Option String) := do
  if ← acceptWord "as" then some <$> identifier else pure none

def importNames (name : Reader String) : Reader (List Parsed) := do
  let one : Reader Parsed := do
    let first ← line
    let id ← name
    let asname ← asName
    mk (.alias id asname) first []
  let head ← one
  loop (fun acc => do
    if (← isOp ",") && isNameToken (← peekSecond) then
      advance
      let a ← one
      pure (some (acc ++ [a]))
    else pure none) [head]

/-- The dots before a module's name. -/
def importLevel : Reader Nat :=
  loop (fun n => do
    if ← acceptOp "." then pure (some (n + 1))
    else if ← acceptOp "..." then pure (some (n + 3))
    else pure none) 0

def importFrom (first : Nat) : Reader Parsed := do
  let level ← importLevel
  let source ← if isNameToken (← peek) then some <$> dottedText
    else if level = 0 then fault else pure none
  expectWord "import"
  let starLine ← line
  let names ← if ← acceptOp "*" then do
      let a ← mk (.alias "*" none) starLine []
      pure [a]
    else if ← acceptOp "(" then do
      let names ← importNames identifier
      let _ ← acceptOp ","
      expectOp ")"
      pure names
    else importNames identifier
  mk (.importFrom source (some level)) first [many names]

/-- Targets of a deletion. -/
def deletion (first : Nat) : Reader Parsed := do
  let (items, _) ← commaList startsExpression (awaited self)
  let targets ← items.mapM (asTarget .del)
  match ← peek with
  | .op ";" => pure ()
  | .newline => pure ()
  | _ => fault
  mk .deleteStmt first [many targets]

def simpleStatement : Reader Parsed := do
  let first ← line
  match ← peek with
  | .name "return" =>
    advance
    let v ← if startsStarred (← peek) then self .starExpressions else pure absent
    mk .returnStmt first [v]
  | .name "import" =>
    advance
    let names ← importNames dottedText
    mk .importStmt first [many names]
  | .name "from" => advance; importFrom first
  | .name "raise" =>
    advance
    if startsExpression (← peek) then
      let e ← self .expression
      let cause ← if ← acceptWord "from" then self .expression else pure absent
      mk .raiseStmt first [e, cause]
    else mk .raiseStmt first [absent, absent]
  | .name "pass" => advance; mk .passStmt first []
  | .name "del" => advance; deletion self first
  | .name "assert" =>
    advance
    let test ← self .expression
    let msg ← if ← acceptOp "," then self .expression else pure absent
    mk .assertStmt first [test, msg]
  | .name "break" => advance; mk .breakStmt first []
  | .name "continue" => advance; mk .continueStmt first []
  | .name "global" =>
    advance
    let names ← nameList
    mk (.globalStmt names) first []
  | .name "nonlocal" =>
    advance
    let names ← nameList
    mk (.nonlocalStmt names) first []
  | _ => assignment self

/-- The simple statements of one line. -/
def simpleStatements : Reader Parsed := do
  let head ← simpleStatement self
  let all ← loop (fun (acc : List Parsed) => do
    if ← acceptOp ";" then
      if (← peek) = .newline then pure none
      else
        let s ← simpleStatement self
        pure (some (acc ++ [s]))
    else pure none) [head]
  expect .newline
  pure (many all)

/-! ### Blocks -/

/-- Statements up to the end of an indented group, or of the text. -/
def statements : Reader (List Parsed) :=
  loop (fun (acc : List Parsed) => do
    match ← peek with
    | .dedent => pure none
    | .stop => pure none
    | _ =>
      let s ← self .statement
      pure (some (acc ++ s.items))) []

def block : Reader Parsed := do
  if ← accept .newline then
    match ← peek with
    | .bad why => throw why
    | .indent =>
      advance
      let body ← statements self
      expect .dedent
      pure (many body)
    | _ => throw .indentation
  else simpleStatements self

/-- A colon and the block after it. -/
def suite : Reader Parsed := do
  expectOp ":"
  self .block

/-- The block after an optional word. -/
def optionalSuite (word : String) : Reader Parsed := do
  if ← acceptWord word then suite self else pure (many [])

/-! ### Compound statements -/

/-- What stands after `if` or `elif`. -/
def ifRest (first : Nat) : Nat → Reader Parsed
  | 0 => throw .grammar
  | fuel + 1 => do
    let test ← self .named
    let body ← suite self
    let next ← line
    let orelse ← if ← acceptWord "elif" then do
        let inner ← ifRest next fuel
        pure (many [inner])
      else optionalSuite self "else"
    mk .ifStmt first [test, body, orelse]

def forRest (first : Nat) (asynchronous : Bool) : Reader Parsed := do
  let target ← targets self
  expectWord "in"
  let iter ← self .starExpressions
  let body ← suite self
  let orelse ← optionalSuite self "else"
  mk (.forStmt asynchronous) first [target, iter, body, orelse]

def withItem : Reader Parsed := do
  let context ← self .expression
  if ← acceptWord "as" then
    let t ← self .target
    match ← peek with
    | .op "," => pure ()
    | .op ")" => pure ()
    | .op ":" => pure ()
    | _ => fault
    pure (unplaced .withItem [context, t])
  else pure (unplaced .withItem [context, absent])

/-- The items of a `with` statement, in parentheses or not, up to its colon. -/
def withItems : Reader (List Parsed) := do
  let grouped : Reader (List Parsed) := do
    expectOp "("
    let (items, _) ← commaList startsExpression (withItem self)
    expectOp ")"
    unless ← isOp ":" do fault
    pure items
  let plain : Reader (List Parsed) := do
    let head ← withItem self
    loop (fun (acc : List Parsed) => do
      if ← acceptOp "," then
        let i ← withItem self
        pure (some (acc ++ [i]))
      else pure none) [head]
  if ← isOp "(" then orElse grouped plain else plain

def withRest (first : Nat) (asynchronous : Bool) : Reader Parsed := do
  let items ← withItems self
  let body ← suite self
  mk (.withStmt asynchronous) first [many items, body]

/-- A handler, and whether it is a group's. -/
def handler : Reader (Parsed × Bool) := do
  let first ← line
  expectWord "except"
  let star ← acceptOp "*"
  if !star && (← isOp ":") then
    let body ← suite self
    let h ← mk (.exceptHandler none) first [absent, body]
    pure (h, star)
  else
    let type ← self .expression
    let name ← asName
    let body ← suite self
    let h ← mk (.exceptHandler name) first [type, body]
    pure (h, star)

def tryRest (first : Nat) : Reader Parsed := do
  let body ← suite self
  if ← acceptWord "finally" then
    let last ← suite self
    mk (.tryStmt false) first [body, many [], many [], last]
  else if ← isWord "except" then
    let (head, star) ← handler self
    let handlers ← loop (fun (acc : List Parsed) => do
      if ← isWord "except" then
        let (h, s) ← handler self
        if s != star then throw .grammar
        pure (some (acc ++ [h]))
      else pure none) [head]
    let orelse ← optionalSuite self "else"
    let last ← optionalSuite self "finally"
    mk (.tryStmt star) first [body, many handlers, orelse, last]
  else match ← peek with
    | .bad why => throw why
    | _ => throw .grammar

def functionRest (first : Nat) (asynchronous : Bool) (decorators : List Parsed) :
    Reader Parsed := do
  expectWord "def"
  let id ← identifier
  expectOp "("
  let ps ← parameters self true (.op ")")
  expectOp ")"
  let returns ← if ← acceptOp "->" then self .expression else pure absent
  let body ← suite self
  mk (.functionDef asynchronous id) first [ps, body, many decorators, returns]

def classRest (first : Nat) (decorators : List Parsed) : Reader Parsed := do
  expectWord "class"
  let id ← identifier
  let a ← if ← acceptOp "(" then callArguments self {} else pure {}
  let body ← suite self
  mk (.classDef id) first [many a.args, many a.keywords, body, many decorators]

/-- One or more decorators and what they decorate. -/
def decorated : Reader Parsed := do
  let decorators ← loop (fun (acc : List Parsed) => do
    if ← acceptOp "@" then
      let d ← self .named
      expect .newline
      pure (some (acc ++ [d]))
    else pure none) []
  let first ← line
  if ← isWord "class" then classRest self first decorators
  else if ← acceptWord "async" then functionRest self first true decorators
  else if ← isWord "def" then functionRest self first false decorators
  else fault

def caseBlock : Reader Parsed := do
  expectWord "case"
  let p ← topPattern self
  let guard ← if ← acceptWord "if" then self .named else pure absent
  let body ← suite self
  pure (unplaced .matchCase [p, guard, body])

/-- The header of a case distinction up to the first case; its word is not reserved, so a text that
goes on otherwise is an expression. -/
def matchHeader : Reader Parsed := do
  expectWord "match"
  let first ← line
  let subject ← tupleOr first (← commaList startsStarred (self .starNamed))
  if isStarred subject then throw .grammar
  expectOp ":"
  expect .newline
  pure subject

def matchRest (first : Nat) (subject : Parsed) : Reader Parsed := do
  match ← peek with
  | .bad why => throw why
  | .indent => advance
  | _ => throw .indentation
  let head ← caseBlock self
  let cases ← loop (fun (acc : List Parsed) => do
    if (← peek) = .dedent then pure none
    else
      let c ← caseBlock self
      pure (some (acc ++ [c]))) [head]
  expect .dedent
  mk .matchStmt first [subject, many cases]

def statement : Reader Parsed := do
  let first ← line
  let one (p : Reader Parsed) : Reader Parsed := do
    let t ← p
    pure (many [t])
  match ← peek with
  | .op "@" => one (decorated self)
  | .name "def" => one (decorated self)
  | .name "class" => one (decorated self)
  | .name "if" => advance; one (ifRest self first (← get).rest.length)
  | .name "while" =>
    advance
    let test ← self .named
    let body ← suite self
    let orelse ← optionalSuite self "else"
    one (mk .whileStmt first [test, body, orelse])
  | .name "for" => advance; one (forRest self first false)
  | .name "with" => advance; one (withRest self first false)
  | .name "try" => advance; one (tryRest self first)
  | .name "async" =>
    match ← peekSecond with
    | .name "def" => one (decorated self)
    | .name "for" => advance; advance; one (forRest self first true)
    | .name "with" => advance; advance; one (withRest self first true)
    | _ => advance; fault
  | .name "match" => do
    let c ← get
    match matchHeader self c with
    | .ok (subject, c') => set c'; one (matchRest self first subject)
    | .error _ => simpleStatements self
  | _ => simpleStatements self

end ErrorTrail.Syntax.Reader
