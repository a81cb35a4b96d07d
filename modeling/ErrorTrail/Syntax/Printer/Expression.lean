import ErrorTrail.Syntax.Literal
import ErrorTrail.Syntax.Printer.Quotes

/-!
# Printing expressions

`SyntaxTree.render` writes an expression or pattern with the parentheses that its place needs: each
place
has a level, and an expression that binds more loosely than the level of its place is put in
parentheses.
-/

namespace ErrorTrail.Syntax

/-- Why a tree has no text: the expression of a template would need a backslash, an integer has too
many digits, or the tree has no form that the grammar knows. -/
inductive Unprintable where
  | backslash
  | digits
  | shape
  deriving DecidableEq, Repr, Inhabited

/-- How tightly an expression binds. -/
abbrev Level := Nat

namespace Level

abbrev assignment : Level := 1
abbrev tuple : Level := 2
abbrev yield : Level := 3
abbrev test : Level := 4
abbrev or : Level := 5
abbrev and : Level := 6
abbrev not : Level := 7
abbrev comparison : Level := 8
abbrev bitOr : Level := 9
abbrev bitXor : Level := 10
abbrev bitAnd : Level := 11
abbrev shift : Level := 12
abbrev sum : Level := 13
abbrev term : Level := 14
abbrev factor : Level := 15
abbrev power : Level := 16
abbrev await : Level := 17
abbrev atom : Level := 18

/-- The next tighter level. -/
def next (l : Level) : Level := if l < atom then l + 1 else l

/-- The level `n` steps tighter. -/
def steps (l : Level) (n : Nat) : Level := min (l + n) atom

end Level

def UnaryOp.symbol : UnaryOp → String
  | .invert => "~"
  | .not => "not "
  | .plus => "+"
  | .minus => "-"

def UnaryOp.level : UnaryOp → Level
  | .not => .not
  | _ => .factor

def BinaryOp.symbol : BinaryOp → String
  | .add => "+"
  | .sub => "-"
  | .mult => "*"
  | .matMult => "@"
  | .div => "/"
  | .mod => "%"
  | .lShift => "<<"
  | .rShift => ">>"
  | .bitOr => "|"
  | .bitXor => "^"
  | .bitAnd => "&"
  | .floorDiv => "//"
  | .pow => "**"

def BinaryOp.level : BinaryOp → Level
  | .add | .sub => .sum
  | .mult | .matMult | .div | .mod | .floorDiv => .term
  | .lShift | .rShift => .shift
  | .bitOr => .bitOr
  | .bitXor => .bitXor
  | .bitAnd => .bitAnd
  | .pow => .power

/-- The levels of the two operands: powers associate to the right, all else to the left. -/
def BinaryOp.operandLevels (op : BinaryOp) : Level × Level :=
  if op = .pow then (op.level.next, op.level) else (op.level, op.level.next)

def CompareOp.symbol : CompareOp → String
  | .eq => "=="
  | .notEq => "!="
  | .lt => "<"
  | .ltE => "<="
  | .gt => ">"
  | .gtE => ">="
  | .is => "is"
  | .isNot => "is not"
  | .inside => "in"
  | .notIn => "not in"

def BoolOp.symbol : BoolOp → String
  | .and => " and "
  | .or => " or "

def BoolOp.level : BoolOp → Level
  | .and => .and
  | .or => .or

/-- A floating literal has no name for infinity: it is written as a number beyond the range. -/
def finiteText (s : String) : String :=
  (s.replace "inf" "1e309").replace "nan" "(1e309-1e309)"

/-- The text of a constant; `plain` asks for no backslash where quotes can avoid it. -/
def Constant.render (plain : Bool) : Constant → Except Unprintable String
  | .none => .ok "None"
  | .true => .ok "True"
  | .false => .ok "False"
  | .ellipsis => .ok "..."
  | .int n => if n.natAbs ≥ Nat.pow 10 maxDecimalDigits then .error .digits else .ok (toString n)
  | .float t => .ok (finiteText t)
  | .complex t => .ok (finiteText t)
  | .str s => .ok (if plain then Quotes.write Quotes.all s else Text.quoted s)
  | .bytes bs => .ok (Text.quotedBytes bs)

def parenthesisedIf (c : Bool) (s : String) : String := if c then "(" ++ s ++ ")" else s

def commas (ss : List String) : String := ", ".intercalate ss

/-- Items of a tuple; a single one has a comma. -/
def tupleItems : List String → String
  | [s] => s ++ ","
  | ss => commas ss

/-- Whether a tree is an integer or truth value, after which a point needs a blank. -/
def SyntaxTree.isIntegral {α : Type} : SyntaxTree α → Bool
  | .node (.constant (.int _) _) _ _ => true
  | .node (.constant .true _) _ _ => true
  | .node (.constant .false _) _ _ => true
  | _ => false

def SyntaxTree.isParsedTuple {α : Type} : SyntaxTree α → Bool
  | .node (.tuple _) _ [.node .sequence _ (_ :: _)] => true
  | _ => false

/-- The parameters of a function, from the texts of the parts; the texts of missing defaults are
`none`. -/
def renderParameters (positionalOnly positional : List String) (defaults : List String)
    (vararg : Option String) (keywordOnly : List (String × Option String)) (kwarg : Option String) :
    String :=
  let names := positionalOnly ++ positional
  let missing := names.length - defaults.length
  let padded := List.replicate missing none ++ defaults.map some
  let withDefault (p : String × Option String) := p.1 ++ (p.2.elim "" ("=" ++ ·))
  let plain := ((names.zip padded).zipIdx 1).map fun (p, i) =>
    withDefault p ++ (if i = positionalOnly.length then ", /" else "")
  let star := if vararg.isSome || !keywordOnly.isEmpty then ["*" ++ vararg.getD ""] else []
  let last := kwarg.toList.map ("**" ++ ·)
  commas (plain ++ star ++ keywordOnly.map withDefault ++ last)

/-- An expression in the braces of a template, with its conversion and its format. -/
def embedded (conversion : Int) (text : String) (format : Option String) :
    Except Unprintable String :=
  if text.contains '\\' then .error .backslash
  else
    let mark := if conversion = -1 then "" else "!" ++ (Char.ofNat conversion.toNat).toString
    .ok ("\x7b" ++ (if text.startsWith "\x7b" then " " else "") ++ text ++ mark
      ++ format.elim "" (":" ++ ·) ++ "\x7d")

namespace SyntaxTree

variable {α : Type}

mutual
/-- The text of an expression, a pattern or one of their parts at a place of a level. `plain` asks
for no backslash, as inside a template. -/
def render (plain : Bool) (level : Level) : SyntaxTree α → Except Unprintable String
  | node form _ cs =>
    let paren (own : Level) (s : String) := parenthesisedIf (own < level) s
    match form with
    | .absent => .ok ""
    | .name id _ => .ok id
    | .constant c kind => do .ok ((if kind = some "u" then "u" else "") ++ (← c.render plain))
    | .boolOp op =>
      match cs with
      | [node .sequence _ vs] => do
        .ok (paren op.level (op.symbol.intercalate (← renderItems plain (op.level.steps ·) 1 vs)))
      | _ => .error .shape
    | .namedExpr =>
      match cs with
      | [t, v] => do
        .ok (paren .assignment ((← render plain .atom t) ++ " := " ++ (← render plain .atom v)))
      | _ => .error .shape
    | .binOp op =>
      match cs with
      | [l, r] => do
        let left ← render plain op.operandLevels.1 l
        let right ← render plain op.operandLevels.2 r
        .ok (paren op.level (left ++ " " ++ op.symbol ++ " " ++ right))
      | _ => .error .shape
    | .unaryOp op =>
      match cs with
      | [t] => do .ok (paren op.level (op.symbol ++ (← render plain op.level t)))
      | _ => .error .shape
    | .lambda =>
      match cs with
      | [ps, body] => do
        let params ← render plain .test ps
        let value ← render plain .test body
        let head := if params.isEmpty then "lambda" else "lambda " ++ params
        .ok (paren .test (head ++ ": " ++ value))
      | _ => .error .shape
    | .ifExp =>
      match cs with
      | [test, body, orelse] => do
        let b ← render plain .or body
        let t ← render plain .or test
        let o ← render plain .test orelse
        .ok (paren .test (b ++ " if " ++ t ++ " else " ++ o))
      | _ => .error .shape
    | .dict =>
      match cs with
      | [node .sequence _ keys, node .sequence _ values] => do
        let ks ← renderItems plain (fun _ => .test) 0 keys
        let missing := keys.map isAbsent
        let vs ← renderItems plain
          (fun i => if missing.getD i false then .bitOr else .test) 0 values
        let pairs := (ks.zip (vs.zip missing)).map fun (k, v, missing) =>
          if missing then "**" ++ v else k ++ ": " ++ v
        .ok ("\x7b" ++ commas pairs ++ "\x7d")
      | _ => .error .shape
    | .set =>
      match cs with
      | [node .sequence _ vs] => do
        if vs.isEmpty then .ok "\x7b*()\x7d"
        else .ok ("\x7b" ++ commas (← renderItems plain (fun _ => .test) 0 vs) ++ "\x7d")
      | _ => .error .shape
    | .listComp =>
      match cs with
      | [e, node .sequence _ gens] => do
        let value ← render plain .test e
        .ok ("[" ++ value ++ String.join (← renderItems plain (fun _ => .test) 0 gens) ++ "]")
      | _ => .error .shape
    | .setComp =>
      match cs with
      | [e, node .sequence _ gens] => do
        let value ← render plain .test e
        .ok ("\x7b" ++ value ++ String.join (← renderItems plain (fun _ => .test) 0 gens) ++ "\x7d")
      | _ => .error .shape
    | .dictComp =>
      match cs with
      | [k, v, node .sequence _ gens] => do
        let key ← render plain .test k
        let value ← render plain .test v
        let tail := String.join (← renderItems plain (fun _ => .test) 0 gens)
        .ok ("\x7b" ++ key ++ ": " ++ value ++ tail ++ "\x7d")
      | _ => .error .shape
    | .generatorExp =>
      match cs with
      | [e, node .sequence _ gens] => do
        let value ← render plain .test e
        .ok ("(" ++ value ++ String.join (← renderItems plain (fun _ => .test) 0 gens) ++ ")")
      | _ => .error .shape
    | .comprehension asynchronous =>
      match cs with
      | [target, iter, node .sequence _ ifs] => do
        let t ← render plain .tuple target
        let i ← render plain .or iter
        let conditions := (← renderItems plain (fun _ => .or) 0 ifs).map (" if " ++ ·)
        .ok ((if asynchronous ≠ 0 then " async for " else " for ") ++ t ++ " in " ++ i
          ++ String.join conditions)
      | _ => .error .shape
    | .await =>
      match cs with
      | [t] => do .ok (paren .await ("await " ++ (← render plain .atom t)))
      | _ => .error .shape
    | .yield =>
      match cs with
      | [t] => do
        let v ← render plain .atom t
        .ok (paren .yield ("yield" ++ (if t.isAbsent then "" else " " ++ v)))
      | _ => .error .shape
    | .yieldFrom =>
      match cs with
      | [t] => do .ok (paren .yield ("yield from " ++ (← render plain .atom t)))
      | _ => .error .shape
    | .compare ops =>
      match cs with
      | [l, node .sequence _ rs] => do
        let left ← render plain Level.comparison.next l
        let rights ← renderItems plain (fun _ => Level.comparison.next) 0 rs
        let tail := (ops.zip rights).map fun (op, r) => " " ++ op.symbol ++ " " ++ r
        .ok (paren .comparison (left ++ String.join tail))
      | _ => .error .shape
    | .call =>
      match cs with
      | [f, node .sequence _ args, node .sequence _ keywords] => do
        let head ← render plain .atom f
        let as ← renderItems plain (fun _ => .test) 0 args
        let ks ← renderItems plain (fun _ => .test) 0 keywords
        .ok (head ++ "(" ++ commas (as ++ ks) ++ ")")
      | _ => .error .shape
    | .keyword name =>
      match cs with
      | [t] => do
        .ok ((name.elim "**" (· ++ "=")) ++ (← render plain .test t))
      | _ => .error .shape
    | .formattedValue conversion =>
      match cs with
      | [value, format] => do
        let text ← render true .or value
        let spec ← renderTemplate format
        embedded conversion text (if format.isAbsent then none else some spec)
      | _ => .error .shape
    | .joinedStr =>
      match cs with
      | [node .sequence _ vs] => do
        let parts ← renderParts vs
        if plain then
          .ok ("f" ++ Quotes.write Quotes.all (String.join (parts.map (·.1))))
        else .ok ("f" ++ Quotes.writeTemplate parts)
      | _ => .error .shape
    | .attribute attr _ =>
      match cs with
      | [t] => do
        .ok ((← render plain .atom t) ++ (if t.isIntegral then " ." else ".") ++ attr)
      | _ => .error .shape
    | .subscript _ =>
      match cs with
      | [t, i] => do
        let head ← render plain .atom t
        let index ← render plain (if i.isParsedTuple then .tuple else .test) i
        .ok (head ++ "[" ++ index ++ "]")
      | _ => .error .shape
    | .starred _ =>
      match cs with
      | [t] => do .ok ("*" ++ (← render plain .bitOr t))
      | _ => .error .shape
    | .list _ =>
      match cs with
      | [node .sequence _ vs] => do
        .ok ("[" ++ commas (← renderItems plain (fun _ => .test) 0 vs) ++ "]")
      | _ => .error .shape
    | .tuple _ =>
      match cs with
      | [node .sequence _ vs] => do
        let items ← renderItems plain (fun _ => .test) 0 vs
        .ok (parenthesisedIf (vs.isEmpty || .tuple < level) (tupleItems items))
      | _ => .error .shape
    | .slice =>
      match cs with
      | [lower, upper, step] => do
        let l ← render plain .test lower
        let u ← render plain .test upper
        let s ← render plain .test step
        .ok (l ++ ":" ++ u ++ (if step.isAbsent then "" else ":" ++ s))
      | _ => .error .shape
    | .arguments =>
      match cs with
      | [node .sequence _ positionalOnly, node .sequence _ positional, vararg,
          node .sequence _ keywordOnly, node .sequence _ keywordDefaults, kwarg,
          node .sequence _ defaults] => do
        let po ← renderItems plain (fun _ => .test) 0 positionalOnly
        let ps ← renderItems plain (fun _ => .test) 0 positional
        let v ← render plain .test vararg
        let ko ← renderItems plain (fun _ => .test) 0 keywordOnly
        let kd ← renderItems plain (fun _ => .test) 0 keywordDefaults
        let k ← render plain .test kwarg
        let ds ← renderItems plain (fun _ => .test) 0 defaults
        let shown := (kd.zip (keywordDefaults.map isAbsent)).map fun (d, missing) =>
          if missing then none else some d
        .ok (renderParameters po ps ds (if vararg.isAbsent then none else some v) (ko.zip shown)
          (if kwarg.isAbsent then none else some k))
      | _ => .error .shape
    | .arg name =>
      match cs with
      | [t] => do
        let hint ← render plain .test t
        .ok (name ++ (if t.isAbsent then "" else ": " ++ hint))
      | _ => .error .shape
    | .alias name asname => .ok (name ++ asname.elim "" (" as " ++ ·))
    | .withItem =>
      match cs with
      | [context, vars] => do
        let c ← render plain .test context
        let v ← render plain .test vars
        .ok (c ++ (if vars.isAbsent then "" else " as " ++ v))
      | _ => .error .shape
    | .matchValue =>
      match cs with
      | [t] => render plain .test t
      | _ => .error .shape
    | .matchSingleton c => c.render plain
    | .matchSequence =>
      match cs with
      | [node .sequence _ ps] => do
        .ok ("[" ++ commas (← renderItems plain (fun _ => .test) 0 ps) ++ "]")
      | _ => .error .shape
    | .matchMapping rest =>
      match cs with
      | [node .sequence _ keys, node .sequence _ ps] => do
        let ks ← renderItems plain (fun _ => .test) 0 keys
        let vs ← renderItems plain (fun _ => .test) 0 ps
        let pairs := (ks.zip vs).map fun (k, v) => k ++ ": " ++ v
        .ok ("\x7b" ++ commas (pairs ++ rest.toList.map ("**" ++ ·)) ++ "\x7d")
      | _ => .error .shape
    | .matchClass attrs =>
      match cs with
      | [cls, node .sequence _ ps, node .sequence _ kps] => do
        let c ← render plain .atom cls
        let vs ← renderItems plain (fun _ => .test) 0 ps
        let ks ← renderItems plain (fun _ => .test) 0 kps
        let named := (attrs.zip ks).map fun (a, v) => a ++ "=" ++ v
        .ok (c ++ "(" ++ commas (vs ++ named) ++ ")")
      | _ => .error .shape
    | .matchStar name => .ok ("*" ++ name.getD "_")
    | .matchAs name =>
      match cs, name with
      | [_], none => .ok "_"
      | [p], some n => do
        if p.isAbsent then .ok n
        else .ok (paren .test ((← render plain .bitOr p) ++ " as " ++ n))
      | _, _ => .error .shape
    | .matchOr =>
      match cs with
      | [node .sequence _ ps] => do
        let items ← renderItems plain (fun _ => Level.bitOr.next) 0 ps
        .ok (paren .bitOr (" | ".intercalate items))
      | _ => .error .shape
    | _ => .error .shape

/-- The texts of several trees; `level` gives the level of each place, counted from `i`. -/
def renderItems (plain : Bool) (level : Nat → Level) (i : Nat) :
    List (SyntaxTree α) → Except Unprintable (List String)
  | [] => .ok []
  | t :: ts => do
    let head ← render plain (level i) t
    let tail ← renderItems plain level (i + 1) ts
    .ok (head :: tail)

/-- The text of a template's part, with braces doubled in plain text. -/
def renderTemplate : SyntaxTree α → Except Unprintable String
  | node form _ cs =>
    match form, cs with
    | .joinedStr, [node .sequence _ vs] => do
      .ok (String.join ((← renderParts vs).map (·.1)))
    | .constant (.str s) _, _ => .ok ((s.replace "\x7b" "\x7b\x7b").replace "\x7d" "\x7d\x7d")
    | .formattedValue conversion, [value, format] => do
      let text ← render true .or value
      let spec ← renderTemplate format
      embedded conversion text (if format.isAbsent then none else some spec)
    | .absent, _ => .ok ""
    | _, _ => .error .shape

/-- The texts of a template's parts, and whether each is plain text. -/
def renderParts : List (SyntaxTree α) → Except Unprintable (List (String × Bool))
  | [] => .ok []
  | t :: ts => do
    let head ← renderTemplate t
    let tail ← renderParts ts
    let isText := match t with
      | node (.constant _ _) _ _ => true
      | _ => false
    .ok ((head, isText) :: tail)
end

end SyntaxTree

end ErrorTrail.Syntax
