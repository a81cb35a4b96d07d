/-!
# Syntax trees

A program is a tree whose nodes carry a `Form` (which construct it is, with its own names,
operators and constants), an annotation and children. Children stand in the order in which the
construct writes its fields; a field that holds several nodes is one child of form `sequence`, and
an optional field that is missing is one child of form `absent`, so every form has a fixed number
of children.

The annotation is a parameter: a parsed tree carries the lines that its nodes occupy (`Extent`), a
tree that is being edited carries lines that may be missing (`Span`), and a tree without positions
carries `Unit`. `SyntaxTree.map` changes annotations and nothing else.
-/

namespace ErrorTrail.Syntax

inductive UnaryOp where
  | invert | not | plus | minus
  deriving DecidableEq, Repr, Inhabited

inductive BinaryOp where
  | add | sub | mult | matMult | div | mod | pow | lShift | rShift | bitOr | bitXor | bitAnd | floorDiv
  deriving DecidableEq, Repr, Inhabited

inductive BoolOp where
  | and | or
  deriving DecidableEq, Repr, Inhabited

inductive CompareOp where
  | eq | notEq | lt | ltE | gt | gtE | is | isNot | inside | notIn
  deriving DecidableEq, Repr, Inhabited

/-- Whether a name, attribute, subscript or display is read, assigned or deleted. -/
inductive Context where
  | load | store | del
  deriving DecidableEq, Repr, Inhabited

/-- A literal value. Floating and imaginary numbers are kept as their canonical text. -/
inductive Constant where
  | none | true | false | ellipsis
  | int (n : Int)
  | float (text : String)
  | complex (text : String)
  | str (s : String)
  | bytes (bs : List UInt8)
  deriving DecidableEq, Repr, Inhabited

/-- Which construct a node is. The comment after each constructor lists its children; `?` marks a
child that may be `absent`, `*` one that is a `sequence`. -/
inductive Form where
  -- whole files: body*
  | file
  -- definitions: args body* decorators* returns?
  | functionDef (asynchronous : Bool) (name : String)
  -- bases* keywords* body* decorators*
  | classDef (name : String)
  -- value?
  | returnStmt
  -- targets*
  | deleteStmt
  -- targets* value
  | assign
  -- target value
  | augAssign (op : BinaryOp)
  -- target annotation value?
  | annAssign (simple : Int)
  -- target iter body* orelse*
  | forStmt (asynchronous : Bool)
  -- test body* orelse*
  | whileStmt
  | ifStmt
  -- items* body*
  | withStmt (asynchronous : Bool)
  -- subject cases*
  | matchStmt
  -- exc? cause?
  | raiseStmt
  -- body* handlers* orelse* finalbody*
  | tryStmt (star : Bool)
  -- test msg?
  | assertStmt
  -- names*
  | importStmt
  | importFrom (source : Option String) (level : Option Int)
  | globalStmt (names : List String)
  | nonlocalStmt (names : List String)
  -- value
  | exprStmt
  | passStmt
  | breakStmt
  | continueStmt
  -- values*
  | boolOp (op : BoolOp)
  -- target value
  | namedExpr
  -- left right
  | binOp (op : BinaryOp)
  -- operand
  | unaryOp (op : UnaryOp)
  -- args body
  | lambda
  -- test body orelse
  | ifExp
  -- keys* values*
  | dict
  -- elements*
  | set
  -- element generators*
  | listComp
  | setComp
  -- key value generators*
  | dictComp
  -- element generators*
  | generatorExp
  -- value
  | await
  -- value?
  | yield
  -- value
  | yieldFrom
  -- left comparators*
  | compare (ops : List CompareOp)
  -- func args* keywords*
  | call
  -- value format?
  | formattedValue (conversion : Int)
  -- values*
  | joinedStr
  | constant (value : Constant) (kind : Option String)
  -- value
  | attribute (attr : String) (ctx : Context)
  -- value slice
  | subscript (ctx : Context)
  -- value
  | starred (ctx : Context)
  | name (id : String) (ctx : Context)
  -- elements*
  | list (ctx : Context)
  | tuple (ctx : Context)
  -- lower? upper? step?
  | slice
  -- target iter ifs*
  | comprehension (asynchronous : Int)
  -- type? body*
  | exceptHandler (name : Option String)
  -- positionalOnly* args* vararg? keywordOnly* keywordDefaults* kwarg? defaults*
  | arguments
  -- annotation?
  | arg (name : String)
  -- value
  | keyword (name : Option String)
  | alias (name : String) (asname : Option String)
  -- context vars?
  | withItem
  -- pattern guard? body*
  | matchCase
  -- value
  | matchValue
  | matchSingleton (value : Constant)
  -- patterns*
  | matchSequence
  -- keys* patterns*
  | matchMapping (rest : Option String)
  -- class patterns* keywordPatterns*
  | matchClass (attrs : List String)
  | matchStar (name : Option String)
  -- pattern?
  | matchAs (name : Option String)
  -- patterns*
  | matchOr
  -- the two field shapes
  | absent
  | sequence
  deriving DecidableEq, Repr, Inhabited

/-- A syntax tree annotated with values of type `α`. -/
inductive SyntaxTree (α : Type) where
  | node (form : Form) (ann : α) (children : List (SyntaxTree α))
  deriving Repr, Inhabited

/-- The first and last line of a node; either may be unknown. -/
structure Span where
  line : Option Int := none
  stop : Option Int := none
  deriving DecidableEq, Repr, Inhabited

/-- The first and last line of a parsed node; `none` for a node that has no place of its own. -/
abbrev Extent := Option (Nat × Nat)

/-- The span of a parsed node. -/
def Span.ofExtent : Extent → Span
  | none => ⟨none, none⟩
  | some (first, last) => ⟨some first, some last⟩

/-- The span `k` lines further down. -/
def Span.shift (k : Int) (s : Span) : Span := ⟨s.line.map (· + k), s.stop.map (· + k)⟩

namespace SyntaxTree

variable {α β γ : Type}

def form : SyntaxTree α → Form
  | node f _ _ => f

def ann : SyntaxTree α → α
  | node _ a _ => a

def children : SyntaxTree α → List (SyntaxTree α)
  | node _ _ cs => cs

@[simp] theorem form_node (f : Form) (a : α) (cs : List (SyntaxTree α)) : (node f a cs).form = f :=
  rfl
@[simp] theorem ann_node (f : Form) (a : α) (cs : List (SyntaxTree α)) : (node f a cs).ann = a :=
  rfl
@[simp] theorem children_node (f : Form) (a : α) (cs : List (SyntaxTree α)) :
    (node f a cs).children = cs := rfl

/-- The nodes of a field that holds several; empty for any other node. -/
def items : SyntaxTree α → List (SyntaxTree α)
  | node .sequence _ cs => cs
  | _ => []

@[simp] theorem items_sequence (a : α) (cs : List (SyntaxTree α)) :
    (node .sequence a cs).items = cs := rfl

/-- Whether an optional field is missing. -/
def isAbsent : SyntaxTree α → Bool
  | node .absent _ _ => true
  | _ => false

/-- The node of an optional field. -/
def present? (t : SyntaxTree α) : Option (SyntaxTree α) :=
  if t.isAbsent then none else some t

/-- Child number `i`, a missing one being absent. -/
def child [Inhabited α] (t : SyntaxTree α) (i : Nat) : SyntaxTree α :=
  t.children.getD i (node .absent default [])

/-! ### Annotations -/

mutual
/-- Applies `f` to every annotation. -/
def map (f : α → β) : SyntaxTree α → SyntaxTree β
  | node form a cs => node form (f a) (mapList f cs)

def mapList (f : α → β) : List (SyntaxTree α) → List (SyntaxTree β)
  | [] => []
  | t :: ts => map f t :: mapList f ts
end

@[simp] theorem mapList_eq (f : α → β) (ts : List (SyntaxTree α)) :
    mapList f ts = ts.map (map f) := by
  induction ts with
  | nil => rfl
  | cons t ts ih => simp [mapList, ih]

/-- The tree without its annotations. -/
def bare (t : SyntaxTree α) : SyntaxTree Unit := t.map fun _ => ()

/-- The tree with every known line moved down by `k`. -/
def shift (k : Int) (t : SyntaxTree Span) : SyntaxTree Span := t.map (Span.shift k)

/-! ### Nodes of a tree -/

mutual
/-- All nodes of a tree, each before its descendants, in field order. -/
def subtrees : SyntaxTree α → List (SyntaxTree α)
  | node form a cs => node form a cs :: subtreesList cs

def subtreesList : List (SyntaxTree α) → List (SyntaxTree α)
  | [] => []
  | t :: ts => subtrees t ++ subtreesList ts
end

@[simp] theorem subtreesList_eq (ts : List (SyntaxTree α)) :
    subtreesList ts = ts.flatMap subtrees := by
  induction ts with
  | nil => rfl
  | cons t ts ih => simp [subtreesList, ih]

mutual
/-- Rebuilds a tree from its leaves upward, `f` making each node from its rebuilt children. -/
def rebuild (f : Form → α → List (SyntaxTree β) → SyntaxTree β) : SyntaxTree α → SyntaxTree β
  | node form a cs => f form a (rebuildList f cs)

def rebuildList (f : Form → α → List (SyntaxTree β) → SyntaxTree β) :
    List (SyntaxTree α) → List (SyntaxTree β)
  | [] => []
  | t :: ts => rebuild f t :: rebuildList f ts
end

@[simp] theorem rebuildList_eq (f : Form → α → List (SyntaxTree β) → SyntaxTree β)
    (ts : List (SyntaxTree α)) :
    rebuildList f ts = ts.map (rebuild f) := by
  induction ts with
  | nil => rfl
  | cons t ts ih => simp [rebuildList, ih]

/-! ### Blocks -/

/-- The statements of a block, one level inside a node. -/
def block : SyntaxTree α → List (SyntaxTree α)
  | node .file _ [b] => b.items
  | node (.functionDef _ _) _ [_, b, _, _] => b.items
  | node (.classDef _) _ [_, _, b, _] => b.items
  | node (.forStmt _) _ [_, _, b, _] => b.items
  | node .whileStmt _ [_, b, _] => b.items
  | node .ifStmt _ [_, b, _] => b.items
  | node (.withStmt _) _ [_, b] => b.items
  | node (.tryStmt _) _ [b, _, _, _] => b.items
  | node (.exceptHandler _) _ [_, b] => b.items
  | node .matchCase _ [_, _, b] => b.items
  | _ => []

/-- The statement that the numbers of statements in their blocks lead to. -/
def statementAt? (t : SyntaxTree α) : List Nat → Option (SyntaxTree α)
  | [] => some t
  | i :: is => t.block[i]?.bind fun s => s.statementAt? is

end SyntaxTree

end ErrorTrail.Syntax
