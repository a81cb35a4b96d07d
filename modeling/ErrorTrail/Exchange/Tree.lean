import ErrorTrail.Json
import ErrorTrail.Syntax.Label
import ErrorTrail.Text.Hexadecimal

/-!
# Trees as records

How a syntax tree is written as a JSON value and read back. A node is an object with the name of its
construct, its own names and operators, its children under the names of their fields, and the lines
it occupies. Several children make an array, and a child that is missing has no field, or is `null`
in an array.
-/

namespace ErrorTrail.Syntax

namespace Record

open Json (tag)

/-- A field of a node: it holds one child, or several. -/
inductive Field where
  | one (name : String)
  | many (name : String)
  deriving DecidableEq, Repr, Inhabited

/-- The fields of a construct that hold its children, in order. -/
def fields : Form → List Field
  | .file => [.many "body"]
  | .functionDef _ _ => [.one "args", .many "body", .many "decorator_list", .one "returns"]
  | .classDef _ => [.many "bases", .many "keywords", .many "body", .many "decorator_list"]
  | .returnStmt => [.one "value"]
  | .deleteStmt => [.many "targets"]
  | .assign => [.many "targets", .one "value"]
  | .augAssign _ => [.one "target", .one "value"]
  | .annAssign _ => [.one "target", .one "annotation", .one "value"]
  | .forStmt _ => [.one "target", .one "iter", .many "body", .many "orelse"]
  | .whileStmt => [.one "test", .many "body", .many "orelse"]
  | .ifStmt => [.one "test", .many "body", .many "orelse"]
  | .withStmt _ => [.many "items", .many "body"]
  | .matchStmt => [.one "subject", .many "cases"]
  | .raiseStmt => [.one "exc", .one "cause"]
  | .tryStmt _ => [.many "body", .many "handlers", .many "orelse", .many "finalbody"]
  | .assertStmt => [.one "test", .one "msg"]
  | .importStmt => [.many "names"]
  | .importFrom _ _ => [.many "names"]
  | .exprStmt => [.one "value"]
  | .boolOp _ => [.many "values"]
  | .namedExpr => [.one "target", .one "value"]
  | .binOp _ => [.one "left", .one "right"]
  | .unaryOp _ => [.one "operand"]
  | .lambda => [.one "args", .one "body"]
  | .ifExp => [.one "test", .one "body", .one "orelse"]
  | .dict => [.many "keys", .many "values"]
  | .set => [.many "elts"]
  | .listComp => [.one "elt", .many "generators"]
  | .setComp => [.one "elt", .many "generators"]
  | .dictComp => [.one "key", .one "value", .many "generators"]
  | .generatorExp => [.one "elt", .many "generators"]
  | .await => [.one "value"]
  | .yield => [.one "value"]
  | .yieldFrom => [.one "value"]
  | .compare _ => [.one "left", .many "comparators"]
  | .call => [.one "func", .many "args", .many "keywords"]
  | .formattedValue _ => [.one "value", .one "format_spec"]
  | .joinedStr => [.many "values"]
  | .attribute _ _ => [.one "value"]
  | .subscript _ => [.one "value", .one "slice"]
  | .starred _ => [.one "value"]
  | .list _ => [.many "elts"]
  | .tuple _ => [.many "elts"]
  | .slice => [.one "lower", .one "upper", .one "step"]
  | .comprehension _ => [.one "target", .one "iter", .many "ifs"]
  | .exceptHandler _ => [.one "type", .many "body"]
  | .arguments =>
    [.many "posonlyargs", .many "args", .one "vararg", .many "kwonlyargs",
      .many "kw_defaults", .one "kwarg", .many "defaults"]
  | .arg _ => [.one "annotation"]
  | .keyword _ => [.one "value"]
  | .withItem => [.one "context_expr", .one "optional_vars"]
  | .matchCase => [.one "pattern", .one "guard", .many "body"]
  | .matchValue => [.one "value"]
  | .matchSequence => [.many "patterns"]
  | .matchMapping _ => [.many "keys", .many "patterns"]
  | .matchClass _ => [.one "cls", .many "patterns", .many "kwd_patterns"]
  | .matchAs _ => [.one "pattern"]
  | .matchOr => [.many "patterns"]
  | _ => []

/-- The name of the construct of a node. -/
def constructOf (j : Json) : String := j.text "_"

/-- The value with a label, which is itself the name of a node. -/
def labelled {α : Type} [Inhabited α] (all : List α) (label : α → String) (j : Option Json) : α :=
  (all.find? fun a => some (label a) = j.map constructOf).getD default

def unaryOps : List UnaryOp := [.invert, .not, .plus, .minus]

def binaryOps : List BinaryOp :=
  [.add, .sub, .mult, .matMult, .div, .mod, .pow, .lShift, .rShift, .bitOr, .bitXor, .bitAnd,
    .floorDiv]

def compareOps : List CompareOp := [.eq, .notEq, .lt, .ltE, .gt, .gtE, .is, .isNot, .inside, .notIn]

def contexts : List Context := [.load, .store, .del]

def constantOf (j : Json) : Constant :=
  match j.text? "s", j.text? "b", j.text? "i", j.text? "f", j.text? "c" with
  | some s, _, _, _, _ => .str s
  | _, some b, _, _, _ => .bytes (Text.bytesOfHex b)
  | _, _, some i, _, _ => .int (i.toInt?.getD 0)
  | _, _, _, some f, _ => .float f
  | _, _, _, _, some c => .complex c
  | _, _, _, _, _ =>
    match j.text "k" with
    | "True" => .true
    | "False" => .false
    | "Ellipsis" => .ellipsis
    | _ => .none

def writeConstant : Constant → Json
  | .none => .object [("k", .string "None")]
  | .true => .object [("k", .string "True")]
  | .false => .object [("k", .string "False")]
  | .ellipsis => .object [("k", .string "Ellipsis")]
  | .int n => .object [("i", .string (toString n))]
  | .float t => .object [("f", .string t)]
  | .complex t => .object [("c", .string t)]
  | .str s => .object [("s", .string s)]
  | .bytes bs => .object [("b", .string (Text.hexOfBytes bs))]

def singletonOf : Option Json → Constant
  | some (.bool true) => .true
  | some (.bool false) => .false
  | _ => .none

def writeSingleton : Constant → List (String × Json)
  | .true => [("value", .bool true)]
  | .false => [("value", .bool false)]
  | _ => []

/-- The construct of a node. -/
def formOf (j : Json) : Form :=
  let name := j.text "name"
  let ctx := labelled contexts Context.label (j.field? "ctx")
  match constructOf j with
  | "Module" => .file
  | "FunctionDef" => .functionDef false name
  | "AsyncFunctionDef" => .functionDef true name
  | "ClassDef" => .classDef name
  | "Return" => .returnStmt
  | "Delete" => .deleteStmt
  | "Assign" => .assign
  | "AugAssign" => .augAssign (labelled binaryOps BinaryOp.label (j.field? "op"))
  | "AnnAssign" => .annAssign ((j.number? "simple").getD 0)
  | "For" => .forStmt false
  | "AsyncFor" => .forStmt true
  | "While" => .whileStmt
  | "If" => .ifStmt
  | "With" => .withStmt false
  | "AsyncWith" => .withStmt true
  | "Match" => .matchStmt
  | "Raise" => .raiseStmt
  | "Try" => .tryStmt false
  | "TryStar" => .tryStmt true
  | "Assert" => .assertStmt
  | "Import" => .importStmt
  | "ImportFrom" => .importFrom (j.text? "module") (j.number? "level")
  | "Global" => .globalStmt (((j.field? "names").map Json.strings).getD [])
  | "Nonlocal" => .nonlocalStmt (((j.field? "names").map Json.strings).getD [])
  | "Expr" => .exprStmt
  | "Pass" => .passStmt
  | "Break" => .breakStmt
  | "Continue" => .continueStmt
  | "BoolOp" => .boolOp (labelled [.and, .or] BoolOp.label (j.field? "op"))
  | "NamedExpr" => .namedExpr
  | "BinOp" => .binOp (labelled binaryOps BinaryOp.label (j.field? "op"))
  | "UnaryOp" => .unaryOp (labelled unaryOps UnaryOp.label (j.field? "op"))
  | "Lambda" => .lambda
  | "IfExp" => .ifExp
  | "Dict" => .dict
  | "Set" => .set
  | "ListComp" => .listComp
  | "SetComp" => .setComp
  | "DictComp" => .dictComp
  | "GeneratorExp" => .generatorExp
  | "Await" => .await
  | "Yield" => .yield
  | "YieldFrom" => .yieldFrom
  | "Compare" =>
    .compare ((j.list "ops").map fun o => labelled compareOps CompareOp.label (some o))
  | "Call" => .call
  | "FormattedValue" => .formattedValue ((j.number? "conversion").getD (-1))
  | "JoinedStr" => .joinedStr
  | "Constant" => .constant (((j.field? "value").map constantOf).getD .none) (j.text? "kind")
  | "Attribute" => .attribute (j.text "attr") ctx
  | "Subscript" => .subscript ctx
  | "Starred" => .starred ctx
  | "Name" => .name (j.text "id") ctx
  | "List" => .list ctx
  | "Tuple" => .tuple ctx
  | "Slice" => .slice
  | "comprehension" => .comprehension ((j.number? "is_async").getD 0)
  | "ExceptHandler" => .exceptHandler (j.text? "name")
  | "arguments" => .arguments
  | "arg" => .arg (j.text "arg")
  | "keyword" => .keyword (j.text? "arg")
  | "alias" => .alias name (j.text? "asname")
  | "withitem" => .withItem
  | "match_case" => .matchCase
  | "MatchValue" => .matchValue
  | "MatchSingleton" => .matchSingleton (singletonOf (j.field? "value"))
  | "MatchSequence" => .matchSequence
  | "MatchMapping" => .matchMapping (j.text? "rest")
  | "MatchClass" => .matchClass (((j.field? "kwd_attrs").map Json.strings).getD [])
  | "MatchStar" => .matchStar (j.text? "name")
  | "MatchAs" => .matchAs (j.text? "name")
  | "MatchOr" => .matchOr
  | _ => .absent

def missing : SyntaxTree Span := .node .absent {} []

/-- The tree of a value, `fuel` levels deep. -/
def readWithin : Nat → Json → SyntaxTree Span
  | 0, _ => missing
  | fuel + 1, j =>
    match j with
    | .array items => .node .sequence {} (items.map (readWithin fuel))
    | .null => missing
    | _ =>
      let form := formOf j
      .node form ⟨j.number? "line", j.number? "end"⟩ ((fields form).map fun f =>
        match f with
        | .many name => .node .sequence {} ((j.list name).map (readWithin fuel))
        | .one name => ((j.field? name).map (readWithin fuel)).getD missing)

/-- The tree of a value. -/
def read (j : Json) : SyntaxTree Span := readWithin j.height j

/-! ### Writing -/

/-- The names, operators and constants of a construct, as fields. -/
def atoms (form : Form) : List (String × Json) :=
  let opt (k : String) (v : Option String) : List (String × Json) :=
    v.toList.map fun s => (k, .string s)
  let label (s : String) : Json := .object [("_", .string s)]
  let ctx (c : Context) : List (String × Json) := [("ctx", label c.label)]
  match form with
  | .file => [("type_ignores", .array [])]
  | .functionDef _ name => [("name", .string name)]
  | .classDef name => [("name", .string name)]
  | .augAssign op => [("op", label op.label)]
  | .annAssign simple => [("simple", .int simple)]
  | .importFrom source level => opt "module" source ++ level.toList.map fun n => ("level", .int n)
  | .globalStmt names => [("names", .array (names.map .string))]
  | .nonlocalStmt names => [("names", .array (names.map .string))]
  | .boolOp op => [("op", label op.label)]
  | .binOp op => [("op", label op.label)]
  | .unaryOp op => [("op", label op.label)]
  | .compare ops => [("ops", .array (ops.map fun o => label o.label))]
  | .formattedValue c => [("conversion", .int c)]
  | .constant c kind => ("value", writeConstant c) :: opt "kind" kind
  | .attribute attr c => ("attr", .string attr) :: ctx c
  | .subscript c => ctx c
  | .starred c => ctx c
  | .name id c => ("id", .string id) :: ctx c
  | .list c => ctx c
  | .tuple c => ctx c
  | .comprehension a => [("is_async", .int a)]
  | .exceptHandler name => opt "name" name
  | .arg name => [("arg", .string name)]
  | .keyword name => opt "arg" name
  | .alias name asname => ("name", .string name) :: opt "asname" asname
  | .matchSingleton c => writeSingleton c
  | .matchMapping rest => opt "rest" rest
  | .matchClass attrs => [("kwd_attrs", .array (attrs.map .string))]
  | .matchStar name => opt "name" name
  | .matchAs name => opt "name" name
  | _ => []

/-- A field of a node with what its child is written as; none if the child is missing. -/
def writeField : Field → SyntaxTree Span → Json → Option (String × Json)
  | .many name, _, j => some (name, j)
  | .one name, t, j => if t.isAbsent then none else some (name, j)

/-- The fields of a node with its children and what they are written as. -/
def writeFields : List Field → List (SyntaxTree Span) → List Json → List (String × Json)
  | f :: fs, t :: ts, j :: js => (writeField f t j).toList ++ writeFields fs ts js
  | _, _, _ => []

/-- The lines of a node, as fields. -/
def writeSpan (s : Span) : List (String × Json) :=
  (s.line.map fun n => ("line", Json.int n)).toList ++
    (s.stop.map fun n => ("end", Json.int n)).toList

mutual
/-- The value of a tree. -/
def write : SyntaxTree Span → Json
  | .node form span cs =>
    match form with
    | .sequence => .array (writeAll cs)
    | .absent => .null
    | form =>
      .object (("_", .string form.label) :: atoms form ++ writeFields (fields form) cs (writeAll cs)
        ++ writeSpan span)

def writeAll : List (SyntaxTree Span) → List Json
  | [] => []
  | t :: ts => write t :: writeAll ts
end

end Record

end ErrorTrail.Syntax
