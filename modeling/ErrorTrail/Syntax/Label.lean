import ErrorTrail.Syntax.Tree

/-!
# Names of constructs

`Form.label` is the name by which messages and written trees call a construct.
-/

namespace ErrorTrail.Syntax

def UnaryOp.label : UnaryOp → String
  | .invert => "Invert"
  | .not => "Not"
  | .plus => "UAdd"
  | .minus => "USub"

def BinaryOp.label : BinaryOp → String
  | .add => "Add"
  | .sub => "Sub"
  | .mult => "Mult"
  | .matMult => "MatMult"
  | .div => "Div"
  | .mod => "Mod"
  | .pow => "Pow"
  | .lShift => "LShift"
  | .rShift => "RShift"
  | .bitOr => "BitOr"
  | .bitXor => "BitXor"
  | .bitAnd => "BitAnd"
  | .floorDiv => "FloorDiv"

def BoolOp.label : BoolOp → String
  | .and => "And"
  | .or => "Or"

def CompareOp.label : CompareOp → String
  | .eq => "Eq"
  | .notEq => "NotEq"
  | .lt => "Lt"
  | .ltE => "LtE"
  | .gt => "Gt"
  | .gtE => "GtE"
  | .is => "Is"
  | .isNot => "IsNot"
  | .inside => "In"
  | .notIn => "NotIn"

def Context.label : Context → String
  | .load => "Load"
  | .store => "Store"
  | .del => "Del"

def Form.label : Form → String
  | .file => "Module"
  | .functionDef asynchronous _ => if asynchronous then "AsyncFunctionDef" else "FunctionDef"
  | .classDef _ => "ClassDef"
  | .returnStmt => "Return"
  | .deleteStmt => "Delete"
  | .assign => "Assign"
  | .augAssign _ => "AugAssign"
  | .annAssign _ => "AnnAssign"
  | .forStmt asynchronous => if asynchronous then "AsyncFor" else "For"
  | .whileStmt => "While"
  | .ifStmt => "If"
  | .withStmt asynchronous => if asynchronous then "AsyncWith" else "With"
  | .matchStmt => "Match"
  | .raiseStmt => "Raise"
  | .tryStmt star => if star then "TryStar" else "Try"
  | .assertStmt => "Assert"
  | .importStmt => "Import"
  | .importFrom _ _ => "ImportFrom"
  | .globalStmt _ => "Global"
  | .nonlocalStmt _ => "Nonlocal"
  | .exprStmt => "Expr"
  | .passStmt => "Pass"
  | .breakStmt => "Break"
  | .continueStmt => "Continue"
  | .boolOp _ => "BoolOp"
  | .namedExpr => "NamedExpr"
  | .binOp _ => "BinOp"
  | .unaryOp _ => "UnaryOp"
  | .lambda => "Lambda"
  | .ifExp => "IfExp"
  | .dict => "Dict"
  | .set => "Set"
  | .listComp => "ListComp"
  | .setComp => "SetComp"
  | .dictComp => "DictComp"
  | .generatorExp => "GeneratorExp"
  | .await => "Await"
  | .yield => "Yield"
  | .yieldFrom => "YieldFrom"
  | .compare _ => "Compare"
  | .call => "Call"
  | .formattedValue _ => "FormattedValue"
  | .joinedStr => "JoinedStr"
  | .constant _ _ => "Constant"
  | .attribute _ _ => "Attribute"
  | .subscript _ => "Subscript"
  | .starred _ => "Starred"
  | .name _ _ => "Name"
  | .list _ => "List"
  | .tuple _ => "Tuple"
  | .slice => "Slice"
  | .comprehension _ => "comprehension"
  | .exceptHandler _ => "ExceptHandler"
  | .arguments => "arguments"
  | .arg _ => "arg"
  | .keyword _ => "keyword"
  | .alias _ _ => "alias"
  | .withItem => "withitem"
  | .matchCase => "match_case"
  | .matchValue => "MatchValue"
  | .matchSingleton _ => "MatchSingleton"
  | .matchSequence => "MatchSequence"
  | .matchMapping _ => "MatchMapping"
  | .matchClass _ => "MatchClass"
  | .matchStar _ => "MatchStar"
  | .matchAs _ => "MatchAs"
  | .matchOr => "MatchOr"
  | .absent => "NoneType"
  | .sequence => "list"

end ErrorTrail.Syntax
