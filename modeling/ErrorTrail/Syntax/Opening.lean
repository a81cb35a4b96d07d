import ErrorTrail.Syntax.Tree

/-!
# The opening of a file

The statements at the beginning of a file that ask for language features, and the texts that may
stand before and between them.
-/

namespace ErrorTrail.Syntax

variable {α : Type}

/-- The module of future features. -/
def futureModule : String := "__future__"

def isFutureImport : SyntaxTree α → Bool
  | .node (.importFrom (some source) _) _ _ => source == futureModule
  | _ => false

/-- Whether a statement is nothing but a text. -/
def isDocumentation : SyntaxTree α → Bool
  | .node .exprStmt _ [.node (.constant (.str _) _) _ _] => true
  | _ => false

/-- The features that a file may ask for. -/
def futureFeatures : List String :=
  ["nested_scopes", "generators", "division", "absolute_import", "with_statement",
    "print_function", "unicode_literals", "barry_as_FLUFL", "generator_stop", "annotations"]

/-- The feature after which annotations are not evaluated. -/
def annotationsFeature : String := "annotations"

/-- Whether a statement may stand in the opening. -/
def inOpening (t : SyntaxTree α) : Bool := isFutureImport t || isDocumentation t

/-- The names that an import brings in. -/
def broughtNames : SyntaxTree α → List String
  | .node (.importFrom _ _) _ [.node .sequence _ names] =>
    names.filterMap fun t =>
      match t with
      | .node (.alias name _) _ _ => some name
      | _ => none
  | _ => []

/-- The features that a body asks for in its opening. -/
def features (body : List (SyntaxTree α)) : List String :=
  (body.takeWhile inOpening).flatMap broughtNames

/-- The statements after the opening. -/
def afterOpening (body : List (SyntaxTree α)) : List (SyntaxTree α) := body.dropWhile inOpening

/-- Whether the annotations of a file are evaluated. -/
def evaluatesAnnotations : SyntaxTree α → Bool
  | .node .file _ [.node .sequence _ body] => !(features body).contains annotationsFeature
  | _ => true

end ErrorTrail.Syntax
