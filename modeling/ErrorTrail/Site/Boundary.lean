import ErrorTrail.Site.Propagation
import ErrorTrail.Syntax.Opening

/-!
# Annotated functions of a file

The build step instruments the outermost functions that carry the annotation, `@wherr` or
`@….wherr`, and puts the boundary `@package.early_return` in the place of the annotation, on
functions nested in them as well. A class cannot carry it.

* `encloseTree` instruments the annotated functions of a file and records them with their sites.
* `importPosition` tells where the import of the alias goes: after the documentation text and the
  imports from `__future__`.
-/

namespace ErrorTrail

open Syntax

/-- The name of the annotation. -/
def annotationWord : String := "wherr"

/-- Whether a decorator is the annotation. -/
def isMarker {α : Type} : SyntaxTree α → Bool
  | .node (.name id _) _ _ => id == annotationWord
  | .node (.attribute attr _) _ _ => attr == annotationWord
  | _ => false

/-- The decorators of a function or class. -/
def decoratorsOf {α : Type} : SyntaxTree α → List (SyntaxTree α)
  | .node (.functionDef _ _) _ [_, _, decorators, _] => decorators.items
  | .node (.classDef _) _ [_, _, _, decorators] => decorators.items
  | _ => []

/-- Whether a function or class carries the annotation. -/
def isAnnotated {α : Type} (t : SyntaxTree α) : Bool := (decoratorsOf t).any isMarker

/-- What the build step records: the functions in source order and the sites of each. -/
structure Record where
  functions : List String := []
  sites : List (String × Location) := []
  deriving DecidableEq, Repr, Inhabited

def Record.append (a b : Record) : Record := ⟨a.functions ++ b.functions, a.sites ++ b.sites⟩

instance : Append Record := ⟨Record.append⟩

/-- Puts the boundary in the place of every annotation of a function, at that node alone. -/
def swapHere (package : String) (form : Form) (span : Span) (cs : List (SyntaxTree Span)) :
    SyntaxTree Span :=
  match form, cs with
  | .functionDef a name, [args, body, .node .sequence s decorators, returns] =>
    let swapped := decorators.map fun d =>
      if isMarker d then hookExpr d.ann (package ++ ".early_return") else d
    .node (.functionDef a name) span [args, body, .node .sequence s swapped, returns]
  | _, _ => .node form span cs

/-- Puts the boundary in the place of every annotation of a function, at any depth. -/
def swapAnnotations (package : String) : SyntaxTree Span → SyntaxTree Span :=
  SyntaxTree.rebuild (swapHere package)

/-- The dotted path of a definition in the definitions around it. -/
def dotted (scope : List String) : String := ".".intercalate scope

/-- What the build step does to an annotated function. -/
def encloseFunction (file package : String) (scope : List String) (name : String)
    (t : SyntaxTree Span) :
    SyntaxTree Span × Record :=
  let path := dotted (scope ++ [name])
  let done := instrumentBody ⟨file, package ++ ".wherrapper"⟩ t
  (swapAnnotations package done.1, ⟨[path], done.2.map fun l => (path, l)⟩)

mutual
/-- Instruments the outermost annotated functions of a tree. -/
def encloseTree (file package : String) (scope : List String) :
    SyntaxTree Span → Except InstrumentError (SyntaxTree Span × Record)
  | .node form span cs =>
    let t := SyntaxTree.node form span cs
    match form with
    | .functionDef _ name =>
      if isAnnotated t then
        if bodyIsLocated t then .ok (encloseFunction file package scope name t)
        else .error .unlocated
      else do
        let inner ← encloseItems file package (scope ++ [name]) cs
        .ok (.node form span inner.1, inner.2)
    | .classDef name =>
      if isAnnotated t then
        .error (.refused
          { code := .notAFunction
            message := "@wherr applies to functions, not class " ++ name
            target := file
            line := span.line })
      else do
        let inner ← encloseItems file package (scope ++ [name]) cs
        .ok (.node form span inner.1, inner.2)
    | _ => do
      let inner ← encloseItems file package scope cs
      .ok (.node form span inner.1, inner.2)

def encloseItems (file package : String) (scope : List String) :
    List (SyntaxTree Span) → Except InstrumentError (List (SyntaxTree Span) × Record)
  | [] => .ok ([], {})
  | t :: ts => do
    let head ← encloseTree file package scope t
    let tail ← encloseItems file package scope ts
    .ok (head.1 :: tail.1, head.2 ++ tail.2)
end

/-- Instruments the annotated functions of a file. -/
def encloseFile (file package : String) (t : SyntaxTree Span) :
    Except InstrumentError (SyntaxTree Span × Record) :=
  encloseTree file package [] t

/-- How many statements of a body come before the import of the alias. -/
def importPosition {α : Type} (body : List (SyntaxTree α)) : Nat :=
  match body with
  | [] => 0
  | t :: ts =>
    if isDocumentation t then 1 + (ts.takeWhile isFutureImport).length
    else ((t :: ts).takeWhile isFutureImport).length

/-- The import of the package under an alias. -/
def aliasImport (package : String) : SyntaxTree Span :=
  .node .importStmt {} [.node .sequence {} [.node (.alias annotationWord (some package)) {} []]]

/-- The file with the import of the alias. -/
def insertImport (package : String) : SyntaxTree Span → SyntaxTree Span
  | .node .file span [.node .sequence s body] =>
    let i := importPosition body
    .node .file span [.node .sequence s (body.take i ++ aliasImport package :: body.drop i)]
  | t => t

end ErrorTrail
