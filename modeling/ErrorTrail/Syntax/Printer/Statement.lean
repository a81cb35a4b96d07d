import ErrorTrail.Syntax.Printer.Expression

/-!
# Printing statements

`SyntaxTree.print` writes a file or a statement as lines indented by four blanks. An empty line stands
before every definition, save at the beginning of the text; a documentation text keeps its own line
breaks; an `else` that holds a single condition becomes `elif`.
-/

namespace ErrorTrail.Syntax

/-- A line at an indentation. -/
def indented (depth : Nat) (s : String) : String :=
  String.ofList (List.replicate (4 * depth) ' ') ++ s

namespace SyntaxTree

variable {α : Type}

/-- The text of an expression after a word, or the word alone. -/
def afterWord (word : String) (t : SyntaxTree α) : Except Unprintable String := do
  let s ← t.render false .test
  .ok (if t.isAbsent then word else word ++ " " ++ s)

/-- The decorators of a definition, a line each. -/
def decoratorLines (depth : Nat) (decorators : List (SyntaxTree α)) :
    Except Unprintable (List String) := do
  .ok ((← renderItems false (fun _ => .test) 0 decorators).map fun s => indented depth ("@" ++ s))

/-- The text that documents a body: its first statement, if that is a text. -/
def documentation? : List (SyntaxTree α) → Option (String × Option String)
  | node .exprStmt _ [node (.constant (.str s) kind) _ _] :: _ => some (s, kind)
  | _ => none

def documentationLine (depth : Nat) (doc : String × Option String) : String :=
  indented depth ((if doc.2 = some "u" then "u" else "") ++ Quotes.write Quotes.triple doc.1)

/-- Targets, each followed by an equals sign. -/
def assignedTargets (targets : List (SyntaxTree α)) : Except Unprintable String := do
  .ok (String.join ((← renderItems false (fun _ => .tuple) 0 targets).map (· ++ " = ")))

mutual
/-- The lines of a statement, handler or case. `star` tells whether the handlers are a group's,
`elif` whether a condition goes on another one. -/
def lines (depth : Nat) (star elif : Bool) : SyntaxTree α → Except Unprintable (List String)
  | node form _ cs =>
    let fill (s : String) := indented depth s
    match form with
    | .file =>
      match cs with
      | [node .sequence _ body] => documentedLines depth body
      | _ => .error .shape
    | .functionDef asynchronous name =>
      match cs with
      | [args, node .sequence _ body, node .sequence _ decorators, returns] => do
        let ds ← decoratorLines depth decorators
        let params ← args.render false .test
        let answer ← returns.render false .test
        let arrow := if returns.isAbsent then "" else " -> " ++ answer
        let head := (if asynchronous then "async def " else "def ") ++ name ++ "(" ++ params ++ ")"
        .ok ("" :: ds ++ fill (head ++ arrow ++ ":") :: (← documentedLines (depth + 1) body))
      | _ => .error .shape
    | .classDef name =>
      match cs with
      | [node .sequence _ bases, node .sequence _ keywords, node .sequence _ body,
          node .sequence _ decorators] => do
        let ds ← decoratorLines depth decorators
        let bs ← renderItems false (fun _ => .test) 0 bases
        let ks ← renderItems false (fun _ => .test) 0 keywords
        let args := if (bs ++ ks).isEmpty then "" else "(" ++ commas (bs ++ ks) ++ ")"
        .ok ("" :: ds ++ fill ("class " ++ name ++ args ++ ":")
          :: (← documentedLines (depth + 1) body))
      | _ => .error .shape
    | .returnStmt =>
      match cs with
      | [t] => do .ok [fill (← afterWord "return" t)]
      | _ => .error .shape
    | .deleteStmt =>
      match cs with
      | [node .sequence _ ts] => do
        .ok [fill ("del " ++ commas (← renderItems false (fun _ => .test) 0 ts))]
      | _ => .error .shape
    | .assign =>
      match cs with
      | [node .sequence _ ts, v] => do
        .ok [fill ((← assignedTargets ts) ++ (← v.render false .test))]
      | _ => .error .shape
    | .augAssign op =>
      match cs with
      | [t, v] => do
        .ok [fill ((← t.render false .test) ++ " " ++ op.symbol ++ "= " ++ (← v.render false .test))]
      | _ => .error .shape
    | .annAssign simple =>
      match cs with
      | [t, hint, v] => do
        let bracketed := match t with
          | node (.name _ _) _ _ => simple = 0
          | _ => false
        let target ← t.render false .test
        let kind ← hint.render false .test
        let value ← v.render false .test
        .ok [fill (parenthesisedIf bracketed target ++ ": " ++ kind
          ++ (if v.isAbsent then "" else " = " ++ value))]
      | _ => .error .shape
    | .forStmt asynchronous =>
      match cs with
      | [t, iter, node .sequence _ body, node .sequence _ orelse] => do
        let target ← t.render false .tuple
        let source ← iter.render false .test
        let head := (if asynchronous then "async for " else "for ") ++ target ++ " in " ++ source
        .ok (fill (head ++ ":") :: (← bodyLines (depth + 1) body)
          ++ (← blockLines depth "else" orelse))
      | _ => .error .shape
    | .whileStmt =>
      match cs with
      | [test, node .sequence _ body, node .sequence _ orelse] => do
        .ok (fill ("while " ++ (← test.render false .test) ++ ":") :: (← bodyLines (depth + 1) body)
          ++ (← blockLines depth "else" orelse))
      | _ => .error .shape
    | .ifStmt =>
      match cs with
      | [test, node .sequence _ body, node .sequence _ orelse] => do
        let head := (if elif then "elif " else "if ") ++ (← test.render false .test) ++ ":"
        let body ← bodyLines (depth + 1) body
        let rest ← match orelse with
          | [t] =>
            match t with
            | node .ifStmt _ _ => lines depth star true t
            | _ => do
              let ls ← lines (depth + 1) star false t
              .ok (fill "else:" :: ls)
          | ts => blockLines depth "else" ts
        .ok (fill head :: body ++ rest)
      | _ => .error .shape
    | .withStmt asynchronous =>
      match cs with
      | [node .sequence _ items, node .sequence _ body] => do
        let context := commas (← renderItems false (fun _ => .test) 0 items)
        .ok (fill ((if asynchronous then "async with " else "with ") ++ context ++ ":")
          :: (← bodyLines (depth + 1) body))
      | _ => .error .shape
    | .matchStmt =>
      match cs with
      | [subject, node .sequence _ cases] => do
        .ok (fill ("match " ++ (← subject.render false .test) ++ ":")
          :: (← bodyLines (depth + 1) cases))
      | _ => .error .shape
    | .matchCase =>
      match cs with
      | [pattern, guard, node .sequence _ body] => do
        let p ← pattern.render false .test
        let g ← guard.render false .test
        .ok (fill ("case " ++ p ++ (if guard.isAbsent then "" else " if " ++ g) ++ ":")
          :: (← bodyLines (depth + 1) body))
      | _ => .error .shape
    | .raiseStmt =>
      match cs with
      | [e, cause] => do
        let c ← cause.render false .test
        .ok [fill ((← afterWord "raise" e) ++ (if cause.isAbsent then "" else " from " ++ c))]
      | _ => .error .shape
    | .tryStmt group =>
      match cs with
      | [node .sequence _ body, node .sequence _ handlers, node .sequence _ orelse,
          node .sequence _ finalbody] => do
        .ok (fill "try:" :: (← bodyLines (depth + 1) body)
          ++ (← handlerLines depth group handlers)
          ++ (← blockLines depth "else" orelse) ++ (← blockLines depth "finally" finalbody))
      | _ => .error .shape
    | .exceptHandler name =>
      match cs with
      | [type, node .sequence _ body] => do
        let head ← afterWord (if star then "except*" else "except") type
        .ok (fill (head ++ name.elim "" (" as " ++ ·) ++ ":") :: (← bodyLines (depth + 1) body))
      | _ => .error .shape
    | .assertStmt =>
      match cs with
      | [test, msg] => do
        let m ← msg.render false .test
        .ok [fill ("assert " ++ (← test.render false .test)
          ++ (if msg.isAbsent then "" else ", " ++ m))]
      | _ => .error .shape
    | .importStmt =>
      match cs with
      | [node .sequence _ names] => do
        .ok [fill ("import " ++ commas (← renderItems false (fun _ => .test) 0 names))]
      | _ => .error .shape
    | .importFrom source level =>
      match cs with
      | [node .sequence _ names] => do
        let dots := String.ofList (List.replicate (level.getD 0).toNat '.')
        .ok [fill ("from " ++ dots ++ source.getD "" ++ " import "
          ++ commas (← renderItems false (fun _ => .test) 0 names))]
      | _ => .error .shape
    | .globalStmt names => .ok [fill ("global " ++ commas names)]
    | .nonlocalStmt names => .ok [fill ("nonlocal " ++ commas names)]
    | .exprStmt =>
      match cs with
      | [t] => do .ok [fill (← t.render false .yield)]
      | _ => .error .shape
    | .passStmt => .ok [fill "pass"]
    | .breakStmt => .ok [fill "break"]
    | .continueStmt => .ok [fill "continue"]
    | _ => .error .shape

/-- The lines of the statements of a body. -/
def bodyLines (depth : Nat) : List (SyntaxTree α) → Except Unprintable (List String)
  | [] => .ok []
  | t :: ts => do
    let head ← lines depth false false t
    let tail ← bodyLines depth ts
    .ok (head ++ tail)

/-- The lines of handlers. -/
def handlerLines (depth : Nat) (star : Bool) :
    List (SyntaxTree α) → Except Unprintable (List String)
  | [] => .ok []
  | t :: ts => do
    let head ← lines depth star false t
    let tail ← handlerLines depth star ts
    .ok (head ++ tail)

/-- A body that may begin with a documentation text. -/
def documentedLines (depth : Nat) : List (SyntaxTree α) → Except Unprintable (List String)
  | [] => .ok []
  | t :: ts => do
    match documentation? [t] with
    | some doc => .ok (documentationLine depth doc :: (← bodyLines depth ts))
    | none => do
      let head ← lines depth false false t
      .ok (head ++ (← bodyLines depth ts))

/-- An optional block after a word. -/
def blockLines (depth : Nat) (word : String) :
    List (SyntaxTree α) → Except Unprintable (List String)
  | [] => .ok []
  | t :: ts => do
    let head ← lines (depth + 1) false false t
    let tail ← bodyLines (depth + 1) ts
    .ok (indented depth (word ++ ":") :: head ++ tail)
end

/-- The text of a file or a statement. -/
def print (t : SyntaxTree α) : Except Unprintable String := do
  let ls ← t.lines 0 false false
  let ls := match ls with
    | "" :: rest => rest
    | all => all
  .ok ("\n".intercalate ls)

end SyntaxTree

end ErrorTrail.Syntax
