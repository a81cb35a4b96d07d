import Mathlib.Tactic.FinCases
import ErrorTrail.Proofs.Site.Shape
import ErrorTrail.Proofs.Syntax.ClassHeader
import ErrorTrail.Site.Definition

/-!
# Definitions inside definitions

`Nested` says where a part of a file stands: inside which functions and classes, and what the blocks of
these offer it. A function that stands somewhere in a file makes up a block of the file
(`Nested.blockAt?`), and the class that its qualified name names is the innermost one around it
(`ownerClass_qualifiedName`), the one in which its private names are spelled
(`ownerClass_innermost`).
-/

namespace ErrorTrail

open Syntax SyntaxTree

/-- A function or class around a definition. -/
inductive Layer where
  | function (name : String)
  | classBody (name : String)
  deriving DecidableEq, Repr, Inhabited

/-- The innermost class of functions and classes, of which the innermost comes first. -/
def innermostClass : List Layer → Option String
  | [] => none
  | .function _ :: layers => innermostClass layers
  | .classBody name :: _ => some name

theorem innermostClass_functions (inner : List String) (layers : List Layer) :
    innermostClass (inner.map .function ++ layers) = innermostClass layers := by
  induction inner with
  | nil => rfl
  | cons name inner ih => exact ih

theorem innermostClass_eq_some_iff {layers : List Layer} {o : String} :
    innermostClass layers = some o ↔
      ∃ (inner : List String) (outer : List Layer),
        layers = inner.map .function ++ .classBody o :: outer := by
  constructor
  · intro h
    induction layers with
    | nil => cases h
    | cons l layers ih =>
      cases l with
      | function name =>
        obtain ⟨inner, outer, rfl⟩ := ih h
        exact ⟨name :: inner, outer, rfl⟩
      | classBody name =>
        cases h
        exact ⟨[], layers, rfl⟩
  · rintro ⟨inner, outer, rfl⟩
    exact innermostClass_functions inner (.classBody o :: outer)

theorem innermostClass_eq_none_iff {layers : List Layer} :
    innermostClass layers = none ↔ ∀ o, .classBody o ∉ layers := by
  induction layers with
  | nil => simp [innermostClass]
  | cons l layers ih =>
    cases l with
    | function name => simpa [innermostClass] using ih
    | classBody name =>
      exact iff_of_false (by simp [innermostClass]) fun h => h name List.mem_cons_self

/-- What a qualified name has before the name itself. -/
def qualifier : List Layer → String
  | [] => ""
  | .function name :: layers => qualifier layers ++ name ++ "." ++ localsMark ++ "."
  | .classBody name :: layers => qualifier layers ++ name ++ "."

/-- The qualified name of a definition. -/
def qualifiedName (layers : List Layer) (name : String) : String := qualifier layers ++ name

def Layer.name : Layer → String
  | .function name => name
  | .classBody name => name

/-- The parts of what a qualified name has before the name itself, the innermost first. -/
def qualifierParts : List Layer → List String
  | [] => []
  | .function name :: layers => localsMark :: name :: qualifierParts layers
  | .classBody name :: layers => name :: qualifierParts layers

/-! ## The class that a qualified name names -/

theorem dot_not_mem_of_isName {name : String} (h : IsName name) : '.' ∉ name.toList := by
  obtain ⟨c, cs, hs, -, hparts⟩ := h.toList_eq
  exact fun hmem => Token.ne_of_isNamePart (hparts _ (hs ▸ hmem)) rfl rfl

theorem isName_ne_localsMark {name : String} (h : IsName name) : name ≠ localsMark := by
  rintro rfl
  exact absurd h.spelled (by decide)

theorem splitOn_qualifier {layers : List Layer} (h : ∀ f ∈ layers, IsName f.name) (t : String) :
    (qualifier layers ++ t).splitOn "." = (qualifierParts layers).reverse ++ t.splitOn "." := by
  have hfirst : ∀ {s : String}, '.' ∉ s.toList → ∀ t : String,
      (s ++ "." ++ t).splitOn "." = s :: t.splitOn "." := fun hs => Text.splitOn_append hs
  induction layers generalizing t with
  | nil => simp [qualifier, qualifierParts]
  | cons f layers ih =>
    have hframes : ∀ f ∈ layers, IsName f.name := fun f hf => h f (List.mem_cons_of_mem _ hf)
    have hdot := dot_not_mem_of_isName (h f List.mem_cons_self)
    cases f with
    | function name =>
      have hname : '.' ∉ name.toList := hdot
      have hassoc : qualifier (.function name :: layers) ++ t =
          qualifier layers ++ (name ++ "." ++ (localsMark ++ "." ++ t)) := by
        simp only [qualifier, String.append_assoc]
      rw [hassoc, ih hframes, hfirst hname, hfirst (by decide), qualifierParts,
        List.reverse_cons, List.reverse_cons]
      simp
    | classBody name =>
      have hname : '.' ∉ name.toList := hdot
      have hassoc : qualifier (.classBody name :: layers) ++ t =
          qualifier layers ++ (name ++ "." ++ t) := by
        simp only [qualifier, String.append_assoc]
      rw [hassoc, ih hframes, hfirst hname, qualifierParts, List.reverse_cons]
      simp

theorem lastUnmarked_qualifierParts {layers : List Layer} (h : ∀ f ∈ layers, IsName f.name)
    {following : String} (hfollowing : following ≠ localsMark) :
    lastUnmarked following (qualifierParts layers) = innermostClass layers := by
  induction layers generalizing following with
  | nil => rfl
  | cons f layers ih =>
    have hframes : ∀ f ∈ layers, IsName f.name := fun f hf => h f (List.mem_cons_of_mem _ hf)
    have hname := isName_ne_localsMark (h f List.mem_cons_self)
    cases f with
    | function name =>
      rw [qualifierParts, lastUnmarked, if_neg (by simp), lastUnmarked, if_neg (by simp)]
      exact ih hframes hname
    | classBody name =>
      rw [qualifierParts, lastUnmarked, if_pos ⟨hname, hfollowing⟩]
      rfl

/-- The class that a qualified name names is the innermost one around the definition. -/
theorem ownerClass_qualifiedName {layers : List Layer} {name : String}
    (h : ∀ f ∈ layers, IsName f.name) (hname : IsName name) :
    ownerClass (qualifiedName layers name) = innermostClass layers := by
  have hone : name.splitOn "." = [name] := Text.splitOn_eq_singleton (dot_not_mem_of_isName hname)
  rw [ownerClass, qualifiedName, splitOn_qualifier h, hone]
  simp only [List.reverse_append, List.reverse_cons, List.reverse_nil, List.nil_append,
    List.reverse_reverse, List.singleton_append]
  exact lastUnmarked_qualifierParts h (isName_ne_localsMark hname)

example : ownerClass "Reader.load.<locals>.step" = some "Reader" := by
  have h := Text.splitOn_char '.' "Reader.load.<locals>.step"
  rw [ownerClass, show "." = String.ofList ['.'] from rfl, h]
  decide

/-! ## Where a definition stands -/

/-- The place inside functions and classes, in a block. -/
def siteIn (block : Block) (eager : Bool) (layers : List Layer) : Site :=
  { block, eager, owner := innermostClass layers }

/-- A part of a file stands inside functions and classes, whose blocks offer it names. -/
inductive Nested (eager : Bool) (file : SyntaxTree Span) :
    List Layer → Surroundings → SyntaxTree Span → Prop
  | file : Nested eager file [] ((fileScope eager file).offers {}) file
  | child {layers : List Layer} {around : Surroundings} {f : Form} {a : Span}
      {cs : List (SyntaxTree Span)} {c : SyntaxTree Span}
      (h : Nested eager file layers around (node f a cs))
      (hcompound : f.isCompound = false) (hleaf : f.isLeaf = false) (hc : c ∈ cs) :
      Nested eager file layers around c
  | inFunction {layers : List Layer} {around : Surroundings} {asynchronous : Bool} {name : String}
      {a : Span} {args body decorators returns : SyntaxTree Span} (hname : IsName name)
      (h : Nested eager file layers around
        (node (.functionDef asynchronous name) a [args, body, decorators, returns])) :
      Nested eager file (.function name :: layers)
        ((functionScope (siteIn .file eager layers) args body).offers around) body
  | inClass {layers : List Layer} {around : Surroundings} {name : String} {a : Span}
      {bases keywords body decorators : SyntaxTree Span} (hname : IsName name)
      (h : Nested eager file layers around
        (node (.classDef name) a [bases, keywords, body, decorators])) :
      Nested eager file (.classBody name :: layers)
        ((classScope (siteIn .file eager layers) name body).offers around) body

namespace Nested

variable {eager : Bool} {file t : SyntaxTree Span} {layers : List Layer} {around : Surroundings}

theorem isName (h : Nested eager file layers around t) : ∀ f ∈ layers, IsName f.name := by
  induction h with
  | file => simp
  | child _ _ _ _ ih => exact ih
  | inFunction hname _ ih => exact List.forall_mem_cons.2 ⟨hname, ih⟩
  | inClass hname _ ih => exact List.forall_mem_cons.2 ⟨hname, ih⟩

/-- The blocks that a part of a file gathers are those of a block of the file. -/
theorem exists_block (h : Nested eager file layers around t) : ∃ is around' s,
    (fileScope eager file).blockAt? {} is = some (around', s) ∧ s.offers around' = around ∧
      (gather (siteIn s.block eager layers) t).inner ⊆ s.inner := by
  induction h with
  | file => exact ⟨[], {}, _, rfl, rfl, List.Subset.refl _⟩
  | child _ hcompound hleaf hc ih =>
    obtain ⟨is, around', s, hat, hoffers, hinner⟩ := ih
    refine ⟨is, around', s, hat, hoffers, List.Subset.trans ?_ hinner⟩
    exact (gather_within hcompound hleaf hc).inner
  | @inFunction layers around asynchronous name a args body decorators returns _ _ ih =>
    obtain ⟨is, around', s, hat, hoffers, hinner⟩ := ih
    have hmem : functionScope (siteIn .file eager layers) args body ∈ s.inner := by
      refine hinner ?_
      simp only [gather, Gathered.append_inner, inner_enclose]
      exact List.mem_append_right _ (List.mem_singleton_self _)
    obtain ⟨js, hat'⟩ := Scope.exists_blockAt?_of_mem hat hmem
    refine ⟨js, _, _, hat', by rw [hoffers], ?_⟩
    exact List.subset_append_right _ _
  | @inClass layers around name a bases keywords body decorators _ _ ih =>
    obtain ⟨is, around', s, hat, hoffers, hinner⟩ := ih
    have hmem : classScope (siteIn .file eager layers) name body ∈ s.inner := by
      refine hinner ?_
      simp only [gather, Gathered.append_inner, inner_enclose]
      exact List.mem_append_right _ (List.mem_singleton_self _)
    obtain ⟨js, hat'⟩ := Scope.exists_blockAt?_of_mem hat hmem
    exact ⟨js, _, _, hat', by rw [hoffers], List.Subset.refl _⟩

/-- A function that stands in a file makes up a block of the file, to which the blocks around it offer
what they offer. -/
theorem blockAt? {asynchronous : Bool} {name : String} {a : Span}
    {args body decorators returns : SyntaxTree Span}
    (h : Nested eager file layers around
      (node (.functionDef asynchronous name) a [args, body, decorators, returns])) :
    ∃ is, (fileScope eager file).blockAt? {} is =
      some (around, functionScope (siteIn .file eager layers) args body) := by
  obtain ⟨is, around', s, hat, rfl, hinner⟩ := h.exists_block
  refine Scope.exists_blockAt?_of_mem hat (hinner ?_)
  simp only [gather, Gathered.append_inner, inner_enclose]
  exact List.mem_append_right _ (List.mem_singleton_self _)

end Nested

/-- The class that the qualified name of a function names is the innermost one around the function,
across all functions between them, and there is none exactly when the function is in no class. It is
the class of the block that the function makes up, in which private names are spelled. -/
theorem ownerClass_innermost {layers : List Layer} {name : String}
    (hlayers : ∀ l ∈ layers, IsName l.name) (hname : IsName name) :
    (∀ o, ownerClass (qualifiedName layers name) = some o ↔
      ∃ (inner : List String) (outer : List Layer),
        layers = inner.map .function ++ .classBody o :: outer) ∧
    (ownerClass (qualifiedName layers name) = none ↔ ∀ o, .classBody o ∉ layers) ∧
    ∀ {eager file around asynchronous a args body decorators returns},
      Nested eager file layers around
        (node (.functionDef asynchronous name) a [args, body, decorators, returns]) →
      ∃ is, (fileScope eager file).blockAt? {} is = some (around, functionScope
        { block := .file, eager, owner := ownerClass (qualifiedName layers name) } args body) := by
  rw [ownerClass_qualifiedName hlayers hname]
  exact ⟨fun o => innermostClass_eq_some_iff, innermostClass_eq_none_iff, fun h => h.blockAt?⟩

/-- A function in a method of a class that is in a function of another class. -/
theorem ownerClass_innermost_step :
    let layers : List Layer :=
      [.function "load", .classBody "Reader", .function "open", .classBody "Book"]
    (∀ l ∈ layers, IsName l.name) ∧ IsName "step" ∧
      qualifiedName layers "step" = "Book.open.<locals>.Reader.load.<locals>.step" ∧
      ownerClass (qualifiedName layers "step") = some "Reader" := by
  intro layers
  have hlayers : ∀ l ∈ layers, IsName l.name := by
    have h : ∀ name ∈ layers.map Layer.name, IsName name := by
      intro name hmem
      fin_cases hmem <;> exact ⟨by decide, by decide, by decide⟩
    exact fun l hl => h l.name (List.mem_map_of_mem hl)
  have hstep : IsName "step" := ⟨by decide, by decide, by decide⟩
  refine ⟨hlayers, hstep, by decide, ?_⟩
  exact ((ownerClass_innermost hlayers hstep).1 "Reader").2 ⟨["load"], _, rfl⟩

end ErrorTrail
