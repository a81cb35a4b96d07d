import ErrorTrail.Proofs.Syntax.Traversal
import ErrorTrail.Site.Propagation

/-!
# Where functions stand

In a program functions and classes are statements. An expression defines nothing (`definesNothing`), and
of the parts of a function only the body does: trees in which that holds of every function are those
with `definesInBodies`.
-/

namespace ErrorTrail

open Syntax

variable {α : Type}

def isClassForm : Form → Bool
  | .classDef _ => true
  | _ => false

/-- Whether nodes of a form define functions or classes. -/
def isDefinitionForm (f : Form) : Bool := isFunctionForm f || isClassForm f

namespace Syntax.SyntaxTree

/-- Whether no function or class is defined in a tree. -/
def definesNothing (t : SyntaxTree α) : Bool := t.subtrees.all fun s => !isDefinitionForm s.form

/-- Whether a function has the parts of one, and none of them but its body defines anything. -/
def hasParts : SyntaxTree α → Bool
  | node (.functionDef _ _) _ [args, node .sequence _ _, node .sequence _ decorators, returns] =>
    args.definesNothing && decorators.all definesNothing && returns.definesNothing
  | t => !isFunctionForm t.form

/-- Whether functions stand only in the bodies of files, statements and functions. -/
def definesInBodies (t : SyntaxTree α) : Bool := t.subtrees.all hasParts

variable {f : Form} {a : α} {cs : List (SyntaxTree α)}

theorem definesNothing_node : (node f a cs).definesNothing ↔
    isDefinitionForm f = false ∧ ∀ c ∈ cs, c.definesNothing := by
  simp only [definesNothing, subtrees_node, List.all_cons, List.all_flatMap, Bool.and_eq_true,
    form_node, Bool.not_eq_true', List.all_eq_true]

theorem definesInBodies_node : (node f a cs).definesInBodies ↔
    (node f a cs).hasParts ∧ ∀ c ∈ cs, c.definesInBodies := by
  simp only [definesInBodies, subtrees_node, List.all_cons, List.all_flatMap, Bool.and_eq_true,
    List.all_eq_true]

/-- Only functions have parts to speak of. -/
theorem hasParts_other (hf : isFunctionForm f = false) : (node f a cs).hasParts := by
  unfold hasParts
  split
  · next heq =>
    cases heq
    cases hf
  · simp [hf]

/-- Where nothing is defined, nothing is defined outside bodies. -/
theorem definesInBodies_of_definesNothing {t : SyntaxTree α} (h : t.definesNothing) : t.definesInBodies := by
  refine List.all_eq_true.2 fun s hs => ?_
  obtain ⟨f, a, cs⟩ := s
  have hf : isDefinitionForm f = false := by simpa using List.all_eq_true.1 h _ hs
  exact hasParts_other (Bool.or_eq_false_iff.1 hf).1

/-- A node of a tree that defines nothing is neither a function nor a class. -/
theorem form_of_definesNothing {s t : SyntaxTree α} (ht : t.definesNothing) (hs : s ∈ t.subtrees) :
    isFunctionForm s.form = false ∧ isClassForm s.form = false := by
  have h := List.all_eq_true.1 ht s hs
  simpa [isDefinitionForm] using h

/-- The parts of a function. -/
theorem eq_of_hasParts {t : SyntaxTree α} (ht : t.hasParts) (hform : isFunctionForm t.form) :
    ∃ asynchronous name a args b body s decorators returns,
      t = node (.functionDef asynchronous name) a
        [args, node .sequence b body, node .sequence s decorators, returns] ∧
      args.definesNothing ∧ (∀ d ∈ decorators, d.definesNothing) ∧ returns.definesNothing := by
  unfold hasParts at ht
  split at ht
  · simp only [Bool.and_eq_true, List.all_eq_true] at ht
    exact ⟨_, _, _, _, _, _, _, _, _, rfl, ht.1.1, ht.1.2, ht.2⟩
  · simp [hform] at ht

/-! ## Other annotations -/

variable {β : Type} (g : α → β)

theorem definesNothing_map (t : SyntaxTree α) : (t.map g).definesNothing = t.definesNothing := by
  rw [definesNothing, subtrees_map, List.all_map, definesNothing]
  simp only [Function.comp_def, form_map]

theorem hasParts_map {t : SyntaxTree α} (ht : t.hasParts) : (t.map g).hasParts := by
  by_cases hf : isFunctionForm t.form
  · obtain ⟨_, _, _, _, _, _, _, _, _, rfl, hargs, hdecorators, hreturns⟩ := eq_of_hasParts ht hf
    simpa [hasParts, definesNothing_map, hargs, hreturns] using hdecorators
  · obtain ⟨f, a, cs⟩ := t
    rw [map_node]
    exact hasParts_other (by simpa using hf)

theorem definesInBodies_map {t : SyntaxTree α} (ht : t.definesInBodies) : (t.map g).definesInBodies := by
  rw [definesInBodies, subtrees_map, List.all_map]
  exact List.all_eq_true.2 fun s hs => hasParts_map g (List.all_eq_true.1 ht s hs)

end Syntax.SyntaxTree

end ErrorTrail
