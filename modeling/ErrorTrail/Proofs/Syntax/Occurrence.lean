import Mathlib.Data.List.Basic
import ErrorTrail.Proofs.Syntax.Traversal

/-!
# Nodes and what stands around them

An `Occurrence` is a node of a tree together with the nodes around it. `occurrences` lists those of a
tree in the order in which the nodes are written; without what is around them they are the nodes
that `subtrees` lists (`map_tree_occurrencesIn`), and what is around a tree is around all of them
(`prefix_above`).
-/

namespace ErrorTrail.Syntax

/-- A node of a tree, with the nodes around it from the outermost on. -/
structure Occurrence (α : Type) where
  above : List (SyntaxTree α)
  tree : SyntaxTree α

namespace SyntaxTree

variable {α : Type}

mutual
/-- The nodes of a tree that stands inside others, each before its descendants. -/
def occurrencesIn (above : List (SyntaxTree α)) : SyntaxTree α → List (Occurrence α)
  | node f a cs => ⟨above, node f a cs⟩ :: occurrencesInList (above ++ [node f a cs]) cs

def occurrencesInList (above : List (SyntaxTree α)) : List (SyntaxTree α) → List (Occurrence α)
  | [] => []
  | t :: ts => occurrencesIn above t ++ occurrencesInList above ts
end

/-- The nodes of a tree with those around them, each before its descendants. -/
def occurrences (t : SyntaxTree α) : List (Occurrence α) := t.occurrencesIn []

theorem occurrencesInList_eq (above ts : List (SyntaxTree α)) :
    occurrencesInList above ts = ts.flatMap (occurrencesIn above) := by
  induction ts with
  | nil => rfl
  | cons t ts ih => simp [occurrencesInList, ih]

theorem occurrencesIn_node (above : List (SyntaxTree α)) (f : Form) (a : α)
    (cs : List (SyntaxTree α)) :
    (node f a cs).occurrencesIn above =
      ⟨above, node f a cs⟩ :: cs.flatMap (occurrencesIn (above ++ [node f a cs])) := by
  rw [occurrencesIn, occurrencesInList_eq]

/-- The nodes that occur in a tree are its nodes. -/
theorem map_tree_occurrencesIn (above : List (SyntaxTree α)) (t : SyntaxTree α) :
    (t.occurrencesIn above).map Occurrence.tree = t.subtrees := by
  induction t generalizing above with
  | node f a cs ih =>
    rw [occurrencesIn_node, subtrees_node, List.map_cons, List.map_flatMap]
    exact congrArg _ (List.flatMap_congr fun c hc => ih c hc _)

theorem mem_subtrees_of_mem_occurrencesIn {above : List (SyntaxTree α)} {t : SyntaxTree α}
    {o : Occurrence α} (h : o ∈ t.occurrencesIn above) : o.tree ∈ t.subtrees :=
  map_tree_occurrencesIn above t ▸ List.mem_map_of_mem h

/-- What is around a tree is around its nodes. -/
theorem prefix_above {above : List (SyntaxTree α)} {t : SyntaxTree α} {o : Occurrence α}
    (h : o ∈ t.occurrencesIn above) : above <+: o.above := by
  induction t generalizing above with
  | node f a cs ih =>
    rw [occurrencesIn_node, List.mem_cons, List.mem_flatMap] at h
    obtain rfl | ⟨c, hc, h⟩ := h
    · exact List.prefix_rfl
    · exact (List.prefix_append _ _).trans (ih c hc h)

end SyntaxTree

end ErrorTrail.Syntax
