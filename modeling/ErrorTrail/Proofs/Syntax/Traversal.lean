import ErrorTrail.Syntax.Names

/-!
# Traversals of syntax trees

`SyntaxTree.induction` proves a property of a tree from the property of its children; it is the
principle `induction` uses. `postorder` lists the nodes of a tree each after its descendants, which
is the order of evaluation of a call and its receiver, and holds the nodes that `subtrees` holds
(`mem_postorder`). `dottedPath?` reads a name or a chain of attributes back into its parts; the
first part is an identifier of the tree (`mem_identifiers_of_dottedPath?`).
-/

namespace ErrorTrail.Syntax.SyntaxTree

variable {α β : Type}

/-- A property of trees follows from the property of the children of each node. -/
@[elab_as_elim, induction_eliminator]
theorem induction {motive : SyntaxTree α → Prop}
    (node : ∀ f a cs, (∀ c ∈ cs, motive c) → motive (.node f a cs)) : ∀ t, motive t
  | .node f a cs => node f a cs fun c _ => induction node c

/-! ## Annotations and rebuilding -/

@[simp] theorem map_node (g : α → β) (f : Form) (a : α) (cs : List (SyntaxTree α)) :
    (node f a cs).map g = node f (g a) (cs.map (map g)) := by
  rw [map, mapList_eq]

@[simp] theorem bare_node (f : Form) (a : α) (cs : List (SyntaxTree α)) :
    (node f a cs).bare = node f () (cs.map bare) := by
  unfold bare
  rw [map_node]

theorem rebuild_node (g : Form → α → List (SyntaxTree β) → SyntaxTree β) (f : Form) (a : α)
    (cs : List (SyntaxTree α)) : (node f a cs).rebuild g = g f a (cs.map (rebuild g)) := by
  rw [rebuild, rebuildList_eq]

/-! ## Nodes -/

theorem subtrees_node (f : Form) (a : α) (cs : List (SyntaxTree α)) :
    (node f a cs).subtrees = node f a cs :: cs.flatMap subtrees := by
  rw [subtrees, subtreesList_eq]

theorem subtrees_map (g : α → β) (t : SyntaxTree α) : (t.map g).subtrees = t.subtrees.map (map g) := by
  induction t with
  | node f a cs ih =>
    rw [map_node, subtrees_node, subtrees_node, List.map_cons, map_node, List.flatMap_map, List.map_flatMap,
      List.flatMap_def, List.map_congr_left ih, List.flatMap_def]

@[simp] theorem form_map (g : α → β) (t : SyntaxTree α) : (t.map g).form = t.form := by
  cases t with
  | node f a cs => rw [map_node, form_node, form_node]

@[simp] theorem ann_map (g : α → β) (t : SyntaxTree α) : (t.map g).ann = g t.ann := by
  cases t with
  | node f a cs => rw [map_node, ann_node, ann_node]

theorem self_mem_subtrees (t : SyntaxTree α) : t ∈ t.subtrees := by
  cases t with
  | node f a cs => rw [subtrees_node]; exact List.mem_cons_self

theorem mem_subtrees_of_mem {s c : SyntaxTree α} {f : Form} {a : α} {cs : List (SyntaxTree α)}
    (hc : c ∈ cs) (hs : s ∈ c.subtrees) : s ∈ (node f a cs).subtrees := by
  rw [subtrees_node]
  exact List.mem_cons_of_mem _ (List.mem_flatMap.2 ⟨c, hc, hs⟩)

theorem mem_subtrees_trans {s t u : SyntaxTree α} (hs : s ∈ t.subtrees) (ht : t ∈ u.subtrees) :
    s ∈ u.subtrees := by
  induction u with
  | node f a cs ih =>
    rw [subtrees_node, List.mem_cons, List.mem_flatMap] at ht
    obtain rfl | ⟨c, hc, ht⟩ := ht
    · exact hs
    · exact mem_subtrees_of_mem hc (ih c hc ht)

theorem length_subtrees_lt {c : SyntaxTree α} {f : Form} {a : α} {cs : List (SyntaxTree α)}
    (hc : c ∈ cs) : c.subtrees.length < (node f a cs).subtrees.length := by
  have hsublist := List.sublist_flatten_of_mem (List.mem_map_of_mem (f := subtrees) hc)
  have hle := hsublist.length_le
  rw [subtrees_node, List.length_cons, List.flatMap_def]
  omega

/-- A subtree has no more subtrees than the tree. -/
theorem length_subtrees_le {s t : SyntaxTree α} (hs : s ∈ t.subtrees) :
    s.subtrees.length ≤ t.subtrees.length := by
  induction t with
  | node f a cs ih =>
    rw [subtrees_node, List.mem_cons, List.mem_flatMap] at hs
    obtain rfl | ⟨c, hc, hs⟩ := hs
    · exact Nat.le_refl _
    · exact Nat.le_trans (ih c hc hs) (Nat.le_of_lt (length_subtrees_lt hc))

mutual
/-- All nodes of a tree, each after its descendants, in field order. -/
def postorder : SyntaxTree α → List (SyntaxTree α)
  | node form a cs => postorderList cs ++ [node form a cs]

def postorderList : List (SyntaxTree α) → List (SyntaxTree α)
  | [] => []
  | t :: ts => postorder t ++ postorderList ts
end

@[simp] theorem postorderList_eq (ts : List (SyntaxTree α)) :
    postorderList ts = ts.flatMap postorder := by
  induction ts with
  | nil => rfl
  | cons t ts ih => simp [postorderList, ih]

theorem postorder_node (f : Form) (a : α) (cs : List (SyntaxTree α)) :
    (node f a cs).postorder = cs.flatMap postorder ++ [node f a cs] := by
  rw [postorder, postorderList_eq]

theorem mem_postorder {s t : SyntaxTree α} : s ∈ t.postorder ↔ s ∈ t.subtrees := by
  induction t with
  | node f a cs ih =>
    rw [postorder_node, subtrees_node, List.mem_append, List.mem_singleton, List.mem_cons, or_comm]
    simp only [List.mem_flatMap]
    refine or_congr_right ⟨?_, ?_⟩
    · rintro ⟨c, hc, hs⟩
      exact ⟨c, hc, (ih c hc).1 hs⟩
    · rintro ⟨c, hc, hs⟩
      exact ⟨c, hc, (ih c hc).2 hs⟩

/-! ## Identifiers -/

theorem identifiers_node (f : Form) (a : α) (cs : List (SyntaxTree α)) :
    (node f a cs).identifiers = f.identifiers ++ cs.flatMap identifiers := by
  unfold identifiers
  rw [subtrees_node, List.flatMap_cons, List.flatMap_assoc]
  rfl

theorem identifiers_subset_of_mem {c : SyntaxTree α} {f : Form} {a : α} {cs : List (SyntaxTree α)}
    (hc : c ∈ cs) : c.identifiers ⊆ (node f a cs).identifiers := by
  intro x hx
  rw [identifiers_node]
  exact List.mem_append_right _ (List.mem_flatMap.2 ⟨c, hc, hx⟩)

theorem identifiers_subset_of_mem_subtrees {s t : SyntaxTree α} (h : s ∈ t.subtrees) :
    s.identifiers ⊆ t.identifiers := by
  induction t with
  | node f a cs ih =>
    rw [subtrees_node, List.mem_cons, List.mem_flatMap] at h
    obtain rfl | ⟨c, hc, hs⟩ := h
    · exact List.Subset.refl _
    · exact List.Subset.trans (ih c hc hs) (identifiers_subset_of_mem hc)

/-! ## Dotted paths -/

/-- The parts of the dotted path that an expression is. -/
def dottedPath? : SyntaxTree α → Option (List String)
  | node (.name id _) _ _ => some [id]
  | node (.attribute attr _) _ [e] => e.dottedPath?.map (· ++ [attr])
  | _ => none

theorem dottedPath?_attribute (attr : String) (ctx : Context) (a : α) (e : SyntaxTree α) :
    (node (.attribute attr ctx) a [e]).dottedPath? = e.dottedPath?.map (· ++ [attr]) := by
  rw [dottedPath?]

/-- The dotted path of a node depends on those of its children only. -/
theorem dottedPath?_map {g : SyntaxTree α → SyntaxTree α} {f : Form} {a : α}
    {cs : List (SyntaxTree α)} (h : ∀ c ∈ cs, (g c).dottedPath? = c.dottedPath?) :
    (node f a (cs.map g)).dottedPath? = (node f a cs).dottedPath? := by
  match cs, h with
  | [], _ => rfl
  | [e], h => cases f <;> simp [dottedPath?, h e (List.mem_singleton_self e)]
  | _ :: _ :: _, _ => cases f <;> simp [dottedPath?]

/-- The first part of a dotted path is a name that the expression reads. -/
theorem mem_identifiers_of_dottedPath? {t : SyntaxTree α} {head : String} {rest : List String}
    (h : t.dottedPath? = some (head :: rest)) : head ∈ t.identifiers := by
  induction t generalizing rest with
  | node f a cs ih =>
    unfold dottedPath? at h
    split at h
    · next id ctx _ cs' he =>
      cases he
      obtain ⟨rfl, -⟩ : id = head ∧ [] = rest := by simpa using h
      simp [identifiers_node, Form.identifiers]
    · next attr ctx _ e he =>
      cases he
      obtain ⟨path, hpath, hrest⟩ := Option.map_eq_some_iff.1 h
      cases path with
      | nil =>
        -- the path of an attribute's value is never empty
        exfalso
        exact absurd hpath (by unfold dottedPath?; split <;> simp)
      | cons first more =>
        cases (List.cons.inj hrest).1
        exact identifiers_subset_of_mem (List.mem_singleton_self e) (ih e (by simp) hpath)
    · cases h

end ErrorTrail.Syntax.SyntaxTree
