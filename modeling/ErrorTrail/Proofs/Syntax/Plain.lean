import ErrorTrail.Proofs.Syntax.Traversal

/-!
# Plain expressions

The plain expressions are those that bind no names: constants, names, attributes, subscripts, calls,
operators, conditional expressions and displays (`SyntaxTree.IsPlain`). A change of trees that keeps
forms (`KeepsForms`) also keeps what stands starred, the arguments by name and the items of a sequence.
-/

namespace ErrorTrail.Syntax.SyntaxTree

variable {α : Type}

/-- What stands starred in a display or call. -/
def starred? : SyntaxTree α → Option (SyntaxTree α)
  | node (.starred _) _ [t] => some t
  | _ => none

/-- An argument by name, or the mapping of several. -/
def keyword? : SyntaxTree α → Option (Option String × SyntaxTree α)
  | node (.keyword name) _ [t] => some (name, t)
  | _ => none

theorem mem_subtrees_of_starred? {t x : SyntaxTree α} (h : t.starred? = some x) :
    x ∈ t.subtrees := by
  unfold starred? at h
  split at h
  · cases h
    exact mem_subtrees_of_mem (List.mem_singleton_self _) x.self_mem_subtrees
  · cases h

theorem mem_subtrees_of_keyword? {t x : SyntaxTree α} {name : Option String}
    (h : t.keyword? = some (name, x)) : x ∈ t.subtrees := by
  unfold keyword? at h
  split at h
  · cases h
    exact mem_subtrees_of_mem (List.mem_singleton_self _) x.self_mem_subtrees
  · cases h

theorem mem_subtrees_of_mem_items {t x s : SyntaxTree α} (h : x ∈ t.items) (hs : s ∈ x.subtrees) :
    s ∈ t.subtrees := by
  unfold items at h
  split at h
  · exact mem_subtrees_of_mem h hs
  · cases h

/-- The nodes of expressions that bind no names, and those that hold them together. -/
inductive PlainNode : Form → List (SyntaxTree α) → Prop
  | constant (c : Constant) (kind : Option String) : PlainNode (.constant c kind) []
  | name (id : String) (ctx : Context) : PlainNode (.name id ctx) []
  /-- what stands starred is in a display or call -/
  | attr (word : String) (ctx : Context) (object : SyntaxTree α) (hobject : object.starred? = none) :
      PlainNode (.attribute word ctx) [object]
  | subscript (ctx : Context) (object key : SyntaxTree α) : PlainNode (.subscript ctx) [object, key]
  | call (function args keywords : SyntaxTree α) : PlainNode .call [function, args, keywords]
  | boolOp (op : BoolOp) (values : SyntaxTree α) : PlainNode (.boolOp op) [values]
  | binOp (op : BinaryOp) (left right : SyntaxTree α) : PlainNode (.binOp op) [left, right]
  | unaryOp (op : UnaryOp) (operand : SyntaxTree α) : PlainNode (.unaryOp op) [operand]
  | compare (ops : List CompareOp) (left comparators : SyntaxTree α) :
      PlainNode (.compare ops) [left, comparators]
  | ifExp (test body orelse : SyntaxTree α) : PlainNode .ifExp [test, body, orelse]
  | dict (keys values : SyntaxTree α) : PlainNode .dict [keys, values]
  | set (elements : SyntaxTree α) : PlainNode .set [elements]
  | list (ctx : Context) (elements : SyntaxTree α) : PlainNode (.list ctx) [elements]
  | tuple (ctx : Context) (elements : SyntaxTree α) : PlainNode (.tuple ctx) [elements]
  | starred (ctx : Context) (t : SyntaxTree α) : PlainNode (.starred ctx) [t]
  | keyword (name : Option String) (t : SyntaxTree α) : PlainNode (.keyword name) [t]
  | sequence (ts : List (SyntaxTree α)) : PlainNode .sequence ts
  | absent : PlainNode .absent []

/-- Whether an expression binds no names. -/
def IsPlain (t : SyntaxTree α) : Prop := ∀ s ∈ t.subtrees, PlainNode s.form s.children

theorem isPlain_node {f : Form} {a : α} {cs : List (SyntaxTree α)} :
    (node f a cs).IsPlain ↔ PlainNode f cs ∧ ∀ c ∈ cs, c.IsPlain := by
  constructor
  · intro h
    exact ⟨h _ (self_mem_subtrees _), fun c hc s hs => h s (mem_subtrees_of_mem hc hs)⟩
  · rintro ⟨hnode, hcs⟩ s hs
    rw [subtrees_node, List.mem_cons, List.mem_flatMap] at hs
    obtain rfl | ⟨c, hc, hs⟩ := hs
    · exact hnode
    · exact hcs c hc s hs

theorem IsPlain.of_mem_subtrees {s t : SyntaxTree α} (h : t.IsPlain) (hs : s ∈ t.subtrees) :
    s.IsPlain := fun u hu => h u (mem_subtrees_trans hu hs)

/-- A property of plain expressions follows from the property of all that a node is made of. -/
theorem IsPlain.induction {motive : SyntaxTree α → Prop} {t : SyntaxTree α} (ht : t.IsPlain)
    (hnode : ∀ f a cs, (node f a cs).IsPlain → (∀ c ∈ cs, ∀ s ∈ c.subtrees, motive s) →
      motive (.node f a cs)) : motive t := by
  suffices h : ∀ t : SyntaxTree α, t.IsPlain → ∀ s ∈ t.subtrees, motive s from
    h t ht t t.self_mem_subtrees
  intro t ht
  induction t with
  | node f a cs ih =>
    have hcs : ∀ c ∈ cs, ∀ s ∈ c.subtrees, motive s := fun c hc => ih c hc ((isPlain_node.1 ht).2 c hc)
    intro s hs
    rw [subtrees_node, List.mem_cons, List.mem_flatMap] at hs
    obtain rfl | ⟨c, hc, hs⟩ := hs
    · exact hnode f a cs ht hcs
    · exact hcs c hc s hs

/-! ## Changes of children -/

/-- Only a sequence has items. -/
theorem items_eq_nil {t : SyntaxTree α} (h : t.form ≠ .sequence) : t.items = [] := by
  unfold items
  split
  · exact (h rfl).elim
  · rfl

/-- A change that keeps forms and works on the items of a sequence does so with any node. -/
theorem items_map {g : SyntaxTree α → SyntaxTree α} (hform : ∀ t, (g t).form = t.form)
    (hg : ∀ a cs, g (node .sequence a cs) = node .sequence a (cs.map g)) (t : SyntaxTree α) :
    (g t).items = t.items.map g := by
  by_cases h : t.form = .sequence
  · obtain ⟨f, a, cs⟩ := t
    obtain rfl : f = .sequence := h
    rw [hg]
    rfl
  · rw [items_eq_nil h, items_eq_nil (by rwa [hform])]
    rfl

/-- A change of trees that keeps forms and works on the children of every node that is no call. -/
structure KeepsForms (g : SyntaxTree α → SyntaxTree α) : Prop where
  form : ∀ t, (g t).form = t.form
  node : ∀ f a cs, f ≠ .call → g (.node f a cs) = .node f a (cs.map g)

namespace KeepsForms

variable {g : SyntaxTree α → SyntaxTree α} (hg : KeepsForms g)
include hg

/-- What a changed tree that is no call comes from. -/
theorem eq_node {t : SyntaxTree α} (h : t.form ≠ .call) :
    g t = .node t.form t.ann (t.children.map g) := by
  cases t with
  | node f a cs => exact hg.node f a cs h

theorem items (t : SyntaxTree α) : (g t).items = t.items.map g :=
  items_map hg.form (fun a cs => hg.node _ a cs (by simp)) t

theorem isAbsent (t : SyntaxTree α) : (g t).isAbsent = t.isAbsent := by
  have habsent : ∀ u : SyntaxTree α, u.isAbsent = (u.form == .absent) := by
    rintro ⟨f, a, cs⟩
    cases f <;> rfl
  rw [habsent, habsent, hg.form]

/-- A node with one child stays one, and its child is changed. -/
theorem starred? (t : SyntaxTree α) : (g t).starred? = t.starred?.map g := by
  by_cases h : ∃ ctx, t.form = .starred ctx
  · obtain ⟨ctx, h⟩ := h
    rw [hg.eq_node (by simp [h])]
    match t, h with
    | .node _ a [], rfl => rfl
    | .node _ a [x], rfl => rfl
    | .node _ a (_ :: _ :: _), rfl => rfl
  · have hnone : ∀ u : SyntaxTree α, (¬ ∃ ctx, u.form = .starred ctx) → u.starred? = none := by
      intro u hu
      unfold SyntaxTree.starred?
      split
      · exact (hu ⟨_, rfl⟩).elim
      · rfl
    rw [hnone t h, hnone (g t) (by rwa [hg.form])]
    rfl

theorem keyword? (t : SyntaxTree α) : (g t).keyword? = t.keyword?.map fun p => (p.1, g p.2) := by
  by_cases h : ∃ name, t.form = .keyword name
  · obtain ⟨name, h⟩ := h
    rw [hg.eq_node (by simp [h])]
    match t, h with
    | .node _ a [], rfl => rfl
    | .node _ a [x], rfl => rfl
    | .node _ a (_ :: _ :: _), rfl => rfl
  · have hnone : ∀ u : SyntaxTree α, (¬ ∃ name, u.form = .keyword name) → u.keyword? = none := by
      intro u hu
      unfold SyntaxTree.keyword?
      split
      · exact (hu ⟨_, rfl⟩).elim
      · rfl
    rw [hnone t h, hnone (g t) (by rwa [hg.form])]
    rfl

end KeepsForms

end ErrorTrail.Syntax.SyntaxTree
