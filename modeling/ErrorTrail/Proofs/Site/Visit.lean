import Mathlib.Data.List.Basic
import ErrorTrail.Proofs.Syntax.Traversal
import ErrorTrail.Site.Propagation

/-!
# The shape of an instrumented tree

`propagations` lists the propagation expressions of a tree, a receiver's before the call on it.
`SyntaxTree.siteInduction` splits a tree by whether its root is one, and the two equations of
`visit` follow the split: a propagation expression is injected on its instrumented receiver
(`visit_site`), any other node keeps its form and its annotation and has its children instrumented
(`visit_other`). From these, instrumenting

* moves every propagation expression to one in its place, and makes no other
  (`propagations_visit`);
* reports one location for each, in their order (`sites_visit`);
* leaves every dotted path as it was (`dottedPath?_visit`).
-/

namespace ErrorTrail

open Syntax

namespace Syntax.SyntaxTree

variable {α : Type}

/-- The propagation expression whose receiver is `r`: `ctx` and `word` belong to the attribute,
`args` and `named` are the annotations of the two empty argument lists. -/
def site (call : α) (ctx : Context) (word args named : α) (r : SyntaxTree α) : SyntaxTree α :=
  node .call call
    [node (.attribute propagateWord ctx) word [r], node .sequence args [], node .sequence named []]

@[simp] theorem propagation?_site (call : α) (ctx : Context) (word args named : α)
    (r : SyntaxTree α) : (site call ctx word args named r).propagation? = some (word, r) := rfl

/-- What a tree is on which a propagation expression is recognised. -/
theorem eq_site_of_propagation? {t r : SyntaxTree α} {word : α}
    (h : t.propagation? = some (word, r)) :
    ∃ call ctx args named, t = site call ctx word args named r := by
  unfold propagation? at h
  split at h
  · next call attr ctx word' r' args named =>
    split at h
    · next hattr =>
      cases h
      cases hattr
      exact ⟨call, ctx, args, named, rfl⟩
    · cases h
  · cases h

/-- A propagation expression is a call. -/
theorem propagation?_eq_none {f : Form} {a : α} {cs : List (SyntaxTree α)} (hf : f ≠ .call) :
    (node f a cs).propagation? = none := by
  rcases h : (node f a cs).propagation? with _ | ⟨word, r⟩
  · rfl
  · obtain ⟨call, ctx, args, named, ht⟩ := eq_site_of_propagation? h
    exact absurd (congrArg form ht) hf

/-- A change of the children of a node makes no propagation expression of it when the change keeps
forms and works on the children of every node that is no call. -/
theorem propagation?_map {g : SyntaxTree α → SyntaxTree α} (hform : ∀ t, (g t).form = t.form)
    (hg : ∀ f b cs, f ≠ .call → ∃ b', g (node f b cs) = node f b' (cs.map g)) {f : Form} {a : α}
    {cs : List (SyntaxTree α)} (h : (node f a cs).propagation? = none) :
    (node f a (cs.map g)).propagation? = none := by
  have hinv : ∀ {t : SyntaxTree α} {f b ds}, f ≠ .call → g t = node f b ds →
      ∃ b' cs, t = node f b' cs ∧ cs.map g = ds := by
    rintro ⟨f', b', cs⟩ f b ds hf ht
    obtain rfl : f' = f := by simpa [hform] using congrArg form ht
    obtain ⟨b'', hb⟩ := hg f' b' cs hf
    exact ⟨b', cs, rfl, congrArg children (hb.symm.trans ht)⟩
  refine Option.eq_none_iff_forall_ne_some.2 fun ⟨word, r⟩ h' => ?_
  obtain ⟨call, ctx, args, named, ht⟩ := eq_site_of_propagation? h'
  have hf : f = .call := congrArg form ht
  -- each of the three children comes from one of the same shape
  obtain ⟨c₁, cs₁, rfl, h₁, hcs₁⟩ := List.map_eq_cons_iff.1 (congrArg children ht)
  obtain ⟨c₂, cs₂, rfl, h₂, hcs₂⟩ := List.map_eq_cons_iff.1 hcs₁
  obtain ⟨c₃, cs₃, rfl, h₃, hcs₃⟩ := List.map_eq_cons_iff.1 hcs₂
  obtain rfl := List.map_eq_nil_iff.1 hcs₃
  obtain ⟨word', ds₁, rfl, hds₁⟩ := hinv (by simp) h₁
  obtain ⟨args', ds₂, rfl, hds₂⟩ := hinv (by simp) h₂
  obtain ⟨named', ds₃, rfl, hds₃⟩ := hinv (by simp) h₃
  obtain ⟨r', rfl, -⟩ := List.map_eq_singleton_iff.1 hds₁
  obtain rfl := List.map_eq_nil_iff.1 hds₂
  obtain rfl := List.map_eq_nil_iff.1 hds₃
  subst hf
  cases (propagation?_site a ctx word' args' named' r').symm.trans h

/-- A property of trees follows from the receiver for a propagation expression, and from the
children for any other node. -/
@[elab_as_elim]
theorem siteInduction {motive : SyntaxTree α → Prop}
    (atSite : ∀ call ctx word args named r, motive r → motive (site call ctx word args named r))
    (other : ∀ f a cs, (node f a cs).propagation? = none → (∀ c ∈ cs, motive c) →
      motive (node f a cs)) : ∀ t, motive t := by
  -- The receiver is a grandchild, so the property is carried for a node and for its children.
  suffices h : ∀ t : SyntaxTree α, motive t ∧ ∀ c ∈ t.children, motive c from fun t => (h t).1
  intro t
  induction t with
  | node f a cs ih =>
    have hcs : ∀ c ∈ cs, motive c := fun c hc => (ih c hc).1
    refine ⟨?_, hcs⟩
    rcases h : (node f a cs).propagation? with _ | ⟨word, r⟩
    · exact other f a cs h hcs
    · obtain ⟨call, ctx, args, named, ht⟩ := eq_site_of_propagation? h
      cases ht
      exact atSite a ctx word args named r ((ih _ List.mem_cons_self).2 r (by simp))

/-! ## Propagation expressions -/

/-- The propagation expressions of a tree, each after those of its receiver. -/
def propagations (t : SyntaxTree α) : List (SyntaxTree α) := t.postorder.filter isPropagation

theorem mem_propagations {p t : SyntaxTree α} :
    p ∈ t.propagations ↔ p ∈ t.subtrees ∧ p.isPropagation := by
  rw [propagations, List.mem_filter, mem_postorder]

/-- The propagation expressions of a part are among those of the tree. -/
theorem mem_propagations_of_mem_subtrees {p s t : SyntaxTree α} (hp : p ∈ s.propagations) (hs : s ∈ t.subtrees) :
    p ∈ t.propagations :=
  mem_propagations.2 ⟨mem_subtrees_trans (mem_propagations.1 hp).1 hs, (mem_propagations.1 hp).2⟩

theorem propagations_node (f : Form) (a : α) (cs : List (SyntaxTree α)) :
    (node f a cs).propagations =
      cs.flatMap propagations ++ if (node f a cs).isPropagation then [node f a cs] else [] := by
  unfold propagations
  rw [postorder_node, List.filter_append, List.filter_flatMap, List.filter_cons, List.filter_nil]

theorem propagations_other {f : Form} {a : α} {cs : List (SyntaxTree α)}
    (h : (node f a cs).propagation? = none) :
    (node f a cs).propagations = cs.flatMap propagations := by
  rw [propagations_node, isPropagation, h]
  exact List.append_nil _

/-- A tree without propagation expressions is none, and its children have none. -/
theorem propagations_node_eq_nil {f : Form} {a : α} {cs : List (SyntaxTree α)}
    (h : (node f a cs).propagations = []) :
    (node f a cs).propagation? = none ∧ ∀ c ∈ cs, c.propagations = [] := by
  have hnone : (node f a cs).propagation? = none := by
    refine Option.eq_none_iff_forall_ne_some.2 fun x hx => ?_
    simp [propagations_node, isPropagation, hx] at h
  rw [propagations_other hnone, List.flatMap_eq_nil_iff] at h
  exact ⟨hnone, h⟩

theorem propagations_site (call : α) (ctx : Context) (word args named : α) (r : SyntaxTree α) :
    (site call ctx word args named r).propagations =
      r.propagations ++ [site call ctx word args named r] := by
  have hseq : ∀ a : α, (node .sequence a []).propagations = [] := fun a =>
    propagations_other (propagation?_eq_none (by simp))
  have hattr : (node (.attribute propagateWord ctx) word [r]).propagations = r.propagations := by
    rw [propagations_other (propagation?_eq_none (by simp))]
    simp
  rw [site, propagations_node]
  simp only [List.flatMap_cons, List.flatMap_nil, hattr, hseq, List.append_nil]
  rfl

/-! ## Instrumenting -/

variable {m : Marking}

theorem visitItems_eq (cs : List (SyntaxTree Span)) :
    visitItems m cs = (cs.map fun c => (c.visit m).1, cs.flatMap fun c => (c.visit m).2) := by
  induction cs with
  | nil => rfl
  | cons c cs ih => simp [visitItems, ih]

/-- A node that is no call keeps its form, and its children are instrumented. -/
theorem visit_of_ne_call {f : Form} {a : Span} {cs : List (SyntaxTree Span)} (hf : f ≠ .call) :
    (node f a cs).visit m =
      (node f a (cs.map fun c => (c.visit m).1), cs.flatMap fun c => (c.visit m).2) := by
  rw [visit, visitItems_eq]
  simp only [propagation?_eq_none hf]

theorem visit_site (call : Span) (ctx : Context) (word args named : Span) (r : SyntaxTree Span) :
    (site call ctx word args named r).visit m =
      (m.inject call {} (r.visit m).1 (siteLine call word),
        (r.visit m).2 ++ [⟨m.file, siteLine call word⟩]) := by
  have hattr : (node (.attribute propagateWord ctx) word [r]).visit m =
      (node (.attribute propagateWord ctx) word [(r.visit m).1], (r.visit m).2) := by
    rw [visit_of_ne_call (by simp)]
    simp
  have hseq : ∀ a : Span, (node .sequence a []).visit m = (node .sequence a [], []) := fun a =>
    visit_of_ne_call (by simp)
  have hwhole := propagation?_site call ctx word args named (r.visit m).1
  rw [site, visit, visitItems_eq]
  rw [site] at hwhole
  simp only [List.map_cons, List.map_nil, List.flatMap_cons, List.flatMap_nil, hattr, hseq,
    List.append_nil, hwhole]

/-- Instrumenting keeps the form of the root. -/
theorem form_visit (t : SyntaxTree Span) : (t.visit m).1.form = t.form := by
  cases t with
  | node f a cs =>
    rw [visit]
    split
    · next h =>
      obtain ⟨_, _, _, _, ht⟩ := eq_site_of_propagation? h
      exact (congrArg form ht).symm
    · rfl

/-- Instrumenting the children of a node makes no propagation expression of it. -/
theorem propagation?_map_visit {f : Form} {a : Span} {cs : List (SyntaxTree Span)}
    (h : (node f a cs).propagation? = none) :
    (node f a (cs.map fun c => (c.visit m).1)).propagation? = none :=
  propagation?_map form_visit (fun _ b _ hf => ⟨b, congrArg Prod.fst (visit_of_ne_call hf)⟩) h

/-- A node that is no propagation expression keeps its form, and its children are instrumented. -/
theorem visit_other {f : Form} {a : Span} {cs : List (SyntaxTree Span)}
    (h : (node f a cs).propagation? = none) :
    (node f a cs).visit m =
      (node f a (cs.map fun c => (c.visit m).1), cs.flatMap fun c => (c.visit m).2) := by
  rw [visit, visitItems_eq]
  simp only [propagation?_map_visit h]

/-- A tree keeps its dotted path, if it has one. -/
theorem dottedPath?_visit (t : SyntaxTree Span) : (t.visit m).1.dottedPath? = t.dottedPath? := by
  refine siteInduction ?_ ?_ t
  · intro call ctx word args named r _
    rw [visit_site]
    simp [site, Marking.inject, dottedPath?]
  · intro f a cs h ih
    rw [visit_other h]
    exact dottedPath?_map ih

/-! ## The propagation expressions and sites of an instrumented tree -/

/-- The line of a propagation expression, if it is one and has a line. -/
def propagationLine? (t : SyntaxTree Span) : Option Int :=
  t.propagation?.bind fun p => siteLine? p.1 t.ann

/-- The function that a marking calls is a chain of attributes on a name. -/
theorem hookExpr_induction {a : α} {motive : SyntaxTree α → Prop}
    (name : ∀ id, motive (node (.name id .load) a []))
    (attr : ∀ word e, motive e → motive (node (.attribute word .load) a [e]))
    (path : String) : motive (hookExpr a path) := by
  have hattrs : ∀ (attrs : List String) (e : SyntaxTree α), motive e →
      motive (attrs.foldl (fun e word => node (.attribute word .load) a [e]) e) := by
    intro attrs
    induction attrs with
    | nil => exact fun e he => he
    | cons word attrs ih => exact fun e he => ih _ (attr word e he)
  unfold hookExpr
  split
  · exact name ""
  · exact hattrs _ _ (name _)

theorem propagations_hookExpr (a : α) (path : String) : (hookExpr a path).propagations = [] := by
  refine hookExpr_induction (motive := fun e => e.propagations = []) (fun id => ?_) (fun word e he => ?_) path
  · exact propagations_other (propagation?_eq_none (by simp))
  · rw [propagations_other (propagation?_eq_none (by simp))]
    simpa using he

/-- The call that reports a site holds the propagation expressions of its receiver. -/
theorem propagations_hookCall (a none_ : α) (r : SyntaxTree α) (line : Int) :
    (m.hookCall a none_ r line).propagations = r.propagations := by
  have hleaf : ∀ (f : Form) (b : α), f ≠ .call → (node f b []).propagations = [] := fun f b hf =>
    propagations_other (propagation?_eq_none hf)
  have hargs : (node .sequence none_ [r, node (.constant (.str m.file) none) a [],
      node (.constant (.int line) none) a []]).propagations = r.propagations := by
    rw [propagations_other (propagation?_eq_none (by simp))]
    simp [hleaf]
  rw [Marking.hookCall, propagations_other (by simp [propagation?])]
  simp [hargs, hleaf, propagations_hookExpr]

theorem inject_eq_site (m : Marking) (a none_ : α) (r : SyntaxTree α) (line : Int) :
    m.inject a none_ r line = site a .load a none_ none_ (m.hookCall a none_ r line) := rfl

/-- Instrumenting puts an instrumented propagation expression where there was one, and nowhere
else. -/
theorem propagations_visit (t : SyntaxTree Span) :
    (t.visit m).1.propagations = t.propagations.map fun p => (p.visit m).1 := by
  refine siteInduction ?_ ?_ t
  · intro call ctx word args named r ih
    rw [visit_site, inject_eq_site, propagations_site, propagations_hookCall, ih, propagations_site,
      List.map_append, List.map_singleton, visit_site, inject_eq_site]
  · intro f a cs h ih
    rw [visit_other h, propagations_other (propagation?_map_visit h), propagations_other h,
      List.flatMap_map, List.map_flatMap]
    exact List.flatMap_congr ih

/-- One location is reported for each propagation expression, in their order. -/
theorem sites_visit (t : SyntaxTree Span) :
    (t.visit m).2 = t.propagations.map fun p => ⟨m.file, p.propagationLine?.getD 0⟩ := by
  refine siteInduction ?_ ?_ t
  · intro call ctx word args named r ih
    rw [visit_site, ih, propagations_site, List.map_append]
    rfl
  · intro f a cs h ih
    rw [visit_other h, propagations_other h, List.map_flatMap]
    exact List.flatMap_congr ih

end Syntax.SyntaxTree

end ErrorTrail
