import ErrorTrail.Proofs.Site.Completeness
import ErrorTrail.Proofs.Site.Factory
import ErrorTrail.Proofs.Site.Hygiene

/-!
# The hook of an instrumented tree

A hook has a fresh name of the tree that it is put into. Instrumenting parts of the tree
(`Instruments`) adds the name of the hook to the names of the tree where there is a site, and no
other name (`Instruments.mem_identifiers`). So the hook has the first name that is free
(`freshName_first`), and once it is there the same base gives another name.
-/

namespace ErrorTrail

open Syntax

namespace Syntax.SyntaxTree

variable {α : Type} {m : Marking} {x base : String}

/-! ## The names of a tree -/

/-- A node of the tree binds, deletes, declares or reads a name, as it is written. -/
def Mentions (t : SyntaxTree α) (x : String) : Prop :=
  ∃ s ∈ t.subtrees, x ∈ s.bindings ∨ ∃ ctx, s.form = .name x ctx

theorem mem_bindings_of_mem_form {s : SyntaxTree α} (h : x ∈ s.form.identifiers) :
    x ∈ s.bindings ∨ ∃ ctx, s.form = .name x ctx := by
  obtain ⟨f, a, cs⟩ := s
  cases f with
  | name id ctx =>
    obtain rfl := List.mem_singleton.1 h
    exact .inr ⟨ctx, rfl⟩
  | namedExpr | annAssign simple => cases h
  | _ => exact .inl h

/-- The names of a tree are those that its nodes mention. -/
theorem mem_identifiers_iff {t : SyntaxTree α} : x ∈ t.identifiers ↔ t.Mentions x := by
  constructor
  · intro h
    obtain ⟨s, hs, hx⟩ := List.mem_flatMap.1 h
    exact ⟨s, hs, mem_bindings_of_mem_form hx⟩
  · rintro ⟨s, hs, hx | ⟨ctx, hform⟩⟩
    · exact identifiers_subset_of_mem_subtrees hs (bindings_subset_identifiers s hx)
    · exact List.mem_flatMap.2 ⟨s, hs, by simp [hform, Form.identifiers]⟩

/-! ## Instrumenting parts of a tree -/

theorem identifiers_hookExpr (a : α) (path : String) :
    (hookExpr a path).identifiers = [pathHead path] := by
  have hattrs : ∀ (attrs : List String) (e : SyntaxTree α),
      (attrs.foldl (fun e word => node (.attribute word .load) a [e]) e).identifiers =
        e.identifiers := by
    intro attrs
    induction attrs with
    | nil => exact fun _ => rfl
    | cons word attrs ih =>
      intro e
      rw [List.foldl_cons, ih, identifiers_node]
      simp [Form.identifiers]
  unfold hookExpr pathHead
  split
  · next h => rw [h]; rfl
  · next head attrs h => rw [h, hattrs]; rfl

theorem identifiers_inject (a none_ : α) (r : SyntaxTree α) (line : Int) :
    (m.inject a none_ r line).identifiers = pathHead m.hook :: r.identifiers := by
  rw [inject_eq_site, identifiers_site, Marking.hookCall]
  simp [identifiers_node, Form.identifiers, identifiers_hookExpr]

/-- Instrumenting a tree that has a site adds the first name of the hook, and no other name. -/
theorem mem_identifiers_visit (t : SyntaxTree Span) :
    x ∈ (t.visit m).1.identifiers ↔
      x ∈ t.identifiers ∨ (t.visit m).2 ≠ [] ∧ x = pathHead m.hook := by
  refine siteInduction ?_ ?_ t
  · intro call ctx word args named r ih
    rw [visit_site, identifiers_inject, identifiers_site, List.mem_cons, ih]
    simp only [ne_eq, List.append_eq_nil_iff, List.cons_ne_self, and_false, not_false_eq_true,
      true_and]
    grind
  · intro f a cs h ih
    have hcs : (∃ c ∈ cs, x ∈ (c.visit m).1.identifiers) ↔
        (∃ c ∈ cs, x ∈ c.identifiers) ∨ (∃ c ∈ cs, (c.visit m).2 ≠ []) ∧ x = pathHead m.hook := by
      simp only [← exists_or, ← exists_and_right]
      exact exists_congr fun c => by
        rw [and_assoc, ← and_or_left]
        exact and_congr_right (ih c)
    rw [visit_other h, identifiers_node, identifiers_node, List.mem_append, List.mem_append,
      List.flatMap_map, List.mem_flatMap, List.mem_flatMap, hcs, or_assoc]
    simp only [ne_eq, List.flatMap_eq_nil_iff, not_forall, exists_prop]

theorem mem_identifiers_instrumentBody (t : SyntaxTree Span) :
    x ∈ (instrumentBody m t).1.identifiers ↔
      x ∈ t.identifiers ∨ (instrumentBody m t).2 ≠ [] ∧ x = pathHead m.hook := by
  obtain heq | ⟨f, a, args, s, body, decorators, returns, rfl, heq⟩ := instrumentBody_cases m t
  · simp [heq]
  · have hbody := mem_identifiers_visit (m := m) (x := x) (.node .sequence s body)
    simp only [heq, identifiers_node f, List.flatMap_cons, List.mem_append, hbody]
    grind

/-- Parts of a tree are instrumented, one after another: an expression, the body of a function, or
what stands inside of a node. -/
inductive Instruments (m : Marking) :
    SyntaxTree Span → SyntaxTree Span → List Location → Prop
  | visit (t : SyntaxTree Span) : Instruments m t (t.visit m).1 (t.visit m).2
  | function {t t' : SyntaxTree Span} {sites : List Location}
      (h : instrument m t = .ok (t', sites)) : Instruments m t t' sites
  | inside {f : Form} {a : Span} {before after : List (SyntaxTree Span)} {c c' : SyntaxTree Span}
      {sites : List Location} (h : Instruments m c c' sites) :
      Instruments m (node f a (before ++ c :: after)) (node f a (before ++ c' :: after)) sites
  | trans {t t' t'' : SyntaxTree Span} {sites sites' : List Location} (h : Instruments m t t' sites)
      (h' : Instruments m t' t'' sites') : Instruments m t t'' (sites ++ sites')

/-- Instrumenting parts of a tree adds no name to it but the first of the hook, which it adds where
there is a site. -/
theorem Instruments.mem_identifiers {t t' : SyntaxTree Span} {sites : List Location}
    (h : Instruments m t t' sites) :
    x ∈ t'.identifiers ↔ x ∈ t.identifiers ∨ sites ≠ [] ∧ x = pathHead m.hook := by
  induction h with
  | visit t => exact mem_identifiers_visit t
  | function h =>
    obtain ⟨-, rfl, rfl⟩ := instrument_ok h
    exact mem_identifiers_instrumentBody _
  | inside h ih =>
    simp only [identifiers_node, List.flatMap_append, List.flatMap_cons, List.mem_append, ih]
    grind
  | @trans t t' t'' sites sites' h h' ih ih' =>
    have happend : sites ++ sites' ≠ [] ↔ sites ≠ [] ∨ sites' ≠ [] := by
      rw [ne_eq, List.append_eq_nil_iff, not_and_or]
    rw [ih', ih, happend]
    grind

end Syntax.SyntaxTree

open SyntaxTree

theorem pathHead_eq {path : String} (h : '.' ∉ path.toList) : pathHead path = path := by
  rw [pathHead, Text.splitOn_eq_singleton h]
  rfl

/-- A name is the first that a tree leaves free among a base and the base with numbers. -/
structure IsFirstFree (t : SyntaxTree Span) (base name : String) : Prop where
  free : ¬t.Mentions name
  eq_base : ¬t.Mentions base → name = base
  numbered : t.Mentions base → ∃ n ≥ 1, name = base ++ "_" ++ toString n ∧
    ∀ k, 1 ≤ k → k < n → t.Mentions (base ++ "_" ++ toString k)

theorem isFirstFree_of_search {t : SyntaxTree Span} {base : String} {tests n : Nat}
    (h : Search base t.identifiers 0 tests n) : IsFirstFree t base (candidate base n) := by
  obtain ⟨hfree, -, hused⟩ := h.spec
  simp only [mem_identifiers_iff] at hfree hused
  rcases n with _ | n
  · exact ⟨hfree, fun _ => rfl, fun hbase => absurd hbase hfree⟩
  · refine ⟨hfree, fun hbase => absurd (hused 0 le_rfl (by omega)) hbase, fun _ =>
      ⟨n + 1, by omega, rfl, fun k hk hlt => ?_⟩⟩
    obtain ⟨k, rfl⟩ : ∃ j, k = j + 1 := ⟨k - 1, by omega⟩
    exact hused (k + 1) (by omega) hlt

/-- A fresh name with a base like that of a hook is no name of the tree in any class, under the
names that private names have there. -/
theorem privateName_ne_freshName {t : SyntaxTree Span} {base x : String} (hsparse : Sparse base)
    (hlast : base.toList.getLast? ≠ some '_') (hx : t.Mentions x) (owner : Option String) :
    privateName owner x ≠ freshName t base := by
  intro heq
  obtain rfl := ((sparse_freshName hsparse hlast t).privateName_eq_iff).1 heq
  exact freshName_not_mem t base (mem_identifiers_iff.2 hx)

/-- The search for a fresh name ends after at most one test more than there are names in the tree,
with the first name that is free. Put into the tree as a hook, this is the only new name, and there
is another fresh name then. -/
theorem freshName_first (t : SyntaxTree Span) {base : String} (hdot : '.' ∉ base.toList) :
    (∃ n ≤ t.identifiers.toFinset.card,
      Search base t.identifiers 0 (n + 1) n ∧ freshName t base = candidate base n) ∧
    IsFirstFree t base (freshName t base) ∧
    ∀ file t' sites, Instruments ⟨file, freshName t base⟩ t t' sites →
      (∀ x, t'.Mentions x ↔ t.Mentions x ∨ sites ≠ [] ∧ x = freshName t base) ∧
      (sites ≠ [] → freshName t' base ≠ freshName t base) := by
  obtain ⟨n, hn, hsearch, hname⟩ := exists_search_freshNameAmong t.identifiers base
  have hname : freshName t base = candidate base n := hname
  have hhead : pathHead (freshName t base) = freshName t base := by
    refine pathHead_eq fun hmem => ?_
    rw [hname] at hmem
    obtain h | h | h := mem_toList_candidate hmem
    · exact hdot h
    · cases h
    · cases h
  refine ⟨⟨n, hn, hsearch, hname⟩, hname ▸ isFirstFree_of_search hsearch,
    fun file t' sites h => ?_⟩
  have hnames : ∀ x, t'.Mentions x ↔ t.Mentions x ∨ sites ≠ [] ∧ x = freshName t base := by
    intro x
    rw [← mem_identifiers_iff, ← mem_identifiers_iff, h.mem_identifiers, hhead]
  refine ⟨hnames, fun hsites heq => ?_⟩
  have hmentioned : t'.Mentions (freshName t base) := (hnames _).2 (.inr ⟨hsites, rfl⟩)
  exact freshName_not_mem t' base (heq ▸ mem_identifiers_iff.2 hmentioned)

/-- A function that has a site, and uses the first two names that its hook might have. -/
theorem freshName_first_taken :
    let none_ : SyntaxTree Span := .node .sequence {} []
    let missing : SyntaxTree Span := .node .absent {} []
    let on (n : Int) : Span := ⟨some n, some n⟩
    let name (id : String) : SyntaxTree Span := .node (.name id .load) (on 2) []
    let args : SyntaxTree Span := .node .arguments {}
      [none_, .node .sequence {} [.node (.arg "_wherr_hook") (on 1) [missing]], missing, none_,
        none_, missing, none_]
    let site : SyntaxTree Span := .node .call (on 2)
      [.node (.attribute "propagate" .load) (on 2) [name "_wherr_hook_1"], none_, none_]
    let t : SyntaxTree Span := .node (.functionDef false "load") (on 1)
      [args, .node .sequence {} [.node .returnStmt (on 2) [site]], none_, missing]
    freshName t "_wherr_hook" = "_wherr_hook_2" ∧
      ∃ t', instrument ⟨"prog.py", "_wherr_hook_2"⟩ t = .ok (t', [⟨"prog.py", 2⟩]) ∧
        IsFirstFree t "_wherr_hook" "_wherr_hook_2" ∧
        (∀ x, t'.Mentions x ↔ t.Mentions x ∨ x = "_wherr_hook_2") ∧
        freshName t' "_wherr_hook" ≠ "_wherr_hook_2" := by
  intro none_ missing on name args site t
  have hname : freshName t "_wherr_hook" = "_wherr_hook_2" := by cbv
  obtain ⟨-, hfirst, hhook⟩ := freshName_first t (by decide : '.' ∉ "_wherr_hook".toList)
  rw [hname] at hfirst hhook
  obtain ⟨t', ht'⟩ : ∃ t', instrument ⟨"prog.py", "_wherr_hook_2"⟩ t =
      .ok (t', [⟨"prog.py", 2⟩]) := ⟨_, rfl⟩
  obtain ⟨hnames, hother⟩ := hhook "prog.py" _ _ (.function ht')
  exact ⟨hname, t', ht', hfirst, by simpa using hnames, hother (by simp)⟩

end ErrorTrail
