import ErrorTrail.Proofs.Site.Visit
import ErrorTrail.Proofs.Syntax.Plain

/-!
# Instrumenting plain expressions

Instrumenting keeps forms (`keepsForms_visit`), and makes plain expressions of plain expressions
(`isPlain_visit`).
-/

namespace ErrorTrail.Syntax.SyntaxTree

variable {α : Type}

/-- Instrumenting keeps forms. -/
theorem keepsForms_visit (mk : Marking) : KeepsForms fun t => (t.visit mk).1 :=
  ⟨form_visit, fun _ _ _ hf => congrArg Prod.fst (visit_of_ne_call hf)⟩

theorem PlainNode.map {g : SyntaxTree α → SyntaxTree α} (hg : KeepsForms g) {f : Form}
    {cs : List (SyntaxTree α)} (h : PlainNode f cs) : PlainNode f (cs.map g) := by
  cases h with
  | attr word ctx object hobject => exact .attr word ctx _ (by rw [hg.starred?, hobject]; rfl)
  | _ => constructor

theorem isPlain_hookExpr (a : α) (path : String) : (hookExpr a path).IsPlain := by
  suffices h : (hookExpr a path).IsPlain ∧ (hookExpr a path).starred? = none from h.1
  refine hookExpr_induction (motive := fun e => e.IsPlain ∧ e.starred? = none)
    (fun id => ⟨?_, rfl⟩) (fun word e he => ⟨?_, rfl⟩) path
  · exact isPlain_node.2 ⟨.name id _, by simp⟩
  · exact isPlain_node.2 ⟨.attr word _ e he.2, by simpa using he.1⟩

theorem isPlain_site {call : α} {ctx : Context} {word args named : α} {r : SyntaxTree α} :
    (site call ctx word args named r).IsPlain ↔ r.IsPlain ∧ r.starred? = none := by
  have hseq : ∀ a : α, (node .sequence a []).IsPlain := fun a => isPlain_node.2 ⟨.sequence [], by simp⟩
  rw [site, isPlain_node]
  constructor
  · rintro ⟨-, hcs⟩
    obtain ⟨hattr, hr⟩ := isPlain_node.1 (hcs _ List.mem_cons_self)
    cases hattr with
    | attr _ _ _ hobject => exact ⟨hr r (by simp), hobject⟩
  · rintro ⟨hr, hobject⟩
    refine ⟨.call _ _ _, ?_⟩
    have hattr : (node (.attribute propagateWord ctx) word [r]).IsPlain :=
      isPlain_node.2 ⟨.attr _ _ r hobject, by simpa using hr⟩
    simp [hattr, hseq]

theorem isPlain_hookCall (mk : Marking) (a none_ : α) {r : SyntaxTree α} (hr : r.IsPlain)
    (line : Int) : (mk.hookCall a none_ r line).IsPlain := by
  have hconst : ∀ c : Constant, (node (.constant c none) a []).IsPlain := fun c =>
    isPlain_node.2 ⟨.constant c none, by simp⟩
  refine isPlain_node.2 ⟨.call _ _ _, ?_⟩
  have hargs : (node .sequence none_ [r, node (.constant (.str mk.file) none) a [],
      node (.constant (.int line) none) a []]).IsPlain :=
    isPlain_node.2 ⟨.sequence _, by simp [hr, hconst]⟩
  have hnamed : (node .sequence none_ [] : SyntaxTree α).IsPlain :=
    isPlain_node.2 ⟨.sequence [], by simp⟩
  simp [isPlain_hookExpr, hargs, hnamed]

theorem starred?_visit (mk : Marking) {t : SyntaxTree Span} (h : t.starred? = none) :
    (t.visit mk).1.starred? = none := by
  rw [(keepsForms_visit mk).starred?, h]
  rfl

/-- Instrumenting a plain expression gives one. -/
theorem isPlain_visit (mk : Marking) {t : SyntaxTree Span} (h : t.IsPlain) :
    (t.visit mk).1.IsPlain := by
  revert h
  refine siteInduction ?_ ?_ t
  · intro call ctx word args named r ih h
    obtain ⟨hr, hobject⟩ := isPlain_site.1 h
    rw [visit_site, inject_eq_site]
    exact isPlain_site.2 ⟨isPlain_hookCall mk call {} (ih hr) _, rfl⟩
  · intro f a cs hprop ih h
    obtain ⟨hnode, hcs⟩ := isPlain_node.1 h
    rw [visit_other hprop]
    refine isPlain_node.2 ⟨hnode.map (keepsForms_visit mk), ?_⟩
    intro u hu
    obtain ⟨c, hc, rfl⟩ := List.mem_map.1 hu
    exact ih c hc (hcs c hc)

end ErrorTrail.Syntax.SyntaxTree
