import ErrorTrail.Proofs.Site.Gathering
import ErrorTrail.Proofs.Text.Splitting
import ErrorTrail.Site.Build

/-!
# The alias of an instrumented file

The build step reaches the package through an alias, a fresh name of the file that one import binds.
`AliasUse` says where the alias may stand in a tree: as the head of what instrumenting put there, and in
the import. Instrumenting a file and putting the boundaries in keep to it, construct by construct
(`aliasUse_visit`, `aliasUse_swap`), and so does the whole build step (`aliasUse_encloseTree`). It follows
that the import alone binds the alias, under whatever name a class may know it, and that in every block
of the file the alias is the file's own (`importsOnce_encloseFile`).
-/

namespace ErrorTrail

open Syntax

namespace Syntax

variable {α β : Type}

/-- Whether an import binds names that are not written there. -/
def Form.isStarImport : Form → Bool
  | .alias path asname => asname.getD path == "*"
  | _ => false

namespace SyntaxTree

/-- Whether a node may bind, delete or declare a name that stands under `name` in the class `owner`. -/
def touches (owner : Option String) (name : String) (t : SyntaxTree α) : Bool :=
  t.form.isStarImport || t.bindings.any (privateName owner · == name)

/-- A node neither binds nor reads a name, under whatever name a class may know it. -/
def Avoids (name : String) (t : SyntaxTree α) : Prop :=
  t.form.isStarImport = false ∧ ∀ owner, ∀ x ∈ t.bindings ++ t.readings, privateName owner x ≠ name

theorem aimedAt_congr {t : SyntaxTree α} {u : SyntaxTree β} (h : u.form = t.form) :
    u.aimedAt = t.aimedAt := by
  obtain ⟨f, a, cs⟩ := t
  obtain ⟨f', b, ds⟩ := u
  obtain rfl : f' = f := h
  cases f' <;> rfl

/-- The names that a node binds depend on its form and on those of its children. -/
theorem bindings_congr {f : Form} {a : α} {b : β} {cs : List (SyntaxTree α)}
    {ds : List (SyntaxTree β)} (h : ds.map form = cs.map form) :
    (node f b ds).bindings = (node f a cs).bindings := by
  match cs, ds, h with
  | [], [], _ =>
    cases f with
    | name id ctx => cases ctx <;> rfl
    | _ => rfl
  | c :: cs, d :: ds, h =>
    have htarget : d.aimedAt = c.aimedAt := aimedAt_congr (List.cons.inj h).1
    cases f with
    | namedExpr => exact htarget
    | annAssign simple => exact htarget
    | name id ctx => cases ctx <;> rfl
    | _ => rfl

theorem readings_congr (f : Form) (a : α) (b : β) (cs : List (SyntaxTree α))
    (ds : List (SyntaxTree β)) : (node f b ds).readings = (node f a cs).readings := by
  cases f with
  | name id ctx => cases ctx <;> rfl
  | _ => rfl

variable {name : String} {f : Form}

theorem Avoids.congr {a : α} {b : β} {cs : List (SyntaxTree α)} {ds : List (SyntaxTree β)}
    (h : (node f a cs).Avoids name) (hforms : ds.map form = cs.map form) :
    (node f b ds).Avoids name := by
  refine ⟨h.1, ?_⟩
  rw [bindings_congr hforms, readings_congr f a b cs ds]
  exact h.2

theorem avoids_sequence (a : α) (cs : List (SyntaxTree α)) : (node .sequence a cs).Avoids name :=
  ⟨rfl, by simp [bindings, readings]⟩

theorem Avoids.touches_eq_false {t : SyntaxTree α} (h : t.Avoids name) (owner : Option String) :
    t.touches owner name = false := by
  rw [touches, h.1, Bool.false_or, List.any_eq_false]
  intro x hx
  simpa using h.2 owner x (List.mem_append_left _ hx)

theorem aimedAt_subset_identifiers (t : SyntaxTree α) : t.aimedAt ⊆ t.identifiers := by
  unfold aimedAt
  split
  · simp [identifiers_node, Form.identifiers]
  · simp

/-- Every name that a node binds, deletes or declares is among the names of its tree. -/
theorem bindings_subset_identifiers (t : SyntaxTree α) : t.bindings ⊆ t.identifiers := by
  obtain ⟨f, a, cs⟩ := t
  have hown : f.identifiers ⊆ (node f a cs).identifiers := by
    rw [identifiers_node]
    exact List.subset_append_left _ _
  have haim : ∀ c ∈ cs, c.aimedAt ⊆ (node f a cs).identifiers := fun c hc =>
    List.Subset.trans (aimedAt_subset_identifiers c) (identifiers_subset_of_mem hc)
  cases f with
  | name id ctx =>
    cases ctx with
    | load => exact List.nil_subset _
    | store => exact hown
    | del => exact hown
  | namedExpr | annAssign simple =>
    match cs, haim with
    | [], _ => exact List.nil_subset _
    | target :: _, haim => exact haim target List.mem_cons_self
  | _ => exact hown

/-- A node reads names of its tree, and the class of a method. -/
theorem readings_subset_identifiers (t : SyntaxTree α) :
    t.readings ⊆ classVariable :: t.identifiers := by
  unfold readings
  split
  · next id a cs =>
    have hid : id ∈ (node (.name id .load) a cs).identifiers := by
      simp [identifiers_node, Form.identifiers]
    intro x hx
    obtain rfl | hx := List.mem_cons.1 hx
    · exact List.mem_cons_of_mem _ hid
    · split at hx
      · exact List.mem_cons.2 (.inl (List.mem_singleton.1 hx))
      · cases hx
  · simp

/-- A node binds and reads names of its tree, and the class of a method. -/
theorem mem_identifiers_of_mem {t : SyntaxTree α} {x : String}
    (h : x ∈ t.bindings ++ t.readings) : x ∈ t.identifiers ∨ x = classVariable := by
  obtain h | h := List.mem_append.1 h
  · exact .inl (bindings_subset_identifiers t h)
  · exact (List.mem_cons.1 (readings_subset_identifiers t h)).symm

/-- A node of a tree avoids a fresh sparse name. -/
theorem avoids_of_not_mem {s t : SyntaxTree α} (hs : s ∈ t.subtrees) (hsparse : Sparse name)
    (hname : name ∉ t.identifiers) (hstar : s.form.isStarImport = false) : s.Avoids name := by
  refine ⟨hstar, fun owner x hx heq => ?_⟩
  obtain rfl := hsparse.privateName_eq_iff.1 heq
  obtain hx | rfl := mem_identifiers_of_mem hx
  · exact hname (identifiers_subset_of_mem_subtrees hs hx)
  · exact absurd hsparse (by simp [Sparse, classVariable])

/-! ## Where the alias stands -/

/-- The alias stands in a tree as the head of what the build step puts there, and no other node has to do
with it. -/
inductive AliasUse (package : String) : SyntaxTree Span → Prop
  | other {f : Form} {a : Span} {cs : List (SyntaxTree Span)} (hnode : (node f a cs).Avoids package)
      (hcs : ∀ c ∈ cs, AliasUse package c) : AliasUse package (node f a cs)
  /-- a propagation expression that is reported to the package -/
  | call (file : String) (a none_ : Span) {r : SyntaxTree Span} (line : Int)
      (hr : AliasUse package r) :
      AliasUse package ((⟨file, package ++ ".wherrapper"⟩ : Marking).inject a none_ r line)
  /-- the boundary of the package -/
  | boundary (a : Span) : AliasUse package (hookExpr a (package ++ ".early_return"))

variable {package : String}

theorem aliasUse_of_avoids {t : SyntaxTree Span} (h : ∀ s ∈ t.subtrees, s.Avoids package) :
    AliasUse package t := by
  induction t with
  | node f a cs ih =>
    exact .other (h _ (self_mem_subtrees _)) fun c hc =>
      ih c hc fun s hs => h s (mem_subtrees_of_mem hc hs)

/-- Instrumenting puts the alias into calls of the package only. -/
theorem aliasUse_visit (file : String) {t : SyntaxTree Span}
    (h : ∀ s ∈ t.subtrees, s.Avoids package) :
    AliasUse package (t.visit ⟨file, package ++ ".wherrapper"⟩).1 := by
  induction t using siteInduction with
  | atSite call ctx word args named r ih =>
    rw [visit_site]
    refine .call file call {} _ (ih fun s hs => h s ?_)
    exact mem_subtrees_of_mem List.mem_cons_self (mem_subtrees_of_mem List.mem_cons_self hs)
  | other f a cs hsite ih =>
    rw [visit_other hsite]
    refine .other ((h _ (self_mem_subtrees _)).congr ?_) ?_
    · rw [List.map_map]
      exact List.map_congr_left fun c _ => form_visit c
    · intro d hd
      obtain ⟨c, hc, rfl⟩ := List.mem_map.1 hd
      exact ih c hc fun s hs => h s (mem_subtrees_of_mem hc hs)

/-! ### Putting boundaries in -/

theorem form_swapHere (package : String) (f : Form) (a : Span) (cs : List (SyntaxTree Span)) :
    (swapHere package f a cs).form = f := by
  unfold swapHere
  split <;> rfl

theorem swapAnnotations_node (package : String) (f : Form) (a : Span) (cs : List (SyntaxTree Span)) :
    swapAnnotations package (node f a cs) = swapHere package f a (cs.map (swapAnnotations package)) :=
  rebuild_node _ f a cs

theorem form_swap (package : String) (t : SyntaxTree Span) :
    (swapAnnotations package t).form = t.form := by
  obtain ⟨f, a, cs⟩ := t
  rw [swapAnnotations_node, form_swapHere, form_node]

/-- Trees whose roots have the same form, and children of the same forms. -/
def SameForms (t u : SyntaxTree α) : Prop :=
  u.form = t.form ∧ u.children.map form = t.children.map form

theorem SameForms.trans {t u v : SyntaxTree α} (h : SameForms t u) (h' : SameForms u v) :
    SameForms t v :=
  ⟨h'.1.trans h.1, h'.2.trans h.2⟩

/-- A node that defines no function keeps its form when boundaries are put in. -/
theorem swap_node {f : Form} {a : Span} {cs : List (SyntaxTree Span)}
    (hf : isFunctionForm f = false) :
    swapAnnotations package (node f a cs) = node f a (cs.map (swapAnnotations package)) := by
  rw [swapAnnotations_node]
  cases f with
  | functionDef asynchronous id => cases hf
  | _ => rfl

theorem swap_hookExpr (a : Span) (path : String) :
    swapAnnotations package (hookExpr a path) = hookExpr a path :=
  hookExpr_induction (motive := fun e => swapAnnotations package e = e)
    (fun id => swap_node rfl) (fun word e he => by rw [swap_node rfl, List.map_singleton, he]) path

theorem swap_inject (m : Marking) (a none_ : Span) (r : SyntaxTree Span) (line : Int) :
    swapAnnotations package (m.inject a none_ r line) =
      m.inject a none_ (swapAnnotations package r) line := by
  have hempty : swapAnnotations package (node .sequence none_ []) = node .sequence none_ [] :=
    swap_node rfl
  have hconstant : ∀ c : Constant, swapAnnotations package (node (.constant c none) a []) =
      node (.constant c none) a [] := fun c => swap_node rfl
  simp only [Marking.inject, Marking.hookCall, swap_node (f := .call) rfl,
    swap_node (f := .attribute propagateWord .load) rfl, swap_node (f := .sequence) rfl, List.map_cons,
    List.map_nil, swap_hookExpr, hconstant]

theorem form_hookExpr_not_mem (a : Span) (path : String) :
    (hookExpr a path).form ∉ [.file, .sequence] :=
  hookExpr_induction (motive := fun e => e.form ∉ [.file, .sequence]) (fun _ => by simp)
    (fun _ _ _ => by simp) path

/-- The alias is used in the parts of a file and of a sequence if it is in the whole. -/
theorem AliasUse.of_mem_children {t c : SyntaxTree Span} (h : AliasUse package t)
    (hform : t.form ∈ [.file, .sequence]) (hc : c ∈ t.children) : AliasUse package c := by
  cases h with
  | other hnode hcs => exact hcs c hc
  | call file a none_ line hr => simp [Marking.inject] at hform
  | boundary a => exact absurd hform (form_hookExpr_not_mem a _)

/-- What putting boundaries in makes of a node whose children have them. -/
theorem swapHere_cases (package : String) (f : Form) (a : Span) (cs : List (SyntaxTree Span)) :
    swapHere package f a cs = node f a cs ∨
      ∃ args body s decorators returns, cs = [args, body, node .sequence s decorators, returns] ∧
        swapHere package f a cs = node f a [args, body, node .sequence s (decorators.map fun d =>
          if isMarker d then hookExpr d.ann (package ++ ".early_return") else d), returns] := by
  unfold swapHere
  split
  · exact .inr ⟨_, _, _, _, _, rfl, rfl⟩
  · exact .inl rfl

theorem sameForms_swap (package : String) (t : SyntaxTree Span) :
    SameForms t (swapAnnotations package t) := by
  obtain ⟨f, a, cs⟩ := t
  have hforms : (cs.map (swapAnnotations package)).map form = cs.map form := by
    rw [List.map_map]
    exact List.map_congr_left fun c _ => form_swap package c
  refine ⟨form_swap package _, ?_⟩
  rw [swapAnnotations_node]
  obtain hkept | ⟨args, body, s, decorators, returns, hcs, hswapped⟩ :=
    swapHere_cases package f a (cs.map (swapAnnotations package))
  · rw [hkept]
    exact hforms
  · rw [hswapped, children_node, children_node, ← hforms, hcs]
    rfl

/-- Boundaries stand where annotations stood, and hold the alias at their head. -/
theorem aliasUse_swap {t : SyntaxTree Span} (h : AliasUse package t) :
    AliasUse package (swapAnnotations package t) := by
  induction h with
  | @other f a cs hnode hcs ih =>
    have hforms : (cs.map (swapAnnotations package)).map form = cs.map form := by
      rw [List.map_map]
      exact List.map_congr_left fun c _ => form_swap package c
    have hchildren : ∀ d ∈ cs.map (swapAnnotations package), AliasUse package d := by
      intro d hd
      obtain ⟨c, hc, rfl⟩ := List.mem_map.1 hd
      exact ih c hc
    rw [swapAnnotations_node]
    obtain hkept | ⟨args, body, s, decorators, returns, hcs', hswapped⟩ :=
      swapHere_cases package f a (cs.map (swapAnnotations package))
    · exact hkept ▸ .other (hnode.congr hforms) hchildren
    · rw [hcs'] at hchildren hforms
      rw [hswapped]
      have hdecorators : AliasUse package (node .sequence s decorators) := hchildren _ (by simp)
      refine .other (hnode.congr hforms) ?_
      simp only [List.forall_mem_cons, List.not_mem_nil, false_implies, implies_true, and_true]
      refine ⟨hchildren _ (by simp), hchildren _ (by simp), .other (avoids_sequence _ _) ?_,
        hchildren _ (by simp)⟩
      intro d' hd'
      obtain ⟨d, hd, rfl⟩ := List.mem_map.1 hd'
      split
      · exact .boundary _
      · exact hdecorators.of_mem_children (by simp) hd
  | call file a none_ line hr ih =>
    rw [swap_inject]
    exact .call file a none_ line ih
  | boundary a =>
    rw [swap_hookExpr]
    exact .boundary a

/-! ### The whole build step -/

theorem encloseItems_ok {file : String} {scope : List String} {cs : List (SyntaxTree Span)}
    {done : List (SyntaxTree Span) × Record}
    (h : encloseItems file package scope cs = .ok done) :
    List.Forall₂ (fun c d => ∃ record, encloseTree file package scope c = .ok (d, record)) cs done.1 := by
  induction cs generalizing done with
  | nil =>
    cases h
    exact .nil
  | cons c cs ih =>
    rw [encloseItems] at h
    rcases hc : encloseTree file package scope c with e | ⟨d, record⟩
    · rw [hc] at h
      cases h
    · rcases hcs : encloseItems file package scope cs with e | tail
      · rw [hc, hcs] at h
        cases h
      · rw [hc, hcs] at h
        cases h
        exact .cons ⟨record, hc⟩ (ih hcs)

/-- What the build step makes of a node: an annotated function is instrumented, of any other node the
children are. -/
theorem encloseTree_ok {file : String} {scope : List String} {f : Form} {a : Span}
    {cs : List (SyntaxTree Span)} {done : SyntaxTree Span × Record}
    (h : encloseTree file package scope (node f a cs) = .ok done) :
    done.1 = swapAnnotations package
        (instrumentBody ⟨file, package ++ ".wherrapper"⟩ (node f a cs)).1 ∨
      ∃ scope' ds, done.1 = node f a ds ∧
        List.Forall₂ (fun c d => ∃ record, encloseTree file package scope' c = .ok (d, record))
          cs ds := by
  have hchildren : ∀ {scope' : List String} {done : SyntaxTree Span × Record},
      (encloseItems file package scope' cs >>= fun inner =>
        Except.ok (node f a inner.1, inner.2)) = .ok done →
      ∃ scope' ds, done.1 = node f a ds ∧
        List.Forall₂ (fun c d => ∃ record, encloseTree file package scope' c = .ok (d, record))
          cs ds := by
    intro scope' done h
    rcases hcs : encloseItems file package scope' cs with e | inner
    · rw [hcs] at h
      cases h
    · rw [hcs] at h
      cases h
      exact ⟨scope', inner.1, rfl, encloseItems_ok hcs⟩
  unfold encloseTree at h
  dsimp only at h
  split at h
  · split at h
    · split at h
      · cases h
        exact .inl rfl
      · cases h
    · exact .inr (hchildren h)
  · split at h
    · cases h
    · exact .inr (hchildren h)
  · exact .inr (hchildren h)

/-- Instrumenting the body of a function puts the alias into calls of the package only. -/
theorem aliasUse_instrumentBody (file : String) {t : SyntaxTree Span}
    (h : ∀ s ∈ t.subtrees, s.Avoids package) :
    AliasUse package (instrumentBody ⟨file, package ++ ".wherrapper"⟩ t).1 ∧
      SameForms t (instrumentBody ⟨file, package ++ ".wherrapper"⟩ t).1 := by
  unfold instrumentBody
  split
  · next f a args s body decorators returns =>
    have hchild : ∀ c ∈ [args, node .sequence s body, decorators, returns],
        ∀ u ∈ c.subtrees, u.Avoids package := fun c hc u hu => h u (mem_subtrees_of_mem hc hu)
    refine ⟨.other ((h _ (self_mem_subtrees _)).congr (by simp)) ?_, rfl, rfl⟩
    simp only [List.forall_mem_cons, List.not_mem_nil, false_implies, implies_true, and_true]
    refine ⟨aliasUse_of_avoids (hchild _ (by simp)), .other (avoids_sequence _ _) ?_,
      aliasUse_of_avoids (hchild _ (by simp)), aliasUse_of_avoids (hchild _ (by simp))⟩
    rw [visitItems_eq]
    intro d hd
    obtain ⟨c, hc, rfl⟩ := List.mem_map.1 hd
    exact aliasUse_visit file fun u hu =>
      hchild (node .sequence s body) (by simp) u (mem_subtrees_of_mem hc hu)
  · exact ⟨aliasUse_of_avoids h, rfl, rfl⟩

theorem forall_mem_of_forall₂ {P : SyntaxTree Span → Prop} {cs ds : List (SyntaxTree Span)}
    (h : List.Forall₂ (fun c d => P d ∧ d.form = c.form) cs ds) :
    (∀ d ∈ ds, P d) ∧ ds.map form = cs.map form := by
  induction h with
  | nil => exact ⟨by simp, rfl⟩
  | cons hd _ ih =>
    exact ⟨List.forall_mem_cons.2 ⟨hd.1, ih.1⟩, List.cons_eq_cons.2 ⟨hd.2, ih.2⟩⟩

/-- The build step puts the alias of a file where instrumenting and boundaries put it. -/
theorem aliasUse_encloseTree {file : String} {scope : List String} {t : SyntaxTree Span}
    {done : SyntaxTree Span × Record} (ht : ∀ s ∈ t.subtrees, s.Avoids package)
    (h : encloseTree file package scope t = .ok done) :
    AliasUse package done.1 ∧ SameForms t done.1 := by
  induction t generalizing scope done with
  | node f a cs ih =>
    obtain hdone | ⟨scope', ds, hdone, hds⟩ := encloseTree_ok h
    · obtain ⟨huse, hform⟩ := aliasUse_instrumentBody file ht
      rw [hdone]
      exact ⟨aliasUse_swap huse, hform.trans (sameForms_swap package _)⟩
    · have hall : ∀ c ∈ cs, ∀ u ∈ c.subtrees, u.Avoids package := fun c hc u hu =>
        ht u (mem_subtrees_of_mem hc hu)
      have hpairs : List.Forall₂ (fun c d => AliasUse package d ∧ d.form = c.form) cs ds := by
        refine List.forall₂_iff_zip.2 ⟨hds.length_eq, fun {c d} hcd => ?_⟩
        obtain ⟨record, hd⟩ := (List.forall₂_iff_zip.1 hds).2 hcd
        obtain ⟨huse, hform⟩ := ih c (List.of_mem_zip hcd).1 (hall c (List.of_mem_zip hcd).1) hd
        exact ⟨huse, hform.1⟩
      obtain ⟨hchildren, hforms⟩ := forall_mem_of_forall₂ hpairs
      rw [hdone]
      exact ⟨.other ((ht _ (self_mem_subtrees _)).congr hforms) hchildren, rfl, hforms⟩

/-! ### Who binds the alias -/

/-- A node that binds nothing. -/
def Silent (t : SyntaxTree α) : Prop := t.form.isStarImport = false ∧ t.bindings = []

theorem silent_hookExpr (a : α) (path : String) : ∀ s ∈ (hookExpr a path).subtrees, s.Silent := by
  refine hookExpr_induction (motive := fun e => ∀ s ∈ e.subtrees, s.Silent) (fun id => ?_)
    (fun word e he => ?_) path
  · intro s hs
    rw [subtrees_node] at hs
    obtain rfl : s = _ := by simpa using hs
    exact ⟨rfl, rfl⟩
  · intro s hs
    rw [subtrees_node] at hs
    obtain rfl | hs : s = _ ∨ s ∈ e.subtrees := by simpa using hs
    · exact ⟨rfl, rfl⟩
    · exact he s hs

/-- The nodes of an injected propagation expression bind nothing, apart from those of its receiver. -/
theorem silent_inject (m : Marking) (a none_ : α) (r : SyntaxTree α) (line : Int) :
    ∀ s ∈ (m.inject a none_ r line).subtrees, s ∈ r.subtrees ∨ s.Silent := by
  intro s hs
  simp only [Marking.inject, Marking.hookCall, subtrees_node, List.flatMap_cons, List.flatMap_nil,
    List.append_nil, List.mem_cons, List.mem_append, List.not_mem_nil, or_false] at hs
  rcases hs with rfl | (rfl | rfl | hs | (rfl | hs | rfl | rfl) | rfl) | rfl | rfl
  case inr.inl.inr.inr.inl => exact .inr (silent_hookExpr a _ s hs)
  case inr.inl.inr.inr.inr.inl.inr.inl => exact .inl hs
  all_goals exact .inr ⟨rfl, rfl⟩

theorem Silent.touches_eq_false {t : SyntaxTree α} (h : t.Silent) (owner : Option String) :
    t.touches owner name = false := by
  rw [touches, h.1, h.2]
  rfl

/-- No node binds the alias where it is used. -/
theorem AliasUse.touches_eq_false {t : SyntaxTree Span} (h : AliasUse package t) :
    ∀ s ∈ t.subtrees, ∀ owner, s.touches owner package = false := by
  induction h with
  | other hnode hcs ih =>
    intro s hs owner
    rw [subtrees_node, List.mem_cons, List.mem_flatMap] at hs
    obtain rfl | ⟨c, hc, hs⟩ := hs
    · exact hnode.touches_eq_false owner
    · exact ih c hc s hs owner
  | call file a none_ line hr ih =>
    intro s hs owner
    obtain hs | hs := silent_inject _ _ _ _ _ s hs
    · exact ih s hs owner
    · exact hs.touches_eq_false owner
  | boundary a =>
    exact fun s hs owner => (silent_hookExpr a _ s hs).touches_eq_false owner

end SyntaxTree

/-- One import alone binds the alias in a file. -/
structure ImportsOnce (package : String) (t : SyntaxTree Span) : Prop where
  /-- the statements besides the import hold the alias only where the build step put it -/
  uses : ∃ a b before after,
    t = .node .file a [.node .sequence b (before ++ aliasImport package :: after)] ∧
      ∀ s ∈ before ++ after, s.AliasUse package
  /-- under no name that a class gives it does another node bind, delete or declare it -/
  binder : ∀ owner, t.subtrees.filter (·.touches owner package) =
    [.node (.alias annotationWord (some package)) {} []]
  /-- it is no private name -/
  spelled : ∀ owner, privateName owner package = package
  /-- the block of the file brings it in once and else reads it -/
  brought : ∀ eager, ((fileScope eager t).mentions.filter fun m =>
    m.name == package && m.deed != .read) = [⟨.bringIn, package, false⟩]
  /-- it is the file's own name -/
  own : ∀ eager, (fileScope eager t).home {} package = .own
  /-- and in every block inside, at any depth, it is only read, and is the file's -/
  inside : ∀ eager is around s, is ≠ [] → (fileScope eager t).blockAt? {} is = some (around, s) →
    s.ReadsOnly package ∧ s.home around package = .file

/-! ### The block of a file that imports the alias -/

/-- A file that brings a name in between parts that only read it. -/
theorem home_brought {n : String} {g k : Gathered} (hclass : n ≠ classVariable) (hg : g.ReadsOnly n)
    (hk : k.ReadsOnly n) :
    let s := (g ++ ({ mentions := [⟨.bringIn, n, false⟩] } ++ k)).scope .file
    (s.mentions.filter fun m => m.name == n && m.deed != .read) = [⟨.bringIn, n, false⟩] ∧
      s.home {} n = .own ∧
      ∀ is around t, is ≠ [] → s.blockAt? {} is = some (around, t) →
        t.ReadsOnly n ∧ t.home around n = .file := by
  intro s
  have hfilter : ∀ g : Gathered, g.ReadsOnly n →
      g.mentions.filter (fun m => m.name == n && m.deed != .read) = [] := fun g hg =>
    List.filter_eq_nil_iff.2 fun m hm => by
      simp only [Bool.and_eq_true, beq_iff_eq, bne_iff_ne, not_and, not_not]
      exact hg.mentions m hm
  have hmentions : s.mentions = g.mentions ++ ⟨.bringIn, n, false⟩ :: k.mentions := rfl
  have hdoes : ∀ f : Deed → Bool, f .read = false → s.does f n = f .bringIn := by
    intro f hf
    have hnot : ∀ g : Gathered, g.ReadsOnly n →
        (g.mentions.any fun m => m.name == n && f m.deed) = false := fun g hg =>
      List.any_eq_false.2 fun m hm => by
        simp only [Bool.and_eq_true, beq_iff_eq, not_and]
        intro hname
        rw [hg.mentions m hm hname, hf]
        simp
    simp [Scope.does, hmentions, hnot g hg, hnot k hk]
  refine ⟨?_, ?_, fun is around t his hat => ?_⟩
  · simp [hmentions, List.filter_append, hfilter g hg, hfilter k hk]
  · exact Scope.home_eq_own_iff.2 ⟨hdoes _ rfl, hdoes _ rfl, hdoes _ rfl⟩
  · obtain ⟨i, is, rfl⟩ := List.exists_cons_of_ne_nil his
    obtain ⟨u, hu, hat⟩ := Option.bind_eq_some_iff.1 (Scope.blockAt?_cons ▸ hat)
    have hreads : u.ReadsOnly n := by
      have hinner : u ∈ g.inner ++ ([] ++ k.inner) := List.mem_of_getElem? hu
      obtain hu | hu := List.mem_append.1 hinner
      · exact hg.inner u hu
      · exact hk.inner u hu
    have hnot : n ∉ (s.offers {}).names := fun h => by
      have := Scope.names_offers_subset_of_file (s := s) rfl h
      simp [Surroundings.names] at this
    exact ⟨(hreads.blockAt? hclass hat).1, by rw [hreads.home_blockAt? hclass hat, if_neg hnot]⟩

section ImportsOnce

variable {package : String} {a b : Span} {before after : List (SyntaxTree Span)}

theorem filter_touches_file (hsparse : Sparse package) (hne : package ≠ "")
    (h : ∀ s ∈ before ++ after, s.AliasUse package) (owner : Option String) :
    (SyntaxTree.node .file a [.node .sequence b (before ++ aliasImport package :: after)]).subtrees.filter
        (·.touches owner package) = [.node (.alias annotationWord (some package)) {} []] := by
  have hnone : ∀ ts ⊆ before ++ after,
      (ts.flatMap SyntaxTree.subtrees).filter (·.touches owner package) = [] := fun ts hts =>
    List.filter_eq_nil_iff.2 fun s hs => by
      obtain ⟨t, ht, hs⟩ := List.mem_flatMap.1 hs
      simp [(h t (hts ht)).touches_eq_false s hs owner]
  have hsilent : ∀ f ∈ [Form.file, .sequence, .importStmt], ∀ (a : Span) (cs : List (SyntaxTree Span)),
      (SyntaxTree.node f a cs).touches owner package = false := by
    simp [SyntaxTree.touches, SyntaxTree.bindings, Form.isStarImport]
  have htouches : (SyntaxTree.node (.alias annotationWord (some package)) ({} : Span) []).touches
      owner package = true := by
    simp [SyntaxTree.touches, SyntaxTree.bindings, importedName, hne, hsparse.privateName_eq]
  simp only [aliasImport, SyntaxTree.subtrees_node, List.flatMap_cons, List.flatMap_nil,
    List.flatMap_append, List.append_nil, List.filter_cons, List.filter_append, List.filter_nil,
    hnone before (List.subset_append_left _ _), hnone after (List.subset_append_right _ _),
    htouches, hsilent .file (by simp), hsilent .sequence (by simp), hsilent .importStmt (by simp)]
  simp

theorem gatherList_readsOnly (hne : package ≠ "") {ts : List (SyntaxTree Span)} (p : Site)
    (h : ∀ s ∈ ts, s.AliasUse package) : (gatherList p ts).ReadsOnly package := by
  refine gather_readsOnly (t := .node .sequence {} ts) hne fun s hs x hx owner => ?_
  rw [SyntaxTree.subtrees_node, List.mem_cons, List.mem_flatMap] at hs
  obtain rfl | ⟨t, ht, hs⟩ := hs
  · cases hx
  · have htouches := (h t ht).touches_eq_false s hs owner
    simp only [SyntaxTree.touches, Bool.or_eq_false_iff, List.any_eq_false] at htouches
    simpa using htouches.2 x hx

/-- A file in which statements that use the alias stand around its import. -/
theorem importsOnce_of_aliasUse (hsparse : Sparse package) (hne : package ≠ "") (hstar : package ≠ "*")
    (h : ∀ s ∈ before ++ after, s.AliasUse package) :
    ImportsOnce package
      (.node .file a [.node .sequence b (before ++ aliasImport package :: after)]) := by
  have hclass : package ≠ classVariable := by
    rintro rfl
    simp [Sparse, classVariable] at hsparse
  have hscope : ∀ eager, fileScope eager
      (.node .file a [.node .sequence b (before ++ aliasImport package :: after)]) =
        (gatherList { eager } before ++ ({ mentions := [⟨.bringIn, package, false⟩] } ++
          gatherList { eager } after)).scope .file := by
    intro eager
    have himport : gatherList { eager } (aliasImport package :: after) =
        { mentions := [⟨.bringIn, package, false⟩] } ++ gatherList { eager } after := by
      rw [gatherList]
      simp [aliasImport, gather, gatherList, hstar, importedName, hne, Site.mention, privateName]
    show (gatherList { eager } (before ++ aliasImport package :: after) ++ {}).scope .file = _
    rw [Gathered.append_empty, gatherList_append, himport]
  have hhome := fun eager => home_brought hclass
    (gatherList_readsOnly hne { eager } fun s hs => h s (List.mem_append_left _ hs))
    (gatherList_readsOnly hne { eager } fun s hs => h s (List.mem_append_right _ hs))
  refine ⟨⟨a, b, before, after, rfl, h⟩, filter_touches_file hsparse hne h,
    fun owner => hsparse.privateName_eq, fun eager => ?_, fun eager => ?_, fun eager => ?_⟩
  · exact hscope eager ▸ (hhome eager).1
  · exact hscope eager ▸ (hhome eager).2.1
  · exact hscope eager ▸ (hhome eager).2.2

end ImportsOnce

/-- Whether a tree is a file of statements. -/
def SyntaxTree.IsFile (t : SyntaxTree α) : Prop :=
  ∃ a b body, t = .node .file a [.node .sequence b body]

open SyntaxTree in
/-- The alias of an instrumented file is bound by its import alone, stands where the build step put it,
and is the file's in every block. -/
theorem importsOnce_encloseFile {file : String} {t : SyntaxTree Span}
    {done : SyntaxTree Span × Record} (hfile : t.IsFile)
    (hstars : ∀ s ∈ t.subtrees, s.form.isStarImport = false)
    (h : encloseFile file (freshName t aliasBase) t = .ok done) :
    ImportsOnce (freshName t aliasBase) (insertImport (freshName t aliasBase) done.1) := by
  obtain ⟨a, b, body, rfl⟩ := hfile
  set t : SyntaxTree Span := .node .file a [.node .sequence b body]
  have hsparse : Sparse (freshName t aliasBase) :=
    sparse_freshName (by decide) (by decide) t
  have hstart := prefix_freshName t aliasBase
  have hne : freshName t aliasBase ≠ "" := fun h => by rw [h] at hstart; simp [aliasBase] at hstart
  have hstar : freshName t aliasBase ≠ "*" := fun h => by rw [h] at hstart; simp [aliasBase] at hstart
  have havoids : ∀ s ∈ t.subtrees, s.Avoids (freshName t aliasBase) := fun s hs =>
    avoids_of_not_mem hs hsparse (freshName_not_mem t aliasBase) (hstars s hs)
  obtain ⟨huse, hform, hforms⟩ := aliasUse_encloseTree havoids h
  obtain ⟨⟨f, a', cs⟩, record⟩ := done
  obtain rfl : f = .file := hform
  obtain ⟨⟨f, b', stmts⟩, rfl, hseq⟩ := List.map_eq_singleton_iff.1 hforms
  obtain rfl : f = .sequence := hseq
  have hstmts : ∀ s ∈ stmts, s.AliasUse (freshName t aliasBase) := fun s hs =>
    (huse.of_mem_children (by simp) List.mem_cons_self).of_mem_children (by simp) hs
  refine importsOnce_of_aliasUse hsparse hne hstar fun s hs => hstmts s ?_
  rwa [List.take_append_drop] at hs

/-- A file that uses the name with which the alias would begin, for a method in a class whose name turns
private names into others. -/
theorem importsOnce_encloseFile_method :
    let missing : SyntaxTree Span := .node .absent {} []
    let none_ : SyntaxTree Span := .node .sequence {} []
    let on (n : Int) : Span := ⟨some n, some n⟩
    let args : SyntaxTree Span := .node .arguments {}
      [none_, .node .sequence {} [.node (.arg "_wherr") (on 3) [missing]], missing, none_, none_, missing,
        none_]
    let site : SyntaxTree Span := .node .call (on 4)
      [.node (.attribute "propagate" .load) (on 4) [.node (.name "_wherr" .load) (on 4) []], none_, none_]
    let load : SyntaxTree Span := .node (.functionDef false "load") (on 3)
      [args, .node .sequence {} [.node .returnStmt (on 4) [site]],
        .node .sequence {} [.node (.name "wherr" .load) (on 2) []], missing]
    let t : SyntaxTree Span := .node .file {} [.node .sequence {}
      [.node (.classDef "_wherr__") (on 1) [none_, none_, .node .sequence {} [load], none_]]]
    t.IsFile ∧ (∀ s ∈ t.subtrees, s.form.isStarImport = false) ∧
      freshName t aliasBase = "_wherr_1" ∧
      ∃ done, encloseFile "prog.py" (freshName t aliasBase) t = .ok done ∧
        done.2.sites.map (·.2) = [⟨"prog.py", 4⟩] ∧
        ImportsOnce (freshName t aliasBase) (insertImport (freshName t aliasBase) done.1) := by
  intro missing none_ on args site load t
  have hfile : t.IsFile := ⟨_, _, _, rfl⟩
  have hstars : ∀ s ∈ t.subtrees, s.form.isStarImport = false := by decide
  have hname : freshName t aliasBase = "_wherr_1" := by cbv
  have hload : encloseTree "prog.py" "_wherr_1" ["_wherr__"] load =
      .ok (encloseFunction "prog.py" "_wherr_1" ["_wherr__"] "load" load) := rfl
  have hsites : (encloseFile "prog.py" "_wherr_1" t).map (fun done => done.2.sites.map (·.2)) =
      .ok [⟨"prog.py", 4⟩] := by
    simp only [encloseFile, t, none_, encloseTree, encloseItems, isAnnotated, decoratorsOf,
      List.nil_append, hload]
    rfl
  rcases h : encloseFile "prog.py" "_wherr_1" t with e | done
  · rw [h] at hsites
    cases hsites
  · rw [h] at hsites
    rw [← hname] at h
    exact ⟨hfile, hstars, hname, done, h, Except.ok.inj hsites,
      importsOnce_encloseFile hfile hstars h⟩

end Syntax

end ErrorTrail
