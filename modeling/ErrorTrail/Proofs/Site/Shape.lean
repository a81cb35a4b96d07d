import ErrorTrail.Proofs.Site.Gathering
import ErrorTrail.Proofs.Syntax.Capture
import ErrorTrail.Proofs.Text.Splitting

/-!
# Trees of the right shape

A node may have any children, but a program's node has those that its form lists. `Shaped` says that a
tree has the shape of an expression, a statement or one of their parts. In such a tree `gather` comes to
every expression, and so to every propagation expression: where one is instrumented, the hook occurs in
what the tree gathers (`Shaped.hookHeld_visit`, by induction over shapes). The constructs that gather some
parts for a block of their own have a lemma each, which says that the hook occurs where it does in a part
(`HookHeld.functionDef` and those after it).
-/

namespace ErrorTrail

open Syntax SyntaxTree

namespace Syntax

variable {α : Type}

/-! ## Parts of what is gathered -/

namespace Gathered

/-- A part is in another one. -/
structure Within (g k : Gathered) : Prop where
  mentions : g.mentions ⊆ k.mentions
  inner : g.inner ⊆ k.inner

/-- A name occurs in a part, or in a block inside. -/
def Holds (n : String) (g : Gathered) : Prop :=
  (∃ m ∈ g.mentions, m.name = n) ∨ ∃ s ∈ g.inner, s.Occurs n

variable {n : String} {g k l : Gathered}

theorem Within.refl (g : Gathered) : g.Within g := ⟨List.Subset.refl _, List.Subset.refl _⟩

theorem Within.left (h : g.Within k) (l : Gathered) : g.Within (k ++ l) :=
  ⟨List.subset_append_of_subset_left _ h.mentions, List.subset_append_of_subset_left _ h.inner⟩

theorem Within.right (h : g.Within k) (l : Gathered) : g.Within (l ++ k) :=
  ⟨List.subset_append_of_subset_right _ h.mentions, List.subset_append_of_subset_right _ h.inner⟩

theorem Holds.mono (h : g.Holds n) (hgk : g.Within k) : k.Holds n :=
  h.imp (fun ⟨m, hm, hname⟩ => ⟨m, hgk.mentions hm, hname⟩) fun ⟨s, hs, ho⟩ => ⟨s, hgk.inner hs, ho⟩

@[simp] theorem holds_append : (g ++ k).Holds n ↔ g.Holds n ∨ k.Holds n := by
  simp only [Holds, append_mentions, append_inner, List.mem_append, or_and_right, exists_or]
  exact or_or_or_comm

theorem Holds.left (h : g.Holds n) (k : Gathered) : (g ++ k).Holds n := holds_append.2 (.inl h)

theorem Holds.right (h : g.Holds n) (k : Gathered) : (k ++ g).Holds n := holds_append.2 (.inr h)

/-- A name occurs in the block that a part makes up. -/
theorem Holds.occurs (h : g.Holds n) (b : Block) : (g.scope b).Occurs n :=
  h.elim (fun hm => .here (Scope.mem_names.2 hm)) fun ⟨_, hs, ho⟩ => .inside hs ho

end Gathered

open Gathered

theorem inner_enclose (p : Site) (b : Block) (g : Gathered) : (p.enclose b g).inner = [g.scope b] := by
  unfold Site.enclose
  split
  · rfl
  · split <;> rfl

@[simp] theorem holds_enclose {n : String} {g : Gathered} (h : g.Holds n) (p : Site) (b : Block) :
    (p.enclose b g).Holds n :=
  .inr ⟨g.scope b, inner_enclose p b g ▸ List.mem_singleton_self _, h.occurs b⟩

@[simp] theorem holds_hint {n : String} {F : Site → Gathered} (h : ∀ p, (F p).Holds n) (p : Site) :
    (p.hint F).Holds n := by
  unfold Site.hint
  split
  · exact h p
  · exact holds_enclose (h _) p _

/-! ## Nodes that gather their children as they are -/

/-- Whether some parts of a node are gathered for a block of their own, or in another order. -/
def Form.isCompound : Form → Bool
  | .functionDef _ _ | .classDef _ | .lambda | .annAssign _ => true
  | .listComp | .setComp | .generatorExp | .dictComp => true
  | _ => false

/-- Whether nodes of a form have no children. -/
def Form.isLeaf : Form → Bool
  | .name _ _ | .alias _ _ | .globalStmt _ | .nonlocalStmt _ | .matchStar _ => true
  | _ => false

theorem gatherList_within {p : Site} {c : SyntaxTree α} {cs : List (SyntaxTree α)} (hc : c ∈ cs) :
    (gather p c).Within (gatherList p cs) := by
  induction cs with
  | nil => cases hc
  | cons d cs ih =>
    rw [gatherList]
    obtain rfl | hc := List.mem_cons.1 hc
    · exact (Within.refl _).left _
    · exact (ih hc).right _

/-- What a child gathers is in what its node gathers. -/
theorem gather_within {p : Site} {f : Form} {a : α} {c : SyntaxTree α} {cs : List (SyntaxTree α)}
    (hcompound : f.isCompound = false) (hleaf : f.isLeaf = false) (hc : c ∈ cs) :
    (gather p c).Within (gather p (node f a cs)) := by
  have hlist : (gather p c).Within (gatherList p cs) := gatherList_within hc
  cases f with
  | functionDef | classDef | lambda | annAssign | listComp | setComp | generatorExp | dictComp =>
    cases hcompound
  | name | «alias» | globalStmt | nonlocalStmt | matchStar => cases hleaf
  | namedExpr =>
    obtain _ | ⟨target, _ | ⟨value, _ | ⟨_, _⟩⟩⟩ := cs
    · exact hlist
    · exact hlist
    · simp only [gather]
      obtain rfl | hc := List.mem_cons.1 hc
      · exact (Within.refl _).right _
      · obtain rfl := List.mem_singleton.1 hc
        exact ((Within.refl _).right _).left _
    · exact hlist
  | tryStmt star =>
    obtain _ | ⟨body, _ | ⟨handlers, _ | ⟨orelse, _ | ⟨final, _ | ⟨_, _⟩⟩⟩⟩⟩ := cs
    · exact hlist
    · exact hlist
    · exact hlist
    · exact hlist
    · simp only [gather]
      simp only [List.mem_cons, List.not_mem_nil, or_false] at hc
      obtain rfl | rfl | rfl | rfl := hc
      · exact (((Within.refl _).left _).left _).left _
      · exact ((Within.refl _).right _).left _
      · exact (((Within.refl _).right _).left _).left _
      · exact (Within.refl _).right _
    · exact hlist
  | exceptHandler id? =>
    obtain _ | ⟨type, _ | ⟨body, _ | ⟨_, _⟩⟩⟩ := cs
    · exact hlist
    · exact hlist
    · simp only [gather]
      obtain rfl | hc := List.mem_cons.1 hc
      · exact ((Within.refl _).left _).left _
      · obtain rfl := List.mem_singleton.1 hc
        exact (Within.refl _).right _
    · exact hlist
  | matchMapping | matchAs => exact hlist.left _
  | yield | yieldFrom | await => exact hlist.right _
  | _ => exact hlist

/-! ## Shapes -/

/-- What a tree may be a part as. -/
inductive Part where
  /-- an expression, a statement, a sequence of them -/
  | whole
  /-- parameters, which may be annotated or not -/
  | parameters (annotated : Bool)
  | parameter (annotated : Bool)
  /-- a clause of a comprehension -/
  | clause
  deriving DecidableEq, Repr, Inhabited

/-- A tree has the children that its forms list. -/
inductive Shaped : Part → SyntaxTree α → Prop
  | leaf {f : Form} {a : α} (hf : f.isLeaf) : Shaped .whole (node f a [])
  | plain {f : Form} {a : α} {cs : List (SyntaxTree α)} (hcompound : f.isCompound = false)
      (hleaf : f.isLeaf = false) (hcs : ∀ c ∈ cs, Shaped .whole c) : Shaped .whole (node f a cs)
  | functionDef {asynchronous : Bool} {name : String} {a s s' : α} {args returns : SyntaxTree α}
      {body decorators : List (SyntaxTree α)} (hargs : Shaped (.parameters true) args)
      (hbody : Shaped .whole (node .sequence s body))
      (hdecorators : Shaped .whole (node .sequence s' decorators)) (hreturns : Shaped .whole returns) :
      Shaped .whole (node (.functionDef asynchronous name) a
        [args, node .sequence s body, node .sequence s' decorators, returns])
  | lambda {a : α} {args body : SyntaxTree α} (hargs : Shaped (.parameters false) args)
      (hbody : Shaped .whole body) : Shaped .whole (node .lambda a [args, body])
  | classDef {name : String} {a : α} {bases keywords body decorators : SyntaxTree α}
      (hbases : Shaped .whole bases) (hkeywords : Shaped .whole keywords) (hbody : Shaped .whole body)
      (hdecorators : Shaped .whole decorators) :
      Shaped .whole (node (.classDef name) a [bases, keywords, body, decorators])
  | annAssign {simple : Int} {a : α} {target hint value : SyntaxTree α} (htarget : Shaped .whole target)
      (hhint : Shaped .whole hint) (hvalue : Shaped .whole value) :
      Shaped .whole (node (.annAssign simple) a [target, hint, value])
  | comprehension {f : Form} {a s : α} {element clause : SyntaxTree α} {clauses : List (SyntaxTree α)}
      (hf : f ∈ [.listComp, .setComp, .generatorExp]) (helement : Shaped .whole element)
      (hclauses : ∀ c ∈ clause :: clauses, Shaped .clause c) :
      Shaped .whole (node f a [element, node .sequence s (clause :: clauses)])
  | dictComp {a s : α} {key value clause : SyntaxTree α} {clauses : List (SyntaxTree α)}
      (hkey : Shaped .whole key) (hvalue : Shaped .whole value)
      (hclauses : ∀ c ∈ clause :: clauses, Shaped .clause c) :
      Shaped .whole (node .dictComp a [key, value, node .sequence s (clause :: clauses)])
  | parameters {annotated : Bool} {a s₁ s₂ s₃ s₄ s₅ : α} {vararg kwarg : SyntaxTree α}
      {positionalOnly positional keywordOnly keywordDefaults defaults : List (SyntaxTree α)}
      (hpositionalOnly : ∀ t ∈ positionalOnly, Shaped (.parameter annotated) t)
      (hpositional : ∀ t ∈ positional, Shaped (.parameter annotated) t)
      (hvararg : Shaped (.parameter annotated) vararg)
      (hkeywordOnly : ∀ t ∈ keywordOnly, Shaped (.parameter annotated) t)
      (hkeywordDefaults : Shaped .whole (node .sequence s₄ keywordDefaults))
      (hkwarg : Shaped (.parameter annotated) kwarg)
      (hdefaults : Shaped .whole (node .sequence s₅ defaults)) :
      Shaped (.parameters annotated) (node .arguments a
        [node .sequence s₁ positionalOnly, node .sequence s₂ positional, vararg,
          node .sequence s₃ keywordOnly, node .sequence s₄ keywordDefaults, kwarg,
          node .sequence s₅ defaults])
  | annotated {name : String} {a : α} {hint : SyntaxTree α} (hhint : Shaped .whole hint) :
      Shaped (.parameter true) (node (.arg name) a [hint])
  | plainParameter {name : String} {a b : α} {annotated : Bool} :
      Shaped (.parameter annotated) (node (.arg name) a [node .absent b []])
  | missing {a : α} {annotated : Bool} : Shaped (.parameter annotated) (node .absent a [])
  | clause {asynchronous : Int} {a : α} {target iterable conditions : SyntaxTree α}
      (htarget : Shaped .whole target) (hiterable : Shaped .whole iterable)
      (hconditions : Shaped .whole conditions) :
      Shaped .clause (node (.comprehension asynchronous) a [target, iterable, conditions])

/-- A function definition of the right shape. -/
theorem Shaped.function {d : SyntaxTree α} {asynchronous : Bool} {name : String} (h : Shaped .whole d)
    (hform : d.form = .functionDef asynchronous name) : ∃ a s s' args returns body decorators,
    d = node (.functionDef asynchronous name) a
      [args, node .sequence s body, node .sequence s' decorators, returns] ∧
    Shaped (.parameters true) args ∧ Shaped .whole (node .sequence s body) := by
  cases h with
  | functionDef hargs hbody _ _ =>
    cases hform
    exact ⟨_, _, _, _, _, _, _, rfl, hargs, hbody⟩
  | leaf hf =>
    obtain rfl : _ = Form.functionDef asynchronous name := hform
    cases hf
  | plain hcompound _ _ =>
    obtain rfl : _ = Form.functionDef asynchronous name := hform
    cases hcompound
  | comprehension hf _ _ =>
    obtain rfl : _ = Form.functionDef asynchronous name := hform
    simp at hf
  | lambda | classDef | annAssign | dictComp => cases hform

/-! ## Propagation expressions are gathered -/

section Instrumented

variable {m : Marking}

/-- The hook occurs in what an instrumented tree gathers, wherever it is a part. -/
def HookHeld (m : Marking) : Part → SyntaxTree Span → Prop
  | .whole, t => ∀ p, (gather p t).Holds m.hook
  | .parameters true, t => ∀ p, (gatherDefaults p t ++ gatherAnnotations p t).Holds m.hook
  | .parameters false, t => ∀ p, (gatherDefaults p t).Holds m.hook
  | .parameter true, t => ∀ p, (gatherParameterAnnotations p t).Holds m.hook
  | .parameter false, _ => False
  | .clause, t => ((∀ p, (gatherFirst p t).Holds m.hook) ∨ ∀ p, (gatherClauses p t).Holds m.hook) ∧
      ∀ p, (gatherLaterClauses p [t]).Holds m.hook

/-- A path without dots is read as a name. -/
theorem hookExpr_eq {α : Type} (a : α) {path : String} (h : '.' ∉ path.toList) :
    hookExpr a path = .node (.name path .load) a [] := by
  have hsplit : path.splitOn "." = [path] := Text.splitOn_eq_singleton h
  rw [hookExpr, hsplit]
  rfl

theorem holds_hookExpr (hsparse : Sparse m.hook) (hdot : '.' ∉ m.hook.toList) (a : α) (p : Site) :
    (gather p (hookExpr a m.hook)).Holds m.hook := by
  rw [hookExpr_eq a hdot]
  exact .inl ⟨_, List.mem_append_left _ (List.mem_singleton_self _), hsparse.privateName_eq⟩

/-- A node that is no call has propagation expressions only if one of its children has. -/
theorem exists_sites {f : Form} {a : Span} {cs : List (SyntaxTree Span)} (hf : f ≠ .call)
    (h : ((node f a cs).visit m).2 ≠ []) : ∃ c ∈ cs, (c.visit m).2 ≠ [] := by
  rw [visit_of_ne_call hf, Ne, List.flatMap_eq_nil_iff] at h
  simpa using h

/-- What follows from a propagation expression in each of its children holds of a node that has one and
is no call. -/
theorem of_sites {f : Form} {a : Span} {cs : List (SyntaxTree Span)} {q : Prop} (hf : f ≠ .call)
    (h : ((node f a cs).visit m).2 ≠ []) (hq : ∀ c ∈ cs, (c.visit m).2 ≠ [] → q) : q :=
  let ⟨c, hc, hsites⟩ := exists_sites hf h
  hq c hc hsites

/-- The parameters of one kind. -/
theorem hookHeld_sequence {annotated : Bool} {a : Span} {ts : List (SyntaxTree Span)}
    (ih : ∀ t ∈ ts, (t.visit m).2 ≠ [] → HookHeld m (.parameter annotated) (t.visit m).1)
    (h : ((node .sequence a ts).visit m).2 ≠ []) :
    HookHeld m (.parameter annotated) ((node .sequence a ts).visit m).1 := by
  obtain ⟨t, ht, hsites⟩ := exists_sites (by simp) h
  have hlist : ∀ p (us : List (SyntaxTree Span)), ∀ u ∈ us,
      (gatherParameterAnnotations p u).Holds m.hook →
        (gatherParameterAnnotationsList p us).Holds m.hook := by
    intro p us u hu hholds
    induction us with
    | nil => cases hu
    | cons v us ih =>
      obtain rfl | hu := List.mem_cons.1 hu
      · exact hholds.left _
      · exact (ih hu).right _
  have hheld := ih t ht hsites
  rw [visit_of_ne_call (by simp)]
  cases annotated with
  | false => exact hheld
  | true => exact fun p => hlist p _ _ (List.mem_map_of_mem ht) (hheld p)

/-- The clauses of a comprehension. -/
theorem hookHeld_clauses {a : Span} {clause : SyntaxTree Span} {clauses : List (SyntaxTree Span)}
    (ih : ∀ c ∈ clause :: clauses, (c.visit m).2 ≠ [] → HookHeld m .clause (c.visit m).1)
    (h : ((node .sequence a (clause :: clauses)).visit m).2 ≠ []) :
    let t := ((node .sequence a (clause :: clauses)).visit m).1
    (∀ p, (gatherFirst p t).Holds m.hook) ∨ ∀ p, (gatherClauses p t).Holds m.hook := by
  obtain ⟨c, hc, hsites⟩ := exists_sites (by simp) h
  have hlist : ∀ p (us : List (SyntaxTree Span)), ∀ u ∈ us, (gatherLaterClauses p [u]).Holds m.hook →
      (gatherLaterClauses p us).Holds m.hook := by
    intro p us u hu hholds
    induction us with
    | nil => cases hu
    | cons v us ih =>
      rw [gatherLaterClauses_cons]
      obtain rfl | hu := List.mem_cons.1 hu
      · exact hholds.left _
      · exact (ih hu).right _
  rw [visit_of_ne_call (by simp)]
  obtain ⟨hfirst, hlater⟩ := ih c hc hsites
  obtain rfl | hc := List.mem_cons.1 hc
  · exact hfirst.imp_right fun h p => (h p).left _
  · exact .inr fun p => (hlist p _ _ (List.mem_map_of_mem hc) (hlater p)).right _

/-- An annotated assignment gathers its target, unless that is a name, its annotation and its value. -/
theorem gather_annAssign (p : Site) (simple : Int) (a : α) (target hint value : SyntaxTree α) :
    ∃ g, gather p (node (.annAssign simple) a [target, hint, value]) =
        g ++ p.hint (gather · hint) ++ gather p value ∧
      ((∀ id ctx, target.form ≠ .name id ctx) → g = gather p target) := by
  obtain ⟨f, b, cs⟩ := target
  cases f with
  | name id ctx => exact ⟨_, rfl, fun h => absurd rfl (h id ctx)⟩
  | _ => exact ⟨_, by simp only [gather], fun _ => rfl⟩

/-- A name of the right shape has no parts. -/
theorem Shaped.sites_name {t : SyntaxTree Span} {id : String} {ctx : Context} (h : Shaped .whole t)
    (hform : t.form = .name id ctx) : (t.visit m).2 = [] := by
  cases h with
  | leaf hf =>
    rw [visit_of_ne_call (by rintro rfl; cases hf)]
    rfl
  | plain _ hleaf _ =>
    obtain rfl : _ = Form.name id ctx := hform
    cases hleaf
  | comprehension hf _ _ =>
    obtain rfl : _ = Form.name id ctx := hform
    simp at hf
  | functionDef | lambda | classDef | annAssign | dictComp => cases hform

/-! ### Constructs hold the hook where one of their parts does -/

namespace HookHeld

variable {a : Span} {args body decorators returns bases keywords element key value clauses target
  hint iterable conditions : SyntaxTree Span}

theorem functionDef {asynchronous : Bool} {name : String}
    (h : HookHeld m (.parameters true) args ∨ HookHeld m .whole body ∨
      HookHeld m .whole decorators ∨ HookHeld m .whole returns) :
    HookHeld m .whole
      (node (.functionDef asynchronous name) a [args, body, decorators, returns]) := by
  intro p
  simp only [HookHeld, holds_append] at h
  simp only [gather, holds_append]
  obtain h | h | h | h := h
  · rcases h p with h | h <;> simp [h]
  all_goals simp [h]

theorem lambda (h : HookHeld m (.parameters false) args ∨ HookHeld m .whole body) :
    HookHeld m .whole (node .lambda a [args, body]) := by
  intro p
  simp only [HookHeld] at h
  obtain h | h := h <;> simp [gather, h]

theorem classDef {name : String}
    (h : HookHeld m .whole bases ∨ HookHeld m .whole keywords ∨ HookHeld m .whole body ∨
      HookHeld m .whole decorators) :
    HookHeld m .whole (node (.classDef name) a [bases, keywords, body, decorators]) := by
  intro p
  simp only [HookHeld] at h
  obtain h | h | h | h := h <;> simp [gather, h]

/-- The target of an annotated assignment is only a part if it is no name. -/
theorem annAssign {simple : Int}
    (h : ((∀ id ctx, target.form ≠ .name id ctx) ∧ HookHeld m .whole target) ∨
      HookHeld m .whole hint ∨ HookHeld m .whole value) :
    HookHeld m .whole (node (.annAssign simple) a [target, hint, value]) := by
  intro p
  obtain ⟨g, hgather, htarget⟩ := gather_annAssign p simple a target hint value
  simp only [HookHeld] at h
  rw [hgather]
  obtain ⟨hname, h⟩ | h | h := h
  · simp [htarget hname, h]
  · simp [h]
  · simp [h]

theorem comprehension {f : Form} (hf : f ∈ [.listComp, .setComp, .generatorExp])
    (h : HookHeld m .whole element ∨ (∀ p, (gatherFirst p clauses).Holds m.hook) ∨
      ∀ p, (gatherClauses p clauses).Holds m.hook) :
    HookHeld m .whole (node f a [element, clauses]) := by
  intro p
  simp only [HookHeld] at h
  simp only [List.mem_cons, List.not_mem_nil, or_false] at hf
  obtain rfl | rfl | rfl := hf <;> obtain h | h | h := h <;> simp [gather, h]

theorem dictComp
    (h : HookHeld m .whole key ∨ HookHeld m .whole value ∨
      (∀ p, (gatherFirst p clauses).Holds m.hook) ∨ ∀ p, (gatherClauses p clauses).Holds m.hook) :
    HookHeld m .whole (node .dictComp a [key, value, clauses]) := by
  intro p
  simp only [HookHeld] at h
  obtain h | h | h | h := h <;> simp [gather, h]

/-- Parameters hold the hook in their defaults, and in their annotations if they may have some. -/
theorem parameters {annotated : Bool}
    {positionalOnly positional vararg keywordOnly keywordDefaults kwarg defaults : SyntaxTree Span}
    (h : (∃ t ∈ [positionalOnly, positional, vararg, keywordOnly, kwarg],
        HookHeld m (.parameter annotated) t) ∨
      HookHeld m .whole keywordDefaults ∨ HookHeld m .whole defaults) :
    HookHeld m (.parameters annotated) (node .arguments a
      [positionalOnly, positional, vararg, keywordOnly, keywordDefaults, kwarg, defaults]) := by
  cases annotated with
  | false =>
    intro p
    obtain ⟨_, _, ⟨⟩⟩ | h | h := h <;> simp only [HookHeld] at h <;> simp [gatherDefaults, h]
  | true =>
    intro p
    simp only [gatherDefaults, gatherAnnotations]
    simp only [HookHeld, List.mem_cons, List.not_mem_nil, or_false, exists_eq_or_imp,
      exists_eq_left] at h
    obtain (h | h | h | h | h) | h | h := h <;> simp [h]

theorem clause {asynchronous : Int}
    (h : HookHeld m .whole target ∨ HookHeld m .whole iterable ∨ HookHeld m .whole conditions) :
    HookHeld m .clause
      (node (.comprehension asynchronous) a [target, iterable, conditions]) := by
  simp only [HookHeld] at h
  obtain h | h | h := h <;>
    simp [HookHeld, gatherFirst, gatherClauses, gatherLaterClauses, h]

end HookHeld

/-- In a tree of the right shape the hook occurs in what is gathered if there is a propagation
expression. -/
theorem Shaped.hookHeld_visit (hsparse : Sparse m.hook) (hdot : '.' ∉ m.hook.toList) {k : Part}
    {t : SyntaxTree Span} (h : Shaped k t) (hsites : (t.visit m).2 ≠ []) :
    HookHeld m k (t.visit m).1 := by
  induction h with
  | @leaf f a hf =>
    have hcall : f ≠ .call := by rintro rfl; cases hf
    obtain ⟨c, hc, -⟩ := exists_sites hcall hsites
    cases hc
  | @plain f a cs hcompound hleaf hcs ih =>
    rcases hprop : (node f a cs).propagation? with _ | ⟨word, r⟩
    · rw [visit_other hprop, Ne, List.flatMap_eq_nil_iff] at hsites
      obtain ⟨c, hc, hsites⟩ : ∃ c ∈ cs, (c.visit m).2 ≠ [] := by simpa using hsites
      rw [visit_other hprop]
      exact fun p => (ih c hc hsites p).mono (gather_within hcompound hleaf (List.mem_map_of_mem hc))
    · obtain ⟨call, ctx, args, named, ht⟩ := eq_site_of_propagation? hprop
      rw [ht, visit_site]
      intro p
      rw [gather_inject]
      exact (holds_hookExpr hsparse hdot _ p).left _
  | functionDef _ _ _ _ ihargs ihbody ihdecorators ihreturns =>
    rw [visit_of_ne_call (by simp)]
    refine .functionDef (of_sites (by simp) hsites ?_)
    simp only [List.forall_mem_cons]
    exact ⟨fun h => .inl (ihargs h), fun h => .inr (.inl (ihbody h)),
      fun h => .inr (.inr (.inl (ihdecorators h))), fun h => .inr (.inr (.inr (ihreturns h))), nofun⟩
  | lambda _ _ ihargs ihbody =>
    rw [visit_of_ne_call (by simp)]
    refine .lambda (of_sites (by simp) hsites ?_)
    simp only [List.forall_mem_cons]
    exact ⟨fun h => .inl (ihargs h), fun h => .inr (ihbody h), nofun⟩
  | classDef _ _ _ _ ihbases ihkeywords ihbody ihdecorators =>
    rw [visit_of_ne_call (by simp)]
    refine .classDef (of_sites (by simp) hsites ?_)
    simp only [List.forall_mem_cons]
    exact ⟨fun h => .inl (ihbases h), fun h => .inr (.inl (ihkeywords h)),
      fun h => .inr (.inr (.inl (ihbody h))), fun h => .inr (.inr (.inr (ihdecorators h))), nofun⟩
  | annAssign htarget _ _ ihtarget ihhint ihvalue =>
    rw [visit_of_ne_call (by simp)]
    refine .annAssign (of_sites (by simp) hsites ?_)
    simp only [List.forall_mem_cons]
    refine ⟨fun h => .inl ⟨fun id ctx hform => ?_, ihtarget h⟩, fun h => .inr (.inl (ihhint h)),
      fun h => .inr (.inr (ihvalue h)), nofun⟩
    -- a target with a propagation expression is no name
    exact h (htarget.sites_name ((form_visit _).symm.trans hform))
  | @comprehension f a s element clause clauses hf _ _ ihelement ihclauses =>
    have hcall : f ≠ .call := by
      rintro rfl
      simp at hf
    rw [visit_of_ne_call hcall]
    refine .comprehension hf (of_sites hcall hsites ?_)
    simp only [List.forall_mem_cons]
    exact ⟨fun h => .inl (ihelement h), fun h => .inr (hookHeld_clauses ihclauses h), nofun⟩
  | dictComp _ _ _ ihkey ihvalue ihclauses =>
    rw [visit_of_ne_call (by simp)]
    refine .dictComp (of_sites (by simp) hsites ?_)
    simp only [List.forall_mem_cons]
    exact ⟨fun h => .inl (ihkey h), fun h => .inr (.inl (ihvalue h)),
      fun h => .inr (.inr (hookHeld_clauses ihclauses h)), nofun⟩
  | parameters _ _ _ _ _ _ _ ihpositionalOnly ihpositional ihvararg ihkeywordOnly ihkeywordDefaults
      ihkwarg ihdefaults =>
    rw [visit_of_ne_call (by simp)]
    refine .parameters (of_sites (by simp) hsites ?_)
    simp only [List.forall_mem_cons]
    exact ⟨fun h => .inl ⟨_, by simp, hookHeld_sequence ihpositionalOnly h⟩,
      fun h => .inl ⟨_, by simp, hookHeld_sequence ihpositional h⟩,
      fun h => .inl ⟨_, by simp, ihvararg h⟩,
      fun h => .inl ⟨_, by simp, hookHeld_sequence ihkeywordOnly h⟩,
      fun h => .inr (.inl (ihkeywordDefaults h)),
      fun h => .inl ⟨_, by simp, ihkwarg h⟩, fun h => .inr (.inr (ihdefaults h)), nofun⟩
  | plainParameter =>
    obtain ⟨c, hc, hsome⟩ := exists_sites (by simp) hsites
    obtain rfl := List.mem_singleton.1 hc
    obtain ⟨c, hc, -⟩ := exists_sites (by simp) hsome
    cases hc
  | annotated _ ihhint =>
    obtain ⟨c, hc, hsome⟩ := exists_sites (by simp) hsites
    obtain rfl := List.mem_singleton.1 hc
    rw [visit_of_ne_call (by simp)]
    exact fun p => (ihhint hsome p).left _
  | missing =>
    obtain ⟨c, hc, -⟩ := exists_sites (by simp) hsites
    cases hc
  | clause _ _ _ ihtarget ihiterable ihconditions =>
    rw [visit_of_ne_call (by simp)]
    refine .clause (of_sites (by simp) hsites ?_)
    simp only [List.forall_mem_cons]
    exact ⟨fun h => .inl (ihtarget h), fun h => .inr (.inl (ihiterable h)),
      fun h => .inr (.inr (ihconditions h)), nofun⟩

end Instrumented

end Syntax

end ErrorTrail
