import ErrorTrail.Proofs.Site.Factory

/-!
# Stripped and instrumented definitions

A definition is stripped before it is instrumented: what was evaluated when it was defined is left
out. What it gathers then is its name and the block of its function (`Stripped.gather_eq`), and that
block is the one it had (`stripped_stripDefinition`). Instrumenting puts reads of the hook into the
block and nothing else, also in another class if that spells the names of the definition alike
(`functionScope_visit`); the hook occurs there exactly if there is a propagation expression
(`occurs_functionScope_visit`).
-/

namespace ErrorTrail

open Syntax SyntaxTree

namespace Syntax

variable {α β : Type}

/-! ## What a tree gathers in other places -/

/-- Nothing is assigned for the block around a function, a class or a file. -/
theorem gathering_lifted :
    Gathering α Eq (fun _ _ => True) (fun _ => False)
      (fun b g _ => b ≠ .comprehension → b ≠ .annotations → g.lifted = []) where
  inClass _ := rfl
  unnamed _ := trivial
  nothing _ _ _ := rfl
  append hg hk hc ha := by rw [Gathered.append_lifted, hg hc ha, hk hc ha]; rfl
  require _ _ _ _ := rfl
  mention _ _ _ _ := rfl
  lifted _ _ hc := absurd rfl hc
  enclose {p q b g g'} _ _ _ hc ha := by
    unfold Site.enclose
    split
    · rfl
    · split
      · rfl
      · rfl
      · rfl
      · exact absurd ‹p.block = .annotations› ha
      · exact absurd ‹p.block = .comprehension› hc
  hooked h := h.elim

/-- A tree without annotations gathers what the tree gathers. -/
theorem gathering_eq : Gathering β Eq (fun _ _ => True) (fun _ => False) (fun _ => Eq) where
  inClass _ := rfl
  unnamed _ := trivial
  nothing _ := rfl
  append hg hk := by rw [hg, hk]
  require _ _ := rfl
  mention hpq _ := by rw [hpq.eq, ← hpq.owner]
  lifted h _ := by rw [h]
  enclose hpq _ h := by rw [hpq.eq, ← hpq.owner, h]
  hooked h := h.elim

namespace Gathered

/-- A part in which a name is not mentioned any more. -/
def without (n : String) (g : Gathered) : Gathered :=
  { g with mentions := g.mentions.filter (·.name ≠ n), inner := g.inner.map (Scope.without n) }

theorem without_append (n : String) (g k : Gathered) :
    (g ++ k).without n = g.without n ++ k.without n := by
  show Gathered.mk _ _ _ _ = Gathered.mk _ _ _ _
  simp [without]

theorem scope_without (n : String) (g : Gathered) (b : Block) :
    (g.scope b).without n = (g.without n).scope b := by
  unfold Gathered.scope
  rw [Scope.without, Scope.withoutList_eq]
  rfl

end Gathered

/-- Names that stand for others in a class do so for a block as well. -/
theorem mapped_without {n : String} {d : Deed} {iterating : Bool} {ns : List String} (h : n ∉ ns) :
    (ns.map fun x => (⟨d, x, iterating⟩ : Mention)).filter (·.name ≠ n) =
      ns.map fun x => ⟨d, x, iterating⟩ := by
  rw [List.filter_eq_self]
  intro m hm
  obtain ⟨x, hx, rfl⟩ := List.mem_map.1 hm
  simpa using fun heq : x = n => h (heq ▸ hx)

/-- A block stands in the place of another part with reads of a name in it. -/
theorem enclose_without {n : String} {p : Site} {b : Block} {g : Gathered} (h : n ∉ g.lifted) :
    (p.enclose b g).without n = p.enclose b (g.without n) ∧ n ∉ (p.enclose b g).lifted := by
  have hlifted : (g.without n).lifted = g.lifted := rfl
  unfold Site.enclose
  rw [hlifted, ← Gathered.scope_without]
  split
  · exact ⟨rfl, by simp⟩
  · split
    · refine ⟨?_, by simp⟩
      rw [Gathered.without_append]
      simp only [Gathered.without, mapped_without h, List.map_cons, List.map_nil, List.filter_nil]
    · exact ⟨rfl, by simp⟩
    · exact ⟨rfl, by simp [Site.require]⟩
    · exact ⟨rfl, by simpa using h⟩
    · refine ⟨?_, by simpa using h⟩
      rw [Gathered.without_append]
      simp only [Gathered.without, mapped_without h, List.map_cons, List.map_nil, List.filter_nil]

theorem privateName_empty (owner : Option String) : privateName owner "" = "" :=
  (privateName_cases owner "").resolve_right (by simp)

theorem privateName_classVariable (owner : Option String) :
    privateName owner classVariable = classVariable := by
  cases owner with
  | none => rfl
  | some o =>
    have hend : classVariable.endsWith "__" = true := by decide +kernel
    simp [privateName, hend]

/-- Reads of a name are put into a part, which else stays as it is in a class that spells names
alike. -/
theorem gathering_without {m : Marking} {o o' : Option String} (hsparse : Sparse m.hook)
    (hdot : '.' ∉ m.hook.toList) (hne : m.hook ≠ "") (hsuper : m.hook ≠ superWord) :
    Gathering β (fun p q => p = q ∨ p = o ∧ q = o')
      (fun _ x => x ≠ m.hook ∧ privateName o x = privateName o' x) (· = m)
      (fun _ g g' => g'.without m.hook = g ∧ m.hook ∉ g'.lifted) := by
  have hspell : ∀ {p q : Option String} {x}, (p = q ∨ p = o ∧ q = o') →
      privateName o x = privateName o' x → privateName q x = privateName p x := by
    rintro p q x (rfl | ⟨rfl, rfl⟩) hx
    · rfl
    · exact hx.symm
  have hother : ∀ (p : Option String) {x}, x ≠ m.hook → privateName p x ≠ m.hook := fun p x hx heq =>
    hx (hsparse.privateName_eq_iff.1 heq)
  refine {
    inClass := fun _ => .inl rfl
    unnamed := fun _ => ⟨hne.symm, ?_⟩
    nothing := fun _ => ⟨rfl, by simp⟩
    append := fun hg hk => ⟨by rw [Gathered.without_append, hg.1, hk.1], ?_⟩
    require := fun _ _ => ⟨rfl, by simp [Site.require]⟩
    mention := fun {p q d x} hpq hx => ⟨?_, by simp [Site.mention]⟩
    lifted := fun {p q x} hpq hx => ⟨?_, ?_⟩
    enclose := fun {p q b g g'} hpq _ h => ?_
    hooked := fun {p q g g' a m'} hm hpq h => ?_ }
  · rw [privateName_empty, privateName_empty]
  · rw [Gathered.append_lifted, List.mem_append]
    exact fun h => h.elim hg.2 hk.2
  · have hne' : privateName p.owner x ≠ m.hook := hother _ hx.1
    rw [hpq.eq]
    simp [Gathered.without, Site.mention, hspell hpq.owner hx.2, hne']
  · rw [hspell hpq hx.2]
    rfl
  · simpa using (hother q hx.1).symm
  · obtain ⟨hwithout, hlifted⟩ := enclose_without (p := q) (b := b) h.2
    refine ⟨?_, hlifted⟩
    rw [hwithout, h.1, hpq.eq]
    rfl
  · have hread : gather q (hookExpr a m'.hook) = { mentions := [⟨.read, m.hook, q.iterating⟩] } := by
      rw [hm, hookExpr_eq a hdot]
      simp [gather, hsuper, Site.mention, hsparse.privateName_eq]
    refine ⟨?_, ?_⟩
    · rw [hread, Gathered.without_append, h.1]
      simp [Gathered.without]
    · rw [hread]
      simpa using h.2

/-! ## Blocks of functions -/

theorem related_bare (t : SyntaxTree α) : Related Eq (fun _ => Eq) t t.bare :=
  gathering_eq.related (reshapes_map _) t fun _ _ => ⟨fun _ _ _ => trivial, fun _ _ => trivial⟩

theorem functionScope_bare (p : Site) (args body : SyntaxTree α) :
    functionScope p args.bare body.bare = functionScope p args body := by
  have hargs : gatherParameters (p.into .function) args = _ := (related_bare args).parameters ⟨rfl, rfl⟩
  have hbody : gather (p.into .function) body = _ := (related_bare body).whole ⟨rfl, rfl⟩
  rw [functionScope, functionScope, hargs, hbody]

/-- A function lifts no names out of its block. -/
theorem lifted_function (p : Site) (args body : SyntaxTree α) :
    (gatherParameters (p.into .function) args ++ gather (p.into .function) body).lifted = [] := by
  have hnames : ∀ t : SyntaxTree α, ∀ s ∈ t.subtrees, s.Names fun _ _ => True := fun _ _ _ =>
    ⟨fun _ _ _ => trivial, fun _ _ => trivial⟩
  have hargs := (gathering_lifted.related reshapes_id args (hnames args)).parameters
    (p := p.into .function) ⟨rfl, rfl⟩
  have hbody := (gathering_lifted.related reshapes_id body (hnames body)).whole
    (p := p.into .function) ⟨rfl, rfl⟩
  rw [Gathered.append_lifted, hargs (by simp [Site.into]) (by simp [Site.into]),
    hbody (by simp [Site.into]) (by simp [Site.into])]
  rfl

/-- The block of a function that leaves a name alone only reads it. -/
theorem functionScope_readsOnly {n : String} (hne : n ≠ "") (p : Site) {args body : SyntaxTree α}
    (hargs : args.Leaves n) (hbody : body.Leaves n) : (functionScope p args body).ReadsOnly n :=
  ((gatherParameters_readsOnly hne hargs).append (gather_readsOnly hne hbody)).scope (by simp)

/-- A tree mentions a fresh name nowhere, and spells its names alike in two classes that do so with its
identifiers. -/
theorem names_of_fresh {n : String} {o o' : Option String} {t : SyntaxTree α} (hsparse : Sparse n)
    (hn : n ∉ t.identifiers) (hspell : ∀ x ∈ t.identifiers, privateName o x = privateName o' x) :
    ∀ s ∈ t.subtrees, s.Names fun _ x => x ≠ n ∧ privateName o x = privateName o' x := by
  have hall : ∀ s ∈ t.subtrees, ∀ x ∈ s.bindings ++ s.readings,
      x ≠ n ∧ privateName o x = privateName o' x := by
    intro s hs x hx
    obtain hx | rfl := mem_identifiers_of_mem hx
    · have hmem := identifiers_subset_of_mem_subtrees hs hx
      exact ⟨fun heq => hn (heq ▸ hmem), hspell x hmem⟩
    · refine ⟨?_, ?_⟩
      · rintro rfl
        exact absurd hsparse (by simp [Sparse, classVariable])
      · rw [privateName_classVariable, privateName_classVariable]
  exact fun s hs => ⟨fun x hx _ => hall s hs x (List.mem_append_left _ hx),
    fun x hx => hall s hs x (List.mem_append_right _ hx)⟩

/-- Instrumenting the body of a function puts reads of the hook into its block, and nothing else, also
in a class in which its names are spelled alike. -/
theorem functionScope_visit {m : Marking} {o k : Option String} {args body : SyntaxTree Span}
    {p q : Site}     (hhook : IsHook (node .sequence {} [args, body]) m.hook)
    (hspell : ∀ x ∈ (node .sequence {} [args, body]).identifiers, privateName o x = privateName k x)
    (hpq : (p.into .function).Like (fun a b => a = b ∨ a = o ∧ b = k) (q.into .function)) :
    (functionScope q args (body.visit m).1).without m.hook = functionScope p args body := by
  have hargs : args.identifiers ⊆ (node .sequence {} [args, body]).identifiers :=
    identifiers_subset_of_mem List.mem_cons_self
  have hbody : body.identifiers ⊆ (node .sequence {} [args, body]).identifiers :=
    identifiers_subset_of_mem (by simp)
  have G : Gathering Span (fun a b => a = b ∨ a = o ∧ b = k) _ (· = m) _ :=
    gathering_without hhook.sparse hhook.dotless hhook.nonempty hhook.notSuper
  have hnames : ∀ t : SyntaxTree Span, t.identifiers ⊆ (node .sequence {} [args, body]).identifiers →
      ∀ s ∈ t.subtrees, s.Names _ := fun t ht =>
    names_of_fresh hhook.sparse (fun hmem => hhook.fresh (ht hmem)) fun x hx => hspell x (ht hx)
  have hrelArgs := (G.related reshapes_id args (hnames args hargs)).parameters hpq
  have hrelBody := (G.related (reshapes_visit m) body (hnames body hbody)).whole hpq
  have hrel := G.append (b := .function) hrelArgs hrelBody
  rw [functionScope, Gathered.scope_without]
  exact congrArg (Gathered.scope .function) hrel.1

/-- Without propagation expressions a tree stays as it is. -/
theorem visit_eq_self {m : Marking} {t : SyntaxTree Span} (h : (t.visit m).2 = []) :
    (t.visit m).1 = t := by
  revert h
  refine siteInduction ?_ ?_ t
  · intro call ctx word args named r _ h
    rw [visit_site] at h
    simp at h
  · intro f a cs hprop ih h
    rw [visit_other hprop] at h ⊢
    have hcs : cs.map (fun c => (c.visit m).1) = cs.map id :=
      List.map_congr_left fun c hc => ih c hc (List.flatMap_eq_nil_iff.1 h c hc)
    rw [hcs, List.map_id]

/-- The hook occurs in the block of an instrumented function exactly if there is a propagation
expression. -/
theorem occurs_functionScope_visit {m : Marking} {args body : SyntaxTree Span} (q : Site)
    (hhook : IsHook (node .sequence {} [args, body]) m.hook) (hshape : Shaped .whole body) :
    (functionScope q args (body.visit m).1).Occurs m.hook ↔ (body.visit m).2 ≠ [] := by
  constructor
  · rintro hoccurs hsites
    have hwithout : (functionScope q args (body.visit m).1).without m.hook = functionScope q args body :=
      functionScope_visit (o := none) hhook (fun _ _ => rfl) ⟨.inl rfl, rfl⟩
    rw [visit_eq_self hsites] at hoccurs hwithout
    exact Scope.not_occurs_without _ (hwithout ▸ hoccurs)
  · intro hsites
    have hheld : HookHeld m .whole (body.visit m).1 :=
      hshape.hookHeld_visit hhook.sparse hhook.dotless hsites
    exact (Gathered.Holds.right (hheld _) _).occurs .function

end Syntax

/-! ## Stripped definitions -/

variable {α : Type}

/-- A function definition that evaluates nothing when it is defined: it has no decorators, defaults and
annotations. -/
structure Stripped (name : String) (args body d : SyntaxTree α) : Prop where
  form : ∃ asynchronous a s b,
    d = node (.functionDef asynchronous name) a [args, body, node .sequence s [], node .absent b []]
  defaults : ∀ p, gatherDefaults p args = {}
  annotations : ∀ p, gatherAnnotations p args = p.hint fun _ => {}

namespace Stripped

variable {name : String} {args body d : SyntaxTree α}

/-- What a stripped definition gathers: its name, and the blocks of nothing else than its function. -/
theorem gather_eq (h : Stripped name args body d) (p : Site) :
    gather p d = p.mention .bind name ++
      ({ inner := hintBlocks p.eager ++ [functionScope p args body] } : Gathered) := by
  obtain ⟨asynchronous, a, s, b, rfl⟩ := h.form
  have hfunction : p.enclose .function
      (gatherParameters (p.into .function) args ++ gather (p.into .function) body) =
        { inner := [functionScope p args body] } := by
    unfold Site.enclose
    rw [lifted_function]
    rfl
  have hhint : p.hint (fun _ => {}) =
      { inner := if p.eager then [] else [.node .annotations [] true []] } := by
    unfold Site.hint
    cases p.eager <;> rfl
  simp only [gather, gatherList, h.defaults, h.annotations, hfunction, hhint, Gathered.append_empty,
    Gathered.append_assoc]
  unfold hintBlocks
  cases p.eager <;> rfl

theorem bare (h : Stripped name args body d) : Stripped name args.bare body.bare d.bare := by
  obtain ⟨asynchronous, a, s, b, rfl⟩ := h.form
  refine ⟨⟨asynchronous, (), (), (), by simp⟩, fun p => ?_, fun p => ?_⟩
  · rw [← h.defaults p]
    exact ((related_bare args).defaults ⟨rfl, rfl⟩).symm
  · rw [← h.annotations p]
    exact ((related_bare args).annotations ⟨rfl, rfl⟩).symm

end Stripped

theorem Stripped.identifiers_subset {name : String} {args body d : SyntaxTree α}
    (h : Stripped name args body d) (a : α) :
    (node .sequence a [args, body]).identifiers ⊆ d.identifiers := by
  obtain ⟨asynchronous, a', s, b, rfl⟩ := h.form
  intro x hx
  rw [identifiers_node, List.flatMap_cons, List.flatMap_cons, List.flatMap_nil, List.append_nil,
    List.mem_append, List.mem_append] at hx
  obtain hx | hx | hx := hx
  · cases hx
  · exact identifiers_subset_of_mem List.mem_cons_self hx
  · exact identifiers_subset_of_mem (by simp) hx

/-- Instrumenting a stripped definition instruments its body. -/
theorem Stripped.instrumented {name : String} {args d : SyntaxTree Span} {s : Span}
    {body : List (SyntaxTree Span)} (h : Stripped name args (node .sequence s body) d) (m : Marking) :
    Stripped name args ((node .sequence s body).visit m).1 (instrumentBody m d).1 ∧
      (instrumentBody m d).2 = ((node .sequence s body).visit m).2 := by
  obtain ⟨asynchronous, a, s', b, rfl⟩ := h.form
  have hbody : instrumentBody m (node (.functionDef asynchronous name) a
      [args, node .sequence s body, node .sequence s' [], node .absent b []]) =
        (node (.functionDef asynchronous name) a
          [args, ((node .sequence s body).visit m).1, node .sequence s' [], node .absent b []],
          ((node .sequence s body).visit m).2) := by
    rw [visit_of_ne_call (by simp), instrumentBody, visitItems_eq]
  rw [hbody]
  exact ⟨⟨⟨asynchronous, a, s', b, rfl⟩, h.defaults, h.annotations⟩, rfl⟩

section StripParameter

variable (p : Site)

theorem gatherParameters_stripParameter (t : SyntaxTree Span) :
    gatherParameters p (stripParameter t) = gatherParameters p t := by
  obtain ⟨f, a, cs⟩ := t
  cases f <;> rfl

theorem gatherParametersList_stripParameter (ts : List (SyntaxTree Span)) :
    gatherParametersList p (ts.map stripParameter) = gatherParametersList p ts := by
  induction ts with
  | nil => rfl
  | cons t ts ih =>
    rw [List.map_cons, gatherParametersList, gatherParametersList, gatherParameters_stripParameter, ih]

variable {p}

/-- A stripped parameter has no annotation. -/
theorem gatherParameterAnnotations_stripParameter {t : SyntaxTree Span}
    (h : Shaped (.parameter true) t) :
    gatherParameterAnnotations p (stripParameter t) = {} := by
  cases h <;> rfl

theorem gatherParameterAnnotationsList_stripParameter {ts : List (SyntaxTree Span)}
    (h : ∀ t ∈ ts, Shaped (.parameter true) t) :
    gatherParameterAnnotationsList p (ts.map stripParameter) = {} := by
  induction ts with
  | nil => rfl
  | cons t ts ih =>
    rw [List.forall_mem_cons] at h
    rw [List.map_cons, gatherParameterAnnotationsList,
      gatherParameterAnnotations_stripParameter h.1, ih h.2]
    rfl

end StripParameter

/-- The defaults of keyword parameters that are left out. -/
theorem gatherList_absent (p : Site) (ts : List (SyntaxTree Span)) :
    gatherList p (ts.map fun _ => (node .absent {} [] : SyntaxTree Span)) = {} := by
  induction ts with
  | nil => rfl
  | cons t ts ih =>
    rw [List.map_cons, gatherList, ih]
    rfl

/-- Stripping keeps the parameters and the body of a function. -/
theorem stripped_stripDefinition {asynchronous : Bool} {name : String} {a s s' : Span}
    {args returns : SyntaxTree Span} {body decorators : List (SyntaxTree Span)}
    (h : Shaped (.parameters true) args) : ∃ args',
    Stripped name args' (node .sequence s body) (stripDefinition (node (.functionDef asynchronous name) a
      [args, node .sequence s body, node .sequence s' decorators, returns])) ∧
    ∀ p, functionScope p args' (node .sequence s body) =
      functionScope p args (node .sequence s body) := by
  cases h with
  | parameters hpositionalOnly hpositional hvararg hkeywordOnly _ hkwarg _ =>
    refine ⟨_, ⟨⟨asynchronous, a, s', {}, rfl⟩, fun p => ?_, fun p => ?_⟩, fun p => ?_⟩
    · simp only [gatherDefaults, gather, gatherList, gatherList_absent, Gathered.append_empty]
    · simp only [gatherAnnotations, gatherParameterAnnotations,
        gatherParameterAnnotations_stripParameter hvararg,
        gatherParameterAnnotations_stripParameter hkwarg,
        gatherParameterAnnotationsList_stripParameter hpositionalOnly,
        gatherParameterAnnotationsList_stripParameter hpositional,
        gatherParameterAnnotationsList_stripParameter hkeywordOnly, Gathered.append_empty]
    · simp only [functionScope, gatherParameters, gatherParameters_stripParameter,
        gatherParametersList_stripParameter]

end ErrorTrail
