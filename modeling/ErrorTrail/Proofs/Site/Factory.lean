import ErrorTrail.Proofs.Site.Hygiene
import ErrorTrail.Proofs.Site.Shape
import ErrorTrail.Proofs.Syntax.ClassHeader
import ErrorTrail.Site.Recompilation

/-!
# The factory of a recompiled definition

A definition is recompiled in a factory: a function that binds the hook and the captured variables and
holds the definition, in a class if it has an owner. For an owner that is a name the factory is
`factoryFile` (`factoryModule_eq`), and its blocks are read off in `gather_factoryFile`. The hook is a
fresh name of the definition, so the factory holds it (`HoldsHook`) unless the class around the
definition happens to have that name (`holdsHook_factoryModule`).
-/

namespace ErrorTrail

open Syntax

/-! ## The file of a factory -/

/-- The name under which a factory binds the statement that holds the definition. -/
def heldName (owner : Option String) (definition : SyntaxTree Unit) : String :=
  owner.getD (definitionName definition)

/-- The statement that holds the definition: a class if it has an owner. -/
def heldStatement (owner : Option String) (definition : SyntaxTree Unit) : SyntaxTree Unit :=
  match owner with
  | some o =>
    let empty : SyntaxTree Unit := .node .sequence () []
    .node (.classDef o) () [empty, empty, .node .sequence () [definition], empty]
  | none => definition

/-- What a factory declares of the name that it binds for the definition. -/
def heldDeclaration (captured : List String) (name : String) : List (SyntaxTree Unit) :=
  if captured.contains name then [] else [.node (.globalStmt [name]) () []]

/-- The variables of a factory function. -/
def cellNames (hook : String) (captured : List String) : List String :=
  hook :: captured.filter (· ≠ classCell)

section FactoryFile

variable (definition : SyntaxTree Unit) (hook : String) (captured : List String) (owner : Option String)

def factoryBody : List (SyntaxTree Unit) :=
  heldDeclaration captured (heldName owner definition) ++
    [cellAssignment (cellNames hook captured), heldStatement owner definition]

def factoryFile : SyntaxTree Unit :=
  .node .file () [.node .sequence ()
    [plainFunction factoryName (factoryBody definition hook captured owner)]]

end FactoryFile

variable {definition : SyntaxTree Unit} {hook : String} {captured : List String} {owner : Option String}

/-- The class in which a definition is compiled, for an owner that is a name. -/
theorem scopeClass_eq {o : String} (h : IsName o) :
    scopeClass o definition = .ok (some (heldStatement (some o) definition)) := by
  have hparse := parseFile_class h
  rcases hfile : parseFile ("class " ++ o ++ ":\n    pass\n") with e | file
  · rw [hfile] at hparse
    cases hparse
  · rw [hfile] at hparse
    have hbare : file.bare = _ := Except.ok.inj hparse
    simp only [scopeClass, hfile, bind, Except.bind, hbare]
    rfl

/-- The factory of a definition, for an owner that is a name. -/
theorem factoryModule_eq (h : ∀ o ∈ owner, IsName o) :
    factoryModule definition hook captured owner =
      .ok (some (factoryFile definition hook captured owner)) := by
  cases owner with
  | none => rfl
  | some o =>
    unfold factoryModule
    simp only [scopeClass_eq (h o rfl)]
    rfl

/-! ## The blocks of a factory -/

/-- The block of the factory function. -/
def factoryBlock (eager : Bool) (definition : SyntaxTree Unit) (hook : String) (captured : List String)
    (owner : Option String) : Scope :=
  (gatherList { block := .function, eager } (factoryBody definition hook captured owner)).scope .function

/-- The blocks of the annotations that a function without parameters does not have. -/
def hintBlocks (eager : Bool) : List Scope :=
  if eager then [] else [.node .annotations [] true [], .node .annotations [] true []]

theorem gather_factoryFile (eager : Bool) :
    gather { eager } (factoryFile definition hook captured owner) =
      { mentions := [⟨.bind, factoryName, false⟩]
        inner := hintBlocks eager ++ [factoryBlock eager definition hook captured owner] } := by
  have hfunction : ∀ g : Gathered,
      Site.enclose { eager } .function g = { inner := [g.scope .function] } := fun g => by
    unfold Site.enclose
    split <;> rfl
  cases eager <;>
    simp only [factoryFile, plainFunction, gather, gatherList, gatherDefaults, gatherAnnotations,
      gatherParameters, gatherParametersList, gatherParameterAnnotations,
      gatherParameterAnnotationsList, Site.hint, hfunction, Gathered.append_empty,
      Gathered.empty_append] <;>
    rfl

/-- The factory function is the last block of its file. -/
theorem lastBlock?_factoryFile (eager : Bool) :
    lastBlock? (fileScope eager (factoryFile definition hook captured owner)) =
      some (factoryBlock eager definition hook captured owner) := by
  rw [fileScope, gather_factoryFile]
  exact List.getLast?_concat

/-- The file of a factory offers nothing to the factory function. -/
theorem offers_factoryFile (eager : Bool) :
    (fileScope eager (factoryFile definition hook captured owner)).offers {} =
      { offered := some [] } := by
  rw [fileScope, gather_factoryFile]
  rfl

/-- What is inside a block of the file of a factory is inside the factory function. -/
theorem blockAt?_factoryFile {eager : Bool} {is : List Nat} {around : Surroundings} {s : Scope}
    (his : 2 ≤ is.length)
    (h : (fileScope eager (factoryFile definition hook captured owner)).blockAt? {} is =
      some (around, s)) :
    ∃ j js, (factoryBlock eager definition hook captured owner).blockAt? { offered := some [] }
      (j :: js) = some (around, s) := by
  obtain _ | ⟨i, _ | ⟨j, js⟩⟩ := is
  · simp at his
  · simp at his
  · rw [Scope.blockAt?_cons, offers_factoryFile, fileScope, gather_factoryFile] at h
    obtain ⟨t, ht, h⟩ := Option.bind_eq_some_iff.1 h
    refine ⟨j, js, ?_⟩
    have hmem : t ∈ hintBlocks eager ++ [factoryBlock eager definition hook captured owner] :=
      List.mem_of_getElem? ht
    obtain hhint | hblock := List.mem_append.1 hmem
    · -- the blocks of missing annotations have none inside
      have hempty : t.inner = [] := by
        cases eager <;> simp [hintBlocks] at hhint
        rw [hhint]
        rfl
      rw [Scope.blockAt?_cons, hempty] at h
      cases h
    · rw [← List.mem_singleton.1 hblock]
      exact h

/-- The place in the factory function. -/
def factorySite (eager : Bool) : Site := { block := .function, eager }

theorem gather_cellAssignment (eager : Bool) (names : List String) :
    gather (factorySite eager) (cellAssignment names) =
      { mentions := names.map fun n => ⟨.bind, n, false⟩ } := by
  have hcells : ∀ names : List String,
      gatherList (factorySite eager)
          (names.map fun n => (.node (.name n .store) () [] : SyntaxTree Unit)) =
        { mentions := names.map fun n => ⟨.bind, n, false⟩ } := by
    intro names
    induction names with
    | nil => rfl
    | cons n names ih =>
      rw [List.map_cons, gatherList, ih]
      rfl
  simp only [cellAssignment, gather, gatherList, hcells, Gathered.append_empty]

/-- What the statements of a factory function gather. -/
theorem gatherList_factoryBody (eager : Bool) :
    gatherList (factorySite eager) (factoryBody definition hook captured owner) =
      ({ mentions := if heldName owner definition ∈ captured then []
          else [⟨.declareGlobal, heldName owner definition, false⟩] } : Gathered) ++
      (({ mentions := (cellNames hook captured).map fun n => ⟨.bind, n, false⟩ } : Gathered) ++
        gather (factorySite eager) (heldStatement owner definition)) := by
  have hdeclared :
      gatherList (factorySite eager) (heldDeclaration captured (heldName owner definition)) =
      { mentions := if heldName owner definition ∈ captured then []
          else [⟨.declareGlobal, heldName owner definition, false⟩] } := by
    unfold heldDeclaration
    simp only [List.contains_iff_mem]
    split <;> rfl
  rw [factoryBody, gatherList_append, hdeclared, gatherList, gatherList, gather_cellAssignment,
    gatherList, Gathered.append_empty]

/-- What a factory function does with a name: it declares the name of the statement that holds the
definition unless that is captured, it binds its variables, and it has the statement. -/
theorem does_factoryBlock {eager : Bool} {f : Deed → Bool} {n : String} :
    (factoryBlock eager definition hook captured owner).does f n ↔
      (n = heldName owner definition ∧ n ∉ captured ∧ f .declareGlobal) ∨
      (n ∈ cellNames hook captured ∧ f .bind) ∨
      ∃ m ∈ (gather (factorySite eager) (heldStatement owner definition)).mentions,
        m.name = n ∧ f m.deed := by
  rw [Scope.does_iff]
  show (∃ m ∈ (gatherList (factorySite eager) (factoryBody definition hook captured owner)).mentions,
    m.name = n ∧ f m.deed) ↔ _
  rw [gatherList_factoryBody]
  simp only [Gathered.append_mentions, List.mem_append, or_and_right, exists_or]
  refine or_congr ?_ (or_congr (by simp) Iff.rfl)
  by_cases hname : heldName owner definition ∈ captured
  · simp only [hname, if_true, List.not_mem_nil, false_and, exists_false, false_iff]
    rintro ⟨rfl, hn, -⟩
    exact hn hname
  · simp only [hname, if_false, List.mem_singleton, exists_eq_left]
    constructor
    · rintro ⟨rfl, hf⟩
      exact ⟨rfl, hname, hf⟩
    · rintro ⟨rfl, -, hf⟩
      exact ⟨rfl, hf⟩

/-- The blocks in a factory function are those of the statement that holds the definition. -/
theorem inner_factoryBlock (eager : Bool) :
    (factoryBlock eager definition hook captured owner).inner =
      (gather (factorySite eager) (heldStatement owner definition)).inner := by
  show (gatherList (factorySite eager) (factoryBody definition hook captured owner)).inner = _
  rw [gatherList_factoryBody]
  rfl

/-! ## Names that a definition leaves alone -/

namespace Syntax.SyntaxTree

variable {α β : Type} {n : String}

theorem leaves_node {f : Form} {a : α} {cs : List (SyntaxTree α)} :
    (node f a cs).Leaves n ↔
      (∀ x ∈ (node f a cs).bindings, ∀ o, privateName o x ≠ n) ∧ ∀ c ∈ cs, c.Leaves n := by
  unfold Leaves
  simp only [subtrees_node, List.forall_mem_cons, List.mem_flatMap]
  exact and_congr_right fun _ =>
    ⟨fun h c hc s hs => h s ⟨c, hc, hs⟩, fun h s ⟨c, hc, hs⟩ => h c hc s hs⟩

/-- A tree leaves alone a sparse name that is none of its own. -/
theorem leaves_of_not_mem {t : SyntaxTree α} (hsparse : Sparse n) (h : n ∉ t.identifiers) :
    t.Leaves n := by
  intro s hs x hx o heq
  obtain rfl := hsparse.privateName_eq_iff.1 heq
  exact h (identifiers_subset_of_mem_subtrees hs (bindings_subset_identifiers s hx))

/-- A tree that is reshaped binds no more than it did. -/
theorem Leaves.reshaped {hooks : Marking → Prop} {g : SyntaxTree α → SyntaxTree β}
    (hg : Reshapes hooks g) {t : SyntaxTree α} (h : t.Leaves n) : (g t).Leaves n := by
  -- the receiver of a propagation expression is a grandchild
  suffices hboth : (g t).Leaves n ∧ ∀ c ∈ t.children, (g c).Leaves n from hboth.1
  induction t with
  | node f a cs ih =>
    obtain ⟨hown, hcs⟩ := leaves_node.1 h
    have hchildren : ∀ c ∈ cs, (g c).Leaves n := fun c hc => (ih c hc (hcs c hc)).1
    refine ⟨?_, hchildren⟩
    obtain ⟨b, heq⟩ | ⟨m, ctx, word, args, named, r, b, none_, line, -, hsite, heq⟩ := hg f a cs
    · have hforms : (cs.map g).map form = cs.map form := by
        rw [List.map_map]
        exact List.map_congr_left fun c _ => hg.form_eq c
      rw [heq, leaves_node, bindings_congr (a := a) hforms]
      exact ⟨hown, by simpa using hchildren⟩
    · obtain ⟨-, -, rfl⟩ := SyntaxTree.node.inj hsite
      have hr : (g r).Leaves n := (ih _ List.mem_cons_self (hcs _ List.mem_cons_self)).2 r (by simp)
      rw [heq]
      intro s hs x hx
      obtain hs | hs := silent_inject m b none_ (g r) line s hs
      · exact hr s hs x hx
      · rw [hs.2] at hx
        cases hx

end Syntax.SyntaxTree

open SyntaxTree

variable {m : Marking} {d instrumented : SyntaxTree Span} {sites : List Location}

/-- Instrumenting a function instruments the statements of its body. -/
theorem instrumentBody_cases (m : Marking) (d : SyntaxTree Span) :
    instrumentBody m d = (d, []) ∨
      ∃ f a args s body decorators returns,
        d = .node f a [args, .node .sequence s body, decorators, returns] ∧
        instrumentBody m d =
          (.node f a [args, ((SyntaxTree.node .sequence s body).visit m).1, decorators, returns],
            ((SyntaxTree.node .sequence s body).visit m).2) := by
  unfold instrumentBody
  split
  · refine .inr ⟨_, _, _, _, _, _, _, rfl, ?_⟩
    rw [visit_of_ne_call (by simp), visitItems_eq]
  · exact .inl rfl

theorem instrument_ok (h : instrument m d = .ok (instrumented, sites)) :
    isFunctionForm d.form ∧ (instrumentBody m d).1 = instrumented ∧ (instrumentBody m d).2 = sites := by
  unfold instrument at h
  split at h
  · cases h
  · next hform =>
    split at h
    · have hbody : instrumentBody m d = (instrumented, sites) := Except.ok.inj h
      exact ⟨by simpa using hform, congrArg Prod.fst hbody, congrArg Prod.snd hbody⟩
    · cases h

theorem leaves_instrumentBody {n : String} (h : d.Leaves n) : (instrumentBody m d).1.Leaves n := by
  obtain heq | ⟨f, a, args, s, body, decorators, returns, rfl, heq⟩ := instrumentBody_cases m d
  · rw [heq]
    exact h
  · have hbindings :
        (node f a [args, ((node .sequence s body).visit m).1, decorators, returns]).bindings =
        (node f a [args, node .sequence s body, decorators, returns]).bindings :=
      bindings_congr (by simp [form_visit])
    rw [heq]
    rw [leaves_node] at h ⊢
    rw [hbindings]
    refine ⟨h.1, ?_⟩
    simp only [List.forall_mem_cons] at h ⊢
    exact ⟨h.2.1, h.2.2.1.reshaped (reshapes_visit m), h.2.2.2⟩

/-! ## The hook of a factory -/

/-- A hook is a variable of a factory function, and nothing in there is in its way. -/
structure HoldsHook (hook : String) (factory : SyntaxTree Unit) : Prop where
  /-- the name is spelled the same in every class, and no other name is spelled like it in any -/
  spelled : ∀ owner name, privateName owner name = hook ↔ name = hook
  /-- an injected call reads the name -/
  called : ∀ a : Span, hookExpr a hook = .node (.name hook .load) a []
  /-- the factory function assigns it, and no other node binds, deletes or declares it -/
  assigned : ∃ declared names held,
    factory = .node .file () [.node .sequence ()
      [plainFunction factoryName (declared ++ [cellAssignment (hook :: names), held])]] ∧
    ∀ s ∈ held :: declared, s.Leaves hook
  /-- it lives in the block of the factory function, where it is not declared to be the file's -/
  own : ∀ eager, ∃ s, lastBlock? (fileScope eager factory) = some s ∧
    s.does (· == .declareGlobal) hook = false ∧ s.home ((fileScope eager factory).offers {}) hook = .own
  /-- in every block inside, at any depth, it is only read, and is the factory function's variable -/
  inside : ∀ eager is around s, 2 ≤ is.length →
    (fileScope eager factory).blockAt? {} is = some (around, s) →
    s.ReadsOnly hook ∧ s.home around hook = .outer

theorem leaves_heldStatement {n : String} (hsparse : Sparse n) (howner : owner ≠ some n)
    (h : definition.Leaves n) : (heldStatement owner definition).Leaves n := by
  cases owner with
  | none => exact h
  | some o =>
    have hempty : ∀ cs : List (SyntaxTree Unit), (∀ c ∈ cs, c.Leaves n) →
        (SyntaxTree.node .sequence () cs).Leaves n := fun cs hcs =>
      leaves_node.2 ⟨by simp [bindings], hcs⟩
    refine leaves_node.2 ⟨fun x hx owner heq => ?_, ?_⟩
    · obtain rfl : x = o := List.mem_singleton.1 hx
      exact howner (congrArg some (hsparse.privateName_eq_iff.1 heq))
    · simp [hempty, h]

theorem leaves_heldDeclaration {n name : String} (hsparse : Sparse n) (hname : name ≠ n) :
    ∀ s ∈ heldDeclaration captured name, s.Leaves n := by
  unfold heldDeclaration
  split
  · simp
  · intro s hs
    obtain rfl := List.mem_singleton.1 hs
    refine leaves_node.2 ⟨fun x hx owner heq => ?_, by simp⟩
    obtain rfl : x = name := List.mem_singleton.1 hx
    exact hname (hsparse.privateName_eq_iff.1 heq)

/-- A factory holds a hook that its definition leaves alone if the definition is held under another
name. -/
theorem holdsHook_factoryFile (hsparse : Sparse hook) (hdot : '.' ∉ hook.toList) (hne : hook ≠ "")
    (hname : heldName owner definition ≠ hook) (h : definition.Leaves hook) :
    HoldsHook hook (factoryFile definition hook captured owner) := by
  have hclass : hook ≠ classVariable := by
    rintro rfl
    simp [Sparse, classVariable] at hsparse
  have howner : owner ≠ some hook := fun heq => hname (by rw [heq]; rfl)
  have hheld := leaves_heldStatement hsparse howner h
  have hreads : ∀ eager, (gather (factorySite eager) (heldStatement owner definition)).ReadsOnly hook :=
    fun eager => gather_readsOnly hne hheld
  have hdoes : ∀ eager (f : Deed → Bool), f .read = false →
      ((factoryBlock eager definition hook captured owner).does f hook ↔ f .bind) := by
    intro eager f hf
    rw [does_factoryBlock]
    constructor
    · rintro (⟨heq, -⟩ | ⟨-, hbind⟩ | ⟨m, hm, hmname, hdeed⟩)
      · exact absurd heq.symm hname
      · exact hbind
      · rw [(hreads eager).mentions m hm hmname, hf] at hdeed
        cases hdeed
    · exact fun hbind => .inr (.inl ⟨List.mem_cons_self, hbind⟩)
  have hown : ∀ eager around,
      (factoryBlock eager definition hook captured owner).home around hook = .own := by
    intro eager around
    refine Scope.home_eq_own_iff.2 ⟨?_, ?_, ?_⟩
    · exact Bool.eq_false_iff.2 fun hd => by simpa using (hdoes eager _ rfl).1 hd
    · exact Bool.eq_false_iff.2 fun hd => by simpa [Scope.outward] using (hdoes eager _ rfl).1 hd
    · exact (hdoes eager _ rfl).2 rfl
  refine ⟨fun owner name => hsparse.privateName_eq_iff, fun a => hookExpr_eq a hdot, ?_,
    fun eager => ?_, ?_⟩
  · refine ⟨_, _, _, rfl, List.forall_mem_cons.2 ⟨hheld, leaves_heldDeclaration hsparse hname⟩⟩
  · refine ⟨_, lastBlock?_factoryFile eager, ?_, hown eager _⟩
    exact (Scope.home_eq_own_iff.1 (hown eager {})).1
  · intro eager is around s his hat
    obtain ⟨j, js, hat⟩ := blockAt?_factoryFile his hat
    obtain ⟨t, ht, hat⟩ := Option.bind_eq_some_iff.1 (Scope.blockAt?_cons ▸ hat)
    have htreads : t.ReadsOnly hook :=
      (hreads eager).inner t (inner_factoryBlock eager ▸ List.mem_of_getElem? ht)
    refine ⟨(htreads.blockAt? hclass hat).1, ?_⟩
    rw [htreads.home_blockAt? hclass hat, if_pos]
    rw [Scope.mem_names_offers (b := .function) rfl (by simp)]
    refine .inl ⟨by simp, Scope.mem_own.2 ⟨?_, hown eager _⟩⟩
    exact Scope.mem_names_of_does ((hdoes eager Deed.binds rfl).2 rfl)

/-- A factory does not hold a hook that has the name of the class around the definition. -/
theorem not_holdsHook_factoryFile :
    ¬ HoldsHook hook (factoryFile definition hook captured (some hook)) := by
  rintro ⟨-, -, ⟨declared, names, held, heq, hleaves⟩, -⟩
  simp only [factoryFile, plainFunction, factoryBody, SyntaxTree.node.injEq, List.cons.injEq, and_true,
    true_and] at heq
  have hlast := congrArg List.getLast? heq
  simp only [List.getLast?_append, List.getLast?_cons_cons, List.getLast?_singleton, Option.some_or,
    Option.some.injEq] at hlast
  have hheld := hleaves held List.mem_cons_self
  rw [← hlast] at hheld
  exact (leaves_node.1 hheld).1 hook (List.mem_singleton_self _) none rfl

/-- The name of a function definition is an identifier of its node. -/
theorem definitionName_bare_mem (h : isFunctionForm d.form) :
    definitionName d.bare ∈ d.form.identifiers := by
  obtain ⟨f, a, cs⟩ := d
  cases f with
  | functionDef asynchronous name =>
    rw [bare_node]
    exact List.mem_singleton_self name
  | _ => cases h

theorem form_instrumentBody : (instrumentBody m d).1.form = d.form := by
  obtain heq | ⟨f, a, args, s, body, decorators, returns, rfl, heq⟩ := instrumentBody_cases m d <;>
    rw [heq]
  rfl

theorem form_identifiers_subset (d : SyntaxTree Span) : d.form.identifiers ⊆ d.identifiers := by
  obtain ⟨f, a, cs⟩ := d
  rw [identifiers_node]
  exact List.subset_append_left _ _

/-- What is known of the hook of a definition: it is a name of its own, spelled the same in every
class. -/
structure IsHook (d : SyntaxTree Span) (hook : String) : Prop where
  sparse : Sparse hook
  dotless : '.' ∉ hook.toList
  nonempty : hook ≠ ""
  notSuper : hook ≠ superWord
  notClass : hook ≠ classVariable
  fresh : hook ∉ d.identifiers

theorem isHook_freshName (d : SyntaxTree Span) : IsHook d (freshName d hookBase) := by
  have hstart := prefix_freshName d hookBase
  have hother : ∀ s, ¬ hookBase.toList <+: s.toList → freshName d hookBase ≠ s := fun s hs heq =>
    hs (heq ▸ hstart)
  refine ⟨sparse_freshName (by decide) (by decide) _, fun hmem => ?_, hother _ (by decide),
    hother _ (by decide), hother _ (by decide), freshName_not_mem _ _⟩
  obtain hmem | hmem | hmem := mem_toList_candidate hmem
  · exact absurd hmem (by decide)
  · exact absurd hmem (by decide)
  · exact absurd hmem (by decide)

/-- The statement that holds a definition has another name than the hook, unless the class is named
so. -/
theorem heldName_ne (hhook : IsHook d hook) (h : instrument m d = .ok (instrumented, sites))
    (hne : owner ≠ some hook) : heldName owner instrumented.bare ≠ hook := by
  obtain ⟨hform, rfl, -⟩ := instrument_ok h
  cases owner with
  | some o => exact fun heq => hne (congrArg some heq)
  | none =>
    intro heq
    have hform' : isFunctionForm (instrumentBody m d).1.form := by
      rw [form_instrumentBody]
      exact hform
    have hname : hook ∈ (instrumentBody m d).1.form.identifiers := heq ▸ definitionName_bare_mem hform'
    rw [form_instrumentBody] at hname
    exact hhook.fresh (form_identifiers_subset _ hname)

/-- The factory of a definition exists, and holds the hook exactly if the class around the definition, if
there is one, has another name: the hook is chosen by the definition alone. -/
theorem holdsHook_factoryModule {file : String} {d : SyntaxTree Span} (howner : ∀ o ∈ owner, IsName o)
    (h : instrument ⟨file, freshName (stripDefinition d) hookBase⟩ (stripDefinition d) =
      .ok (instrumented, sites)) :
    ∃ factory, factoryModule instrumented.bare (freshName (stripDefinition d) hookBase) captured owner =
        .ok (some factory) ∧
      (HoldsHook (freshName (stripDefinition d) hookBase) factory ↔
        owner ≠ some (freshName (stripDefinition d) hookBase)) := by
  refine ⟨_, factoryModule_eq howner, ?_⟩
  have hhook := isHook_freshName (stripDefinition d)
  constructor
  · rintro hholds rfl
    exact not_holdsHook_factoryFile hholds
  · intro hne
    refine holdsHook_factoryFile hhook.sparse hhook.dotless hhook.nonempty (heldName_ne hhook h hne) ?_
    have hbare : Reshapes (fun _ => False) (SyntaxTree.bare : SyntaxTree Span → SyntaxTree Unit) :=
      reshapes_map _
    rw [← (instrument_ok h).2.1]
    exact (leaves_instrumentBody (leaves_of_not_mem hhook.sparse hhook.fresh)).reshaped hbare

/-! ## A sample definition -/

/-- The nodes of a sample stand in line 4 of their file. -/
def sampleSpan : Span := ⟨some 4, some 4⟩

def sampleMissing : SyntaxTree Span := .node .absent {} []

def sampleSequence (ts : List (SyntaxTree Span)) : SyntaxTree Span := .node .sequence {} ts

def sampleRead (id : String) : SyntaxTree Span := .node (.name id .load) sampleSpan []

def sampleCall (function : SyntaxTree Span) (args : List (SyntaxTree Span)) : SyntaxTree Span :=
  .node .call sampleSpan [function, sampleSequence args, sampleSequence []]

/-- A function definition whose parameters have neither annotations nor defaults. -/
def sampleFunction (name : String) (parameters : List String)
    (body decorators : List (SyntaxTree Span)) : SyntaxTree Span :=
  let parameter (name : String) : SyntaxTree Span := .node (.arg name) sampleSpan [sampleMissing]
  .node (.functionDef false name) sampleSpan
    [.node .arguments {}
        [sampleSequence [], sampleSequence (parameters.map parameter), sampleMissing, sampleSequence [],
          sampleSequence [], sampleMissing, sampleSequence []],
      sampleSequence body, sampleSequence decorators, sampleMissing]

/-- `parse(text).propagate()` -/
def loadSite : SyntaxTree Span :=
  sampleCall
    (.node (.attribute "propagate" .load) sampleSpan
      [sampleCall (sampleRead "parse") [sampleRead "text"]]) []

/-- What is propagated, in a tuple with other variables if there are any. -/
def loadResult : List String → SyntaxTree Span
  | [] => loadSite
  | others => .node (.tuple .load) sampleSpan [sampleSequence (loadSite :: others.map sampleRead)]

/-- A function `load` that parses its parameter and propagates. -/
def loadDefinition (others : List String) : SyntaxTree Span :=
  sampleFunction "load" ["text"]
    [.node .returnStmt sampleSpan [sampleCall (sampleRead "Ok") [loadResult others]]]
    [sampleRead "wherr"]

theorem isName_reader : IsName "Reader" := ⟨by decide, by decide, by decide⟩

theorem isName_hookBase : IsName hookBase := ⟨by decide, by decide, by decide⟩

theorem freshName_loadDefinition :
    freshName (stripDefinition (loadDefinition [])) hookBase = hookBase := by
  cbv

theorem instrument_loadDefinition : ∃ instrumented,
    instrument ⟨"prog.py", hookBase⟩ (stripDefinition (loadDefinition [])) =
      .ok (instrumented, [⟨"prog.py", 4⟩]) :=
  ⟨_, rfl⟩

/-- The function as a method of a class of another name. -/
theorem holdsHook_factoryModule_reader :
    let d := loadDefinition []
    let hook := freshName (stripDefinition d) hookBase
    (∀ o ∈ some "Reader", IsName o) ∧ ∃ instrumented factory,
      instrument ⟨"prog.py", hook⟩ (stripDefinition d) = .ok (instrumented, [⟨"prog.py", 4⟩]) ∧
      factoryModule instrumented.bare hook [] (some "Reader") = .ok (some factory) ∧
      HoldsHook hook factory := by
  intro d hook
  have howner : ∀ o ∈ some "Reader", IsName o := by simpa using isName_reader
  obtain ⟨instrumented, h⟩ := instrument_loadDefinition
  rw [← freshName_loadDefinition] at h
  obtain ⟨factory, hfactory, hholds⟩ :
      ∃ factory, factoryModule instrumented.bare hook [] _ = .ok (some factory) ∧ _ :=
    holdsHook_factoryModule howner h
  refine ⟨howner, instrumented, factory, h, hfactory, hholds.2 ?_⟩
  rw [freshName_loadDefinition]
  decide

/-- The function as a method of a class that has the name of the hook: there the hook is the file's. -/
theorem not_holdsHook_factoryModule :
    let d := loadDefinition []
    let hook := freshName (stripDefinition d) hookBase
    ∃ instrumented factory,
      instrument ⟨"prog.py", hook⟩ (stripDefinition d) = .ok (instrumented, [⟨"prog.py", 4⟩]) ∧
      factoryModule instrumented.bare hook [] (some "_wherr_hook") = .ok (some factory) ∧
      ¬ HoldsHook hook factory ∧
      ∃ s, lastBlock? (fileScope true factory) = some s ∧
        s.home ((fileScope true factory).offers {}) hook = .file := by
  intro d hook
  have howner : ∀ o ∈ some "_wherr_hook", IsName o := by
    rintro o ⟨⟩
    exact isName_hookBase
  obtain ⟨instrumented, h⟩ := instrument_loadDefinition
  have hhook : hook = hookBase := freshName_loadDefinition
  rw [hhook]
  refine ⟨instrumented, _, h, factoryModule_eq howner, not_holdsHook_factoryFile,
    _, lastBlock?_factoryFile true, ?_⟩
  have hdeclared : (factoryBlock true instrumented.bare hookBase [] (some "_wherr_hook")).does
      (· == .declareGlobal) hookBase := does_factoryBlock.2 (.inl ⟨rfl, by simp, rfl⟩)
  rw [Scope.home_eq, if_pos hdeclared]

end ErrorTrail
