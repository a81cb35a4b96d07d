import ErrorTrail.Proofs.Site.Nesting
import ErrorTrail.Proofs.Site.Stripping

/-!
# Where the names of a recompiled definition live

The names that a definition takes from the blocks around it are the variables of its factory, and its
class is one of the same name if it has one. So what the blocks of the factory offer the definition
(`mem_names_heldAround`) agrees with what it was offered, and each of its names lives where it did, at
every depth, with the hook as the one name more (`KeepsResolution`, `keepsResolution_recompiled`).

A function that is in no class but captures `__class__` is recompiled in a class all the same. There
its private names are spelled otherwise, and one that it captures is lost
(`not_keepsResolution_recompiled`).
-/

namespace ErrorTrail

open Syntax SyntaxTree

variable {α : Type}

/-! ## The definition in its factory -/

/-- The place of the definition in its factory. -/
def heldSite (eager : Bool) : Option String → Site
  | none => factorySite eager
  | some o => { (factorySite eager).into .classBody with owner := some o }

/-- The block of the class in a factory. -/
def classBlock (eager : Bool) (o : String) (definition : SyntaxTree Unit) : Scope :=
  (gather (heldSite eager (some o)) (.node .sequence () [definition])).scope .classBody

/-- What the blocks around the definition offer it in its factory. -/
def heldAround (eager : Bool) (definition : SyntaxTree Unit) (hook : String) (captured : List String)
    (owner : Option String) : Surroundings :=
  let inside := (factoryBlock eager definition hook captured owner).offers { offered := some [] }
  match owner with
  | none => inside
  | some o => (classBlock eager o definition).offers inside

/-- A sequence of one gathers what that gathers. -/
theorem gather_one (p : Site) (a : α) (t : SyntaxTree α) :
    gather p (node .sequence a [t]) = gather p t := by
  show gather p t ++ {} = gather p t
  exact Gathered.append_empty _

section Held

variable {eager : Bool} {hook name x : String} {captured : List String} {owner : Option String}
  {args body definition : SyntaxTree Unit} (h : Stripped name args body definition)
include h

theorem Stripped.definitionName_eq : definitionName definition = name := by
  obtain ⟨asynchronous, a, s, b, rfl⟩ := h.form
  rfl

theorem classBlock_eq (o : String) :
    classBlock eager o definition = .node .classBody [⟨.bind, privateName (some o) name, false⟩] true
      (hintBlocks eager ++ [functionScope (heldSite eager (some o)) args body]) := by
  rw [classBlock, gather_one, h.gather_eq]
  rfl

/-- The statement that holds a stripped definition binds a name, and makes up one block: a class, or the
function itself. -/
theorem gather_heldStatement : gather (factorySite eager) (heldStatement owner definition) =
    { mentions := [⟨.bind, heldName owner definition, false⟩]
      inner := match owner with
        | none => hintBlocks eager ++ [functionScope (factorySite eager) args body]
        | some o => [classBlock eager o definition] } := by
  cases owner with
  | none =>
    rw [heldStatement, h.gather_eq, heldName, Option.getD_none, h.definitionName_eq]
    rfl
  | some o =>
    have hclass : (factorySite eager).enclose .classBody
        (gather (heldSite eager (some o)) (.node .sequence () [definition])) =
          { inner := [classBlock eager o definition] } := by
      unfold Site.enclose classBlock
      rw [gather_one, h.gather_eq]
      rfl
    show (factorySite eager).mention .bind o ++ {} ++ {} ++ {} ++ (factorySite eager).enclose .classBody
      (gather (heldSite eager (some o)) (.node .sequence () [definition])) = _
    rw [hclass]
    rfl

/-- The factory of a stripped definition has the block of the definition. -/
theorem factoryScope?_factoryFile :
    factoryScope? eager owner.isSome (factoryFile definition hook captured owner) =
      some (functionScope (heldSite eager owner) args body,
        heldAround eager definition hook captured owner) := by
  have hinner : lastBlock? (factoryBlock eager definition hook captured owner) = match owner with
      | none => some (functionScope (factorySite eager) args body)
      | some o => some (classBlock eager o definition) := by
    rw [lastBlock?, inner_factoryBlock, gather_heldStatement h]
    cases owner with
    | none => exact List.getLast?_concat
    | some o => rfl
  have hclass : ∀ o, lastBlock? (classBlock eager o definition) =
      some (functionScope (heldSite eager (some o)) args body) := fun o => by
    rw [classBlock_eq h]
    exact List.getLast?_concat
  simp only [factoryScope?, lastBlock?_factoryFile, offers_factoryFile, Option.bind_eq_bind,
    Option.bind_some, hinner]
  cases owner with
  | none => rfl
  | some o =>
    simp only [Option.isSome_some, if_true, Option.bind_some, hclass]
    rfl

/-- The variables of a factory function are the hook and the captured variables. -/
theorem owns_factoryBlock (hname : heldName owner definition ≠ hook) :
    (factoryBlock eager definition hook captured owner).Owns x ↔
      x = hook ∨ x ∈ captured ∧ (x ≠ classCell ∨ x = heldName owner definition) := by
  have hdoes : ∀ f : Deed → Bool, (factoryBlock eager definition hook captured owner).does f x ↔
      (x = heldName owner definition ∧ x ∉ captured ∧ f .declareGlobal) ∨
        (x ∈ cellNames hook captured ∨ x = heldName owner definition) ∧ f .bind := by
    intro f
    rw [does_factoryBlock, gather_heldStatement h]
    simp only [List.mem_singleton, exists_eq_left, or_and_right, eq_comm]
  have hcells : x ∈ cellNames hook captured ↔ x = hook ∨ x ∈ captured ∧ x ≠ classCell := by
    simp [cellNames]
  unfold Scope.Owns
  rw [← Bool.not_eq_true, ← Bool.not_eq_true, hdoes, hdoes, hdoes, hcells]
  simp only [beq_iff_eq, Scope.outward, Deed.binds]
  by_cases hx : x = hook
  · subst hx
    simp [hname.symm]
  · by_cases hmem : x ∈ captured <;> by_cases hheld : x = heldName owner definition <;> simp [hx, hmem]

/-- What a factory offers to the definition: the hook, the captured variables, and the class if there is
one. -/
theorem mem_names_heldAround (hname : heldName owner definition ≠ hook)
    (hclass : owner = none → classCell ∉ captured) :
    x ∈ (heldAround eager definition hook captured owner).names ↔
      x = hook ∨ x ∈ captured ∨ x = classCell ∧ owner.isSome := by
  have hinside : x ∈ ((factoryBlock eager definition hook captured owner).offers
      { offered := some [] }).names ↔
        x = hook ∨ x ∈ captured ∧ (x ≠ classCell ∨ x = heldName owner definition) := by
    rw [Scope.mem_names_offers_iff (by simp [factoryBlock, Gathered.scope, Scope.block])]
    show (Scope.Owns _ x) ∨ (x ∈ [] ∧ _) ↔ _
    rw [owns_factoryBlock h hname]
    simp
  cases owner with
  | none =>
    show x ∈ Surroundings.names (Scope.offers _ _) ↔ _
    rw [hinside]
    have hcell := hclass rfl
    simp only [Option.isSome_none, Bool.false_eq_true, and_false, or_false]
    refine or_congr Iff.rfl (and_iff_left_of_imp fun hx => .inl ?_)
    rintro rfl
    exact hcell hx
  | some o =>
    show x ∈ (Scope.offers _ (classBlock eager o definition)).names ↔ _
    rw [classBlock_eq h, Scope.mem_names_offers_iff (by simp [Scope.block])]
    show (x = classCell ∨ x ∈ Surroundings.names (Scope.offers _ _) ∧ x ≠ classCell) ↔ _
    rw [hinside]
    by_cases hx : x = classCell
    · simp [hx]
    · simp [hx]

end Held

/-! ## Resolution -/

/-- The block of a function definition. -/
def definitionScope (p : Site) : SyntaxTree α → Scope
  | node _ _ [args, body, _, _] => functionScope p args body
  | _ => default

/-- The names of a recompiled block `t`, in the surroundings `a`, live where those of the block `s`
live in the surroundings `around`, from which `s` captures names. -/
structure KeepsResolution (hook : String) (sites : List Location) (captured : List String)
    (around : Surroundings) (s : Scope) (a : Surroundings) (t : Scope) : Prop where
  /-- a free name is found outside exactly if it is captured -/
  free : ∀ x ≠ hook, t.Wants x → (x ∈ a.names ↔ x ∈ captured)
  /-- blocks correspond at every depth, and their names live in the same places -/
  home : ∀ is a' t', t.blockAt? a is = some (a', t') → ∃ around' s',
    s.blockAt? around is = some (around', s') ∧ s'.block = t'.block ∧
      ∀ x ≠ hook, (x ∈ t'.names ↔ x ∈ s'.names) ∧
        (x ∈ t'.names → t'.home a' x = s'.home around' x)
  /-- captured are the same names, and the hook if there is a propagation expression -/
  captures : ∀ x, x ∈ t.captured a ↔ x ∈ captured ∨ x = hook ∧ sites ≠ []
  /-- so none is unknown -/
  known : ((t.captured a).find? fun x => x ≠ hook && !captured.contains x) = none

/-- A block in which a hook is only read, in surroundings that offer it and agree on the rest. -/
theorem keepsResolution {hook : String} {sites : List Location} {around a : Surroundings} {t : Scope}
    (hreads : t.ReadsOnly hook) (hclass : hook ≠ classVariable)
    (hagree : t.Agree hook around a) (hoffered : hook ∈ a.names) (hsites : t.Occurs hook ↔ sites ≠ []) :
    KeepsResolution hook sites ((t.without hook).captured around) around (t.without hook) a t := by
  have hcaptures : ∀ x, x ∈ t.captured a ↔
      x ∈ (t.without hook).captured around ∨ x = hook ∧ sites ≠ [] := by
    intro x
    rw [Scope.mem_captured, Scope.mem_captured]
    by_cases hx : x = hook
    · subst hx
      rw [Scope.mem_captures_iff, and_iff_right hoffered, hreads.wants_iff hclass, hsites,
        Scope.mem_captures_iff]
      have hnot : ¬ (t.without x).Wants x := fun h => Scope.not_occurs_without t h.occurs
      simp [hnot]
    · rw [hagree.captures_without hx]
      simp [hx]
  refine ⟨fun x hx hwants => ?_, fun is a' t' hat => ?_, hcaptures, ?_⟩
  · rw [← hagree x hx hwants, Scope.mem_captured, Scope.mem_captures_iff, Scope.wants_without hx,
      and_iff_left hwants]
  · obtain ⟨around', hat', hagree'⟩ := hreads.blockAt?_without hagree hat
    refine ⟨around', _, hat', Scope.block_without t', fun x hx => ⟨?_, fun hname => ?_⟩⟩
    · rw [Scope.mem_names_without, and_iff_left hx]
    · exact (hagree'.home_without hx hname).symm
  · rw [List.find?_eq_none]
    intro x hx
    obtain hx | ⟨rfl, -⟩ := (hcaptures x).1 hx
    · simp [hx]
    · simp

theorem into_heldSite (eager : Bool) (owner : Option String) :
    (heldSite eager owner).into .function = { (siteIn .file eager []).into .function with owner } := by
  cases owner <;> rfl

/-- The class in which a function is recompiled: the innermost one around it, if there is one. -/
theorem owner_cases {f : LiveFunction} {layers : List Layer} (hlayers : ∀ l ∈ layers, IsName l.name)
    (hname : IsName f.name) (hpath : f.path = qualifiedName layers f.name) :
    f.owner = innermostClass layers ∧ (f.owner = none → classCell ∉ f.captured) ∨
      innermostClass layers = none ∧ f.owner = some scopeName ∧ classCell ∈ f.captured := by
  have howner := ownerClass_qualifiedName hlayers hname
  rw [← hpath] at howner
  unfold LiveFunction.owner
  rw [howner]
  rcases innermostClass layers with _ | o
  · by_cases hcell : classCell ∈ f.captured
    · exact .inr ⟨rfl, by simp [hcell]⟩
    · exact .inl (by simp [hcell])
  · exact .inl ⟨rfl, by simp⟩

theorem isName_scopeName : IsName scopeName := ⟨by decide, by decide, by decide⟩

theorem isName_owner {f : LiveFunction} {layers : List Layer} (hlayers : ∀ l ∈ layers, IsName l.name)
    (hname : IsName f.name) (hpath : f.path = qualifiedName layers f.name) :
    ∀ o ∈ f.owner, IsName o := by
  have hinnermost : ∀ layers : List Layer, (∀ l ∈ layers, IsName l.name) →
      ∀ o ∈ innermostClass layers, IsName o := by
    intro layers hlayers
    induction layers with
    | nil => simp [innermostClass]
    | cons l layers ih =>
      rw [List.forall_mem_cons] at hlayers
      cases l with
      | function name => exact ih hlayers.2
      | classBody name =>
        rintro o ⟨⟩
        exact hlayers.1
  obtain ⟨howner, -⟩ | ⟨-, howner, -⟩ := owner_cases hlayers hname hpath
  · rw [howner]
    exact hinnermost layers hlayers
  · rw [howner]
    rintro o ⟨⟩
    exact isName_scopeName

/-- A stripped and instrumented definition in its factory: what the names of the definition were in the
class `o`, they are in the class `owner`. -/
theorem keepsResolution_held {eager : Bool} {name : String} {args d instrumented : SyntaxTree Span}
    {s : Span} {body : List (SyntaxTree Span)} {o owner : Option String} {captured : List String}
    {around : Surroundings} {m : Marking} {sites : List Location}
    (hd : Stripped name args (node .sequence s body) d) (hhook : IsHook d m.hook)
    (hshape : Shaped .whole (node .sequence s body)) (h : instrument m d = .ok (instrumented, sites))
    (hne : owner ≠ some m.hook) (hspell : ∀ x ∈ d.identifiers, privateName o x = privateName owner x)
    (hcaptured : captured =
      (functionScope { eager, owner := o } args (node .sequence s body)).captured around)
    (hnone : owner = none → classCell ∉ captured)
    (hclass : owner ≠ none →
      (functionScope { eager, owner := o } args (node .sequence s body)).Wants classCell →
      classCell ∈ around.names) :
    KeepsResolution m.hook sites captured around
      (functionScope { eager, owner := o } args (node .sequence s body))
      (heldAround eager instrumented.bare m.hook captured owner)
      (functionScope (heldSite eager owner) args.bare ((node .sequence s body).visit m).1.bare) := by
  obtain ⟨-, rfl, rfl⟩ := instrument_ok h
  obtain ⟨hinstrumented, hsites⟩ := hd.instrumented m
  have hsubset := hd.identifiers_subset {}
  have hpart : IsHook (node .sequence {} [args, node .sequence s body]) m.hook :=
    { hhook with fresh := fun hmem => hhook.fresh (hsubset hmem) }
  rw [functionScope_bare, hsites]
  generalize ht : functionScope (heldSite eager owner) args ((node .sequence s body).visit m).1 = t
  have hwithout : t.without m.hook =
      functionScope { eager, owner := o } args (node .sequence s body) := by
    rw [← ht]
    refine functionScope_visit hpart (k := owner) (fun x hx => hspell x (hsubset hx)) ?_
    rw [into_heldSite]
    exact ⟨.inr ⟨rfl, rfl⟩, rfl⟩
  rw [← hwithout] at hcaptured hclass ⊢
  subst hcaptured
  have hleaves : ∀ c ∈ [args, node .sequence s body], c.Leaves m.hook := fun c hc =>
    leaves_of_not_mem hhook.sparse fun hmem => hpart.fresh (identifiers_subset_of_mem hc hmem)
  have hreads : t.ReadsOnly m.hook := ht ▸ functionScope_readsOnly hhook.nonempty _ (hleaves _ (by simp))
    ((hleaves (node .sequence s body) (by simp)).reshaped (reshapes_visit m))
  have hnames : ∀ x, x ∈ (heldAround eager (instrumentBody m d).1.bare m.hook
      ((t.without m.hook).captured around) owner).names ↔ _ := fun x =>
    mem_names_heldAround hinstrumented.bare (heldName_ne hhook h hne) hnone
  refine keepsResolution hreads hhook.notClass (fun x hx hwants => ?_) ((hnames _).2 (.inl rfl))
    (ht ▸ occurs_functionScope_visit _ hpart hshape)
  have hmem : x ∈ (t.without m.hook).captured around ↔ x ∈ around.names := by
    rw [Scope.mem_captured, Scope.mem_captures_iff, Scope.wants_without hx, and_iff_left hwants]
  rw [hnames, hmem]
  refine ⟨fun h => .inr (.inl h), ?_⟩
  rintro (rfl | h | ⟨rfl, howner⟩)
  · exact absurd rfl hx
  · exact h
  · exact hclass (Option.isSome_iff_ne_none.1 howner) ((Scope.wants_without hx).2 hwants)

/-- A function is recompiled in a factory in which its names live where they did. -/
theorem keepsResolution_recompiled {f : LiveFunction} {file : String}
    {program d instrumented : SyntaxTree Span} {sites : List Location} {layers : List Layer}
    {around : Surroundings} {asynchronous : Bool}
    (hd : Nested f.eager program layers around d) (hform : d.form = .functionDef asynchronous f.name)
    (hshape : Shaped .whole d) (hname : IsName f.name) (hpath : f.path = qualifiedName layers f.name)
    (hcaptured : f.captured = (definitionScope (siteIn .file f.eager layers) d).captured around)
    (hne : f.owner ≠ some (freshName (stripDefinition d) hookBase))
    (hclass : innermostClass layers ≠ none →
      (definitionScope (siteIn .file f.eager layers) d).Wants classCell → classCell ∈ around.names)
    (hspell : innermostClass layers = none → classCell ∈ f.captured →
      ∀ x ∈ (stripDefinition d).identifiers, privateName (some scopeName) x = x)
    (h : instrument ⟨file, freshName (stripDefinition d) hookBase⟩ (stripDefinition d) =
      .ok (instrumented, sites)) :
    ∃ factory a t,
      factoryModule instrumented.bare (freshName (stripDefinition d) hookBase) f.captured f.owner =
        .ok (some factory) ∧
      factoryScope? f.eager f.owner.isSome factory = some (t, a) ∧
      (∃ s, lastBlock? (fileScope f.eager factory) = some s ∧ ∀ x ∈ f.captured, x ≠ classCell →
        s.home ((fileScope f.eager factory).offers {}) x = .own) ∧
      (classCell ∈ f.captured → f.owner.isSome) ∧
      KeepsResolution (freshName (stripDefinition d) hookBase) sites f.captured around
        (definitionScope (siteIn .file f.eager layers) d) a t := by
  have hhook := isHook_freshName (stripDefinition d)
  generalize freshName (stripDefinition d) hookBase = hook at *
  obtain ⟨a, s, s', args, returns, body, decorators, rfl, hargs, hbody⟩ := hshape.function hform
  obtain ⟨args', hstripped, hargs'⟩ := stripped_stripDefinition hargs
  have howner := owner_cases hd.isName hname hpath
  have hheld := heldName_ne hhook h hne
  obtain ⟨-, rfl, -⟩ := instrument_ok h
  have hinstrumented := (hstripped.instrumented ⟨file, hook⟩).1.bare
  refine ⟨_, _, _, factoryModule_eq (isName_owner hd.isName hname hpath),
    factoryScope?_factoryFile hinstrumented, ⟨_, lastBlock?_factoryFile _, fun x hx hcell => ?_⟩, ?_, ?_⟩
  · rw [Scope.home_eq_own_iff]
    exact (owns_factoryBlock hinstrumented hheld).2 (.inr ⟨hx, .inl hcell⟩)
  · intro hcell
    obtain ⟨-, hnone⟩ | ⟨-, hsome, -⟩ := howner
    · exact Option.isSome_iff_ne_none.2 fun heq => hnone heq hcell
    · rw [hsome]
      rfl
  · rw [definitionScope, ← hargs'] at hcaptured hclass ⊢
    refine keepsResolution_held (m := ⟨file, hook⟩) hstripped hhook hbody h hne ?_ hcaptured ?_ ?_
    · intro x hx
      obtain ⟨heq, -⟩ | ⟨hnone, hsome, hcell⟩ := howner
      · rw [heq]
      · rw [hsome, hspell hnone hcell x hx, hnone]
        rfl
    · intro hnone
      obtain ⟨-, hcell⟩ | ⟨-, hsome, -⟩ := howner
      · exact hcell hnone
      · rw [hsome] at hnone
        cases hnone
    · intro hsome hwants
      obtain ⟨heq, -⟩ | ⟨-, -, hcell⟩ := howner
      · exact hclass (heq ▸ hsome) hwants
      · rw [hcaptured, Scope.mem_captured] at hcell
        exact (Scope.mem_captures_iff.1 hcell).1

/-! ## Samples -/

/-- A file with a function `outer` of one parameter and these statements. -/
def outerFile (parameter : String) (statements : List (SyntaxTree Span)) : SyntaxTree Span :=
  .node .file {} [sampleSequence [sampleFunction "outer" [parameter] statements []]]

def sampleClass (name : String) (statements : List (SyntaxTree Span)) : SyntaxTree Span :=
  .node (.classDef name) sampleSpan
    [sampleSequence [], sampleSequence [], sampleSequence statements, sampleSequence []]

theorem shaped_sampleSequence {ts : List (SyntaxTree Span)} (h : ∀ t ∈ ts, Shaped .whole t) :
    Shaped .whole (sampleSequence ts) := .plain rfl rfl h

theorem shaped_sampleCall {function : SyntaxTree Span} {args : List (SyntaxTree Span)}
    (h : ∀ t ∈ function :: args, Shaped .whole t) : Shaped .whole (sampleCall function args) := by
  rw [List.forall_mem_cons] at h
  exact .plain rfl rfl (by simp [h.1, shaped_sampleSequence h.2, shaped_sampleSequence])

theorem shaped_sampleRead (id : String) : Shaped .whole (sampleRead id) := .leaf rfl

theorem shaped_sampleMissing : Shaped .whole sampleMissing := .plain rfl rfl (by simp)

theorem shaped_sampleFunction {name : String} {parameters : List String}
    {body decorators : List (SyntaxTree Span)} (hbody : ∀ t ∈ body, Shaped .whole t)
    (hdecorators : ∀ t ∈ decorators, Shaped .whole t) :
    Shaped .whole (sampleFunction name parameters body decorators) := by
  refine .functionDef (.parameters ?_ ?_ .missing ?_ ?_ .missing ?_) (shaped_sampleSequence hbody)
    (shaped_sampleSequence hdecorators) shaped_sampleMissing
  · simp
  · exact List.forall_mem_map.2 fun _ _ => .plainParameter
  · simp
  · exact shaped_sampleSequence (by simp)
  · exact shaped_sampleSequence (by simp)

theorem shaped_loadResult (others : List String) : Shaped .whole (loadResult others) := by
  have hparsed : Shaped .whole (sampleCall (sampleRead "parse") [sampleRead "text"]) :=
    shaped_sampleCall (by simp [shaped_sampleRead])
  have hsite : Shaped .whole loadSite :=
    shaped_sampleCall
      (List.forall_mem_singleton.2 (.plain rfl rfl (List.forall_mem_singleton.2 hparsed)))
  have hothers : ∀ t ∈ others.map sampleRead, Shaped .whole t :=
    List.forall_mem_map.2 fun id _ => shaped_sampleRead id
  cases others with
  | nil => exact hsite
  | cons =>
    refine .plain rfl rfl (List.forall_mem_singleton.2 ?_)
    exact shaped_sampleSequence (List.forall_mem_cons.2 ⟨hsite, hothers⟩)

theorem shaped_loadDefinition (others : List String) : Shaped .whole (loadDefinition others) := by
  refine shaped_sampleFunction (List.forall_mem_singleton.2 (.plain rfl rfl ?_))
    (by simp [shaped_sampleRead])
  exact List.forall_mem_singleton.2
    (shaped_sampleCall (by simp [shaped_sampleRead, shaped_loadResult others]))

/-- What a function `outer` of one parameter, with these statements, offers them in its file. -/
def outerAround (parameter : String) (statements : List (SyntaxTree Span)) : Surroundings :=
  (definitionScope (siteIn .file true []) (sampleFunction "outer" [parameter] statements [])).offers
    ((fileScope true (outerFile parameter statements)).offers {})

theorem isName_outer : IsName "outer" := ⟨by decide, by decide, by decide⟩

theorem nested_outerFile {parameter : String} {statements : List (SyntaxTree Span)} {t : SyntaxTree Span}
    (h : t ∈ statements) : Nested true (outerFile parameter statements) [.function "outer"]
      (outerAround parameter statements) t := by
  have hfile : Nested true (outerFile parameter statements) [] _ (sampleSequence
      [sampleFunction "outer" [parameter] statements []]) := Nested.file.child rfl rfl List.mem_cons_self
  exact (Nested.inFunction isName_outer (hfile.child rfl rfl List.mem_cons_self)).child rfl rfl h

/-- `load` as a method of a class in a function that has the variable `parse`. -/
def readerLoad : LiveFunction where
  name := "load"
  path := "outer.<locals>.Reader.load"
  file := "prog.py"
  line := 3
  captured := ["parse"]

def readerClass : SyntaxTree Span := sampleClass "Reader" [loadDefinition []]

theorem isName_load : IsName "load" := ⟨by decide, by decide, by decide⟩

/-- What is offered to the method. -/
def readerAround : Surroundings :=
  (classScope (siteIn .file true [.function "outer"]) "Reader"
    (sampleSequence [loadDefinition []])).offers (outerAround "parse" [readerClass])

theorem nested_readerClass :
    Nested true (outerFile "parse" [readerClass]) [.classBody "Reader", .function "outer"] readerAround
      (loadDefinition []) := by
  have hclass : Nested true (outerFile "parse" [readerClass]) [.function "outer"] _ readerClass :=
    nested_outerFile List.mem_cons_self
  exact (Nested.inClass isName_reader hclass).child rfl rfl List.mem_cons_self

theorem captured_readerClass :
    (definitionScope (siteIn .file true [.classBody "Reader", .function "outer"])
      (loadDefinition [])).captured readerAround = ["parse"] := by
  have h : (definitionScope (siteIn .file true [.classBody "Reader", .function "outer"])
      (loadDefinition [])).captures readerAround = ["parse"] := by decide +kernel
  rw [Scope.captured, h, sortedNames, List.mergeSort_singleton]
  rfl

theorem classCell_mem_readerAround : classCell ∈ readerAround.names := by
  have h : readerAround.names = ["__class__", "parse", "Reader"] := by decide
  rw [h]
  exact List.mem_cons_self

theorem path_readerLoad :
    readerLoad.path = qualifiedName [.classBody "Reader", .function "outer"] readerLoad.name := by
  decide

theorem owner_readerLoad : readerLoad.owner = some "Reader" := by
  obtain ⟨howner, -⟩ | ⟨hnone, -⟩ := owner_cases (f := readerLoad)
    (by simp [Layer.name, isName_reader, isName_outer]) isName_load path_readerLoad
  · exact howner
  · cases hnone

/-- The method captures the variable of the function, in the class of its name. -/
theorem keepsResolution_recompiled_reader :
    let d := loadDefinition []
    let hook := freshName (stripDefinition d) hookBase
    ∃ around instrumented factory a t,
      Nested true (outerFile "parse" [readerClass]) [.classBody "Reader", .function "outer"] around d ∧
      instrument ⟨"prog.py", hook⟩ (stripDefinition d) = .ok (instrumented, [⟨"prog.py", 4⟩]) ∧
      factoryModule instrumented.bare hook ["parse"] (some "Reader") = .ok (some factory) ∧
      factoryScope? true true factory = some (t, a) ∧
      KeepsResolution hook [⟨"prog.py", 4⟩] ["parse"] around
        (definitionScope (siteIn .file true [.classBody "Reader", .function "outer"]) d) a t := by
  intro d hook
  obtain ⟨instrumented, h⟩ := instrument_loadDefinition
  rw [← freshName_loadDefinition] at h
  have hne : readerLoad.owner ≠ some hook := by
    rw [owner_readerLoad, show hook = hookBase from freshName_loadDefinition]
    decide
  obtain ⟨factory, a, t, hfactory, hscope, -, -, hkeeps⟩ :=
    keepsResolution_recompiled (f := readerLoad) nested_readerClass rfl (shaped_loadDefinition [])
      isName_load path_readerLoad captured_readerClass.symm hne
      (fun _ _ => classCell_mem_readerAround) (fun hnone => by cases hnone) h
  rw [owner_readerLoad] at hfactory hscope
  exact ⟨_, instrumented, factory, a, t, nested_readerClass, h, hfactory, hscope, hkeeps⟩

/-- `load` in a function that has variables of the names that it uses. -/
def cellLoad : LiveFunction where
  name := "load"
  path := "outer.<locals>.load"
  file := "prog.py"
  line := 3
  captured := ["__class__", "__x"]

/-- `__class__ = 'k'`, and a function that uses the variable. -/
def cellStatements : List (SyntaxTree Span) :=
  [.node .assign sampleSpan [sampleSequence [.node (.name "__class__" .store) sampleSpan []],
      .node (.constant (.str (.ofList ['k'])) none) sampleSpan []],
    loadDefinition ["__x", "__class__"]]

theorem captured_cellLoad :
    (definitionScope (siteIn .file true [.function "outer"])
      (loadDefinition ["__x", "__class__"])).captured (outerAround "__x" cellStatements) =
        ["__class__", "__x"] := by
  have h : (definitionScope (siteIn .file true [.function "outer"])
      (loadDefinition ["__x", "__class__"])).captures (outerAround "__x" cellStatements) =
        ["__x", "__class__"] := by decide
  have hle : ¬ "__x" ≤ "__class__" := by decide
  rw [Scope.captured, h, sortedNames]
  simp [List.mergeSort, List.MergeSort.Internal.splitInTwo, hle]
  decide

theorem freshName_cellLoad :
    freshName (stripDefinition (loadDefinition ["__x", "__class__"])) hookBase = hookBase := by
  cbv

theorem path_cellLoad : cellLoad.path = qualifiedName [.function "outer"] cellLoad.name := by decide

theorem owner_cellLoad : cellLoad.owner = some scopeName := by
  obtain ⟨hnone, hcell⟩ | ⟨-, howner, -⟩ := owner_cases (f := cellLoad)
    (by simp [Layer.name, isName_outer]) isName_load path_cellLoad
  · exact absurd List.mem_cons_self (hcell hnone)
  · exact howner

/-- The name of the variable in the class that the recompiled code stands in. -/
theorem privateName_scopeName : privateName (some scopeName) "__x" = "_wherr_scope____x" := by
  have hstart : "__x".startsWith "__" = true := by decide +kernel
  have hend : "__x".endsWith "__" = false := by decide +kernel
  have hstem : (scopeName.toList.dropWhile (· = '_')).isEmpty = false := by decide
  have hcontains : "__x".contains '.' = false := by simp
  rw [privateName]
  simp only [hstart, hend, hstem, hcontains]
  decide

/-- In the class that its recompiled code stands in the function has no variable `__x`. -/
theorem not_wants_cellLoad : ¬ (definitionScope (heldSite true (some scopeName))
    (loadDefinition ["__x", "__class__"])).Wants "__x" := by
  have hscope : definitionScope (heldSite true (some scopeName)) (loadDefinition ["__x", "__class__"]) =
      .node .function (⟨.parameter, privateName (some scopeName) "text", false⟩ ::
        ["Ok", "parse", "text", "__x", "__class__"].map fun x =>
          ⟨.read, privateName (some scopeName) x, false⟩) true [] := rfl
  have hspelled :
      ["text", "Ok", "parse", "text", "__x", "__class__"].map (privateName (some scopeName)) =
      ["text", "Ok", "parse", "text", "_wherr_scope____x", "__class__"] := by
    have hsparse : ∀ x ∈ ["text", "Ok", "parse"], privateName (some scopeName) x = x := fun x hx =>
      ((by decide : ∀ x ∈ ["text", "Ok", "parse"], Sparse x) x hx).privateName_eq
    have hclass : privateName _ "__class__" = "__class__" := privateName_classVariable (some scopeName)
    simp [hsparse, privateName_scopeName, hclass]
  rw [hscope]
  intro hwants
  obtain hname | ⟨hs, -⟩ := hwants.occurs
  · obtain ⟨m, hm, hname⟩ := Scope.mem_names.1 hname
    have hmem := List.mem_map_of_mem (f := Mention.name) hm
    rw [hname] at hmem
    have hmem : "__x" ∈ ["text", "Ok", "parse", "text", "__x", "__class__"].map
        (privateName (some scopeName)) := hmem
    rw [hspelled] at hmem
    revert hmem
    decide
  · cases hs

/-- The variable `__x` is captured, but it is not what the recompiled code means by the name. -/
theorem not_keepsResolution_recompiled :
    let d := loadDefinition ["__x", "__class__"]
    let hook := freshName (stripDefinition d) hookBase
    let around := outerAround "__x" cellStatements
    ∃ instrumented factory a t,
      Nested true (outerFile "__x" cellStatements) [.function "outer"] around d ∧
      cellLoad.path = qualifiedName [.function "outer"] cellLoad.name ∧
      cellLoad.captured = (definitionScope (siteIn .file true [.function "outer"]) d).captured around ∧
      cellLoad.owner ≠ some hook ∧
      instrument ⟨"prog.py", hook⟩ (stripDefinition d) = .ok (instrumented, [⟨"prog.py", 4⟩]) ∧
      factoryModule instrumented.bare hook cellLoad.captured cellLoad.owner = .ok (some factory) ∧
      factoryScope? true cellLoad.owner.isSome factory = some (t, a) ∧
      ¬ KeepsResolution hook [⟨"prog.py", 4⟩] cellLoad.captured around
        (definitionScope (siteIn .file true [.function "outer"]) d) a t := by
  intro d hook around
  have hhook : hook = hookBase := freshName_cellLoad
  rw [hhook, owner_cellLoad]
  have hname : ∀ o ∈ some scopeName, IsName o := by
    rintro o ⟨⟩
    exact isName_scopeName
  let body := [node .returnStmt sampleSpan
    [sampleCall (sampleRead "Ok") [loadResult ["__x", "__class__"]]]]
  have hstripped : Stripped "load" (d.child 0) (node .sequence {} body) (stripDefinition d) :=
    ⟨⟨false, _, _, _, rfl⟩, fun _ => rfl, fun _ => rfl⟩
  have hheld := (hstripped.instrumented ⟨"prog.py", hookBase⟩).1.bare
  refine ⟨_, _, _, _, nested_outerFile (by simp [cellStatements, d]), path_cellLoad,
    captured_cellLoad.symm, by decide, rfl, factoryModule_eq hname, factoryScope?_factoryFile hheld,
    fun hkeeps => ?_⟩
  have hpart : IsHook (node .sequence {} [d.child 0, node .sequence {} body]) hookBase :=
    { hhook ▸ isHook_freshName (stripDefinition d) with fresh := by decide }
  have hcaptured := (hkeeps.captures "__x").2 (.inl (by decide))
  rw [functionScope_bare, Scope.mem_captured, Scope.mem_captures_iff,
    ← Scope.wants_without (n := hookBase) (by decide),
    functionScope_visit (m := ⟨"prog.py", hookBase⟩) (o := none) (k := none)
      (p := heldSite true (some scopeName)) hpart (fun _ _ => rfl) ⟨.inl rfl, rfl⟩] at hcaptured
  exact not_wants_cellLoad hcaptured.2

end ErrorTrail
