import ErrorTrail.Proofs.Program.Annotation
import ErrorTrail.Proofs.Site.Failing
import ErrorTrail.Proofs.Site.Idempotence
import ErrorTrail.Proofs.Syntax.Yields

/-!
# Generators in the build step

The annotation refuses a function that gives a generator. The build step does not look for `yield`: it has
no refusal for what is not supported (`code_ne_unsupported`), and puts the boundary around an annotated
function that gives a generator as around any other (`builds_generator`).

Its statements still yield then (`yieldsAlso_inside`), except where an annotation of a function inside
yields and makes room for the boundary.
-/

namespace ErrorTrail

open Syntax SyntaxTree Occurrence

variable {file package : String}

/-! ## Instrumented statements yield -/

/-- An instrumented site yields what its receiver yields. -/
theorem yieldsAlso_site {m : Marking} {call word args named a none_ : Span} {ctx : Context} {r r' : SyntaxTree Span}
    (h : YieldsAlso r r') (line : Int) :
    YieldsAlso (site call ctx word args named r) (m.inject a none_ r' line) := by
  have htree : ∀ {s s' : Standing}, s.eager = s'.eager →
      (judge s (site call ctx word args named r)).yields → (judge s' (m.inject a none_ r' line)).yields := by
    intro s s' hs hyields
    have hr : (judge s r).yields := by simpa [site, judge, judgeList, judgeElements, judgeEachElement] using hyields
    have hr' : (judgeEachElement s' [r']).yields := h.element hs (yields_element hr)
    have hargs : (judgeEachElement s' [r', node (.constant (.str m.file) none) a [],
        node (.constant (.int line) none) a []]).yields := by
      rw [yields_judgeEachElement_cons, hr', Bool.true_or]
    simp [Marking.inject, Marking.hookCall, judge, judgeList, judgeElements, hargs]
  have hparts : ∀ {s s' : Standing}, s.eager = s'.eager →
      (judgeParts s (site call ctx word args named r)).yields → (judgeParts s' (m.inject a none_ r' line)).yields := by
    intro s s' hs hyields
    have hcall := htree hs (by simpa [site, judgeParts, judge, judgeList, judgeElements, judgeEachElement] using hyields)
    simpa [Marking.inject, judgeParts, judge, judgeList, judgeElements, judgeEachElement] using hcall
  exact
    { form := rfl
      tree := htree
      elements := fun _ => id
      element := fun hs => by simpa [judgeEachElement, site, Marking.inject] using htree hs
      parts := hparts
      defaults := fun _ => id
      annotations := fun _ => id
      first := fun _ => id }

/-- Whether no annotation yields, be hints evaluated or not. -/
def Syntax.SyntaxTree.annotationsQuiet (t : SyntaxTree Span) : Bool :=
  t.subtrees.all fun u => (decoratorsOf u).all fun d =>
    !isMarker d || [true, false].all fun eager => !(judge { eager } d).yields

theorem annotationsQuiet_node {f : Form} {a : Span} {cs : List (SyntaxTree Span)} :
    (node f a cs).annotationsQuiet ↔
      (∀ d ∈ decoratorsOf (node f a cs), isMarker d → ∀ eager, (judge { eager } d).yields = false) ∧
        ∀ c ∈ cs, c.annotationsQuiet := by
  simp only [annotationsQuiet, subtrees_node, List.all_cons, List.all_flatMap, Bool.and_eq_true, List.all_eq_true,
    Bool.or_eq_true, Bool.not_eq_true']
  refine and_congr_left fun _ => forall_congr' fun d => forall_congr' fun _ => ?_
  cases isMarker d <;> simp [and_comm]

theorem yieldsAlso_other {f : Form} {a : Span} {cs : List (SyntaxTree Span)}
    (hsite : (node f a cs).propagation? = none) (hf : isFunctionForm f = false)
    (h : ∀ c ∈ cs, YieldsAlso c (inside file package c)) :
    YieldsAlso (node f a cs) (inside file package (node f a cs)) := by
  rw [inside_other hsite hf]
  refine .node ?_
  rw [List.forall₂_map_right_iff, List.forall₂_same]
  exact h

/-- What defines nothing still yields inside an annotated function. -/
theorem yieldsAlso_of_definesNothing {t : SyntaxTree Span} (h : t.definesNothing) :
    YieldsAlso t (inside file package t) := by
  revert h
  induction t using siteInduction with
  | atSite call ctx word args named r ih =>
    intro h
    have hr : r.definesNothing := definesNothing_of_site h
    rw [inside_site]
    exact yieldsAlso_site (ih hr) _
  | other f a cs hsite ih =>
    intro h
    obtain ⟨hdefinition, hcs⟩ := definesNothing_node.1 h
    have hf : isFunctionForm f = false := (Bool.or_eq_false_iff.1 hdefinition).1
    exact yieldsAlso_other hsite hf fun c hc => ih c hc (hcs c hc)

/-- The decorators of a function inside yield, unless an annotation did. -/
theorem yields_boundaries {s s' : Standing} (hs : s.eager = s'.eager) {ds : List (SyntaxTree Span)}
    (hquiet : ∀ d ∈ ds, isMarker d → ∀ eager, (judge { eager } d).yields = false)
    (h : ∀ d ∈ ds, YieldsAlso d (inside file package d)) :
    (judgeList s ds).yields →
      (judgeList s' (ds.map fun d => boundaryFor package (inside file package d))).yields := by
  induction ds with
  | nil => exact id
  | cons d ds ih =>
    rw [List.forall_mem_cons] at hquiet h
    simp only [List.map_cons, judgeList, Verdict.yields_and, Bool.or_eq_true]
    refine Or.imp (fun hd => ?_) (ih hquiet.2 h.2)
    by_cases hmarker : isMarker d
    · have heager : s.eager = ({ eager := s.eager } : Standing).eager := rfl
      have hyields : (judge { eager := s.eager } d).yields := (YieldsAlso.refl d).tree heager hd
      rw [hquiet.1 hmarker s.eager] at hyields
      cases hyields
    · rw [boundaryFor, isMarker_congr (form_inside d), if_neg hmarker]
      exact h.1.tree hs hd

/-- What the build step makes of the statements of an annotated function still yields, unless an annotation
in there did. -/
theorem yieldsAlso_inside {t : SyntaxTree Span} (h : t.definesInBodies) (hquiet : t.annotationsQuiet) :
    YieldsAlso t (inside file package t) := by
  revert hquiet
  induction t, h using insideInduction with
  | atSite call ctx word args named r _ _ ih =>
    intro hquiet
    have hr : r.annotationsQuiet := by
      simp only [site, annotationsQuiet_node, List.forall_mem_cons] at hquiet
      exact hquiet.2.1.2.1
    rw [inside_site]
    exact yieldsAlso_site (ih hr) _
  | function asynchronous name a args b body s decorators returns hargs hdecorators hreturns _ _ ih =>
    intro hquiet
    obtain ⟨hmarkers, hparts⟩ := annotationsQuiet_node.1 hquiet
    have hbody := ih (node .sequence b body) (by simp) (hparts _ (by simp))
    rw [inside_function]
    refine .function (yieldsAlso_of_definesNothing hargs) hbody (yieldsAlso_of_definesNothing hreturns) ?_
    exact fun hs => yields_boundaries hs hmarkers fun d hd => yieldsAlso_of_definesNothing (hdecorators d hd)
  | other f a cs hsite hf _ _ ih =>
    exact fun hquiet => yieldsAlso_other hsite hf fun c hc =>
      ih c hc ((annotationsQuiet_node.1 hquiet).2 c hc)

/-! ## Functions of the built file -/

/-- An annotated function inside another one is there when that one is done. -/
theorem mem_functions_inside {t u : SyntaxTree Span} (h : t.definesInBodies) (hu : u ∈ t.functions) :
    inside file package u ∈ (inside file package t).functions := by
  revert hu
  induction t, h using insideInduction with
  | atSite call ctx word args named r _ _ ih =>
    rw [functions_site, inside_site, functions_inject]
    exact ih
  | function asynchronous name a args b body s decorators returns hargs hdecorators hreturns _ _ ih =>
    have hdone : ∀ d ∈ decorators.map (fun d => boundaryFor package (inside file package d)), d.definesNothing := by
      simpa using fun d hd => definesNothing_boundaryFor (definesNothing_inside (hdecorators d hd))
    have hbody := ih (node .sequence b body) (by simp)
    rw [inside_sequence, functions_other rfl, functions_other rfl] at hbody
    rw [functions_function hargs hdecorators hreturns, inside_function, inside_sequence,
      functions_function (definesNothing_inside hargs) hdone (definesNothing_inside hreturns)]
    intro hu
    rcases List.mem_cons.1 hu with rfl | hmem
    · rw [inside_function, inside_sequence]
      exact List.mem_cons_self
    · exact List.mem_cons_of_mem _ (hbody hmem)
  | other f a cs hsite hf _ _ ih =>
    rw [inside_other hsite hf, functions_other hf, functions_other hf]
    intro hu
    obtain ⟨c, hc, huc⟩ := List.mem_flatMap.1 hu
    exact List.mem_flatMap.2 ⟨_, List.mem_map_of_mem hc, ih c hc huc⟩

/-- An annotated function of a file is there when the file is done, as one that stands in no other annotated
function or as one that does. -/
theorem mem_functions_enclosed {t u : SyntaxTree Span} (h : t.definesInBodies) (hu : u ∈ t.functions)
    (hann : isAnnotatedFunction u) :
    enclosed file package u ∈ (enclosed file package t).functions ∨
      inside file package u ∈ (enclosed file package t).functions := by
  revert hu
  induction t, h using enclosedInduction with
  | annotated asynchronous name a args b body s decorators returns hf hargs hdecorators hreturns hbody _ =>
    have hdone : ∀ d ∈ decorators.map (boundaryFor package), d.definesNothing := by
      simpa using fun d hd => definesNothing_boundaryFor (hdecorators d hd)
    have hself : enclosed file package (node (.functionDef asynchronous name) a
        [args, node .sequence b body, node .sequence s decorators, returns]) = _ :=
      enclosed_function hf hargs hdecorators hreturns
    rw [functions_function hargs hdecorators hreturns]
    intro hu
    rcases List.mem_cons.1 hu with rfl | hmem
    · rw [hself, functions_function hargs hdone hreturns]
      exact .inl List.mem_cons_self
    · obtain ⟨c, hc, huc⟩ := List.mem_flatMap.1 hmem
      rw [hself, functions_function hargs hdone hreturns]
      refine .inr (List.mem_cons_of_mem _ (List.mem_flatMap.2 ⟨_, List.mem_map_of_mem hc, ?_⟩))
      exact mem_functions_inside (hbody c hc) huc
  | other f a cs hf _ _ ih =>
    rw [enclosed_other hf, functions_node, functions_node]
    intro hu
    rcases List.mem_append.1 hu with hroot | hmem
    · split at hroot
      · obtain rfl := List.mem_singleton.1 hroot
        rw [hf] at hann
        cases hann
      · cases hroot
    · obtain ⟨c, hc, huc⟩ := List.mem_flatMap.1 hmem
      have hchild : ∀ {v}, v ∈ (enclosed file package c).functions →
          v ∈ (cs.map (enclosed file package)).flatMap functions := fun hv =>
        List.mem_flatMap.2 ⟨_, List.mem_map_of_mem hc, hv⟩
      exact (ih c hc huc).imp (fun hv => List.mem_append_right _ (hchild hv))
        fun hv => List.mem_append_right _ (hchild hv)

/-- Where a function is annotated, one is that stands in no annotated function. -/
theorem exists_outermost {t u : SyntaxTree Span} {above : List (SyntaxTree Span)}
    (habove : ∀ s ∈ above, isAnnotatedFunction s = false) (hu : u ∈ t.subtrees) (hann : isAnnotatedFunction u) :
    ∃ o ∈ t.occurrencesIn above, o.isOutermost := by
  induction t generalizing above with
  | node f a cs ih =>
    rw [occurrencesIn_node]
    by_cases hroot : isAnnotatedFunction (node f a cs)
    · refine ⟨_, List.mem_cons_self, ?_⟩
      simpa [isOutermost, isExposed, hroot] using habove
    · rw [subtrees_node] at hu
      rcases List.mem_cons.1 hu with rfl | hmem
      · exact absurd hann hroot
      · obtain ⟨c, hc, huc⟩ := List.mem_flatMap.1 hmem
        have habove' : ∀ s ∈ above ++ [node f a cs], isAnnotatedFunction s = false := by
          simpa [or_imp, forall_and, hroot] using habove
        obtain ⟨o, ho, houtermost⟩ := ih c hc habove' huc
        exact ⟨o, List.mem_cons_of_mem _ (List.mem_flatMap.2 ⟨c, hc, ho⟩), houtermost⟩

theorem isMarker_boundaryFor (d : SyntaxTree Span) : isMarker (boundaryFor package d) = false := by
  unfold boundaryFor
  split
  · exact isMarker_boundary d.ann package
  · next h => simpa using h

/-- What is left of an annotated function in the built file: its statements are instrumented and there is a
boundary in the place of its annotation. -/
theorem exists_function_enclosed (file package : String) {asynchronous : Bool} {name : String} {a b s : Span}
    {args returns t : SyntaxTree Span} {body decorators : List (SyntaxTree Span)} (h : t.definesInBodies)
    (hu : node (.functionDef asynchronous name) a
      [args, node .sequence b body, node .sequence s decorators, returns] ∈ t.functions)
    (hann : decorators.any isMarker) :
    ∃ args' decorators' returns',
      node (.functionDef asynchronous name) a [args', node .sequence b (body.map (inside file package)),
        node .sequence s decorators', returns'] ∈ (enclosed file package t).functions ∧
      (∀ d ∈ decorators', isMarker d = false) ∧
      ∃ d ∈ decorators, isMarker d ∧ hookExpr d.ann (package ++ ".early_return") ∈ decorators' := by
  obtain ⟨d, hd, hmarker⟩ := List.any_eq_true.1 hann
  have hparts : (node (.functionDef asynchronous name) a
      [args, node .sequence b body, node .sequence s decorators, returns]).hasParts :=
    List.all_eq_true.1 h _ (List.mem_filter.1 hu).1
  simp only [hasParts, Bool.and_eq_true, List.all_eq_true] at hparts
  obtain ⟨⟨hargs, hdecorators⟩, hreturns⟩ := hparts
  rcases mem_functions_enclosed h hu hann with hmem | hmem
  · rw [enclosed_function hann hargs hdecorators hreturns] at hmem
    refine ⟨_, _, _, hmem, ?_, d, hd, hmarker, List.mem_map.2 ⟨d, hd, if_pos hmarker⟩⟩
    simp [isMarker_boundaryFor]
  · rw [inside_function, inside_sequence] at hmem
    have hboundary : boundaryFor package (inside file package d) = hookExpr d.ann (package ++ ".early_return") := by
      rw [boundaryFor, isMarker_congr (form_inside d), if_pos hmarker, ann_inside_of_isMarker hmarker]
    refine ⟨_, _, _, hmem, ?_, d, hd, hmarker, List.mem_map.2 ⟨d, hd, hboundary⟩⟩
    simp [isMarker_boundaryFor]

/-! ## The build step and the annotation -/

/-- Whether a tree is a function whose call gives a generator. -/
def isGeneratorTree (eager : Bool) : SyntaxTree Span → Bool
  | .node (.functionDef _ _) _ [_, body, _, _] => generates eager body
  | _ => false

section

variable {host : Host} {source : String}

/-- No file is refused because something in it is not supported. -/
theorem code_ne_unsupported {r : Refusal} (h : transformSource host source file = .error (.refused r)) :
    r.code ≠ .unsupported := by
  cases transformSource_eq_error_iff.1 h with
  | enclosing hfails => cases hfails <;> simp [classRefusal, Refusal.because]
  | inadmissible => simp [Refusal.because]

/-- A function that gives a generator is refused by the annotation. The build step does not refuse it: it
lists the sites of the file and builds a text of a tree where the function has the boundary in the place of
its annotation, around statements that yield as before. -/
theorem builds_generator {shown : String} {settings : Settings} {tree t : SyntaxTree Span} {eager : Bool}
    (hname : file.contains (Char.ofNat 0) = false) (hnull : source.contains (Char.ofNat 0) = false)
    (hparse : parseFile source = .ok tree) (hsettings : Settings.load host.sources = .ok settings)
    (hshown : displayPath host.directory settings.pathStyle settings.pathRoot file = .ok shown)
    (hclass : tree.exposedClass? = none) (ht : t ∈ tree.functions) (hann : isAnnotatedFunction t)
    (hgenerator : isGeneratorTree eager t) :
    ∃ asynchronous name a args b body s decorators returns,
      t = node (.functionDef asynchronous name) a
        [args, node .sequence b body, node .sequence s decorators, returns] ∧
      (∀ (world : World) (n : Nat) (env : Env) (path : String) (line : Nat) (defaults : List Value × Fields)
        (fields : Fields) (store : Store), env.site.eager = eager → name ≠ Target.lambdaName → path ≠ "" →
        fields.lookup LibraryFunction.marker = none →
        ∃ e store', Act.exec (do
            let f ← Machine.newFunction env name path args (node .sequence b body) asynchronous line defaults fields
            Annotate.annotate (Machine.ofDepth world (n + 1)) f) store = (.error (.raised (.ref e)), store') ∧
          store'.objects[e]? = some (refusalError (generatorRefusal path))) ∧
      ∃ done, encloseSource host source file = .ok done ∧
        findSites host source file = .ok done.record.sites ∧
        (∀ built, transformSource host source file = .ok built →
          ∃ text, (insertImport done.package done.tree).print = .ok text ∧ built.text = text ++ "\n") ∧
        (∀ r, transformSource host source file = .error (.refused r) → r.code = .compileFailed) ∧
        ∃ args' decorators' returns',
          let body' := body.map (inside shown done.package)
          node (.functionDef asynchronous name) a
            [args', node .sequence b body', node .sequence s decorators', returns'] ∈ done.tree.functions ∧
          (∀ d ∈ decorators', isMarker d = false) ∧
          (∃ d ∈ decorators, isMarker d ∧ hookExpr d.ann (done.package ++ ".early_return") ∈ decorators') ∧
          ((node .sequence b body).annotationsQuiet → generates eager (node .sequence b body')) := by
  have hbodies : tree.definesInBodies := definesInBodies_parseFile hparse
  obtain ⟨hmem, hform⟩ := List.mem_filter.1 ht
  obtain ⟨asynchronous, name, a, args, b, body, s, decorators, returns, rfl, -, -, -⟩ :=
    eq_of_hasParts (List.all_eq_true.1 hbodies t hmem) hform
  have henclose := encloseSource_eq hname hnull hparse hsettings hshown
  rw [hclass] at henclose
  refine ⟨asynchronous, name, a, args, b, body, s, decorators, returns, rfl, ?_, _, henclose, ?_, ?_, ?_, ?_⟩
  · rintro world n env path line defaults fields store rfl hlambda hpath hmarker
    exact exec_annotate_generator hlambda hpath hmarker hgenerator
  · rw [findSites, henclose]
    rfl
  · obtain ⟨o, ho, houtermost⟩ : ∃ o ∈ tree.occurrences, o.isOutermost := exists_outermost (by simp) hmem hann
    have hfunctions : (recordOf shown (tree.occurrences.filter isOutermost)).functions ≠ [] :=
      List.ne_nil_of_mem (List.mem_map_of_mem (List.mem_filter.2 ⟨ho, houtermost⟩))
    exact fun built hbuilt => text_of_transformSource henclose hfunctions hbuilt
  · exact fun r hr => code_of_transformSource henclose hr
  · obtain ⟨args', decorators', returns', hdone, hmarkers, hboundary⟩ :=
      exists_function_enclosed shown (freshName tree aliasBase) hbodies ht hann
    refine ⟨args', decorators', returns', hdone, hmarkers, hboundary, fun hquiet => ?_⟩
    have hfunction : (node (.functionDef asynchronous name) a
        [args, node .sequence b body, node .sequence s decorators, returns]).definesInBodies :=
      List.all_eq_true.2 fun u hu => List.all_eq_true.1 hbodies u (mem_subtrees_trans hu hmem)
    have hbody := (definesInBodies_node.1 hfunction).2 (node .sequence b body) (by simp)
    have halso := @yieldsAlso_inside shown (freshName tree aliasBase) _ hbody hquiet
    rw [inside_sequence] at halso
    exact halso.tree rfl hgenerator

end

/-! ## A generator function -/

/-- An annotated function whose call gives a generator. -/
def annotatedGenerator : String := "@wherr\ndef numbers(x):\n    yield x\n"

/-- The file reads, has no annotated class, and no annotation in it yields. -/
theorem exists_annotatedGenerator :
    ∃ tree t, parseFile annotatedGenerator = .ok tree ∧ tree.exposedClass? = none ∧ tree.annotationsQuiet ∧
      t ∈ tree.functions ∧ isAnnotatedFunction t ∧ isGeneratorTree true t := by
  have hread : (parseFile annotatedGenerator).map (fun tree => tree.exposedClass?.isNone && tree.annotationsQuiet &&
      tree.functions.any fun t => isAnnotatedFunction t && isGeneratorTree true t) = .ok true := by
    decide +kernel
  obtain ⟨tree, hparse, hall⟩ := exists_of_map_parseFile hread
  rw [Bool.and_eq_true, Bool.and_eq_true, List.any_eq_true, Option.isNone_iff_eq_none] at hall
  obtain ⟨⟨hclass, hquiet⟩, t, ht, hboth⟩ := hall
  obtain ⟨hann, hgenerator⟩ := Bool.and_eq_true_iff.1 hboth
  exact ⟨tree, t, hparse, hclass, hquiet, ht, hann, hgenerator⟩

theorem null_not_annotatedGenerator : annotatedGenerator.contains (Char.ofNat 0) = false := by
  simp [annotatedGenerator]

/-- The build step builds a file with a function that the annotation refuses. -/
theorem builds_generator_numbers :
    ∃ tree t, parseFile annotatedGenerator = .ok tree ∧ tree.exposedClass? = none ∧ t ∈ tree.functions ∧
      isAnnotatedFunction t ∧ isGeneratorTree true t ∧
      ∃ done, encloseSource directoryHost annotatedGenerator "prog.py" = .ok done ∧
        findSites directoryHost annotatedGenerator "prog.py" = .ok done.record.sites ∧
        ∃ u ∈ done.tree.functions, isAnnotated u = false ∧ isGeneratorTree true u := by
  obtain ⟨tree, t, hparse, hclass, hquiet, ht, hann, hgenerator⟩ := exists_annotatedGenerator
  obtain ⟨asynchronous, name, a, args, b, body, s, decorators, returns, rfl, -, done, hdone, hfound, -, -, args',
    decorators', returns', hmem, hmarkers, -, hyields⟩ :=
    builds_generator (by simp) null_not_annotatedGenerator hparse load_directoryHost displayPath_directoryHost
      hclass ht hann hgenerator
  have hbody : (node .sequence b body).annotationsQuiet := by
    refine List.all_eq_true.2 fun u hu => List.all_eq_true.1 hquiet u ?_
    exact mem_subtrees_trans (mem_subtrees_of_mem (by simp) hu) (List.mem_filter.1 ht).1
  refine ⟨tree, _, hparse, hclass, ht, hann, hgenerator, done, hdone, hfound, _, hmem, ?_, hyields hbody⟩
  exact List.any_eq_false.2 fun d hd => by simp [hmarkers d hd]

/-- The build step does not refuse what the annotation refuses. -/
theorem not_refuses_generator :
    ¬ ∀ (host : Host) (source file shown : String) (settings : Settings) (tree t : SyntaxTree Span),
      file.contains (Char.ofNat 0) = false → source.contains (Char.ofNat 0) = false →
      parseFile source = .ok tree → Settings.load host.sources = .ok settings →
      displayPath host.directory settings.pathStyle settings.pathRoot file = .ok shown →
      t ∈ tree.functions → isAnnotatedFunction t → isGeneratorTree true t →
      (∃ r, r.code = .unsupported ∧ transformSource host source file = .error (.refused r)) ∧
        ∃ r, r.code = .unsupported ∧ findSites host source file = .error (.refused r) := by
  intro h
  obtain ⟨tree, t, hparse, -, -, ht, hann, hgenerator⟩ := exists_annotatedGenerator
  obtain ⟨⟨r, hcode, hr⟩, -⟩ := h directoryHost _ "prog.py" _ {} tree t (by simp) null_not_annotatedGenerator
    hparse load_directoryHost displayPath_directoryHost ht hann hgenerator
  exact code_ne_unsupported hr hcode

end ErrorTrail
