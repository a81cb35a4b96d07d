import ErrorTrail.Proofs.Site.Boundaries
import ErrorTrail.Proofs.Syntax.Plain

/-!
# The build step leaves nothing to do

`functions` lists the functions of a tree in the order in which they are written. The build step keeps
them and their decorators in order, has the boundary in the place of each annotation, and instruments the
other decorators where they stand inside an annotated function (`headers_enclosed`). So nothing in its
result carries the annotation, and such a file stays as it is (`encloseFile_of_unannotated`).
-/

namespace ErrorTrail

open Syntax SyntaxTree Occurrence

variable {α : Type}

/-! ## Files without annotations -/

/-- Only functions and classes are annotated. -/
theorem isAnnotated_eq (t : SyntaxTree α) :
    isAnnotated t = (isAnnotatedFunction t || isAnnotatedClass t) := by
  obtain ⟨f, a, cs⟩ := t
  cases f with
  | functionDef asynchronous name => simp [isAnnotatedFunction, isAnnotatedClass, isFunctionForm, isClassForm]
  | classDef name => simp [isAnnotatedFunction, isAnnotatedClass, isFunctionForm, isClassForm]
  | _ => rfl

variable {file package : String}

/-- A tree without annotated functions stays as it is. -/
theorem enclosed_eq_self {t : SyntaxTree Span} (h : ∀ s ∈ t.subtrees, isAnnotatedFunction s = false) :
    enclosed file package t = t := by
  induction t with
  | node f a cs ih =>
    rw [enclosed_other (h _ (self_mem_subtrees _)),
      List.map_congr_left fun c hc => ih c hc fun s hs => h s (mem_subtrees_of_mem hc hs), List.map_id']

theorem enclosed_of_definesNothing {t : SyntaxTree Span} (h : t.definesNothing) :
    enclosed file package t = t := by
  refine enclosed_eq_self fun s hs => ?_
  rw [isAnnotatedFunction, (form_of_definesNothing h hs).1, Bool.false_and]

/-- A tree in which nothing is annotated stays as it is, and nothing is recorded. -/
theorem encloseFile_of_unannotated {t : SyntaxTree Span} (h : ∀ s ∈ t.subtrees, isAnnotated s = false) :
    encloseFile file package t = .ok (t, {}) := by
  have hfunction : ∀ s ∈ t.subtrees, isAnnotatedFunction s = false := fun s hs =>
    (Bool.or_eq_false_iff.1 ((isAnnotated_eq s).symm.trans (h s hs))).1
  have hclass : t.annotatesNoClass := by
    refine List.all_eq_true.2 fun s hs => ?_
    simp [(Bool.or_eq_false_iff.1 ((isAnnotated_eq s).symm.trans (h s hs))).2]
  have houtermost : t.occurrences.filter isOutermost = [] := by
    refine List.filter_eq_nil_iff.2 fun o ho => ?_
    simp [isOutermost, hfunction _ (mem_subtrees_of_mem_occurrencesIn ho)]
  rw [encloseFile_eq hclass, if_pos (by simp [sitesLocated, houtermost]), enclosed_eq_self hfunction, houtermost]
  rfl

/-! ## Functions and their decorators -/

namespace Syntax.SyntaxTree

/-- The functions of a tree, in the order in which they are written. -/
def functions (t : SyntaxTree α) : List (SyntaxTree α) :=
  t.subtrees.filter fun s => isFunctionForm s.form

theorem functions_node (f : Form) (a : α) (cs : List (SyntaxTree α)) :
    (node f a cs).functions =
      (if isFunctionForm f then [node f a cs] else []) ++ cs.flatMap functions := by
  unfold functions
  rw [subtrees_node, List.filter_cons, List.filter_flatMap, form_node]
  split <;> simp

theorem functions_other {f : Form} {a : α} {cs : List (SyntaxTree α)} (hf : isFunctionForm f = false) :
    (node f a cs).functions = cs.flatMap functions := by
  rw [functions_node, if_neg (by simp [hf]), List.nil_append]

theorem functions_eq_nil {t : SyntaxTree α} (h : t.definesNothing) : t.functions = [] := by
  refine List.filter_eq_nil_iff.2 fun s hs => ?_
  simp [(form_of_definesNothing h hs).1]

section Parts

variable {a b s : α} {args returns : SyntaxTree α} {body decorators : List (SyntaxTree α)}
  (hargs : args.definesNothing) (hdecorators : ∀ d ∈ decorators, d.definesNothing)
  (hreturns : returns.definesNothing)
include hargs hdecorators hreturns

/-- The functions in a function are those of its body. -/
theorem functions_parts :
    [args, node .sequence b body, node .sequence s decorators, returns].flatMap functions =
      body.flatMap functions := by
  have hnone : decorators.flatMap functions = [] :=
    List.flatMap_eq_nil_iff.2 fun d hd => functions_eq_nil (hdecorators d hd)
  simp only [List.flatMap_cons, List.flatMap_nil, functions_other (f := .sequence) rfl, hnone,
    functions_eq_nil hargs, functions_eq_nil hreturns, List.nil_append, List.append_nil]

theorem functions_function {asynchronous : Bool} {name : String} :
    let t := node (.functionDef asynchronous name) a
      [args, node .sequence b body, node .sequence s decorators, returns]
    t.functions = t :: body.flatMap functions := by
  intro t
  rw [functions_node, functions_parts hargs hdecorators hreturns]
  rfl

end Parts

theorem functions_site (call : α) (ctx : Context) (word args named : α) (r : SyntaxTree α) :
    (site call ctx word args named r).functions = r.functions := by
  simp [site, functions_node, isFunctionForm]

theorem functions_inject (m : Marking) (a none_ : α) (r : SyntaxTree α) (line : Int) :
    (m.inject a none_ r line).functions = r.functions := by
  simp [Marking.inject, Marking.hookCall, functions_node, isFunctionForm,
    functions_eq_nil (definesNothing_hookExpr a m.hook)]

end Syntax.SyntaxTree

/-- A function or class without its parts, and its decorators. -/
def header (t : SyntaxTree α) : Form × List (SyntaxTree α) := (t.form, decoratorsOf t)

/-- What the build step makes of a decorator: the boundary of an annotation, and any other is instrumented
if its function stands inside an annotated one. -/
def decoratorDone (file package : String) (within : Bool) (d : SyntaxTree Span) : SyntaxTree Span :=
  if isMarker d then hookExpr d.ann (package ++ ".early_return")
  else if within then (d.visit (packageMarking file package)).1
  else d

/-- What the build step makes of the decorators of a function. -/
def headerDone (file package : String) (within : Bool) (t : SyntaxTree Span) :
    Form × List (SyntaxTree Span) :=
  (t.form, (decoratorsOf t).map (decoratorDone file package within))

theorem isMarker_decoratorDone (within : Bool) (d : SyntaxTree Span) :
    isMarker (decoratorDone file package within d) = false := by
  unfold decoratorDone
  split
  · exact isMarker_boundary d.ann package
  · next h =>
    split
    · simpa [isMarker_congr (form_visit d)] using h
    · simpa using h

/-- An annotation keeps its place inside an annotated function. -/
theorem ann_inside_of_isMarker {d : SyntaxTree Span} (h : isMarker d) :
    (inside file package d).ann = d.ann := by
  obtain ⟨f, a, cs⟩ := d
  cases f with
  | name id ctx => rw [inside_other (propagation?_eq_none (by simp)) rfl]; rfl
  | «attribute» attr ctx => rw [inside_other (propagation?_eq_none (by simp)) rfl]; rfl
  | _ => cases h

theorem boundaryFor_inside {d : SyntaxTree Span} (h : d.definesNothing) :
    boundaryFor package (inside file package d) = decoratorDone file package true d := by
  unfold boundaryFor decoratorDone
  rw [isMarker_congr (form_inside d)]
  split
  · next hmarker => rw [ann_inside_of_isMarker hmarker]
  · rw [inside_eq_visit h, if_pos rfl]

/-- Inside an annotated function the functions are kept, and their decorators are done. -/
theorem headers_inside {t : SyntaxTree Span} (h : t.definesInBodies) :
    (inside file package t).functions.map header =
      t.functions.map (headerDone file package true) := by
  induction t, h using insideInduction with
  | atSite call ctx word args named r _ _ ih => rw [inside_site, functions_inject, functions_site, ih]
  | function asynchronous name a args b body s decorators returns hargs hdecorators hreturns _ _ ih =>
    have hbody := ih (node .sequence b body) (by simp)
    rw [inside_sequence, functions_other rfl, functions_other rfl, List.map_flatMap,
      List.map_flatMap] at hbody
    have hdone : decorators.map (fun d => boundaryFor package (inside file package d)) =
        decorators.map (decoratorDone file package true) :=
      List.map_congr_left fun d hd => boundaryFor_inside (hdecorators d hd)
    have hnone : ∀ d ∈ decorators.map (decoratorDone file package true), d.definesNothing := by
      rw [← hdone]
      simpa using fun d hd => definesNothing_boundaryFor (definesNothing_inside (hdecorators d hd))
    rw [inside_function, inside_sequence, hdone, functions_function hargs hdecorators hreturns,
      functions_function (definesNothing_inside hargs) hnone (definesNothing_inside hreturns),
      List.map_cons, List.map_cons, List.map_flatMap, List.map_flatMap, hbody]
    rfl
  | other f a cs hsite hf _ _ ih =>
    rw [inside_other hsite hf, functions_other hf, functions_other hf, List.map_flatMap,
      List.map_flatMap, List.flatMap_map]
    exact List.flatMap_congr ih

theorem functions_eq_occurrences (t : SyntaxTree α) (above : List (SyntaxTree α)) :
    t.functions =
      ((t.occurrencesIn above).filter fun o => isFunctionForm o.tree.form).map Occurrence.tree := by
  rw [functions, ← map_tree_occurrencesIn above, List.filter_map]
  rfl

/-- The functions inside an annotated one are not exposed. -/
theorem headers_occurrences_inside {t : SyntaxTree Span} {above : List (SyntaxTree Span)}
    (ht : isAnnotatedFunction t) (cs : List (SyntaxTree Span)) :
    ((cs.flatMap (occurrencesIn (above ++ [t]))).filter fun o => isFunctionForm o.tree.form).map
        (fun o => headerDone file package (!o.isExposed) o.tree) =
      (cs.flatMap functions).map (headerDone file package true) := by
  have hinside : ∀ o ∈ cs.flatMap (occurrencesIn (above ++ [t])), o.isExposed = false := fun o ho =>
    Bool.eq_false_iff.2 fun h => List.filter_eq_nil_iff.1 (filter_isExposed_inside ht cs) o ho h
  have hfunctions : cs.flatMap functions =
      ((cs.flatMap (occurrencesIn (above ++ [t]))).filter fun o => isFunctionForm o.tree.form).map
        Occurrence.tree := by
    rw [List.filter_flatMap, List.map_flatMap]
    exact List.flatMap_congr fun c _ => functions_eq_occurrences c _
  rw [hfunctions, List.map_map]
  refine List.map_congr_left fun o ho => ?_
  rw [hinside o (List.mem_filter.1 ho).1]
  rfl

/-- A function that is not annotated keeps its decorators. -/
theorem header_enclosed_plain {f : Form} {a : Span} {cs : List (SyntaxTree Span)}
    (hparts : (node f a cs).hasParts) (hf : isFunctionForm f)
    (hann : isAnnotatedFunction (node f a cs) = false) :
    header (node f a (cs.map (enclosed file package))) = headerDone file package false (node f a cs) := by
  obtain ⟨asynchronous, name, _, args, b, body, s, decorators, returns, ht, -, hdecorators, -⟩ :=
    eq_of_hasParts hparts hf
  cases ht
  have hmarkers : decorators.any isMarker = false := hann
  have hkept : decorators.map (enclosed file package) = decorators := by
    refine (List.map_congr_left fun d hd => ?_).trans (List.map_id decorators)
    exact enclosed_of_definesNothing (hdecorators d hd)
  have hdone : decorators.map (decoratorDone file package false) = decorators := by
    refine (List.map_congr_left fun d hd => ?_).trans (List.map_id decorators)
    rw [decoratorDone, if_neg (List.any_eq_false.1 hmarkers d hd)]
    rfl
  have hsequence : enclosed file package (node .sequence s decorators) = node .sequence s decorators := by
    rw [enclosed_other rfl, hkept]
  simp only [List.map_cons, List.map_nil, hsequence]
  exact congrArg _ hdone.symm

/-- The build step keeps the functions of a file, and their decorators are done. -/
theorem headers_enclosed {t : SyntaxTree Span} {above : List (SyntaxTree Span)}
    (habove : ∀ s ∈ above, isAnnotatedFunction s = false) (h : t.definesInBodies) :
    (enclosed file package t).functions.map header =
      ((t.occurrencesIn above).filter fun o => isFunctionForm o.tree.form).map fun o =>
        headerDone file package (!o.isExposed) o.tree := by
  have hexposed : ∀ t : SyntaxTree Span, (⟨above, t⟩ : Occurrence Span).isExposed := fun t => by
    simpa [isExposed] using habove
  induction t, h using enclosedInduction generalizing above with
  | annotated asynchronous name a args b body s decorators returns hann hargs hdecorators hreturns hbody _ =>
    have hnone : ∀ d ∈ decorators.map (boundaryFor package), d.definesNothing := by
      simpa using fun d hd => definesNothing_boundaryFor (hdecorators d hd)
    rw [enclosed_function hann hargs hdecorators hreturns, functions_function hargs hnone hreturns,
      occurrencesIn_node, List.filter_cons_of_pos rfl, List.map_cons, List.map_cons,
      headers_occurrences_inside hann, hexposed,
      functions_parts hargs hdecorators hreturns, List.map_flatMap, List.map_flatMap,
      List.flatMap_map, List.flatMap_congr fun c hc => headers_inside (hbody c hc)]
    rfl
  | other f a cs hann h _ ih =>
    have habove' : ∀ s ∈ above ++ [node f a cs], isAnnotatedFunction s = false := by
      simpa [or_imp, forall_and, hann] using habove
    have hchildren : (cs.map (enclosed file package)).flatMap (fun c => c.functions.map header) =
        cs.flatMap fun c => ((c.occurrencesIn (above ++ [node f a cs])).filter fun o =>
          isFunctionForm o.tree.form).map fun o => headerDone file package (!o.isExposed) o.tree := by
      rw [List.flatMap_map]
      exact List.flatMap_congr fun c hc => ih c hc habove' fun _ =>
        List.all_eq_true.2 fun s hs => by simp [habove' s hs]
    rw [enclosed_other hann, functions_node, List.map_append, List.map_flatMap, hchildren,
      occurrencesIn_node]
    by_cases hf : isFunctionForm f
    · rw [if_pos hf, List.map_singleton, header_enclosed_plain (definesInBodies_node.1 h).1 hf hann,
        List.filter_cons_of_pos (by exact hf), List.map_cons, hexposed, List.filter_flatMap,
        List.map_flatMap]
      rfl
    · rw [if_neg hf, List.filter_cons_of_neg (by exact hf), List.filter_flatMap, List.map_flatMap]
      rfl

/-! ## Classes -/

/-- Whether a class is annotated depends on the forms of its decorators. -/
theorem isAnnotatedClass_map {g : SyntaxTree α → SyntaxTree α} (hform : ∀ t, (g t).form = t.form)
    (hitems : ∀ t, (g t).items = t.items.map g) (f : Form) (a : α) (cs : List (SyntaxTree α)) :
    isAnnotatedClass (node f a (cs.map g)) = isAnnotatedClass (node f a cs) := by
  have hmarkers : ∀ d : SyntaxTree α, (g d).items.any isMarker = d.items.any isMarker := by
    intro d
    rw [hitems, List.any_map]
    exact congrArg _ (funext fun c => isMarker_congr (hform c))
  cases f with
  | classDef name =>
    match cs with
    | [bases, keywords, body, decorators] => exact hmarkers decorators
    | [] | [_] | [_, _] | [_, _, _] | _ :: _ :: _ :: _ :: _ :: _ => rfl
  | _ => rfl

theorem annotatesNoClass_of_definesNothing {t : SyntaxTree α} (h : t.definesNothing) :
    t.annotatesNoClass := by
  refine List.all_eq_true.2 fun s hs => ?_
  rw [isAnnotatedClass, (form_of_definesNothing h hs).2, Bool.false_and, Bool.not_false]

theorem annotatesNoClass_sequence {a : α} {cs : List (SyntaxTree α)} :
    (node .sequence a cs).annotatesNoClass ↔ ∀ c ∈ cs, c.annotatesNoClass :=
  annotatesNoClass_node.trans (and_iff_right rfl)

/-- A function annotates no class if its body does not. -/
theorem annotatesNoClass_function {asynchronous : Bool} {name : String} {a s : α}
    {args body returns : SyntaxTree α} {decorators : List (SyntaxTree α)} (hargs : args.definesNothing)
    (hdecorators : ∀ d ∈ decorators, d.definesNothing) (hreturns : returns.definesNothing)
    (hbody : body.annotatesNoClass) :
    (node (.functionDef asynchronous name) a
      [args, body, node .sequence s decorators, returns]).annotatesNoClass := by
  refine annotatesNoClass_node.2 ⟨rfl, ?_⟩
  simp only [List.forall_mem_cons, List.not_mem_nil, false_implies, implies_true, and_true]
  exact ⟨annotatesNoClass_of_definesNothing hargs, hbody,
    annotatesNoClass_sequence.2 fun d hd => annotatesNoClass_of_definesNothing (hdecorators d hd),
    annotatesNoClass_of_definesNothing hreturns⟩

theorem annotatesNoClass_inside {t : SyntaxTree Span} (hclass : t.annotatesNoClass)
    (h : t.definesInBodies) : (inside file package t).annotatesNoClass := by
  induction t, h using insideInduction with
  | atSite call ctx word args named r _ _ ih =>
    have hrclass : r.annotatesNoClass := by
      simp only [site, annotatesNoClass_node, List.forall_mem_cons] at hclass
      exact hclass.2.1.2.1
    have hhook : ∀ path, (hookExpr call path).annotatesNoClass := fun path =>
      annotatesNoClass_of_definesNothing (definesNothing_hookExpr call path)
    rw [inside_site]
    simp [Marking.inject, Marking.hookCall, annotatesNoClass_node, isAnnotatedClass, isClassForm, hhook,
      ih hrclass]
  | function asynchronous name a args b body s decorators returns hargs hdecorators hreturns _ _ ih =>
    rw [inside_function]
    refine annotatesNoClass_function (definesNothing_inside hargs) ?_ (definesNothing_inside hreturns)
      (ih _ (by simp) ((annotatesNoClass_node.1 hclass).2 _ (by simp)))
    simpa using fun d hd => definesNothing_boundaryFor (definesNothing_inside (hdecorators d hd))
  | other f a cs hsite hf _ _ ih =>
    obtain ⟨hroot, hclasses⟩ := annotatesNoClass_node.1 hclass
    rw [inside_other hsite hf]
    refine annotatesNoClass_node.2 ⟨?_, ?_⟩
    · rw [isAnnotatedClass_map form_inside (items_map form_inside inside_sequence), hroot]
    · intro d hd
      obtain ⟨c, hc, rfl⟩ := List.mem_map.1 hd
      exact ih c hc (hclasses c hc)

theorem annotatesNoClass_enclosed {t : SyntaxTree Span} (hclass : t.annotatesNoClass)
    (h : t.definesInBodies) : (enclosed file package t).annotatesNoClass := by
  induction t, h using enclosedInduction with
  | annotated asynchronous name a args b body s decorators returns hann hargs hdecorators hreturns hbody _ =>
    rw [enclosed_function hann hargs hdecorators hreturns]
    refine annotatesNoClass_function hargs ?_ hreturns (annotatesNoClass_sequence.2 ?_)
    · simpa using fun d hd => definesNothing_boundaryFor (hdecorators d hd)
    · have hbodyclass := annotatesNoClass_sequence.1
        ((annotatesNoClass_node.1 hclass).2 (node .sequence b body) (by simp))
      simpa using fun c hc => annotatesNoClass_inside (hbodyclass c hc) (hbody c hc)
  | other f a cs hann _ _ ih =>
    obtain ⟨hroot, hclasses⟩ := annotatesNoClass_node.1 hclass
    rw [enclosed_other hann]
    refine annotatesNoClass_node.2 ⟨?_, ?_⟩
    · rw [isAnnotatedClass_map form_enclosed (items_map form_enclosed fun _ _ => enclosed_other rfl), hroot]
    · intro d hd
      obtain ⟨c, hc, rfl⟩ := List.mem_map.1 hd
      exact ih c hc (hclasses c hc)

/-! ## The build step a second time -/

/-- The build step keeps every function of a file without annotated classes, and its decorators in order:
the boundary is in the place of each annotation, and the others are there, instrumented where the
function stands inside an annotated one. So no function is annotated after it, and it leaves its own
result as it is. -/
theorem encloseFile_idempotent {t : SyntaxTree Span} (file package : String)
    (hclass : t.annotatesNoClass) (hbodies : t.definesInBodies) (hlocated : t.sitesLocated) :
    ∃ done, encloseFile file package t = .ok done ∧
      done.1.functions.map header =
        ((t.occurrences.filter fun o => isFunctionForm o.tree.form).map fun o =>
          headerDone file package (!o.isExposed) o.tree) ∧
      (∀ s ∈ done.1.functions, isAnnotated s = false) ∧
      ∀ file' package', encloseFile file' package' done.1 = .ok (done.1, {}) := by
  have hheaders : (enclosed file package t).functions.map header =
      (t.occurrences.filter fun o => isFunctionForm o.tree.form).map fun o =>
        headerDone file package (!o.isExposed) o.tree := headers_enclosed (by simp) hbodies
  have hfunctions : ∀ s ∈ (enclosed file package t).functions, isAnnotated s = false := by
    intro s hs
    have hmem := List.mem_map_of_mem (f := header) hs
    rw [hheaders] at hmem
    obtain ⟨o, -, ho⟩ := List.mem_map.1 hmem
    have hdecorators : decoratorsOf s = (decoratorsOf o.tree).map _ := (congrArg Prod.snd ho).symm
    rw [isAnnotated, hdecorators, List.any_map]
    exact List.any_eq_false.2 fun d _ => by simp [isMarker_decoratorDone]
  have hclasses := @annotatesNoClass_enclosed file package t hclass hbodies
  refine ⟨_, by rw [encloseFile_eq hclass, if_pos hlocated], hheaders, hfunctions, fun file' package' => ?_⟩
  refine encloseFile_of_unannotated fun s hs => ?_
  rw [isAnnotated_eq, Bool.or_eq_false_iff]
  refine ⟨?_, by simpa using List.all_eq_true.1 hclasses s hs⟩
  by_cases hf : isFunctionForm s.form
  · rw [isAnnotatedFunction, hfunctions s (List.mem_filter.2 ⟨hs, hf⟩), Bool.and_false]
  · simp [isAnnotatedFunction, hf]

/-- A file with an annotated function in an annotated method. -/
theorem encloseFile_idempotent_nested :
    let boundary := hookExpr sampleSpan ("_wherr" ++ ".early_return")
    readerFile.annotatesNoClass ∧ readerFile.definesInBodies ∧ readerFile.sitesLocated ∧
      ∃ done, encloseFile "prog.py" "_wherr" readerFile = .ok done ∧
        done.1.functions.map header =
          [(.functionDef false "load", [sampleRead "cached", boundary]),
            (.functionDef false "read",
              [(loggedDecorator.visit (packageMarking "prog.py" "_wherr")).1, boundary]),
            (.functionDef false "plain", [])] ∧
        encloseFile "prog.py" "_wherr_1" done.1 = .ok (done.1, {}) := by
  have hclass : readerFile.annotatesNoClass := by decide
  have hbodies : readerFile.definesInBodies := by decide
  have hlocated : readerFile.sitesLocated := by decide
  obtain ⟨done, hdone, hheaders, -, hagain⟩ :=
    encloseFile_idempotent "prog.py" "_wherr" hclass hbodies hlocated
  exact ⟨hclass, hbodies, hlocated, done, hdone, hheaders.trans rfl, hagain _ _⟩

end ErrorTrail
