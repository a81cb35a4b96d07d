import ErrorTrail.Proofs.Site.Enclosing
import ErrorTrail.Proofs.Site.Factory
import ErrorTrail.Proofs.Site.Hygiene

/-!
# Boundaries in the place of annotations

Putting boundaries in leaves what defines nothing as it is (`swap_eq_self`). `inside` is what the build
step makes of the statements of an annotated function: it instruments them, and puts the boundary in the
place of the annotations of the functions in there. Its equations go by the node (`inside_site`,
`inside_other`, `inside_function`), and with them `enclosed_function` says what is left of an annotated
function. A boundary is no annotation (`isMarker_boundary`).

Facts about a whole file are proved along `enclosedInduction`, which stops at annotated functions, and
those about the statements of such a function along `insideInduction`.
-/

namespace ErrorTrail

open Syntax SyntaxTree

variable {α : Type}

/-! ## Boundaries -/

/-- The boundary in the place of an annotation; any other decorator itself. -/
def boundaryFor (package : String) (d : SyntaxTree Span) : SyntaxTree Span :=
  if isMarker d then hookExpr d.ann (package ++ ".early_return") else d

variable {file package : String}

/-- A path whose last part is known is an attribute. -/
theorem hookExpr_append (a : α) (path : String) {word : String} (h : '.' ∉ word.toList) :
    hookExpr a (path ++ "." ++ word) = node (.attribute word .load) a [hookExpr a path] := by
  have hsplit : (path ++ "." ++ word).splitOn "." = path.splitOn "." ++ [word] :=
    Text.splitOn_append_last h path
  obtain ⟨head, attrs, hpath⟩ : ∃ head attrs, path.splitOn "." = head :: attrs :=
    List.exists_cons_of_ne_nil (Text.splitOn_ne_nil '.' path)
  rw [hookExpr, hookExpr, hsplit, hpath]
  simp only [List.cons_append, List.foldl_append, List.foldl_cons, List.foldl_nil]

theorem hookExpr_boundary (a : α) (package : String) :
    hookExpr a (package ++ ".early_return") =
      node (.attribute "early_return" .load) a [hookExpr a package] := by
  have hpath : package ++ ".early_return" = package ++ "." ++ "early_return" := by
    rw [String.append_assoc]
    rfl
  rw [hpath]
  exact hookExpr_append a package (by decide)

/-- Whether a decorator is the annotation depends on its form. -/
theorem isMarker_congr {t u : SyntaxTree α} (h : u.form = t.form) : isMarker u = isMarker t := by
  obtain ⟨f, a, cs⟩ := t
  obtain ⟨f', b, ds⟩ := u
  obtain rfl : f' = f := h
  cases f' <;> rfl

/-- A boundary is no annotation. -/
theorem isMarker_boundary (a : α) (package : String) :
    isMarker (hookExpr a (package ++ ".early_return")) = false := by
  rw [hookExpr_boundary]
  rfl

/-! ### Putting boundaries in -/

theorem swap_function {asynchronous : Bool} {name : String} {a s : Span}
    {args body returns : SyntaxTree Span} {decorators : List (SyntaxTree Span)} :
    swapAnnotations package (node (.functionDef asynchronous name) a
        [args, body, node .sequence s decorators, returns]) =
      node (.functionDef asynchronous name) a [swapAnnotations package args,
        swapAnnotations package body,
        node .sequence s (decorators.map fun d => boundaryFor package (swapAnnotations package d)),
        swapAnnotations package returns] := by
  have hdecorators : ∀ ds : List (SyntaxTree Span),
      (ds.map (swapAnnotations package)).map (boundaryFor package) =
        ds.map fun d => boundaryFor package (swapAnnotations package d) := fun ds => List.map_map
  rw [swapAnnotations_node]
  simp only [List.map_cons, List.map_nil, swap_node (f := .sequence) rfl]
  rw [← hdecorators]
  rfl

/-- What defines nothing stays when boundaries are put in. -/
theorem swap_eq_self {t : SyntaxTree Span} (h : t.definesNothing) : swapAnnotations package t = t := by
  induction t with
  | node f a cs ih =>
    obtain ⟨-, hcs⟩ := definesNothing_node.1 h
    have hf : isFunctionForm f = false := (form_of_definesNothing h (self_mem_subtrees _)).1
    rw [swap_node hf, List.map_congr_left fun c hc => ih c hc (hcs c hc), List.map_id']

/-! ## Inside an annotated function -/

/-- What the build step makes of a statement of an annotated function. -/
def inside (file package : String) (t : SyntaxTree Span) : SyntaxTree Span :=
  swapAnnotations package (t.visit (packageMarking file package)).1

theorem form_inside (t : SyntaxTree Span) : (inside file package t).form = t.form := by
  rw [inside, form_swap, form_visit]

theorem inside_site (call : Span) (ctx : Context) (word args named : Span) (r : SyntaxTree Span) :
    inside file package (site call ctx word args named r) =
      (packageMarking file package).inject call {} (inside file package r) (siteLine call word) := by
  rw [inside, visit_site, swap_inject]
  rfl

variable {f : Form} {a : Span} {cs : List (SyntaxTree Span)}

theorem inside_other (hsite : (node f a cs).propagation? = none) (hf : isFunctionForm f = false) :
    inside file package (node f a cs) = node f a (cs.map (inside file package)) := by
  rw [inside, visit_other hsite, swap_node hf, List.map_map]
  rfl

theorem inside_sequence (a : Span) (cs : List (SyntaxTree Span)) :
    inside file package (node .sequence a cs) = node .sequence a (cs.map (inside file package)) :=
  inside_other (propagation?_eq_none (by simp)) rfl

theorem inside_function {asynchronous : Bool} {name : String} {a s : Span}
    {args body returns : SyntaxTree Span} {decorators : List (SyntaxTree Span)} :
    inside file package (node (.functionDef asynchronous name) a
        [args, body, node .sequence s decorators, returns]) =
      node (.functionDef asynchronous name) a [inside file package args, inside file package body,
        node .sequence s (decorators.map fun d => boundaryFor package (inside file package d)),
        inside file package returns] := by
  have hdecorators : ((node .sequence s decorators).visit (packageMarking file package)).1 =
      node .sequence s (decorators.map fun d => (d.visit (packageMarking file package)).1) := by
    rw [visit_of_ne_call (by simp)]
  rw [inside, visit_of_ne_call (by simp)]
  simp only [List.map_cons, List.map_nil, hdecorators, swap_function, List.map_map]
  rfl

theorem definesNothing_hookExpr (a : α) (path : String) : (hookExpr a path).definesNothing :=
  hookExpr_induction (motive := fun e => e.definesNothing)
    (fun _ => definesNothing_node.2 ⟨rfl, by simp⟩)
    (fun _ _ he => definesNothing_node.2 ⟨rfl, by simpa using he⟩) path

theorem definesNothing_of_site {call word args named : α} {ctx : Context} {r : SyntaxTree α}
    (h : (site call ctx word args named r).definesNothing) : r.definesNothing := by
  simp only [site, definesNothing_node, List.forall_mem_cons] at h
  exact h.2.1.2.1

/-- Instrumenting defines nothing. -/
theorem definesNothing_visit {m : Marking} {t : SyntaxTree Span} (h : t.definesNothing) :
    (t.visit m).1.definesNothing := by
  revert h
  induction t using siteInduction with
  | atSite call ctx word args named r ih =>
    intro h
    have hr : r.definesNothing := definesNothing_of_site h
    rw [visit_site]
    simp [Marking.inject, Marking.hookCall, definesNothing_node, isDefinitionForm, isFunctionForm, isClassForm,
      definesNothing_hookExpr, ih hr]
  | other f a cs hsite ih =>
    intro h
    obtain ⟨hf, hcs⟩ := definesNothing_node.1 h
    rw [visit_other hsite, definesNothing_node]
    refine ⟨hf, fun d hd => ?_⟩
    obtain ⟨c, hc, rfl⟩ := List.mem_map.1 hd
    exact ih c hc (hcs c hc)

theorem definesNothing_boundaryFor {d : SyntaxTree Span} (h : d.definesNothing) :
    (boundaryFor package d).definesNothing := by
  unfold boundaryFor
  split
  · exact definesNothing_hookExpr _ _
  · exact h

/-- What defines nothing is only instrumented. -/
theorem inside_eq_visit {t : SyntaxTree Span} (h : t.definesNothing) :
    inside file package t = (t.visit (packageMarking file package)).1 :=
  swap_eq_self (definesNothing_visit h)

theorem definesNothing_inside {t : SyntaxTree Span} (h : t.definesNothing) :
    (inside file package t).definesNothing :=
  inside_eq_visit h ▸ definesNothing_visit h

/-- A property of trees that define functions in bodies follows from the receiver for a propagation
expression, and from the children for a function and for any other node. -/
@[elab_as_elim]
theorem insideInduction {motive : (t : SyntaxTree α) → t.definesInBodies → Prop}
    (atSite : ∀ call ctx word args named r h hr, motive r hr →
      motive (site call ctx word args named r) h)
    (function : ∀ asynchronous name a args b body s decorators returns,
      args.definesNothing → (∀ d ∈ decorators, d.definesNothing) → returns.definesNothing →
      ∀ h (hcs : ∀ c ∈ [args, node .sequence b body, node .sequence s decorators, returns], c.definesInBodies),
      (∀ c hc, motive c (hcs c hc)) →
      motive (node (.functionDef asynchronous name) a
        [args, node .sequence b body, node .sequence s decorators, returns]) h)
    (other : ∀ f a cs, (node f a cs).propagation? = none → isFunctionForm f = false →
      ∀ h (hcs : ∀ c ∈ cs, c.definesInBodies), (∀ c (hc : c ∈ cs), motive c (hcs c hc)) →
      motive (node f a cs) h) : ∀ t h, motive t h := by
  intro t h
  induction t using siteInduction with
  | atSite call ctx word args named r ih =>
    have hr : r.definesInBodies := by
      have hcs := (definesInBodies_node.1 h).2
      simp only [List.forall_mem_cons, definesInBodies_node] at hcs
      exact hcs.1.2.1
    exact atSite call ctx word args named r h hr (ih hr)
  | other f a cs hsite ih =>
    obtain ⟨hparts, hcs⟩ := definesInBodies_node.1 h
    have ih : ∀ c (hc : c ∈ cs), motive c (hcs c hc) := fun c hc => ih c hc (hcs c hc)
    by_cases hf : isFunctionForm f
    · obtain ⟨asynchronous, name, _, args, b, body, s, decorators, returns, ht, hargs, hdecorators, hreturns⟩ :=
        eq_of_hasParts hparts hf
      cases ht
      exact function _ _ _ _ _ _ _ _ _ hargs hdecorators hreturns h hcs ih
    · exact other f a cs hsite (by simpa using hf) h hcs ih

/-- A property of trees that define functions in bodies holds if it holds of the annotated functions, and
follows from the children for any other node. -/
@[elab_as_elim]
theorem enclosedInduction {motive : (t : SyntaxTree α) → t.definesInBodies → Prop}
    (annotated : ∀ asynchronous name a args b body s decorators returns,
      isAnnotatedFunction (node (.functionDef asynchronous name) a
        [args, node .sequence b body, node .sequence s decorators, returns]) →
      args.definesNothing → (∀ d ∈ decorators, d.definesNothing) → returns.definesNothing →
      (∀ c ∈ body, c.definesInBodies) → ∀ h, motive (node (.functionDef asynchronous name) a
        [args, node .sequence b body, node .sequence s decorators, returns]) h)
    (other : ∀ f a cs, isAnnotatedFunction (node f a cs) = false →
      ∀ h (hcs : ∀ c ∈ cs, c.definesInBodies), (∀ c (hc : c ∈ cs), motive c (hcs c hc)) →
      motive (node f a cs) h) : ∀ t h, motive t h := by
  intro t h
  induction t with
  | node f a cs ih =>
    obtain ⟨hparts, hcs⟩ := definesInBodies_node.1 h
    by_cases hann : isAnnotatedFunction (node f a cs)
    · obtain ⟨asynchronous, name, _, args, b, body, s, decorators, returns, ht, hargs, hdecorators, hreturns⟩ :=
        eq_of_hasParts hparts (Bool.and_eq_true_iff.1 hann).1
      cases ht
      have hbody := (definesInBodies_node.1 (hcs (node .sequence b body) (by simp))).2
      exact annotated _ _ _ _ _ _ _ _ _ hann hargs hdecorators hreturns hbody h
    · exact other f a cs (by simpa using hann) h hcs fun c hc => ih c hc (hcs c hc)

/-- What the build step leaves of an annotated function: its statements are instrumented, and it has the
boundary in the place of the annotation. -/
theorem enclosed_function {asynchronous : Bool} {name : String} {a b s : Span}
    {args returns : SyntaxTree Span} {body decorators : List (SyntaxTree Span)}
    (hann : isAnnotatedFunction (node (.functionDef asynchronous name) a
      [args, node .sequence b body, node .sequence s decorators, returns]))
    (hargs : args.definesNothing) (hdecorators : ∀ d ∈ decorators, d.definesNothing)
    (hreturns : returns.definesNothing) :
    enclosed file package (node (.functionDef asynchronous name) a
        [args, node .sequence b body, node .sequence s decorators, returns]) =
      node (.functionDef asynchronous name) a
        [args, node .sequence b (body.map (inside file package)),
          node .sequence s (decorators.map (boundaryFor package)), returns] := by
  have hbody : swapAnnotations package
      (node .sequence b (visitItems (packageMarking file package) body).1) =
        node .sequence b (body.map (inside file package)) := by
    rw [visitItems_eq, swap_node rfl, List.map_map]
    rfl
  rw [enclosed_annotated hann, instrumentBody]
  simp only [swap_function, hbody, swap_eq_self hargs, swap_eq_self hreturns]
  rw [List.map_congr_left fun d hd => congrArg (boundaryFor package) (swap_eq_self (hdecorators d hd))]

/-- The build step keeps the form of the root. -/
theorem form_enclosed (t : SyntaxTree Span) : (enclosed file package t).form = t.form := by
  by_cases h : isAnnotatedFunction t
  · rw [enclosed_annotated h, form_swap]
    obtain ⟨asynchronous, name, a, args, ⟨f, b, cs⟩, s, decorators, returns, rfl, -⟩ :=
      eq_of_isAnnotatedFunction h
    cases f <;> rfl
  · obtain ⟨f, a, cs⟩ := t
    rw [enclosed_other (by simpa using h)]
    rfl

/-! ## A sample file -/

/-- A decorator with a site in it. -/
def loggedDecorator : SyntaxTree Span := sampleCall (sampleRead "logged") [loadSite]

/-- A function that is annotated below a decorator with a site. -/
def readDefinition : SyntaxTree Span :=
  sampleFunction "read" ["text"] [.node .returnStmt sampleSpan [loadSite]]
    [loggedDecorator, sampleRead "wherr"]

/-- An annotated function with another one in it. -/
def nestedDefinition : SyntaxTree Span :=
  sampleFunction "load" ["text"] [readDefinition, .node .returnStmt sampleSpan [loadSite]]
    [sampleRead "cached", sampleRead "wherr"]

/-- A file with a class that has the annotated functions as a method, and a function with a site that is
not annotated. -/
def readerFile : SyntaxTree Span :=
  .node .file {} [sampleSequence
    [.node (.classDef "Reader") sampleSpan
        [sampleSequence [], sampleSequence [], sampleSequence [nestedDefinition], sampleSequence []],
      sampleFunction "plain" ["text"] [.node .returnStmt sampleSpan [loadSite]] []]]

end ErrorTrail
