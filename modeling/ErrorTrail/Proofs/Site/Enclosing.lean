import ErrorTrail.Proofs.Site.Visit
import ErrorTrail.Proofs.Syntax.Definitions
import ErrorTrail.Proofs.Syntax.Occurrence
import ErrorTrail.Site.Boundary

/-!
# What the build step does to a file

The build step stops at the first annotated class, or annotated function with a site that has no line,
that stands in no annotated function (`firstObstacle?`). If there is none it instruments the outermost
annotated functions and records them (`encloseTree_eq`): `enclosed` is the tree that it leaves, and
`recordOf` says what it records of functions that are known with what is around them.
-/

namespace ErrorTrail

open Syntax SyntaxTree

variable {α : Type}

/-! ## Annotated functions and classes -/

def isAnnotatedFunction (t : SyntaxTree α) : Bool := isFunctionForm t.form && isAnnotated t

def isAnnotatedClass (t : SyntaxTree α) : Bool := isClassForm t.form && isAnnotated t

/-- An annotated function has all the parts of a function, and an annotation among its decorators. -/
theorem eq_of_isAnnotatedFunction {t : SyntaxTree α} (h : isAnnotatedFunction t) :
    ∃ asynchronous name a args body s decorators returns,
      t = node (.functionDef asynchronous name) a
        [args, body, node .sequence s decorators, returns] ∧ decorators.any isMarker := by
  obtain ⟨hform, hann⟩ := Bool.and_eq_true_iff.1 h
  unfold isAnnotated decoratorsOf at hann
  split at hann
  · next asynchronous name a args body decorators returns =>
    obtain ⟨f, s, ds⟩ := decorators
    cases f with
    | sequence => exact ⟨_, _, _, _, _, _, _, _, rfl, hann⟩
    | _ => cases hann
  · cases hform
  · cases hann

/-- The name of a function or class. -/
def definedName? : SyntaxTree α → Option String
  | node (.functionDef _ name) _ _ => some name
  | node (.classDef name) _ _ => some name
  | _ => none

namespace Syntax.Occurrence

/-- No annotated function is around a node. -/
def isExposed (o : Occurrence α) : Bool := o.above.all fun t => !isAnnotatedFunction t

/-- An annotated function that no annotated function is around. -/
def isOutermost (o : Occurrence α) : Bool := isAnnotatedFunction o.tree && o.isExposed

/-- The names of the functions and classes around a definition and its own, with dots between them. -/
def path (o : Occurrence α) : String := dotted ((o.above ++ [o.tree]).filterMap definedName?)

/-- Nothing in an annotated function is exposed. -/
theorem isExposed_eq_false {o : Occurrence α} {t : SyntaxTree α} (ht : isAnnotatedFunction t)
    (hmem : t ∈ o.above) : o.isExposed = false :=
  List.all_eq_false.2 ⟨t, hmem, by simp [ht]⟩

end Syntax.Occurrence

open Occurrence

/-! ## What is recorded, refused and left -/

/-- The site of a propagation expression. -/
def siteOf (file : String) (p : SyntaxTree Span) : Location := ⟨file, p.propagationLine?.getD 0⟩

/-- The sites in the body of a function. -/
def bodySites (file : String) (t : SyntaxTree Span) : List Location :=
  (t.block.flatMap propagations).map (siteOf file)

/-- What the build step records of functions. -/
def recordOf (file : String) (os : List (Occurrence Span)) : Record :=
  ⟨os.map path, os.flatMap fun o => (bodySites file o.tree).map fun l => (o.path, l)⟩

/-- The refusal of a class that carries the annotation. -/
def classRefusal (file : String) (c : SyntaxTree Span) : Refusal :=
  { code := .notAFunction
    message := "@wherr applies to functions, not class " ++ (definedName? c).getD ""
    target := file
    line := c.ann.line }

/-- Why the build step stops at a node: it is an annotated class, or an annotated function in which a
site has no line. -/
def obstacle? (file : String) (t : SyntaxTree Span) : Option InstrumentError :=
  if isAnnotatedClass t then some (.refused (classRefusal file t))
  else if isAnnotatedFunction t && !bodyIsLocated t then some .unlocated
  else none

/-- What the build step stops at first. It does not look for it inside annotated functions. -/
def firstObstacle? (file : String) (os : List (Occurrence Span)) : Option InstrumentError :=
  (os.filter isExposed).findSome? fun o => obstacle? file o.tree

/-- How the build step marks sites. -/
def packageMarking (file package : String) : Marking := ⟨file, package ++ ".wherrapper"⟩

mutual
/-- The tree that the build step leaves. -/
def enclosed (file package : String) : SyntaxTree Span → SyntaxTree Span
  | node f a cs =>
    if isAnnotatedFunction (node f a cs) then
      swapAnnotations package (instrumentBody (packageMarking file package) (node f a cs)).1
    else node f a (enclosedList file package cs)

def enclosedList (file package : String) : List (SyntaxTree Span) → List (SyntaxTree Span)
  | [] => []
  | t :: ts => enclosed file package t :: enclosedList file package ts
end

variable {file package : String} {scope : List String} {f : Form} {a : Span}
  {cs : List (SyntaxTree Span)}

theorem enclosedList_eq (ts : List (SyntaxTree Span)) :
    enclosedList file package ts = ts.map (enclosed file package) := by
  induction ts with
  | nil => rfl
  | cons t ts ih => simp [enclosedList, ih]

theorem enclosed_annotated {t : SyntaxTree Span} (h : isAnnotatedFunction t) :
    enclosed file package t =
      swapAnnotations package (instrumentBody (packageMarking file package) t).1 := by
  obtain ⟨f, a, cs⟩ := t
  rw [enclosed, if_pos h]

theorem enclosed_other (h : isAnnotatedFunction (node f a cs) = false) :
    enclosed file package (node f a cs) = node f a (cs.map (enclosed file package)) := by
  rw [enclosed, if_neg (by simp [h]), enclosedList_eq]

/-! ## One step -/

theorem encloseTree_annotated {t : SyntaxTree Span} (h : isAnnotatedFunction t) :
    encloseTree file package scope t =
      if bodyIsLocated t then
        .ok (encloseFunction file package scope ((definedName? t).getD "") t)
      else .error .unlocated := by
  obtain ⟨f, a, cs⟩ := t
  obtain ⟨hform, hann⟩ := Bool.and_eq_true_iff.1 h
  cases f with
  | functionDef asynchronous name =>
    rw [encloseTree, if_pos hann]
    rfl
  | _ => cases hform

theorem encloseTree_class {t : SyntaxTree Span} (h : isAnnotatedClass t) :
    encloseTree file package scope t = .error (.refused (classRefusal file t)) := by
  obtain ⟨f, a, cs⟩ := t
  obtain ⟨hform, hann⟩ := Bool.and_eq_true_iff.1 h
  cases f with
  | classDef name =>
    rw [encloseTree, if_pos hann]
    rfl
  | _ => cases hform

/-- A node that is not annotated stays, and the build step goes on inside. -/
theorem encloseTree_inside (hfunction : isAnnotatedFunction (node f a cs) = false)
    (hclass : isAnnotatedClass (node f a cs) = false) :
    encloseTree file package scope (node f a cs) =
      (encloseItems file package (scope ++ (definedName? (node f a cs)).toList) cs).map fun inner =>
        (node f a inner.1, inner.2) := by
  have hmap : ∀ (e : Except InstrumentError (List (SyntaxTree Span) × Record)),
      (e >>= fun inner => Except.ok (node f a inner.1, inner.2)) =
        e.map fun inner => (node f a inner.1, inner.2) := fun e => by cases e <;> rfl
  cases f with
  | functionDef asynchronous name =>
    have hann : isAnnotated (node (.functionDef asynchronous name) a cs) = false := by
      simpa [isAnnotatedFunction, isFunctionForm] using hfunction
    rw [encloseTree, if_neg (by simp [hann]), hmap]
    rfl
  | classDef name =>
    have hann : isAnnotated (node (.classDef name) a cs) = false := by
      simpa [isAnnotatedClass, isClassForm] using hclass
    rw [encloseTree, if_neg (by simp [hann]), hmap]
    rfl
  | _ => simp [encloseTree, definedName?, hmap]

/-! ## The whole tree -/

theorem firstObstacle?_append (os ps : List (Occurrence Span)) :
    firstObstacle? file (os ++ ps) = (firstObstacle? file os).or (firstObstacle? file ps) := by
  rw [firstObstacle?, List.filter_append, List.findSome?_append]
  rfl

theorem recordOf_append (os ps : List (Occurrence Span)) :
    recordOf file (os ++ ps) = recordOf file os ++ recordOf file ps := by
  rw [recordOf, List.map_append, List.flatMap_append]
  rfl

/-- Nothing in an annotated function is exposed. -/
theorem filter_isExposed_inside {t : SyntaxTree α} {above : List (SyntaxTree α)}
    (ht : isAnnotatedFunction t) (cs : List (SyntaxTree α)) :
    (cs.flatMap (occurrencesIn (above ++ [t]))).filter isExposed = [] := by
  refine List.filter_eq_nil_iff.2 fun o ho => ?_
  obtain ⟨c, -, ho⟩ := List.mem_flatMap.1 ho
  have hmem : t ∈ o.above := (prefix_above ho).subset (by simp)
  simp [isExposed_eq_false ht hmem]

theorem filter_isOutermost (os : List (Occurrence α)) :
    os.filter isOutermost = (os.filter isExposed).filter fun o => isAnnotatedFunction o.tree := by
  rw [List.filter_filter]
  rfl

section

variable {above : List (SyntaxTree α)} {t : SyntaxTree α}

/-- Of an annotated function and what is inside it is outermost only the function. -/
theorem filter_isOutermost_annotated (habove : ∀ s ∈ above, isAnnotatedFunction s = false)
    (ht : isAnnotatedFunction t) : (t.occurrencesIn above).filter isOutermost = [⟨above, t⟩] := by
  obtain ⟨f, a, cs⟩ := t
  have hexposed : (⟨above, node f a cs⟩ : Occurrence α).isExposed := by simpa [isExposed] using habove
  rw [filter_isOutermost, occurrencesIn_node, List.filter_cons_of_pos hexposed,
    filter_isExposed_inside ht cs]
  simp [ht]

/-- A node that is no annotated function is not outermost. -/
theorem filter_isOutermost_other {f : Form} {a : α} {cs : List (SyntaxTree α)}
    (ht : isAnnotatedFunction (node f a cs) = false) :
    ((node f a cs).occurrencesIn above).filter isOutermost =
      cs.flatMap fun c => (c.occurrencesIn (above ++ [node f a cs])).filter isOutermost := by
  rw [occurrencesIn_node, List.filter_cons_of_neg (by simp [isOutermost, ht]), List.filter_flatMap]

end

/-- The names around what is inside a node. -/
theorem scope_inside (above : List (SyntaxTree α)) (t : SyntaxTree α) :
    above.filterMap definedName? ++ (definedName? t).toList = (above ++ [t]).filterMap definedName? := by
  rw [List.filterMap_append]
  cases h : definedName? t <;> simp [h]

/-- A function has the sites of the propagation expressions in its body. -/
theorem sites_instrumentBody (m : Marking) {asynchronous : Bool} {name : String} {a : Span}
    {args body decorators returns : SyntaxTree Span} :
    let t := node (.functionDef asynchronous name) a [args, body, decorators, returns]
    (instrumentBody m t).2 = bodySites m.file t := by
  intro t
  obtain ⟨f, s, cs⟩ := body
  cases f with
  | sequence =>
    simp only [t, instrumentBody, visitItems_eq, sites_visit, bodySites, block, items_sequence,
      List.map_flatMap]
    rfl
  | _ => rfl

/-- What the build step records of an annotated function are the sites of its body. -/
theorem record_encloseFunction {above : List (SyntaxTree Span)} {t : SyntaxTree Span}
    (h : isAnnotatedFunction t) :
    encloseFunction file package (above.filterMap definedName?) ((definedName? t).getD "") t =
      (enclosed file package t, recordOf file [⟨above, t⟩]) := by
  obtain ⟨asynchronous, name, a, args, body, s, decorators, returns, rfl, -⟩ := eq_of_isAnnotatedFunction h
  rw [encloseFunction, enclosed_annotated h, recordOf, List.map_singleton, List.flatMap_singleton,
    Occurrence.path, ← scope_inside]
  rw [show bodySites file _ = _ from (sites_instrumentBody (packageMarking file package)).symm]
  rfl

variable {above : List (SyntaxTree Span)}

/-- The nodes of a list of trees, if the build step does with each tree as `encloseTree_eq` says. -/
theorem encloseItems_eq
    (h : ∀ c ∈ cs, encloseTree file package (above.filterMap definedName?) c =
      match firstObstacle? file (c.occurrencesIn above) with
      | some e => .error e
      | none => .ok (enclosed file package c,
          recordOf file ((c.occurrencesIn above).filter isOutermost))) :
    encloseItems file package (above.filterMap definedName?) cs =
      match firstObstacle? file (cs.flatMap (occurrencesIn above)) with
      | some e => .error e
      | none => .ok (cs.map (enclosed file package),
          recordOf file ((cs.flatMap (occurrencesIn above)).filter isOutermost)) := by
  induction cs with
  | nil => rfl
  | cons c cs ih =>
    rw [List.forall_mem_cons] at h
    rw [encloseItems, h.1, ih h.2, List.flatMap_cons, firstObstacle?_append, List.filter_append,
      recordOf_append]
    cases firstObstacle? file (c.occurrencesIn above) with
    | some e => rfl
    | none =>
      cases firstObstacle? file (cs.flatMap (occurrencesIn above)) with
      | some e => rfl
      | none => rfl

/-- The build step stops at the first obstacle. If there is none, it leaves the tree `enclosed` and records
the outermost annotated functions. -/
theorem encloseTree_eq {t : SyntaxTree Span} (habove : ∀ s ∈ above, isAnnotatedFunction s = false) :
    encloseTree file package (above.filterMap definedName?) t =
      match firstObstacle? file (t.occurrencesIn above) with
      | some e => .error e
      | none => .ok (enclosed file package t,
          recordOf file ((t.occurrencesIn above).filter isOutermost)) := by
  induction t generalizing above with
  | node f a cs ih =>
    set t : SyntaxTree Span := node f a cs with ht
    have hexposed : (⟨above, t⟩ : Occurrence Span).isExposed := by
      simpa [isExposed] using habove
    have hfirst : firstObstacle? file (t.occurrencesIn above) =
        (obstacle? file t).or
          (firstObstacle? file (cs.flatMap (occurrencesIn (above ++ [t])))) := by
      rw [ht, occurrencesIn_node, ← ht, firstObstacle?, List.filter_cons_of_pos hexposed,
        List.findSome?_cons]
      cases obstacle? file t <;> rfl
    by_cases hfunction : isAnnotatedFunction t
    · -- nothing inside is exposed, so there are no other obstacles and functions
      have hclass : isAnnotatedClass t = false := by
        cases f with
        | functionDef asynchronous name => rfl
        | _ => cases (Bool.and_eq_true_iff.1 hfunction).1
      have hinside := @filter_isExposed_inside _ t above hfunction cs
      rw [hfirst, firstObstacle?, hinside, filter_isOutermost_annotated habove hfunction,
        encloseTree_annotated hfunction, record_encloseFunction hfunction]
      by_cases hlocated : bodyIsLocated t
      · simp [obstacle?, hclass, hfunction, hlocated]
      · simp [obstacle?, hclass, hfunction, hlocated]
    · have hfunction : isAnnotatedFunction t = false := by simpa using hfunction
      by_cases hclass : isAnnotatedClass t
      · rw [hfirst, encloseTree_class hclass]
        simp [obstacle?, hclass]
      · have hclass : isAnnotatedClass t = false := by simpa using hclass
        have hrecord : (t.occurrencesIn above).filter isOutermost =
            (cs.flatMap (occurrencesIn (above ++ [t]))).filter isOutermost := by
          rw [ht, filter_isOutermost_other hfunction, List.filter_flatMap]
        have habove' : ∀ s ∈ above ++ [t], isAnnotatedFunction s = false := by
          simpa [or_imp, forall_and, hfunction] using habove
        rw [hfirst, hrecord, encloseTree_inside hfunction hclass, scope_inside,
          encloseItems_eq fun c hc => ih c hc habove', enclosed_other hfunction]
        simp only [obstacle?, hclass, hfunction, Bool.false_and, Bool.false_eq_true, if_false,
          Option.none_or]
        cases firstObstacle? file (cs.flatMap (occurrencesIn (above ++ [t]))) with
        | some e => rfl
        | none => rfl

/-! ## Files without annotated classes -/

namespace Syntax.SyntaxTree

/-- Whether no class of a tree carries the annotation. -/
def annotatesNoClass (t : SyntaxTree α) : Bool := t.subtrees.all fun s => !isAnnotatedClass s

/-- Whether the sites of the outermost annotated functions have lines. -/
def sitesLocated (t : SyntaxTree Span) : Bool :=
  (t.occurrences.filter isOutermost).all fun o => bodyIsLocated o.tree

theorem annotatesNoClass_node {f : Form} {a : α} {cs : List (SyntaxTree α)} :
    (node f a cs).annotatesNoClass ↔
      isAnnotatedClass (node f a cs) = false ∧ ∀ c ∈ cs, c.annotatesNoClass := by
  simp only [annotatesNoClass, subtrees_node, List.all_cons, List.all_flatMap, Bool.and_eq_true,
    Bool.not_eq_true', List.all_eq_true]

theorem isLocated_of_mem_subtrees {s t : SyntaxTree Span} (h : t.isLocated) (hs : s ∈ t.subtrees) :
    s.isLocated :=
  List.all_eq_true.2 fun u hu => List.all_eq_true.1 h u (mem_subtrees_trans hu hs)

theorem bodyIsLocated_of_isLocated {t : SyntaxTree Span} (h : t.isLocated) : bodyIsLocated t := by
  obtain ⟨f, a, cs⟩ := t
  unfold bodyIsLocated
  split
  · next args body decorators returns hcs =>
    obtain rfl : cs = [args, body, decorators, returns] := hcs
    have hbody : body ∈ [args, body, decorators, returns] := by simp
    exact isLocated_of_mem_subtrees h (mem_subtrees_of_mem hbody (self_mem_subtrees body))
  · rfl

theorem sitesLocated_of_isLocated {t : SyntaxTree Span} (h : t.isLocated) : t.sitesLocated :=
  List.all_eq_true.2 fun _ ho => bodyIsLocated_of_isLocated <|
    isLocated_of_mem_subtrees h (mem_subtrees_of_mem_occurrencesIn (List.mem_filter.1 ho).1)

/-- Without annotated classes the only obstacles are sites without lines. -/
theorem firstObstacle?_occurrences {t : SyntaxTree Span} (hclass : t.annotatesNoClass) :
    firstObstacle? file t.occurrences = if t.sitesLocated then none else some .unlocated := by
  have hobstacle : ∀ o ∈ t.occurrences, obstacle? file o.tree =
      if isAnnotatedFunction o.tree && !bodyIsLocated o.tree then some .unlocated else none := by
    intro o ho
    have hplain := List.all_eq_true.1 hclass o.tree (mem_subtrees_of_mem_occurrencesIn ho)
    rw [obstacle?, if_neg (by simpa using hplain)]
  rcases h : firstObstacle? file t.occurrences with _ | e
  · have hlocated : t.sitesLocated := by
      refine List.all_eq_true.2 fun o ho => ?_
      rw [filter_isOutermost, List.mem_filter] at ho
      have hnone := List.findSome?_eq_none_iff.1 h o ho.1
      rw [hobstacle o (List.mem_filter.1 ho.1).1] at hnone
      simpa [ho.2] using hnone
    rw [if_pos hlocated]
  · obtain ⟨o, ho, he⟩ := List.exists_of_findSome?_eq_some h
    obtain ⟨hmem, hexposed⟩ := List.mem_filter.1 ho
    rw [hobstacle o hmem] at he
    split at he
    · next hunlocated =>
      cases he
      obtain ⟨hfunction, hbody⟩ := Bool.and_eq_true_iff.1 hunlocated
      have houtermost : o ∈ t.occurrences.filter isOutermost :=
        List.mem_filter.2 ⟨hmem, by simp [isOutermost, hfunction, hexposed]⟩
      rw [if_neg fun hlocated => by simp [List.all_eq_true.1 hlocated o houtermost] at hbody]
    · cases he

end Syntax.SyntaxTree

/-- The build step stops at the first obstacle of a file. -/
theorem encloseFile_eq_firstObstacle {t : SyntaxTree Span} :
    encloseFile file package t =
      match firstObstacle? file t.occurrences with
      | some e => .error e
      | none => .ok (enclosed file package t, recordOf file (t.occurrences.filter isOutermost)) :=
  @encloseTree_eq file package [] t (by simp)

/-- Without annotated classes only a site without a line stops the build step. -/
theorem encloseFile_eq {t : SyntaxTree Span} (hclass : t.annotatesNoClass) :
    encloseFile file package t =
      if t.sitesLocated then
        .ok (enclosed file package t, recordOf file (t.occurrences.filter isOutermost))
      else .error .unlocated := by
  rw [encloseFile_eq_firstObstacle, firstObstacle?_occurrences hclass]
  by_cases hlocated : t.sitesLocated
  · rw [if_pos hlocated, if_pos hlocated]
  · rw [if_neg hlocated, if_neg hlocated]

end ErrorTrail
