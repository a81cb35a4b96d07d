import ErrorTrail.Proofs.Site.Boundaries
import ErrorTrail.Proofs.Site.Completeness

/-!
# What the build step touches

The build step changes the outermost annotated functions of a file and nothing else. Of these it keeps the
name, the parameters, what they return and the other decorators (`sameBut_enclosed`), and it reports
the propagation expressions of their bodies to the package: the calls of the package in the file are,
in order, the recorded sites (`hookCalls_enclosed`).
-/

namespace ErrorTrail

open Syntax SyntaxTree Occurrence

variable {α : Type}

/-! ## Nodes that are kept -/

/-- Two trees are the same but for the outermost nodes with `P`, and these `R` relates. -/
inductive SameBut (P : SyntaxTree α → Prop) (R : SyntaxTree α → SyntaxTree α → Prop) :
    SyntaxTree α → SyntaxTree α → Prop
  | changed {t u : SyntaxTree α} (ht : P t) (htu : R t u) : SameBut P R t u
  | kept {f : Form} {a : α} {cs ds : List (SyntaxTree α)} (ht : ¬ P (node f a cs))
      (hcs : List.Forall₂ (SameBut P R) cs ds) : SameBut P R (node f a cs) (node f a ds)

/-- Two functions differ in their bodies, and in that the one has boundaries where the other is
annotated. -/
def KeepsHeader (package : String) (t u : SyntaxTree Span) : Prop :=
  ∃ f a args body body' s decorators returns,
    t = node f a [args, body, node .sequence s decorators, returns] ∧
    u = node f a [args, body', node .sequence s (decorators.map (boundaryFor package)), returns]

variable {file package : String}

/-- The build step keeps everything outside the annotated functions, and their headers. -/
theorem sameBut_enclosed {t : SyntaxTree Span} (h : t.definesInBodies) :
    SameBut (fun s => isAnnotatedFunction s) (KeepsHeader package) t (enclosed file package t) := by
  induction t, h using enclosedInduction with
  | annotated asynchronous name a args b body s decorators returns hann hargs hdecorators hreturns _ _ =>
    rw [enclosed_function hann hargs hdecorators hreturns]
    exact .changed hann ⟨_, _, _, _, _, _, _, _, rfl, rfl⟩
  | other f a cs hann _ _ ih =>
    rw [enclosed_other hann]
    refine .kept (by simp [hann]) ?_
    rw [List.forall₂_map_right_iff, List.forall₂_same]
    exact ih

/-! ## Calls of the package -/

namespace Syntax.SyntaxTree

/-- Whether no annotation holds a propagation expression. -/
def annotationsPlain (t : SyntaxTree α) : Bool :=
  t.subtrees.all fun s => (decoratorsOf s).all fun d => !isMarker d || d.propagations.isEmpty

theorem annotationsPlain_node {f : Form} {a : α} {cs : List (SyntaxTree α)} :
    (node f a cs).annotationsPlain ↔
      (∀ d ∈ decoratorsOf (node f a cs), isMarker d → d.propagations = []) ∧
        ∀ c ∈ cs, c.annotationsPlain := by
  simp only [annotationsPlain, subtrees_node, List.all_cons, List.all_flatMap, Bool.and_eq_true,
    List.all_eq_true, Bool.or_eq_true, Bool.not_eq_true', List.isEmpty_iff]
  refine and_congr_left fun _ => forall_congr' fun d => forall_congr' fun _ => ?_
  cases isMarker d <;> simp

theorem dottedPath?_of_function {t : SyntaxTree α} (h : isFunctionForm t.form) :
    t.dottedPath? = none := by
  obtain ⟨f, a, cs⟩ := t
  cases f with
  | functionDef asynchronous name => rw [dottedPath?]; all_goals simp
  | _ => cases h

variable {hook : String}

/-- A tree has no calls of a hook whose first name it does not use. -/
theorem hookCalls_of_not_mem {t : SyntaxTree α} (h : pathHead hook ∉ t.identifiers) :
    t.hookCalls hook = [] := by
  refine List.filterMap_eq_nil_iff.2 fun s hs => hookCall?_of_not_mem fun hmem => h ?_
  exact identifiers_subset_of_mem_subtrees (mem_postorder.1 hs) hmem

/-- A node is no call of a hook whose first name its children did not use, if their paths are kept. -/
theorem hookCall?_map {g : SyntaxTree α → SyntaxTree α} {f : Form} {a : α} {cs : List (SyntaxTree α)}
    (hg : ∀ c ∈ cs, (g c).dottedPath? = c.dottedPath?) (h : pathHead hook ∉ (node f a cs).identifiers) :
    (node f a (cs.map g)).hookCall? hook = none := by
  refine Option.eq_none_iff_forall_ne_some.2 fun x hx => h ?_
  obtain ⟨func, rest, hcs, hpath⟩ := dottedPath?_of_hookCall? hx
  obtain ⟨c, cs, rfl, rfl, -⟩ := List.map_eq_cons_iff.1 hcs
  rw [hg c List.mem_cons_self] at hpath
  exact identifiers_subset_of_mem List.mem_cons_self (mem_identifiers_of_dottedPath? hpath)

end Syntax.SyntaxTree

/-- What the package offers stands under the first name of the package. -/
theorem pathHead_append (path : String) {word : String} (h : '.' ∉ word.toList) :
    pathHead (path ++ "." ++ word) = pathHead path := by
  have hsplit : (path ++ "." ++ word).splitOn "." = path.splitOn "." ++ [word] :=
    Text.splitOn_append_last h path
  obtain ⟨head, attrs, hpath⟩ : ∃ head attrs, path.splitOn "." = head :: attrs :=
    List.exists_cons_of_ne_nil (Text.splitOn_ne_nil '.' path)
  rw [pathHead, pathHead, hsplit, hpath]
  rfl

theorem pathHead_packageMarking (file package : String) :
    pathHead (packageMarking file package).hook = pathHead package := by
  have hpath : (packageMarking file package).hook = package ++ "." ++ "wherrapper" := by
    rw [String.append_assoc]
    rfl
  rw [hpath]
  exact pathHead_append package (by decide)

/-- The paths that are read stay. -/
theorem dottedPath?_inside (t : SyntaxTree Span) :
    (inside file package t).dottedPath? = t.dottedPath? := by
  suffices h : ∀ u : SyntaxTree Span, (swapAnnotations package u).dottedPath? = u.dottedPath? from
    (h _).trans (dottedPath?_visit t)
  intro u
  induction u with
  | node f a cs ih =>
    by_cases hf : isFunctionForm f
    · rw [dottedPath?_of_function (by rwa [form_swap]),
        dottedPath?_of_function (t := node f a cs) hf]
    · rw [swap_node (by simpa using hf)]
      exact dottedPath?_map ih

theorem dottedPath?_enclosed (t : SyntaxTree Span) :
    (enclosed file package t).dottedPath? = t.dottedPath? := by
  induction t with
  | node f a cs ih =>
    by_cases hann : isAnnotatedFunction (node f a cs)
    · have hf : isFunctionForm f := (Bool.and_eq_true_iff.1 hann).1
      rw [dottedPath?_of_function (by rwa [form_enclosed]),
        dottedPath?_of_function (t := node f a cs) hf]
    · rw [enclosed_other (by simpa using hann)]
      exact dottedPath?_map ih

/-- The calls of the package in a decorator report its propagation expressions, if a boundary does not
stand in its place. -/
theorem hookCalls_decorator {d : SyntaxTree Span} (hfresh : pathHead package ∉ d.identifiers)
    (hplain : isMarker d → d.propagations = []) (h : d.definesNothing) :
    ((boundaryFor package (inside file package d)).hookCalls
        (packageMarking file package).hook).map Prod.snd = d.propagations.map (siteOf file) := by
  rw [← pathHead_packageMarking file package] at hfresh
  rw [boundaryFor, isMarker_congr (form_inside d)]
  split
  · next hmarker => rw [hookCalls_hookExpr, hplain hmarker, List.map_nil, List.map_nil]
  · rw [inside_eq_visit h, hookCalls_visit hfresh, List.map_map]
    rfl

/-- The calls of the package in a statement of an annotated function report its propagation expressions. -/
theorem hookCalls_inside {t : SyntaxTree Span} (hfresh : pathHead package ∉ t.identifiers)
    (hplain : t.annotationsPlain) (h : t.definesInBodies) :
    ((inside file package t).hookCalls (packageMarking file package).hook).map Prod.snd =
      t.propagations.map (siteOf file) := by
  have hfreshs : ∀ {f a} {cs : List (SyntaxTree Span)}, pathHead package ∉ (node f a cs).identifiers →
      ∀ c ∈ cs, pathHead package ∉ c.identifiers := fun h c hc hmem =>
    h (identifiers_subset_of_mem hc hmem)
  induction t, h using insideInduction with
  | atSite call ctx word args named r _ _ ih =>
    have hrplain : r.annotationsPlain := by
      simp only [site, annotationsPlain_node, List.forall_mem_cons] at hplain
      exact hplain.2.1.2.1
    rw [identifiers_site] at hfresh
    rw [inside_site, hookCalls_inject, List.map_append, ih hfresh hrplain, propagations_site,
      List.map_append]
    rfl
  | function asynchronous name a args b body s decorators returns _ hdecorators _ _ _ ih =>
    obtain ⟨hannotations, hplains⟩ := annotationsPlain_node.1 hplain
    have hchildren := fun c hc => ih c hc (hfreshs hfresh c hc) (hplains c hc)
    have hsequence : ((node .sequence s (decorators.map fun d =>
        boundaryFor package (inside file package d))).hookCalls
        (packageMarking file package).hook).map Prod.snd =
          (node .sequence s decorators).propagations.map (siteOf file) := by
      rw [hookCalls_node, hookCall?_eq_none (by simp), propagations_other (propagation?_eq_none (by simp)),
        Option.toList_none, List.append_nil, List.map_flatMap, List.map_flatMap, List.flatMap_map]
      exact List.flatMap_congr fun d hd => hookCalls_decorator
        (hfreshs (hfreshs hfresh (node .sequence s decorators) (by simp)) d hd) (hannotations d hd)
        (hdecorators d hd)
    rw [inside_function, hookCalls_node, hookCall?_eq_none (by simp),
      propagations_other (propagation?_eq_none (by simp))]
    simp only [List.flatMap_cons, List.flatMap_nil, List.map_append, hsequence, hchildren args (by simp),
      hchildren (node .sequence b body) (by simp), hchildren returns (by simp), Option.toList_none,
      List.append_nil]
  | other f a cs hsite hf _ _ ih =>
    obtain ⟨-, hplains⟩ := annotationsPlain_node.1 hplain
    have hroot : (node f a (cs.map (inside file package))).hookCall?
        (packageMarking file package).hook = none :=
      hookCall?_map (fun c _ => dottedPath?_inside c) (by rwa [pathHead_packageMarking])
    rw [inside_other hsite hf, hookCalls_node, hroot, propagations_other hsite,
      Option.toList_none, List.append_nil, List.map_flatMap, List.map_flatMap, List.flatMap_map]
    exact List.flatMap_congr fun c hc => ih c hc (hfreshs hfresh c hc) (hplains c hc)

/-- The calls of the package in an annotated function report the sites of its body. -/
theorem hookCalls_annotated {t : SyntaxTree Span} (hfresh : pathHead package ∉ t.identifiers)
    (hplain : t.annotationsPlain) (h : t.definesInBodies) (hann : isAnnotatedFunction t) :
    ((enclosed file package t).hookCalls (packageMarking file package).hook).map Prod.snd =
      bodySites file t := by
  obtain ⟨f, a, cs⟩ := t
  obtain ⟨hparts, hcs⟩ := definesInBodies_node.1 h
  obtain ⟨-, hplains⟩ := annotationsPlain_node.1 hplain
  have hfreshs : ∀ c ∈ cs, pathHead package ∉ c.identifiers := fun c hc hmem =>
    hfresh (identifiers_subset_of_mem hc hmem)
  obtain ⟨asynchronous, name, _, args, b, body, s, decorators, returns, ht, hargs, hdecorators, hreturns⟩ :=
    eq_of_hasParts hparts (Bool.and_eq_true_iff.1 hann).1
  cases ht
  have hhead := pathHead_packageMarking file package
  have hkept : ∀ c : SyntaxTree Span, pathHead package ∉ c.identifiers →
      c.hookCalls (packageMarking file package).hook = [] := fun c hc =>
    hookCalls_of_not_mem (hhead ▸ hc)
  have hboundaries : (node .sequence s (decorators.map (boundaryFor package))).hookCalls
      (packageMarking file package).hook = [] := by
    rw [hookCalls_node, hookCall?_eq_none (by simp), Option.toList_none, List.append_nil,
      List.flatMap_map, List.flatMap_eq_nil_iff]
    intro d hd
    unfold boundaryFor
    split
    · exact hookCalls_hookExpr _ _ _
    · refine hkept d fun hmem => hfreshs (node .sequence s decorators) (by simp) ?_
      exact identifiers_subset_of_mem hd hmem
  have hbody := @hookCalls_inside file _ _ (hfreshs (node .sequence b body) (by simp))
    (hplains _ (by simp)) (hcs _ (by simp))
  rw [inside_sequence, propagations_other (propagation?_eq_none (by simp))] at hbody
  rw [enclosed_function hann hargs hdecorators hreturns, hookCalls_node, hookCall?_eq_none (by simp)]
  simp only [List.flatMap_cons, List.flatMap_nil, hkept args (hfreshs args (by simp)), hboundaries,
    hkept returns (hfreshs returns (by simp)), Option.toList_none, List.append_nil, List.nil_append, hbody]
  rfl

/-- The calls of the package in a file report the sites of the outermost annotated functions. -/
theorem hookCalls_enclosed {t : SyntaxTree Span} {above : List (SyntaxTree Span)}
    (habove : ∀ s ∈ above, isAnnotatedFunction s = false) (hfresh : pathHead package ∉ t.identifiers)
    (hplain : t.annotationsPlain) (h : t.definesInBodies) :
    ((enclosed file package t).hookCalls (packageMarking file package).hook).map Prod.snd =
      ((t.occurrencesIn above).filter isOutermost).flatMap fun o => bodySites file o.tree := by
  induction t, h using enclosedInduction generalizing above with
  | annotated asynchronous name a args b body s decorators returns hann _ _ _ _ h =>
    rw [hookCalls_annotated hfresh hplain h hann, filter_isOutermost_annotated habove hann,
      List.flatMap_singleton]
  | other f a cs hann _ _ ih =>
    obtain ⟨-, hplains⟩ := annotationsPlain_node.1 hplain
    have habove' : ∀ s ∈ above ++ [node f a cs], isAnnotatedFunction s = false := by
      simpa [or_imp, forall_and, hann] using habove
    have hroot : (node f a (cs.map (enclosed file package))).hookCall?
        (packageMarking file package).hook = none :=
      hookCall?_map (fun c _ => dottedPath?_enclosed c) (by rwa [pathHead_packageMarking])
    rw [enclosed_other hann, hookCalls_node, hroot, filter_isOutermost_other hann, Option.toList_none,
      List.append_nil, List.map_flatMap, List.flatMap_map, List.flatMap_assoc]
    exact List.flatMap_congr fun c hc => ih c hc habove'
      (fun hmem => hfresh (identifiers_subset_of_mem hc hmem)) (hplains c hc)

/-! ## The whole step -/

/-- In a file without annotated classes, whose annotations hold no propagation expression, under a name
that the file does not use, the build step

* records exactly the outermost annotated functions, in source order and under their paths;
* records exactly the propagation expressions of their bodies as sites;
* reports these sites, in this order, in the calls of the package, and no others;
* keeps everything outside these functions, and of them all but their bodies and annotations.

A parsed file defines functions only in bodies (`definesInBodies_parseFile`), and the step succeeds on it
(`encloseFile_of_parseFile`). -/
theorem encloseFile_outermost {t : SyntaxTree Span} (file package : String)
    (hclass : t.annotatesNoClass) (hplain : t.annotationsPlain)
    (hfresh : pathHead package ∉ t.identifiers) (hbodies : t.definesInBodies)
    (hlocated : t.sitesLocated) :
    ∃ done, encloseFile file package t = .ok done ∧
      (done.2.functions = (t.occurrences.filter isOutermost).map path ∧
        done.2.sites = (t.occurrences.filter isOutermost).flatMap fun o =>
          (o.tree.block.flatMap propagations).map fun p => (o.path, siteOf file p)) ∧
      (done.1.hookCalls (package ++ ".wherrapper")).map Prod.snd = done.2.sites.map Prod.snd ∧
      SameBut (fun s => isAnnotatedFunction s) (KeepsHeader package) t done.1 := by
  have hsites : (recordOf file (t.occurrences.filter isOutermost)).sites =
      (t.occurrences.filter isOutermost).flatMap fun o =>
        (o.tree.block.flatMap propagations).map fun p => (o.path, siteOf file p) :=
    List.flatMap_congr fun o _ => List.map_map
  refine ⟨_, by rw [encloseFile_eq hclass, if_pos hlocated], ⟨rfl, hsites⟩, ?_, sameBut_enclosed hbodies⟩
  have hcalls : ((enclosed file package t).hookCalls (packageMarking file package).hook).map Prod.snd =
      (t.occurrences.filter isOutermost).flatMap fun o => bodySites file o.tree :=
    hookCalls_enclosed (by simp) hfresh hplain hbodies
  rw [recordOf, List.map_flatMap]
  refine hcalls.trans (List.flatMap_congr fun o _ => ?_)
  rw [List.map_map]
  exact (List.map_id _).symm

/-- A method with an annotated function in it, and a function that is not annotated: the method is
outermost, and three sites are its own. -/
theorem encloseFile_outermost_method :
    let sites := List.replicate 3 ("Reader.load", (⟨"prog.py", 4⟩ : Location))
    readerFile.annotatesNoClass ∧ readerFile.annotationsPlain ∧
      pathHead "_wherr" ∉ readerFile.identifiers ∧ readerFile.definesInBodies ∧
      readerFile.sitesLocated ∧
      ∃ done, encloseFile "prog.py" "_wherr" readerFile = .ok done ∧
        (done.2.functions = ["Reader.load"] ∧ done.2.sites = sites) ∧
        (done.1.hookCalls ("_wherr" ++ ".wherrapper")).map Prod.snd = sites.map Prod.snd ∧
        SameBut (fun s => isAnnotatedFunction s) (KeepsHeader "_wherr") readerFile done.1 := by
  intro sites
  have hclass : readerFile.annotatesNoClass := by decide
  have hplain : readerFile.annotationsPlain := by decide
  have hfresh : pathHead "_wherr" ∉ readerFile.identifiers := by
    rw [pathHead, Text.splitOn_char '.']
    decide
  have hbodies : readerFile.definesInBodies := by decide
  have hlocated : readerFile.sitesLocated := by decide
  obtain ⟨done, hdone, ⟨hfunctions, hsites⟩, hcalls, hsame⟩ :=
    encloseFile_outermost "prog.py" "_wherr" hclass hplain hfresh hbodies hlocated
  have hrecorded : done.2.sites = sites := hsites.trans (by decide)
  refine ⟨hclass, hplain, hfresh, hbodies, hlocated, done, hdone, ⟨hfunctions.trans (by decide), hrecorded⟩,
    ?_, hsame⟩
  rw [hcalls, hrecorded]

end ErrorTrail
