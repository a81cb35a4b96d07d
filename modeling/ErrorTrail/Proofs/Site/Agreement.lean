import ErrorTrail.Proofs.Site.Boundaries
import ErrorTrail.Proofs.Site.Completeness
import ErrorTrail.Proofs.Syntax.Plain

/-!
# A live function and its file are instrumented alike

An annotated function is instrumented when its file is built, and otherwise when it is defined: then
its definition is stripped, and its sites call a hook of a fresh name. `exchange` puts the package in the
place of such a hook, and boundaries in the place of annotations. It takes the body that the one way
gives to the body that the other gives, and both report the same sites (`enclose_agrees`).
-/

namespace ErrorTrail

open Syntax SyntaxTree

/-! ## Exchanging the hook for the package -/

/-- At one node: the package in the place of the hook, the boundary in the place of every annotation of a
function. -/
def exchangeHere (hook package : String) (f : Form) (a : Span) (cs : List (SyntaxTree Span)) :
    SyntaxTree Span :=
  match f, cs with
  | .name id .load, _ =>
    if id = hook then hookExpr a (package ++ ".wherrapper") else node f a cs
  | .functionDef _ _, [args, body, node .sequence s decorators, returns] =>
    node f a [args, body, node .sequence s (decorators.map (boundaryFor package)), returns]
  | _, _ => node f a cs

/-- The tree with the package in the place of the hook, and boundaries in the place of annotations. -/
def exchange (hook package : String) : SyntaxTree Span → SyntaxTree Span :=
  rebuild (exchangeHere hook package)

variable {file hook package : String} {f : Form} {a : Span} {cs : List (SyntaxTree Span)}

theorem exchange_node :
    exchange hook package (node f a cs) =
      exchangeHere hook package f a (cs.map (exchange hook package)) :=
  rebuild_node _ f a cs

theorem exchange_hook : exchange hook package (node (.name hook .load) a []) =
    hookExpr a (package ++ ".wherrapper") := by
  rw [exchange_node, exchangeHere, if_pos rfl]

/-- At a node that does not read the hook nothing but annotations is replaced. -/
theorem exchangeHere_eq_swapHere (hf : hook ∉ f.identifiers) :
    exchangeHere hook package f a cs = swapHere package f a cs := by
  unfold exchangeHere
  split
  · next id cs =>
    rw [if_neg (fun h => hf (by simp [Form.identifiers, h]))]
    rfl
  · rfl
  · next hname hfunction =>
    unfold swapHere
    split
    · exact (hfunction _ _ _ _ _ _ _ rfl rfl).elim
    · rfl

/-- The reports to a hook become reports to the package. -/
theorem exchange_inject (hdot : '.' ∉ hook.toList) (r : SyntaxTree Span) (line : Int) :
    exchange hook package ((⟨file, hook⟩ : Marking).inject a {} r line) =
      (packageMarking file package).inject a {} (exchange hook package r) line := by
  have hplain : ∀ (f : Form) (a : Span) (cs : List (SyntaxTree Span)),
      hook ∉ f.identifiers → isFunctionForm f = false →
      exchange hook package (node f a cs) = node f a (cs.map (exchange hook package)) := by
    intro f a cs hhook hf
    rw [exchange_node, exchangeHere_eq_swapHere hhook]
    cases f with
    | functionDef asynchronous name => cases hf
    | _ => rfl
  simp only [Marking.inject, Marking.hookCall, packageMarking, hookExpr_eq a hdot, exchange_hook,
    hplain .call _ _ List.not_mem_nil rfl, hplain .sequence _ _ List.not_mem_nil rfl,
    hplain (.attribute propagateWord .load) _ _ List.not_mem_nil rfl,
    hplain (.constant _ none) _ _ List.not_mem_nil rfl, List.map_cons, List.map_nil]

/-- With the package in the place of a hook that it does not use, an instrumented statement is what the
build step makes of it. -/
theorem exchange_visit {t : SyntaxTree Span} (hfresh : hook ∉ t.identifiers)
    (hdot : '.' ∉ hook.toList) :
    exchange hook package (t.visit ⟨file, hook⟩).1 = inside file package t := by
  induction t using siteInduction with
  | atSite call ctx word args named r ih =>
    rw [identifiers_site] at hfresh
    rw [visit_site, inside_site, exchange_inject hdot, ih hfresh]
  | other f a cs hsite ih =>
    have hf : hook ∉ f.identifiers := fun h => hfresh (by simp [identifiers_node, h])
    have hcs : (cs.map fun c => (c.visit ⟨file, hook⟩).1).map (exchange hook package) =
        cs.map (inside file package) := by
      rw [List.map_map]
      exact List.map_congr_left fun c hc => ih c hc fun h => hfresh (identifiers_subset_of_mem hc h)
    rw [visit_other hsite, exchange_node, exchangeHere_eq_swapHere hf, hcs, inside, visit_other hsite,
      swapAnnotations_node, List.map_map]
    rfl

/-! ## The two ways -/

theorem instrument_function {m : Marking} {t : SyntaxTree Span} (h : isFunctionForm t.form) :
    instrument m t = if bodyIsLocated t then .ok (instrumentBody m t) else .error .unlocated := by
  rw [instrument, if_neg (by simp [h])]

/-- Stripping a definition keeps its body. -/
theorem stripDefinition_function {asynchronous : Bool} {name : String}
    {args body decorators returns : SyntaxTree Span} :
    ∃ args' decorators' returns',
      stripDefinition (node (.functionDef asynchronous name) a [args, body, decorators, returns]) =
        node (.functionDef asynchronous name) a [args', body, decorators', returns'] := by
  unfold stripDefinition
  split
  · next h =>
    cases h
    exact ⟨_, _, _, rfl⟩
  · exact ⟨_, _, _, rfl⟩

/-- An instrumented function has the statements of its body instrumented. -/
theorem block_instrumentBody (m : Marking) {asynchronous : Bool} {name : String}
    {args body decorators returns : SyntaxTree Span} :
    let t := node (.functionDef asynchronous name) a [args, body, decorators, returns]
    (instrumentBody m t).1.block = t.block.map fun s => (s.visit m).1 := by
  intro t
  obtain ⟨f, s, cs⟩ := body
  cases f with
  | sequence =>
    simp only [t, instrumentBody, visitItems_eq]
    rfl
  | _ => rfl

theorem items_swap (t : SyntaxTree Span) :
    (swapAnnotations package t).items = t.items.map (swapAnnotations package) :=
  items_map (form_swap package) (fun _ _ => swap_node rfl) t

/-- The build step leaves of an annotated function its statements, each as `inside` says. -/
theorem block_enclosed {t : SyntaxTree Span} (h : isAnnotatedFunction t) :
    (enclosed file package t).block = t.block.map (inside file package) := by
  obtain ⟨asynchronous, name, a, args, ⟨f, b, body⟩, s, decorators, returns, rfl, -⟩ :=
    eq_of_isAnnotatedFunction h
  have hblock : ∀ c : SyntaxTree Span, (swapAnnotations package (node (.functionDef asynchronous name) a
      [args, c, node .sequence s decorators, returns])).block =
        c.items.map (swapAnnotations package) := fun c => by rw [swap_function]; exact items_swap c
  rw [enclosed_annotated h]
  cases f with
  | sequence => rw [instrumentBody, hblock, visitItems_eq, items_sequence, List.map_map]; rfl
  | _ => exact hblock _

/-- The two ways of instrumenting an annotated function agree. Both succeed if the sites of its body
have lines, and report the same sites; then the statements that the build step leaves are those of the
definition with the package in the place of the hook and boundaries in the place of annotations. -/
theorem enclose_agrees {d : SyntaxTree Span} (file package : String) (scope : List String)
    (hd : isAnnotatedFunction d) :
    let hook := freshName (stripDefinition d) hookBase
    let path := dotted (scope ++ (definedName? d).toList)
    if bodyIsLocated d then
      ∃ live built sites, instrument ⟨file, hook⟩ (stripDefinition d) = .ok (live, sites) ∧
        encloseTree file package scope d = .ok (built, ⟨[path], sites.map fun l => (path, l)⟩) ∧
        built.block = live.block.map (exchange hook package)
    else
      instrument ⟨file, hook⟩ (stripDefinition d) = .error .unlocated ∧
        encloseTree file package scope d = .error .unlocated := by
  intro hook path
  obtain ⟨asynchronous, name, a, args, body, s, decorators, returns, rfl, hann⟩ :=
    eq_of_isAnnotatedFunction hd
  obtain ⟨args', decorators', returns', hstripped⟩ :
      ∃ args' decorators' returns', stripDefinition (node (.functionDef asynchronous name) a
        [args, body, node .sequence s decorators, returns]) = _ := stripDefinition_function
  have hhook : IsHook (stripDefinition _) hook := isHook_freshName _
  rw [hstripped] at hhook ⊢
  rw [encloseTree_annotated hd, instrument_function rfl]
  set stripped := node (.functionDef asynchronous name) a [args', body, decorators', returns']
  set d := node (.functionDef asynchronous name) a [args, body, node .sequence s decorators, returns]
  have hlocated : bodyIsLocated stripped = bodyIsLocated d := rfl
  have hsites : (instrumentBody ⟨file, hook⟩ stripped).2 =
      (instrumentBody (packageMarking file package) d).2 := calc
    _ = bodySites file stripped := sites_instrumentBody ⟨file, hook⟩
    _ = bodySites file d := rfl
    _ = _ := (sites_instrumentBody (packageMarking file package)).symm
  have hstatements : ∀ t ∈ stripped.block, t.identifiers ⊆ stripped.identifiers := fun t ht =>
    List.Subset.trans (identifiers_subset_of_mem_subtrees
      (mem_subtrees_of_mem_items (t := body) ht (self_mem_subtrees t))) (identifiers_subset_of_mem (by simp))
  rw [hlocated]
  split
  · refine ⟨(instrumentBody ⟨file, hook⟩ stripped).1, enclosed file package d,
      (instrumentBody ⟨file, hook⟩ stripped).2, rfl, ?_, ?_⟩
    · rw [hsites, enclosed_annotated hd]
      rfl
    · rw [block_enclosed hd, block_instrumentBody, List.map_map]
      exact List.map_congr_left fun t ht =>
        (exchange_visit (fun hmem => hhook.fresh (hstatements t ht hmem)) hhook.dotless).symm
  · exact ⟨rfl, rfl⟩

/-- An annotated function in an annotated method, with a site in one of its decorators. -/
theorem enclose_agrees_nested :
    let d := nestedDefinition
    let hook := freshName (stripDefinition d) hookBase
    let sites := List.replicate 3 (⟨"prog.py", 4⟩ : Location)
    isAnnotatedFunction d ∧ bodyIsLocated d ∧ ∃ live built,
      instrument ⟨"prog.py", hook⟩ (stripDefinition d) = .ok (live, sites) ∧
        encloseTree "prog.py" "_wherr" ["Reader"] d =
          .ok (built, ⟨["Reader.load"], sites.map fun l => ("Reader.load", l)⟩) ∧
        built.block = live.block.map (exchange hook "_wherr") := by
  intro d hook sites
  have hd : isAnnotatedFunction d := by decide
  have hlocated : bodyIsLocated d := by decide
  have hbody : (instrumentBody ⟨"prog.py", hook⟩ (stripDefinition d)).2 = sites := calc
    _ = bodySites "prog.py" (stripDefinition d) := sites_instrumentBody ⟨"prog.py", hook⟩
    _ = sites := by decide
  have hsites : ∀ live sites', instrument ⟨"prog.py", hook⟩ (stripDefinition d) = .ok (live, sites') →
      sites' = sites := by
    intro live sites' h
    rw [instrument_function rfl, if_pos (by decide)] at h
    exact (congrArg Prod.snd (Except.ok.inj h)).symm.trans hbody
  have hpath : dotted (["Reader"] ++ (definedName? d).toList) = "Reader.load" := by decide
  have h := enclose_agrees "prog.py" "_wherr" ["Reader"] hd
  simp only [hlocated, if_true, hpath] at h
  obtain ⟨live, built, sites', hlive, hbuilt, hblock⟩ := h
  obtain rfl := hsites live sites' hlive
  exact ⟨hd, hlocated, live, built, hlive, hbuilt, hblock⟩

end ErrorTrail
