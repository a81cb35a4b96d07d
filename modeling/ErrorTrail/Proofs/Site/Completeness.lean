import ErrorTrail.Proofs.Site.Visit
import ErrorTrail.Proofs.Text.Splitting

/-!
# Instrumenting reaches every propagation expression and nothing else

`hookCall?` recognises the calls of a hook on a receiver, a file and a line, and `unhook` takes
them off the receivers of propagation expressions. For a hook whose first name a tree does not use,

* `unhook_visit`: taking the hook off an instrumented tree gives the tree back, the attribute of
  each propagation expression standing at the place of its call (`aligned`);
* `hookCalls_visit`: the hook calls of the instrumented tree stand one on each propagation
  expression of the tree, with its location, and none is the receiver of another.

`visit_complete` puts these together with the facts of the plain traversal.
-/

namespace ErrorTrail

open Syntax

/-- The first name of a dotted path. -/
def pathHead (path : String) : String := (path.splitOn ".").headD ""

namespace Syntax.SyntaxTree

variable {α : Type}

theorem hookExpr_dottedPath? (a : α) (path : String) :
    (hookExpr a path).dottedPath? = some (pathHead path :: (path.splitOn ".").tail) := by
  have hattrs : ∀ (attrs : List String) (e : SyntaxTree α) (parts : List String),
      e.dottedPath? = some parts →
      (attrs.foldl (fun e word => node (.attribute word .load) a [e]) e).dottedPath? =
        some (parts ++ attrs) := by
    intro attrs
    induction attrs with
    | nil => intro e parts he; simpa using he
    | cons word attrs ih =>
      intro e parts he
      rw [List.foldl_cons, ih _ (parts ++ [word]) (by simp [dottedPath?_attribute, he]),
        List.append_assoc, List.singleton_append]
  unfold hookExpr pathHead
  split
  · next h => rw [h]; rfl
  · next head attrs h =>
    rw [h]
    exact hattrs attrs _ [head] (by simp [dottedPath?])

/-! ## Calls of a hook -/

/-- For a call of the hook on a receiver, a file and a line: the receiver and the location. -/
def hookCall? (hook : String) : SyntaxTree α → Option (SyntaxTree α × Location)
  | node .call _
      [func, node .sequence _ [r, node (.constant (.str file) _) _ [],
        node (.constant (.int line) _) _ []], node .sequence _ []] =>
    if func.dottedPath? = some (pathHead hook :: (hook.splitOn ".").tail) then
      some (r, ⟨file, line⟩)
    else none
  | _ => none

/-- The calls of the hook in a tree: their receivers and locations, in order of evaluation. -/
def hookCalls (hook : String) (t : SyntaxTree α) : List (SyntaxTree α × Location) :=
  t.postorder.filterMap (hookCall? hook)

theorem hookCalls_node (hook : String) (f : Form) (a : α) (cs : List (SyntaxTree α)) :
    (node f a cs).hookCalls hook =
      cs.flatMap (hookCalls hook) ++ ((node f a cs).hookCall? hook).toList := by
  unfold hookCalls
  rw [postorder_node, List.filterMap_append, List.filterMap_flatMap, List.filterMap_cons,
    List.filterMap_nil]
  congr 1

theorem hookCall?_hookCall (m : Marking) (a none_ : α) (r : SyntaxTree α) (line : Int) :
    (m.hookCall a none_ r line).hookCall? m.hook = some (r, ⟨m.file, line⟩) := by
  simp [Marking.hookCall, hookCall?, hookExpr_dottedPath?]

theorem hookCall?_eq_none {hook : String} {f : Form} {a : α} {cs : List (SyntaxTree α)}
    (hf : f ≠ .call) : (node f a cs).hookCall? hook = none := by
  unfold hookCall?
  split
  · next he => exact absurd (congrArg form he) hf
  · rfl

/-- The first child of a hook call is the function that the hook names. -/
theorem dottedPath?_of_hookCall? {hook : String} {f : Form} {a : α} {cs : List (SyntaxTree α)}
    {x : SyntaxTree α × Location} (h : (node f a cs).hookCall? hook = some x) :
    ∃ func rest, cs = func :: rest ∧
      func.dottedPath? = some (pathHead hook :: (hook.splitOn ".").tail) := by
  unfold hookCall? at h
  split at h
  · next he =>
    cases he
    split at h
    · next hpath => exact ⟨_, _, rfl, hpath⟩
    · cases h
  · cases h

/-- A tree that does not use the first name of a hook is no call of it. -/
theorem hookCall?_of_not_mem {hook : String} {t : SyntaxTree α} (h : pathHead hook ∉ t.identifiers) :
    t.hookCall? hook = none := by
  obtain ⟨f, a, cs⟩ := t
  refine Option.eq_none_iff_forall_ne_some.2 fun x hx => h ?_
  obtain ⟨func, rest, rfl, hpath⟩ := dottedPath?_of_hookCall? hx
  exact identifiers_subset_of_mem List.mem_cons_self (mem_identifiers_of_dottedPath? hpath)

/-- A propagation expression is not itself a hook call. -/
theorem hookCall?_site (hook : String) (call : α) (ctx : Context) (word args named : α)
    (r : SyntaxTree α) : (site call ctx word args named r).hookCall? hook = none := rfl

theorem hookCalls_hookExpr (hook : String) (a : α) (path : String) :
    (hookExpr a path).hookCalls hook = [] := by
  refine hookExpr_induction (motive := fun e => e.hookCalls hook = []) (fun id => ?_)
    (fun word e he => ?_) path
  · rw [hookCalls_node, hookCall?_eq_none (by simp)]
    rfl
  · rw [hookCalls_node, hookCall?_eq_none (by simp)]
    simpa using he

/-- The hook calls of an injected expression are those of its receiver and its own. -/
theorem hookCalls_inject (m : Marking) (a none_ : α) (r : SyntaxTree α) (line : Int) :
    (m.inject a none_ r line).hookCalls m.hook =
      r.hookCalls m.hook ++ [(r, ⟨m.file, line⟩)] := by
  have hleaf : ∀ (f : Form) (b : α), f ≠ .call → (node f b []).hookCalls m.hook = [] := by
    intro f b hf
    rw [hookCalls_node, hookCall?_eq_none hf]
    rfl
  have hargs : (node .sequence none_ [r, node (.constant (.str m.file) none) a [],
      node (.constant (.int line) none) a []]).hookCalls m.hook = r.hookCalls m.hook := by
    rw [hookCalls_node, hookCall?_eq_none (by simp)]
    simp [hleaf]
  have hcall : (m.hookCall a none_ r line).hookCalls m.hook =
      r.hookCalls m.hook ++ [(r, ⟨m.file, line⟩)] := by
    have h := hookCall?_hookCall m a none_ r line
    rw [Marking.hookCall] at h ⊢
    rw [hookCalls_node, h]
    simp [hargs, hleaf, hookCalls_hookExpr]
  have hattr : (node (.attribute propagateWord .load) a [m.hookCall a none_ r line]).hookCalls
      m.hook = (m.hookCall a none_ r line).hookCalls m.hook := by
    rw [hookCalls_node, hookCall?_eq_none (by simp)]
    simp
  rw [inject_eq_site, site, hookCalls_node, ← site, hookCall?_site]
  simp [hattr, hleaf, hcall]

/-! ## Taking the hook off again -/

/-- Applies `g` to the receiver of a propagation expression. -/
def mapReceiver (g : SyntaxTree α → SyntaxTree α) : SyntaxTree α → SyntaxTree α
  | node .call a
      [node (.attribute attr ctx) word [r], node .sequence args [], node .sequence named []] =>
    node .call a
      [node (.attribute attr ctx) word [if attr = propagateWord then g r else r],
        node .sequence args [], node .sequence named []]
  | t => t

theorem mapReceiver_site (g : SyntaxTree α → SyntaxTree α) (call : α) (ctx : Context)
    (word args named : α) (r : SyntaxTree α) :
    (site call ctx word args named r).mapReceiver g = site call ctx word args named (g r) := rfl

theorem mapReceiver_other {g : SyntaxTree α → SyntaxTree α} {t : SyntaxTree α}
    (h : t.propagation? = none) : t.mapReceiver g = t := by
  unfold mapReceiver
  split
  · next attr _ _ _ _ _ =>
    by_cases hattr : attr = propagateWord
    · subst hattr
      cases h
    · rw [if_neg hattr]
  · rfl

/-- What a hook call is about, for a hook call; any other expression itself. -/
def hooked (hook : String) (t : SyntaxTree α) : SyntaxTree α :=
  ((t.hookCall? hook).map Prod.fst).getD t

/-- The tree with each propagation expression `hook(r, file, line).propagate()` replaced by
`r.propagate()`. -/
def unhook (hook : String) (t : SyntaxTree α) : SyntaxTree α :=
  t.rebuild fun f a cs => (node f a cs).mapReceiver (hooked hook)

/-- The attribute of a propagation expression read at the place of its call. -/
def alignSite (t : SyntaxTree Span) : SyntaxTree Span :=
  match t.propagation? with
  | some (_, r) => site t.ann .load t.ann {} {} r
  | none => t

/-- The tree with the attribute of each propagation expression at the place of its call. -/
def aligned (t : SyntaxTree Span) : SyntaxTree Span :=
  t.rebuild fun f a cs => (node f a cs).alignSite

/-- A tree without propagation expressions is rebuilt as it was. -/
theorem unhook_eq_self {hook : String} {t : SyntaxTree α} (h : t.propagations = []) :
    t.unhook hook = t := by
  induction t with
  | node f a cs ih =>
    obtain ⟨hnone, hchildren⟩ := propagations_node_eq_nil h
    have hcs : cs.map (rebuild fun f a cs => (node f a cs).mapReceiver (hooked hook)) = cs := by
      refine (List.map_congr_left fun c hc => ?_).trans (List.map_id cs)
      exact ih c hc (hchildren c hc)
    rw [unhook, rebuild_node, hcs, mapReceiver_other hnone]

theorem unhook_node (hook : String) (f : Form) (a : α) (cs : List (SyntaxTree α)) :
    (node f a cs).unhook hook = (node f a (cs.map (unhook hook))).mapReceiver (hooked hook) :=
  rebuild_node _ f a cs

theorem unhook_of_ne_call {hook : String} {f : Form} {a : α} {cs : List (SyntaxTree α)}
    (hf : f ≠ .call) : (node f a cs).unhook hook = node f a (cs.map (unhook hook)) := by
  rw [unhook_node, mapReceiver_other (propagation?_eq_none hf)]

/-- Unhooking an injected expression leaves the unhooked receiver. -/
theorem unhook_inject (m : Marking) (a none_ : α) (r : SyntaxTree α) (line : Int) :
    (m.inject a none_ r line).unhook m.hook = site a .load a none_ none_ (r.unhook m.hook) := by
  have hcall : (m.hookCall a none_ r line).unhook m.hook =
      m.hookCall a none_ (r.unhook m.hook) line := by
    have hnone : (m.hookCall a none_ (r.unhook m.hook) line).propagation? = none := by
      simp [Marking.hookCall, propagation?]
    rw [Marking.hookCall] at hnone ⊢
    rw [unhook_node]
    simp only [List.map_cons, List.map_nil, unhook_of_ne_call, ne_eq, reduceCtorEq,
      not_false_eq_true, unhook_eq_self (propagations_hookExpr a m.hook)]
    rw [mapReceiver_other hnone]
    rfl
  rw [inject_eq_site, site, unhook_node]
  simp only [List.map_cons, List.map_nil, unhook_of_ne_call, ne_eq, reduceCtorEq,
    not_false_eq_true, hcall]
  rw [← site, mapReceiver_site, hooked, hookCall?_hookCall]
  rfl

theorem alignSite_other {t : SyntaxTree Span} (h : t.propagation? = none) : t.alignSite = t := by
  rw [alignSite, h]

theorem form_alignSite (t : SyntaxTree Span) : t.alignSite.form = t.form := by
  rcases h : t.propagation? with _ | ⟨word, r⟩
  · rw [alignSite_other h]
  · obtain ⟨call, ctx, args, named, rfl⟩ := eq_site_of_propagation? h
    rfl

theorem aligned_node (f : Form) (a : Span) (cs : List (SyntaxTree Span)) :
    (node f a cs).aligned = (node f a (cs.map aligned)).alignSite :=
  rebuild_node _ f a cs

theorem aligned_of_ne_call {f : Form} {a : Span} {cs : List (SyntaxTree Span)} (hf : f ≠ .call) :
    (node f a cs).aligned = node f a (cs.map aligned) := by
  rw [aligned_node, alignSite_other (propagation?_eq_none hf)]

theorem aligned_site (call : Span) (ctx : Context) (word args named : Span) (r : SyntaxTree Span) :
    (site call ctx word args named r).aligned = site call .load call {} {} r.aligned := by
  rw [site, aligned_node]
  simp only [List.map_cons, List.map_nil, aligned_of_ne_call, ne_eq, reduceCtorEq,
    not_false_eq_true]
  rw [← site, alignSite, propagation?_site]
  rfl

theorem form_aligned (t : SyntaxTree Span) : t.aligned.form = t.form := by
  obtain ⟨f, a, cs⟩ := t
  rw [aligned_node, form_alignSite]
  rfl

/-- Aligning the children of a node makes no propagation expression of it. -/
theorem propagation?_map_aligned {f : Form} {a : Span} {cs : List (SyntaxTree Span)}
    (h : (node f a cs).propagation? = none) :
    (node f a (cs.map aligned)).propagation? = none :=
  propagation?_map form_aligned (fun _ b _ hf => ⟨b, aligned_of_ne_call hf⟩) h

theorem aligned_other {f : Form} {a : Span} {cs : List (SyntaxTree Span)}
    (h : (node f a cs).propagation? = none) :
    (node f a cs).aligned = node f a (cs.map aligned) := by
  rw [aligned_node, alignSite_other (propagation?_map_aligned h)]

/-- Whether the attribute of each propagation expression is read, as that of a call always is. -/
def ReadsSites (t : SyntaxTree α) : Prop :=
  ∀ p ∈ t.propagations, p.children.head?.map form = some (.attribute propagateWord .load)

/-- Aligning moves positions only. -/
theorem bare_aligned {t : SyntaxTree Span} (h : t.ReadsSites) : t.aligned.bare = t.bare := by
  revert h
  refine siteInduction ?_ ?_ t
  · intro call ctx word args named r ih h
    have hctx : ctx = .load := by
      have := h (site call ctx word args named r) (by simp [propagations_site])
      simpa [site] using this
    have hr : r.aligned.bare = r.bare := by
      refine ih fun p hp => h p ?_
      rw [propagations_site]
      exact List.mem_append_left _ hp
    subst hctx
    rw [aligned_site]
    simp [site, hr]
  · intro f a cs hother ih h
    rw [aligned_other hother, bare_node, bare_node, List.map_map]
    congr 1
    refine List.map_congr_left fun c hc => ih c hc fun p hp => h p ?_
    rw [propagations_other hother]
    exact List.mem_flatMap.2 ⟨c, hc, hp⟩

/-! ## Instrumenting with a fresh hook -/

variable {m : Marking} {t : SyntaxTree Span}

/-- An instrumented tree is no hook call itself. -/
theorem hookCall?_visit (hm : pathHead m.hook ∉ t.identifiers) :
    (t.visit m).1.hookCall? m.hook = none := by
  rcases h : t.propagation? with _ | ⟨word, r⟩
  · obtain ⟨f, a, cs⟩ := t
    rw [visit_other h]
    refine Option.eq_none_iff_forall_ne_some.2 fun x hx => hm ?_
    obtain ⟨func, rest, hcs, hpath⟩ := dottedPath?_of_hookCall? hx
    obtain ⟨c, cs, rfl, rfl, -⟩ := List.map_eq_cons_iff.1 hcs
    rw [dottedPath?_visit] at hpath
    exact identifiers_subset_of_mem List.mem_cons_self (mem_identifiers_of_dottedPath? hpath)
  · obtain ⟨call, ctx, args, named, rfl⟩ := eq_site_of_propagation? h
    rw [visit_site, inject_eq_site, hookCall?_site]

theorem identifiers_site (call : α) (ctx : Context) (word args named : α) (r : SyntaxTree α) :
    (site call ctx word args named r).identifiers = r.identifiers := by
  simp [site, identifiers_node, Form.identifiers]

/-- Taking the hook off an instrumented tree gives the tree back. -/
theorem unhook_visit (hm : pathHead m.hook ∉ t.identifiers) :
    (t.visit m).1.unhook m.hook = t.aligned := by
  revert hm
  refine siteInduction ?_ ?_ t
  · intro call ctx word args named r ih hm
    rw [identifiers_site] at hm
    rw [visit_site, unhook_inject, ih hm, aligned_site]
  · intro f a cs h ih hm
    have hcs : (cs.map fun c => (c.visit m).1).map (unhook m.hook) = cs.map aligned := by
      rw [List.map_map]
      exact List.map_congr_left fun c hc => ih c hc fun hx => hm (identifiers_subset_of_mem hc hx)
    rw [visit_other h, unhook_node, hcs, aligned_other h,
      mapReceiver_other (propagation?_map_aligned h)]

/-- The receiver of a propagation expression; any other expression itself. -/
def receiver (t : SyntaxTree α) : SyntaxTree α := (t.propagation?.map Prod.snd).getD t

/-- The hook calls of an instrumented tree are one for each propagation expression, on its
instrumented receiver and with its location. -/
theorem hookCalls_visit (hm : pathHead m.hook ∉ t.identifiers) :
    (t.visit m).1.hookCalls m.hook =
      t.propagations.map fun p =>
        ((p.receiver.visit m).1, ⟨m.file, p.propagationLine?.getD 0⟩) := by
  revert hm
  refine siteInduction ?_ ?_ t
  · intro call ctx word args named r ih hm
    rw [identifiers_site] at hm
    rw [visit_site, hookCalls_inject, ih hm, propagations_site, List.map_append]
    rfl
  · intro f a cs h ih hm
    have hroot := hookCall?_visit hm
    rw [visit_other h] at hroot ⊢
    rw [hookCalls_node, hroot, propagations_other h, List.flatMap_map, List.map_flatMap]
    refine (List.append_nil _).trans (List.flatMap_congr fun c hc => ?_)
    exact ih c hc fun hx => hm (identifiers_subset_of_mem hc hx)

/-- A propagation expression of an instrumented tree is an instrumented one of the tree, and its
receiver the hook call on the instrumented receiver. -/
theorem hookCall?_receiver_visit {p : SyntaxTree Span} (hp : p.isPropagation) :
    (p.visit m).1.receiver.hookCall? m.hook =
      some ((p.receiver.visit m).1, ⟨m.file, p.propagationLine?.getD 0⟩) := by
  obtain ⟨⟨word, r⟩, h⟩ := Option.isSome_iff_exists.1 hp
  obtain ⟨call, ctx, args, named, rfl⟩ := eq_site_of_propagation? h
  rw [visit_site]
  exact hookCall?_hookCall m call {} (r.visit m).1 _

theorem identifiers_receiver_subset (p : SyntaxTree α) : p.receiver.identifiers ⊆ p.identifiers := by
  rcases h : p.propagation? with _ | ⟨word, r⟩
  · simp [receiver, h]
  · obtain ⟨call, ctx, args, named, rfl⟩ := eq_site_of_propagation? h
    rw [identifiers_site]
    exact List.Subset.refl _

/-- Instrumenting a tree with a hook whose first name it does not use

* changes nothing but the receivers of its propagation expressions: without the hook calls the tree
  is the same, apart from the place of the attribute of each propagation expression;
* puts exactly one hook call on every propagation expression, on a receiver that is no hook call,
  and makes no other hook call and no other propagation expression;
* lists one location for each, in order of evaluation: the line of the word, or that of the call
  when the former is missing or zero. The hook calls carry the same locations in the same order. -/
theorem visit_complete (hm : pathHead m.hook ∉ t.identifiers) :
    ((t.visit m).1.unhook m.hook = t.aligned ∧ (t.ReadsSites → t.aligned.bare = t.bare)) ∧
    ((∀ c ∈ (t.visit m).1.subtrees, c.isPropagation →
        ∃ r place, c.receiver.hookCall? m.hook = some (r, place) ∧ r.hookCall? m.hook = none) ∧
      ((t.visit m).1.propagations.map fun c => c.receiver.hookCall? m.hook) =
        ((t.visit m).1.hookCalls m.hook).map some ∧
      (t.visit m).1.propagations.length = t.propagations.length ∧
      (t.visit m).2.length = t.propagations.length) ∧
    ((t.visit m).2 = (t.propagations.map fun p => ⟨m.file, p.propagationLine?.getD 0⟩) ∧
      ((t.visit m).1.hookCalls m.hook).map Prod.snd = (t.visit m).2) := by
  refine ⟨⟨unhook_visit hm, bare_aligned⟩, ⟨?_, ?_, ?_, ?_⟩, sites_visit t, ?_⟩
  · intro c hc hprop
    have hc' : c ∈ (t.visit m).1.propagations := mem_propagations.2 ⟨hc, hprop⟩
    rw [propagations_visit] at hc'
    obtain ⟨p, hp, rfl⟩ := List.mem_map.1 hc'
    obtain ⟨hmem, hp⟩ := mem_propagations.1 hp
    refine ⟨_, _, hookCall?_receiver_visit hp, hookCall?_visit fun hx => hm ?_⟩
    exact identifiers_subset_of_mem_subtrees hmem (identifiers_receiver_subset p hx)
  · rw [propagations_visit, hookCalls_visit hm, List.map_map, List.map_map]
    exact List.map_congr_left fun p hp => hookCall?_receiver_visit (mem_propagations.1 hp).2
  · rw [propagations_visit, List.length_map]
  · rw [sites_visit, List.length_map]
  · rw [hookCalls_visit hm, sites_visit, List.map_map]
    rfl

/-- Two propagation expressions, one in an argument of the other's receiver. -/
theorem visit_complete_nested :
    let inner : SyntaxTree Span := site ⟨some 2, some 2⟩ .load ⟨some 2, some 2⟩ {} {}
      (node (.name "path" .load) ⟨some 2, some 2⟩ [])
    let outer : SyntaxTree Span := site ⟨some 1, some 3⟩ .load ⟨some 1, some 3⟩ {} {}
      (node .call ⟨some 1, some 3⟩ [node (.name "load" .load) ⟨some 1, some 1⟩ [],
        node .sequence {} [inner], node .sequence {} []])
    let m : Marking := ⟨"a.py", "_hook.wherrapper"⟩
    pathHead m.hook ∉ outer.identifiers ∧ (outer.visit m).2 = [⟨"a.py", 2⟩, ⟨"a.py", 3⟩] ∧
      (outer.visit m).1.unhook m.hook = outer.aligned := by
  intro inner outer m
  have hhead : pathHead m.hook = "_hook" := by
    rw [pathHead, Text.splitOn_char '.']
    decide
  have hm : pathHead m.hook ∉ outer.identifiers := by
    rw [hhead]
    decide
  obtain ⟨⟨hback, -⟩, -, hsites, -⟩ := visit_complete hm
  exact ⟨hm, hsites.trans (by decide), hback⟩

end Syntax.SyntaxTree

end ErrorTrail
