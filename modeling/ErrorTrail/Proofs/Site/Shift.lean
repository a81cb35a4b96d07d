import ErrorTrail.Proofs.Site.Completeness
import ErrorTrail.Proofs.Site.Enclosing
import ErrorTrail.Proofs.Site.Factory
import ErrorTrail.Proofs.Syntax.Reading

/-!
# Instrumenting further down

Where a tree stands matters to instrumenting in two ways: the injected nodes take the place of the call, and
the line of each site is written into the tree and listed. A tree that is moved down is therefore
instrumented as before, but all lines are further down: those of the nodes, those that the tree hands to the
hook (`shiftSites`) and those of the sites (`visit_shift`).

That holds as long as the line of each propagation expression moves down with it (`KeepsLines`): a word on
line zero counts as one without line, so lines have to stay positive (`keepsLines_of_isOnLines`).
-/

namespace ErrorTrail

open Syntax SyntaxTree

variable {m : Marking} {k : Int}

/-- The location `k` lines further down. -/
def Location.shift (k : Int) (l : Location) : Location := { l with line := l.line + k }

namespace Syntax

theorem Span.shift_shift (j k : Int) (s : Span) : (s.shift j).shift k = s.shift (j + k) := by
  simp [Span.shift, Function.comp_def, Int.add_assoc]

theorem Span.shift_zero (s : Span) : s.shift 0 = s := by simp [Span.shift]

namespace SyntaxTree

@[simp] theorem shift_node (k : Int) (f : Form) (a : Span) (cs : List (SyntaxTree Span)) :
    (node f a cs).shift k = node f (a.shift k) (cs.map (shift k)) := map_node _ f a cs

@[simp] theorem form_shift (k : Int) (t : SyntaxTree Span) : (t.shift k).form = t.form := form_map _ t

theorem shift_shift (j k : Int) (t : SyntaxTree Span) : (t.shift j).shift k = t.shift (j + k) := by
  induction t with
  | node f a cs ih =>
    rw [shift_node, shift_node, shift_node, Span.shift_shift, List.map_map]
    exact congrArg _ (List.map_congr_left ih)

theorem shift_zero (t : SyntaxTree Span) : t.shift 0 = t := by
  induction t with
  | node f a cs ih => rw [shift_node, List.map_congr_left ih, List.map_id', Span.shift_zero]

/-- Moving a tree back. -/
theorem shift_neg (k : Int) (t : SyntaxTree Span) : (t.shift k).shift (-k) = t := by
  rw [shift_shift, Int.add_right_neg, shift_zero]

theorem shift_site (k : Int) (call : Span) (ctx : Context) (word args named : Span) (r : SyntaxTree Span) :
    (site call ctx word args named r).shift k =
      site (call.shift k) ctx (word.shift k) (args.shift k) (named.shift k) (r.shift k) := by
  simp [site]

theorem shift_hookExpr (k : Int) (a : Span) (path : String) :
    (hookExpr a path).shift k = hookExpr (a.shift k) path := by
  have hattrs : ∀ (attrs : List String) (e : SyntaxTree Span),
      (attrs.foldl (fun e word => node (.attribute word .load) a [e]) e).shift k =
        attrs.foldl (fun e word => node (.attribute word .load) (a.shift k) [e]) (e.shift k) := by
    intro attrs
    induction attrs with
    | nil => exact fun e => rfl
    | cons word attrs ih => exact fun e => (ih _).trans (by simp)
  unfold hookExpr
  split
  · simp
  · exact (hattrs _ _).trans (by simp)

/-- Whether a node is a propagation expression does not depend on its annotation. -/
theorem propagation?_eq_none_of_ann {α : Type} {f : Form} {a b : α} {cs : List (SyntaxTree α)}
    (h : (node f a cs).propagation? = none) : (node f b cs).propagation? = none := by
  refine Option.eq_none_iff_forall_ne_some.2 fun ⟨word, r⟩ hb => ?_
  obtain ⟨call, ctx, args, named, heq⟩ := eq_site_of_propagation? hb
  cases heq
  cases h

theorem propagation?_shift {f : Form} {a : Span} {cs : List (SyntaxTree Span)}
    (h : (node f a cs).propagation? = none) : ((node f a cs).shift k).propagation? = none := by
  rw [shift_node]
  exact propagation?_eq_none_of_ann (a := a)
    (propagation?_map (form_shift k) (fun f b cs _ => ⟨b.shift k, shift_node k f b cs⟩) h)

/-! ## Lines that are reported -/

/-- The call of a hook with the line that it is handed moved down by `k`. -/
def moveLine (k : Int) : SyntaxTree Span → SyntaxTree Span
  | node .call a [func, node .sequence s [receiver, file, node (.constant (.int line) kind) b cs], named] =>
    node .call a [func, node .sequence s [receiver, file, node (.constant (.int (line + k)) kind) b cs], named]
  | t => t

theorem moveLine_hookCall (a none_ : Span) (r : SyntaxTree Span) (line : Int) :
    (m.hookCall a none_ r line).moveLine k = m.hookCall a none_ r (line + k) := rfl

/-- An instrumented tree moved down by `k`, with the lines that its propagation expressions report. -/
def shiftSites (k : Int) (t : SyntaxTree Span) : SyntaxTree Span :=
  t.rebuild fun f a cs => (node f (a.shift k) cs).mapReceiver (moveLine k)

theorem shiftSites_node (f : Form) (a : Span) (cs : List (SyntaxTree Span)) :
    (node f a cs).shiftSites k = (node f (a.shift k) (cs.map (shiftSites k))).mapReceiver (moveLine k) :=
  rebuild_node _ f a cs

theorem shiftSites_of_ne_call {f : Form} {a : Span} {cs : List (SyntaxTree Span)} (hf : f ≠ .call) :
    (node f a cs).shiftSites k = node f (a.shift k) (cs.map (shiftSites k)) := by
  rw [shiftSites_node, mapReceiver_other (propagation?_eq_none hf)]

/-- A tree that reports nothing is moved down as it is. -/
theorem shiftSites_eq_shift {t : SyntaxTree Span} (h : t.propagations = []) :
    t.shiftSites k = t.shift k := by
  induction t with
  | node f a cs ih =>
    obtain ⟨hnone, hchildren⟩ := propagations_node_eq_nil h
    have hcs : cs.map (shiftSites k) = cs.map (shift k) :=
      List.map_congr_left fun c hc => ih c hc (hchildren c hc)
    have hshift := propagation?_shift (k := k) hnone
    rw [shift_node] at hshift ⊢
    rw [shiftSites_node, hcs, mapReceiver_other hshift]

/-- An injected expression reports its line further down. -/
theorem shiftSites_inject (a : Span) (r : SyntaxTree Span) (line : Int) :
    (m.inject a {} r line).shiftSites k = m.inject (a.shift k) {} (r.shiftSites k) (line + k) := by
  have hcall : (m.hookCall a {} r line).shiftSites k = m.hookCall (a.shift k) {} (r.shiftSites k) line := by
    have hnone : (m.hookCall (a.shift k) {} (r.shiftSites k) line).propagation? = none := by
      simp [Marking.hookCall, propagation?]
    have hfunc : (hookExpr a m.hook).shiftSites k = hookExpr (a.shift k) m.hook := by
      rw [shiftSites_eq_shift (propagations_hookExpr a m.hook), shift_hookExpr]
    rw [Marking.hookCall] at hnone ⊢
    rw [shiftSites_node]
    simp only [List.map_cons, List.map_nil, shiftSites_of_ne_call, ne_eq, reduceCtorEq,
      not_false_eq_true, hfunc]
    exact mapReceiver_other hnone
  rw [inject_eq_site, site, shiftSites_node]
  simp only [List.map_cons, List.map_nil, shiftSites_of_ne_call, ne_eq, reduceCtorEq,
    not_false_eq_true, hcall]
  rw [← site, mapReceiver_site, moveLine_hookCall]
  rfl

/-! ## Instrumenting a tree that is moved -/

theorem isPropagation_of_shift {p : SyntaxTree Span} (h : (p.shift k).isPropagation) : p.isPropagation := by
  obtain ⟨f, a, cs⟩ := p
  by_contra hnone
  have hnone' : (node f a cs).propagation? = none := by simpa [isPropagation] using hnone
  rw [isPropagation, propagation?_shift hnone'] at h
  cases h

theorem propagationLine?_site (call : Span) (ctx : Context) (word args named : Span) (r : SyntaxTree Span) :
    (site call ctx word args named r).propagationLine? = siteLine? word call := rfl

/-- The line that each propagation expression of a tree reports is known, and moves down with the tree. -/
def KeepsLines (k : Int) (t : SyntaxTree Span) : Prop :=
  ∀ p ∈ t.propagations, ∃ n, p.propagationLine? = some n ∧ (p.shift k).propagationLine? = some (n + k)

theorem KeepsLines.of_mem_subtrees {s t : SyntaxTree Span} (h : t.KeepsLines k) (hs : s ∈ t.subtrees) :
    s.KeepsLines k := fun p hp => h p (mem_propagations_of_mem_subtrees hp hs)

theorem KeepsLines.isLocated {t : SyntaxTree Span} (h : t.KeepsLines k) : t.isLocated := by
  refine List.all_eq_true.2 fun p hp => ?_
  split
  · next word r hsite =>
    obtain ⟨n, hline, -⟩ := h p (mem_propagations.2 ⟨hp, by rw [isPropagation, hsite]; rfl⟩)
    rw [propagationLine?, hsite] at hline
    exact Option.isSome_of_mem hline
  · rfl

/-- A tree that was moved down can be moved back. -/
theorem KeepsLines.shift {t : SyntaxTree Span} (h : t.KeepsLines k) : (t.shift k).KeepsLines (-k) := by
  intro p hp
  obtain ⟨hmem, hp⟩ := mem_propagations.1 hp
  rw [SyntaxTree.shift, subtrees_map] at hmem
  obtain ⟨q, hq, rfl⟩ := List.mem_map.1 hmem
  obtain ⟨n, hline, hmoved⟩ := h q (mem_propagations.2 ⟨hq, isPropagation_of_shift hp⟩)
  refine ⟨n + k, hmoved, ?_⟩
  rw [Int.add_neg_cancel_right, ← hline]
  exact congrArg propagationLine? (shift_neg k q)

/-- A tree that is moved down is instrumented as before, with all lines further down. -/
theorem visit_shift {t : SyntaxTree Span} (h : t.KeepsLines k) :
    (t.shift k).visit m = ((t.visit m).1.shiftSites k, (t.visit m).2.map (Location.shift k)) := by
  induction t using siteInduction with
  | atSite call ctx word args named r ih =>
    obtain ⟨n, hline, hmoved⟩ := h _ (mem_propagations.2 ⟨self_mem_subtrees _, rfl⟩)
    rw [shift_site] at hmoved
    rw [propagationLine?_site] at hline hmoved
    have hr : r ∈ (site call ctx word args named r).subtrees :=
      mem_subtrees_of_mem List.mem_cons_self
        (mem_subtrees_of_mem List.mem_cons_self (self_mem_subtrees r))
    have hbefore : siteLine call word = n := congrArg (·.getD 0) hline
    have hafter : siteLine (call.shift k) (word.shift k) = n + k := congrArg (·.getD 0) hmoved
    rw [shift_site, visit_site, visit_site, ih (h.of_mem_subtrees hr), shiftSites_inject, hbefore, hafter]
    simp [Location.shift]
  | other f a cs hsite ih =>
    have hcs : ∀ c ∈ cs, (c.shift k).visit m =
        ((c.visit m).1.shiftSites k, (c.visit m).2.map (Location.shift k)) := fun c hc =>
      ih c hc (h.of_mem_subtrees (mem_subtrees_of_mem hc (self_mem_subtrees c)))
    have hshift := propagation?_shift (k := k) hsite
    have hvisit := propagation?_map_visit (m := m) (shift_node k f a cs ▸ hshift)
    have htrees : (cs.map (shift k)).map (fun c => (c.visit m).1) =
        (cs.map fun c => (c.visit m).1).map (shiftSites k) := by
      rw [List.map_map, List.map_map]
      exact List.map_congr_left fun c hc => congrArg Prod.fst (hcs c hc)
    have hsites : (cs.map (shift k)).flatMap (fun c => (c.visit m).2) =
        (cs.flatMap fun c => (c.visit m).2).map (Location.shift k) := by
      rw [List.flatMap_map, List.map_flatMap]
      exact List.flatMap_congr fun c hc => congrArg Prod.snd (hcs c hc)
    rw [shift_node] at hshift ⊢
    rw [htrees] at hvisit
    rw [visit_other hshift, visit_other hsite, shiftSites_node, htrees, hsites, mapReceiver_other hvisit]

end SyntaxTree

end Syntax

/-! ## Definitions -/

/-- A definition whose body was instrumented moved down by `k`, with the lines that the body reports. -/
def shiftInstrumented (k : Int) : SyntaxTree Span → SyntaxTree Span
  | .node f a [args, .node .sequence s body, decorators, returns] =>
    .node f (a.shift k)
      [args.shift k, (SyntaxTree.node .sequence s body).shiftSites k, decorators.shift k, returns.shift k]
  | t => t.shift k

/-- A node of which nothing is instrumented, since it has not the parts of a function. -/
theorem instrumentBody_of_not_parts {d : SyntaxTree Span}
    (h : ∀ f a args s body decorators returns,
      d ≠ node f a [args, node .sequence s body, decorators, returns]) :
    instrumentBody m d = (d, []) ∧ shiftInstrumented k d = d.shift k := by
  constructor
  · unfold instrumentBody
    split
    · exact absurd rfl (h _ _ _ _ _ _ _)
    · rfl
  · unfold shiftInstrumented
    split
    · exact absurd rfl (h _ _ _ _ _ _ _)
    · rfl

theorem instrumentBody_parts (f : Form) (a s : Span) (args decorators returns : SyntaxTree Span)
    (body : List (SyntaxTree Span)) :
    instrumentBody m (node f a [args, node .sequence s body, decorators, returns]) =
      (node f a [args, ((node .sequence s body).visit m).1, decorators, returns],
        ((node .sequence s body).visit m).2) := by
  rw [instrumentBody, visit_of_ne_call (by simp), visitItems_eq]

/-- The words in the body of a definition keep their lines. -/
def BodyKeepsLines (k : Int) (d : SyntaxTree Span) : Prop := ∀ body ∈ d.children[1]?, body.KeepsLines k

/-- The body of a definition that is moved down is instrumented as before, with all lines further down. -/
theorem instrumentBody_shift {d : SyntaxTree Span} (h : BodyKeepsLines k d) :
    instrumentBody m (d.shift k) =
      (shiftInstrumented k (instrumentBody m d).1, (instrumentBody m d).2.map (Location.shift k)) := by
  by_cases hparts : ∃ f a args s body decorators returns,
      d = node f a [args, node .sequence s body, decorators, returns]
  · obtain ⟨f, a, args, s, body, decorators, returns, rfl⟩ := hparts
    have hbody := visit_shift (m := m) (h (node .sequence s body) rfl)
    rw [shift_node] at hbody
    simp only [shift_node, List.map_cons, List.map_nil]
    rw [instrumentBody_parts, hbody, instrumentBody_parts, visit_of_ne_call (by simp), shiftInstrumented]
  · have hd : ∀ f a args s body decorators returns,
        d ≠ node f a [args, node .sequence s body, decorators, returns] := by
      simpa using hparts
    have hshift : ∀ f a args s body decorators returns,
        d.shift k ≠ node f a [args, node .sequence s body, decorators, returns] := by
      intro f a args s body decorators returns heq
      refine hd f (a.shift (-k)) (args.shift (-k)) (s.shift (-k)) (body.map (shift (-k)))
        (decorators.shift (-k)) (returns.shift (-k)) ?_
      rw [← shift_neg k d, heq]
      simp only [shift_node, List.map_cons, List.map_nil]
    obtain ⟨hbody, hmoved⟩ := instrumentBody_of_not_parts (m := m) (k := k) hd
    rw [(instrumentBody_of_not_parts (k := k) hshift).1, hbody, hmoved, List.map_nil]

/-- Every propagation expression in a body that keeps its lines has one. -/
theorem BodyKeepsLines.bodyIsLocated {d : SyntaxTree Span} (h : BodyKeepsLines k d) : bodyIsLocated d := by
  unfold ErrorTrail.bodyIsLocated
  split
  · next body _ _ hchildren => exact (h body (by rw [hchildren]; rfl)).isLocated
  · rfl

theorem BodyKeepsLines.shift {d : SyntaxTree Span} (h : BodyKeepsLines k d) : BodyKeepsLines (-k) (d.shift k) := by
  obtain ⟨f, a, cs⟩ := d
  intro body hbody
  rw [shift_node, children_node, List.getElem?_map] at hbody
  obtain ⟨body', hbody', rfl⟩ := Option.map_eq_some_iff.1 hbody
  exact (h body' hbody').shift

/-- A definition that is moved down is instrumented as before, with all lines further down. -/
theorem instrument_shift {d : SyntaxTree Span} (hform : isFunctionForm d.form) (h : BodyKeepsLines k d) :
    ∃ t sites, instrument m d = .ok (t, sites) ∧
      instrument m (d.shift k) = .ok (shiftInstrumented k t, sites.map (Location.shift k)) := by
  refine ⟨(instrumentBody m d).1, (instrumentBody m d).2, ?_, ?_⟩
  · rw [instrument, if_neg (by simp [hform]), if_pos h.bodyIsLocated]
  · rw [instrument, if_neg (by simp [hform]), if_pos h.shift.bodyIsLocated, instrumentBody_shift h]

/-! ## Stripping -/

theorem shift_missing : (node .absent {} [] : SyntaxTree Span).shift k = node .absent {} [] := by
  rw [shift_node]
  rfl

theorem stripParameter_shift (t : SyntaxTree Span) : stripParameter (t.shift k) = (stripParameter t).shift k := by
  rw [stripParameter.eq_def t]
  split
  · simp only [shift_node, stripParameter, List.map_cons, List.map_nil]
    rfl
  · next hother =>
    obtain ⟨f, a, cs⟩ := t
    rw [shift_node]
    unfold stripParameter
    split
    · next heq =>
      cases heq
      exact (hother _ _ _ rfl).elim
    · rfl

/-- Stripping a definition and moving it down can be done in either order. -/
theorem stripDefinition_shift (d : SyntaxTree Span) :
    stripDefinition (d.shift k) = (stripDefinition d).shift k := by
  have hparameters : ∀ ts : List (SyntaxTree Span),
      (ts.map (shift k)).map stripParameter = (ts.map stripParameter).map (shift k) := fun ts => by
    simp [stripParameter_shift]
  have hmissing : ∀ ts : List (SyntaxTree Span),
      (ts.map (shift k)).map (fun _ => (node .absent {} [] : SyntaxTree Span)) =
        (ts.map fun _ => node .absent {} []).map (shift k) := fun ts => by
    rw [List.map_map, List.map_map]
    exact List.map_congr_left fun _ _ => shift_missing.symm
  rw [stripDefinition.eq_def d]
  split
  · simp only [shift_node, List.map_cons, List.map_nil, stripDefinition, stripParameter_shift, hparameters,
      hmissing]
    rfl
  · next hother =>
    rw [stripDefinition.eq_def (d.shift k)]
    split
    · next heq =>
      have hback := shift_neg k d
      rw [heq] at hback
      simp only [shift_node, List.map_cons, List.map_nil] at hback
      exact (hother _ _ _ _ _ _ _ _ _ _ _ _ _ _ _ _ _ _ _ _ hback.symm).elim
    · rfl

/-- Stripping keeps the body of a definition. -/
theorem body_stripDefinition (d : SyntaxTree Span) : (stripDefinition d).children[1]? = d.children[1]? := by
  unfold stripDefinition
  split <;> rfl

/-! ## Trees on lines -/

namespace Syntax

/-- Whether a span tells its first line, and its lines are positive. -/
def Span.isOnLines (s : Span) : Bool := s.line.any (0 < ·) && s.stop.all (0 < ·)

namespace SyntaxTree

/-- Whether every node of a tree that has a place of its own stands on positive lines. -/
def isOnLines (t : SyntaxTree Span) : Bool := t.subtrees.all fun s => !s.form.hasPlace || s.ann.isOnLines

theorem isOnLines_ann {s t : SyntaxTree Span} (h : t.isOnLines) (hs : s ∈ t.subtrees) (hplace : s.form.hasPlace) :
    s.ann.isOnLines := by
  have := List.all_eq_true.1 h s hs
  rwa [hplace, Bool.not_true, Bool.false_or] at this

end SyntaxTree

/-- Where a propagation expression stays on lines, the line that it reports moves with it. -/
theorem exists_siteLine?_of_isOnLines {word call : Span} (hword : word.isOnLines) (hcall : call.isOnLines)
    (hmoved : (word.shift k).isOnLines) :
    ∃ n, siteLine? word call = some n ∧ siteLine? (word.shift k) (call.shift k) = some (n + k) := by
  obtain ⟨-, hstop⟩ := Bool.and_eq_true_iff.1 hword
  obtain ⟨-, hstop'⟩ := Bool.and_eq_true_iff.1 hmoved
  rcases hlast : word.stop with _ | n
  · obtain ⟨n, hline, -⟩ := (Option.any_eq_true _ _).1 (Bool.and_eq_true_iff.1 hcall).1
    exact ⟨n, by simp [siteLine?, hlast, hline], by simp [siteLine?, Span.shift, hlast, hline]⟩
  · simp only [Span.shift, hlast, Option.map_some, Option.all_some, decide_eq_true_eq] at hstop hstop'
    exact ⟨n, by simp [siteLine?, hlast, hstop.ne'], by simp [siteLine?, Span.shift, hlast, hstop'.ne']⟩

/-- What a tree reports moves down with it as long as its nodes stay on lines. -/
theorem SyntaxTree.keepsLines_of_isOnLines {t : SyntaxTree Span} (h : t.isOnLines)
    (hshift : (t.shift k).isOnLines) : t.KeepsLines k := by
  intro p hp
  obtain ⟨hp, hsite⟩ := mem_propagations.1 hp
  obtain ⟨⟨word, r⟩, hsite⟩ := Option.isSome_iff_exists.1 hsite
  obtain ⟨call, ctx, args, named, rfl⟩ := eq_site_of_propagation? hsite
  have hattr : node (.attribute propagateWord ctx) word [r] ∈ t.subtrees :=
    mem_subtrees_trans (mem_subtrees_of_mem List.mem_cons_self (self_mem_subtrees _)) hp
  have hmoved : (node (.attribute propagateWord ctx) word [r]).shift k ∈ (t.shift k).subtrees := by
    rw [shift, subtrees_map]
    exact List.mem_map_of_mem hattr
  have hword := isOnLines_ann hshift hmoved (by rw [form_shift]; rfl)
  rw [shift_node] at hword
  rw [shift_site, propagationLine?_site, propagationLine?_site]
  exact exists_siteLine?_of_isOnLines (isOnLines_ann h hattr rfl) (isOnLines_ann h hp rfl) hword

end Syntax

end ErrorTrail
