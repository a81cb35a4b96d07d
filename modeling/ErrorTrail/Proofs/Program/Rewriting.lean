import ErrorTrail.Proofs.Program.Trace

/-!
# Instrumenting preserves evaluation

A run of a plain expression and a run of the instrumented one are compared part by part
(`Machine.Simulates`): the instrumented one comes to the same subexpressions in the same stores, and
differs only where the expression is left at a propagation expression, whose site it reports first.
The comparison holds of every run that `Machine.Hosts` describes, by induction over the expression: a
node that is no propagation expression runs the plan of its children (`Simulates.other`), and a
propagation expression its receiver and then the site function (`Simulates.atSite`).

`Machine.evaluate_visit` states it for the evaluation of expressions by the machines that run programs.
-/

namespace ErrorTrail

open Syntax Act

variable {m w : Machine} {env : Env} {mk : Marking}

/-! ## Two runs -/

/-- The ends of a run of an expression that leaves at `p` with the failing result `r`, and of the run of
the instrumented one: the first raises a signal of `r`, the second a signal of what the site function
makes of `r`, or what the site function raises. -/
def Machine.Left (m : Machine) (mk : Marking) (p : SyntaxTree Span) (r : Value) (s : Store)
    (x y : Except Stop Value × Store) : Prop :=
  x = exec (Outcome.propagate r) s ∧
    ((∃ r' e' s', exec (m.reportSite r (mk.siteOf p)) s = (.ok r', s') ∧ s'.failure? r' = some e' ∧
        y = exec (Outcome.propagate r') s') ∨
      ∃ z s', exec (m.reportSite r (mk.siteOf p)) s = (.error z, s') ∧ y = (.error z, s'))

namespace Machine

section

variable {p : SyntaxTree Span} {r e : Value} {s s₁ s₂ : Store}

/-- Both runs raise. -/
theorem Left.raises {x y : Except Stop Value × Store} (h : m.Left mk p r s x y)
    (hr : s.failure? r = some e) :
    (∃ z s', x = (.error z, s')) ∧ ∃ z s', y = (.error z, s') := by
  obtain ⟨rfl, ⟨r', e', s', -, hfail, rfl⟩ | ⟨z, s', -, rfl⟩⟩ := h
  · exact ⟨⟨_, _, exec_propagate_failure hr⟩, _, _, exec_propagate_failure hfail⟩
  · exact ⟨⟨_, _, exec_propagate_failure hr⟩, z, s', rfl⟩

/-- What follows the run of an expression that was left does not run. -/
theorem Left.bind {a b : Act Value} (h : m.Left mk p r s (exec a s₁) (exec b s₂))
    (hr : s.failure? r = some e) (f g : Value → Act Value) :
    m.Left mk p r s (exec (a >>= f) s₁) (exec (b >>= g) s₂) := by
  obtain ⟨⟨z, s', ha⟩, z', s'', hb⟩ := h.raises hr
  rw [exec_bind_error ha, exec_bind_error hb, ← ha, ← hb]
  exact h

end

/-- What instrumenting makes of the run of an expression from `s`: it comes to the same subexpressions
in the same stores; where the expression is left, the site is reported first; and otherwise nothing
changes. -/
structure Simulates (m : Machine) (env : Env) (mk : Marking) (t : SyntaxTree Span) (s : Store) :
    Prop where
  reaches : ∀ p s', m.Reaches env t s p s' → m.Reaches env (t.visit mk).1 s (p.visit mk).1 s'
  leaves : ∀ p r s', m.Leaves env t s p r s' →
    m.Left mk p r s' (exec (m.evaluate env t) s) (exec (m.evaluate env (t.visit mk).1) s)
  stays : (∀ p r s', ¬ m.Leaves env t s p r s') →
    exec (m.evaluate env (t.visit mk).1) s = exec (m.evaluate env t) s
  events : pathHead mk.hook ∉ t.identifiers →
    m.events env mk.hook (t.visit mk).1 s = m.events env mk.hook t s

namespace Simulates

variable {t : SyntaxTree Span} {s s' : Store}

/-- Where an expression is left, neither run has a value. -/
theorem not_ok (h : m.Simulates env mk t s) {p : SyntaxTree Span} {r : Value} {s₁ : Store}
    (hleaves : m.Leaves env t s p r s₁) (v : Value) (s' : Store) :
    exec (m.evaluate env t) s ≠ (.ok v, s') ∧ exec (m.evaluate env (t.visit mk).1) s ≠ (.ok v, s') := by
  obtain ⟨e, hfail⟩ := hleaves.failure
  obtain ⟨⟨z, s₂, ht⟩, z', s₂', ht'⟩ := (h.leaves p r s₁ hleaves).raises hfail
  rw [ht, ht']
  exact ⟨nofun, nofun⟩

/-- The two runs have the same values. -/
theorem ok_iff (h : m.Simulates env mk t s) {v : Value} :
    exec (m.evaluate env (t.visit mk).1) s = (.ok v, s') ↔
      exec (m.evaluate env t) s = (.ok v, s') := by
  by_cases hleaves : ∃ p r s₁, m.Leaves env t s p r s₁
  · obtain ⟨p, r, s₁, hleaves⟩ := hleaves
    obtain ⟨hne, hne'⟩ := h.not_ok hleaves v s'
    exact ⟨fun hrun => (hne' hrun).elim, fun hrun => (hne hrun).elim⟩
  · rw [h.stays fun p r s₁ hl => hleaves ⟨p, r, s₁, hl⟩]

theorem ok (h : m.Simulates env mk t s) {v : Value} (hrun : exec (m.evaluate env t) s = (.ok v, s')) :
    exec (m.evaluate env (t.visit mk).1) s = (.ok v, s') := h.ok_iff.2 hrun

/-- The run of a plan that is left in one of its parts. -/
theorem plan_leaves {p : Plan Value} {c q : SyntaxTree Span} {s₁ : Store} {r : Value}
    (h : ∀ c s₁, p.Asks (m.evaluate env) c s₁ s → m.Simulates env mk c s₁)
    (hask : p.Asks (m.evaluate env) c s₁ s) (hleaves : m.Leaves env c s₁ q r s') :
    m.Left mk q r s' (exec (p.run (m.evaluate env)) s)
      (exec ((p.mapParts fun t => (t.visit mk).1).run (m.evaluate env)) s) := by
  induction p generalizing s with
  | done x => exact hask.elim
  | act a next ih =>
    obtain ⟨x, s₂, hrun, hask⟩ := hask
    rw [Plan.run, Plan.mapParts, Plan.run, exec_bind_ok hrun, exec_bind_ok hrun]
    exact ih x (fun c s₁ hc => h c s₁ ⟨x, s₂, hrun, hc⟩) hask
  | ask t next ih =>
    have ht := h t s (.inl ⟨rfl, rfl⟩)
    rw [Plan.run, Plan.mapParts, Plan.run]
    obtain ⟨rfl, rfl⟩ | ⟨v, s₂, hrun, hask⟩ := hask
    · obtain ⟨e, hfail⟩ := hleaves.failure
      exact (ht.leaves q r s' hleaves).bind hfail _ _
    · rw [exec_bind_ok hrun, exec_bind_ok (ht.ok hrun)]
      exact ih v (fun c s₁ hc => h c s₁ (.inr ⟨v, s₂, hrun, hc⟩)) hask

/-- The run of a plan that is left in none of its parts. -/
theorem plan_stays {p : Plan Value}
    (h : ∀ c s₁, p.Asks (m.evaluate env) c s₁ s → m.Simulates env mk c s₁)
    (hstays : ∀ c s₁ q r s', p.Asks (m.evaluate env) c s₁ s → ¬ m.Leaves env c s₁ q r s') :
    exec ((p.mapParts fun t => (t.visit mk).1).run (m.evaluate env)) s =
      exec (p.run (m.evaluate env)) s := by
  induction p generalizing s with
  | done x => rfl
  | act a next ih =>
    rw [Plan.run, Plan.mapParts, Plan.run, exec_bind, exec_bind]
    rcases hrun : exec a s with ⟨_ | x, s₂⟩
    · rfl
    · exact ih x (fun c s₁ hc => h c s₁ ⟨x, s₂, hrun, hc⟩)
        fun c s₁ q r s' hc => hstays c s₁ q r s' ⟨x, s₂, hrun, hc⟩
  | ask t next ih =>
    have ht := h t s (.inl ⟨rfl, rfl⟩)
    rw [Plan.run, Plan.mapParts, Plan.run, exec_bind, exec_bind,
      ht.stays fun q r s' => hstays t s q r s' (.inl ⟨rfl, rfl⟩)]
    rcases hrun : exec (m.evaluate env t) s with ⟨_ | v, s₂⟩
    · rfl
    · exact ih v (fun c s₁ hc => h c s₁ (.inr ⟨v, s₂, hrun, hc⟩))
        fun c s₁ q r s' hc => hstays c s₁ q r s' (.inr ⟨v, s₂, hrun, hc⟩)

/-- A node that is no propagation expression simulates if the parts that its run comes to do. -/
theorem other (h : m.RunsSites w) {f : Form} {a : Span} {cs : List (SyntaxTree Span)}
    (hplain : (SyntaxTree.node f a cs).IsPlain)
    (hprop : (SyntaxTree.node f a cs).propagation? = none)
    (hparts : ∀ c s₁, (m.plan env (.node f a cs)).Asks (m.evaluate env) c s₁ s →
      m.Simulates env mk c s₁) :
    m.Simulates env mk (.node f a cs) s := by
  have hnode := (SyntaxTree.isPlain_node.1 hplain).1
  have hvisit : ((SyntaxTree.node f a cs).visit mk).1 =
      .node f a (cs.map fun c => (c.visit mk).1) := by rw [SyntaxTree.visit_other hprop]
  have hplan : m.plan env ((SyntaxTree.node f a cs).visit mk).1 =
      (m.plan env (.node f a cs)).mapParts fun t => (t.visit mk).1 := by
    rw [hvisit]
    exact Machine.mapParts_plan (SyntaxTree.keepsForms_visit mk) hnode
  have hrun := h.closed.run_plan env hplain
  have hrun' := h.closed.run_plan env (SyntaxTree.isPlain_visit mk hplain)
  rw [hplan] at hrun'
  have hprop' : ((SyntaxTree.node f a cs).visit mk).1.propagation? = none := by
    rw [hvisit]
    exact SyntaxTree.propagation?_map_visit hprop
  refine ⟨?_, ?_, ?_, ?_⟩
  · intro p s' hreach
    cases hreach with
    | here => exact .here _ _
    | receiver ht => exact absurd (hprop.symm.trans ht) nofun
    | part ht hask hreach =>
      refine .part hprop' ?_ ((hparts _ _ hask).reaches _ _ hreach)
      rw [hplan]
      exact hask.mapParts fun t s₁ ht v s₂ => (hparts t s₁ ht).ok
  · rintro p r s' ⟨word, receiver, s₁, hreach, hp⟩
    rw [hrun, hrun']
    cases hreach with
    | here => exact absurd (hprop.symm.trans hp.1) nofun
    | receiver ht => exact absurd (hprop.symm.trans ht) nofun
    | part ht hask hreach => exact plan_leaves hparts hask ⟨word, receiver, s₁, hreach, hp⟩
  · intro hstays
    rw [hrun, hrun']
    exact plan_stays hparts fun c s₁ q r s' hask hleaves => hstays q r s' (hleaves.part hprop hask)
  · intro hfresh
    have hfreshParts : (m.plan env (.node f a cs)).Within fun c => pathHead mk.hook ∉ c.identifiers := by
      refine Machine.within_plan hnode fun c hc u hu hmem => hfresh ?_
      exact SyntaxTree.identifiers_subset_of_mem_subtrees (SyntaxTree.mem_subtrees_of_mem hc hu) hmem
    have hplain' := SyntaxTree.isPlain_visit mk hplain
    rw [hvisit] at hplain' hplan hprop' ⊢
    rw [events_other hnode hprop, events_other (SyntaxTree.isPlain_node.1 hplain').1 hprop', hplan]
    refine Plan.events_mapParts fun c s₁ hask => ⟨?_, fun v s₂ => (hparts c s₁ hask).ok_iff⟩
    exact (hparts c s₁ hask).events (hask.of_within hfreshParts)

/-- The call that reports a site has the value of its receiver, unless that is a failing result. -/
theorem after_hookCall (hr : m.Simulates env mk t s) (h : m.RunsSites w) (hplain : t.IsPlain)
    (hstarred : t.starred? = none) (hhook : m.BindsHook env mk s) (a : Span) {line : Int}
    (htells : ∀ r s₁, exec (m.evaluate env t) s = (.ok r, s₁) → w.Tells r ⟨mk.file, line⟩ s₁)
    (f : Value → Store → List Event) :
    (after (m.evaluate env (mk.hookCall a {} (t.visit mk).1 line)) s fun v s' =>
        if (s'.failure? v).isSome then [] else f v s') =
      after (m.evaluate env t) s fun v s' => if (s'.failure? v).isSome then [] else f v s' := by
  have hcall : exec (m.evaluate env (mk.hookCall a {} (t.visit mk).1 line)) s =
      exec (m.evaluate env (t.visit mk).1 >>= fun v => m.reportSite v ⟨mk.file, line⟩) s :=
    h.exec_hookCall hhook (SyntaxTree.isPlain_visit mk hplain) (SyntaxTree.starred?_visit mk hstarred)
      line
  rcases hvalue : exec (m.evaluate env t) s with ⟨x | v, s₁⟩
  · rcases hvalue' : exec (m.evaluate env (t.visit mk).1) s with ⟨x' | v', s₁'⟩
    · rw [exec_bind_error hvalue'] at hcall
      rw [after_error hvalue, after_error hcall]
    · exact absurd (hvalue.symm.trans (hr.ok_iff.1 hvalue')) nofun
  · rw [exec_bind_ok (hr.ok hvalue)] at hcall
    rw [after_ok hvalue]
    rcases hfail : s₁.failure? v with _ | e
    · rw [h.exec_reportSite_passed hfail] at hcall
      rw [after_ok hcall, hfail]
    · obtain ⟨r, e', s₂, hreport, hfail'⟩ | ⟨x, s₂, -, hreport⟩ :=
        h.exec_reportSite_failure hfail (htells v s₁ hvalue)
      · rw [after_ok (hcall.trans hreport), hfail']
        rfl
      · rw [after_error (hcall.trans hreport)]
        rfl

/-- A propagation expression simulates if its receiver does. -/
theorem atSite (h : m.RunsSites w) {call : Span} {ctx : Context} {word args named : Span}
    {r : SyntaxTree Span} (hplain : (SyntaxTree.site call ctx word args named r).IsPlain)
    (hhosts : m.Hosts w env mk (SyntaxTree.site call ctx word args named r) s)
    (hr : m.Simulates env mk r s) :
    m.Simulates env mk (SyntaxTree.site call ctx word args named r) s := by
  obtain ⟨hplainr, hstarred⟩ := SyntaxTree.isPlain_site.1 hplain
  have hplain' := SyntaxTree.isPlain_visit mk hplainr
  have hstarred' := SyntaxTree.starred?_visit mk hstarred
  obtain ⟨hbinds, -, htells⟩ := (hosts_site (SyntaxTree.propagation?_site ..)).1 hhosts
  simp only [Marking.siteOf_site] at htells
  have hvisit : ((SyntaxTree.site call ctx word args named r).visit mk).1 =
      SyntaxTree.site call .load call {} {}
        (mk.hookCall call {} (r.visit mk).1 (SyntaxTree.siteLine call word)) := by
    rw [SyntaxTree.visit_site, SyntaxTree.inject_eq_site]
  have hrun := h.evaluate_site env hplain
  have hrun' := h.evaluate_site env (hvisit ▸ SyntaxTree.isPlain_visit mk hplain)
  rw [← hvisit] at hrun'
  have hhook : exec (m.evaluate env ((SyntaxTree.site call ctx word args named r).visit mk).1) s =
      exec (m.evaluate env (r.visit mk).1 >>= fun v => do
        m.propagateOf env (← m.reportSite v ⟨mk.file, SyntaxTree.siteLine call word⟩)) s := by
    rw [hrun', exec_bind, h.exec_hookCall hbinds hplain' hstarred' _, ← exec_bind, bind_assoc]
  refine ⟨?_, ?_, ?_, ?_⟩
  · intro p s' hreach
    cases hreach with
    | here => exact .here _ _
    | receiver ht hreach =>
      obtain ⟨rfl, rfl⟩ := by simpa using ht
      refine .receiver (by rw [hvisit]; rfl) (.part ?_ ?_ (hr.reaches p s' hreach))
      · simp [Marking.hookCall, SyntaxTree.propagation?]
      · exact hbinds.asks_hookCall hstarred' _
    | part ht => simp at ht
  · rintro p v s' ⟨word', receiver, s₁, hreach, hp, hreceiver, hfail⟩
    obtain ⟨e, hfail'⟩ := Option.isSome_iff_exists.1 hfail
    rw [hrun, hhook]
    cases hreach with
    | here =>
      obtain ⟨rfl, rfl⟩ : word = word' ∧ r = receiver := by
        simpa using hp
      rw [exec_bind_ok hreceiver, exec_bind_ok (hr.ok hreceiver),
        h.exec_propagateOf (outcome?_of_failure? hfail')]
      refine ⟨rfl, ?_⟩
      obtain ⟨v', e', s'', hreport, hfail''⟩ | ⟨x, s'', -, hreport⟩ :=
        h.exec_reportSite_failure hfail' (htells v s' hreceiver)
      · rw [exec_bind_ok hreport, h.exec_propagateOf (outcome?_of_failure? hfail'')]
        exact .inl ⟨v', e', s'', hreport, hfail'', rfl⟩
      · exact .inr ⟨x, s'', hreport, exec_bind_error hreport⟩
    | receiver ht hreach =>
      obtain ⟨rfl, rfl⟩ := by simpa using ht
      exact (hr.leaves p v s' ⟨word', receiver, s₁, hreach, hp, hreceiver, hfail⟩).bind hfail' _ _
    | part ht => simp at ht
  · intro hstays
    have hstaysr : ∀ p v s', ¬ m.Leaves env r s p v s' := fun p v s' hleaves =>
      hstays p v s' (hleaves.receiver (SyntaxTree.propagation?_site ..))
    rw [hrun, hhook, exec_bind, exec_bind, hr.stays hstaysr]
    rcases hvalue : exec (m.evaluate env r) s with ⟨_ | v, s₁⟩
    · rfl
    · have hnone : s₁.failure? v = none := by
        by_contra hfail
        exact hstays _ v s₁ ⟨word, r, s, .here _ _, rfl, hvalue, Option.isSome_iff_ne_none.2 hfail⟩
      simp only
      rw [exec_bind_ok (h.exec_reportSite_passed hnone _)]
  · intro hfresh
    rw [SyntaxTree.identifiers_site] at hfresh
    rw [hvisit, events_site, events_site, SyntaxTree.hooked_hookCall,
      SyntaxTree.hooked_of_not_mem hfresh, hr.events hfresh]
    exact congrArg (_ ++ ·) (hr.after_hookCall h hplainr hstarred hbinds _ htells _)

end Simulates

/-- A plain expression simulates from every store from which its run has what it needs. -/
theorem simulates (h : m.RunsSites w) {t : SyntaxTree Span} (ht : t.IsPlain) {s : Store}
    (hhosts : m.Hosts w env mk t s) : m.Simulates env mk t s := by
  revert s
  refine ht.induction (motive := fun t => ∀ {s}, m.Hosts w env mk t s → m.Simulates env mk t s) ?_
  intro f a cs ht ih s hhosts
  rcases hprop : (SyntaxTree.node f a cs).propagation? with _ | ⟨word, r⟩
  · refine .other h ht hprop fun c s₁ hask => ?_
    have hparts : (m.plan env (.node f a cs)).Within fun c =>
        ∀ {s}, m.Hosts w env mk c s → m.Simulates env mk c s :=
      Machine.within_plan (SyntaxTree.isPlain_node.1 ht).1 ih
    exact hask.of_within hparts ((hosts_other hprop).1 hhosts c s₁ hask)
  · obtain ⟨call, ctx, args, named, hsite⟩ := SyntaxTree.eq_site_of_propagation? hprop
    cases hsite
    -- the receiver is below the attribute
    refine .atSite h ht hhosts (ih _ List.mem_cons_self r ?_ ((hosts_site hprop).1 hhosts).2.1)
    exact SyntaxTree.mem_subtrees_of_mem (List.mem_singleton_self r) r.self_mem_subtrees

/-- Where an expression is left, the instrumented one is left at the same expression, with what the site
function makes of the result. -/
theorem Leaves.visit (h : m.RunsSites w) {t p : SyntaxTree Span} {r r' e : Value} {s s₁ s₂ : Store}
    (hleaves : m.Leaves env t s p r s₁) (ht : t.IsPlain) (hhosts : m.Hosts w env mk t s)
    (hreport : exec (m.reportSite r (mk.siteOf p)) s₁ = (.ok r', s₂))
    (hfail : s₂.failure? r' = some e) : m.Leaves env (t.visit mk).1 s (p.visit mk).1 r' s₂ := by
  obtain ⟨word, receiver, s₀, hreach, hp, hreceiver, -⟩ := hleaves
  have hpp := ht.of_mem_subtrees (hreach.mem_subtrees ht)
  obtain ⟨hbinds, hreceiverHosts, -⟩ := (hosts_site hp).1 (hhosts.reached hreach)
  obtain ⟨call, ctx, args, named, rfl⟩ := SyntaxTree.eq_site_of_propagation? hp
  obtain ⟨hplain, hstarred⟩ := SyntaxTree.isPlain_site.1 hpp
  have hsim := simulates h hplain hreceiverHosts
  refine ⟨call, _, s₀, (simulates h ht hhosts).reaches _ s₀ hreach,
    by rw [SyntaxTree.visit_site]; rfl, ?_, Option.isSome_iff_exists.2 ⟨e, hfail⟩⟩
  rw [h.exec_hookCall hbinds (SyntaxTree.isPlain_visit mk hplain)
    (SyntaxTree.starred?_visit mk hstarred) _, exec_bind_ok (hsim.ok hreceiver)]
  exact hreport

/-- Instrumenting a plain expression preserves its evaluation by the machines that run programs, whatever
calls do. The machine of a depth evaluates expressions as that of the depth below does when it is
closed; of this run, the hook is the site function where it comes to a site, and the error that it is
left with can be told the site. Then the instrumented expression

* for a hook whose name the expression does not use, performs the same acts in the same order, calls
  among them, each from the same store, the calls of the hook left out;
* comes to the same subexpressions, in the same stores;
* where the expression has a value, has the same value and leaves the same store;
* where the expression is left at a propagation expression with a failing result, so that a signal of
  the result is raised, is left at the same expression in the same store, and a signal is raised of
  what the site function makes of the result there; the site function raises only what is raised by
  asking the error whether it takes sites, and this is raised then;
* where anything else is raised, raises the same, and the store is the same. -/
theorem evaluate_visit {world : World} {n : Nat} {t : SyntaxTree Span} (ht : t.IsPlain) {s : Store}
    (h : (ofDepth world (n + 2)).closed.Hosts (ofDepth world (n + 1)) env mk t s) :
    let m := (ofDepth world (n + 2)).closed
    let run := (ofDepth world (n + 3)).evaluate env
    let t' := (t.visit mk).1
    (pathHead mk.hook ∉ t.identifiers → m.events env mk.hook t' s = m.events env mk.hook t s) ∧
    (∀ p s', m.Reaches env t s p s' → m.Reaches env t' s (p.visit mk).1 s') ∧
    (∀ v s', exec (run t) s = (.ok v, s') → exec (run t') s = (.ok v, s')) ∧
    (∀ p r s₁, m.Leaves env t s p r s₁ →
      exec (run t) s = (.error (.raised (.ref s₁.objects.size)), s₁.extend [.signal r]) ∧
      (∀ r' s₂, exec (m.reportSite r (mk.siteOf p)) s₁ = (.ok r', s₂) →
        m.Leaves env t' s (p.visit mk).1 r' s₂ ∧
        exec (run t') s = (.error (.raised (.ref s₂.objects.size)), s₂.extend [.signal r'])) ∧
      ∀ x s₂, exec (m.reportSite r (mk.siteOf p)) s₁ = (.error x, s₂) →
        exec (run t') s = (.error x, s₂) ∧ ∃ e, s₁.failure? r = some e ∧
          exec (Envelope.isCapable (ofDepth world (n + 1)) e) s₁ = (.error x, s₂)) ∧
    (∀ x s', exec (run t) s = (.error x, s') → (∀ p r s₁, ¬ m.Leaves env t s p r s₁) →
      exec (run t') s = (.error x, s')) := by
  intro m run t'
  have hsites := runsSites_ofDepth world n
  have hsim : m.Simulates env mk t s := simulates hsites ht h
  refine ⟨hsim.events, hsim.reaches, fun v s' => hsim.ok, ?_, ?_⟩
  · intro p r s₁ hleaves
    obtain ⟨hleft, hleft'⟩ := hsim.leaves p r s₁ hleaves
    obtain ⟨e, hfail⟩ := hleaves.failure
    refine ⟨hleft.trans (exec_propagate_failure hfail), fun r' s₂ hreport => ?_,
      fun x s₂ hreport => ?_⟩
    · obtain ⟨r'', e', s₂', hreport', hfail', hsignal⟩ | ⟨x, s₂', hreport', -⟩ := hleft'
      · cases hreport.symm.trans hreport'
        exact ⟨hleaves.visit hsites ht h hreport hfail',
          hsignal.trans (exec_propagate_failure hfail')⟩
      · exact absurd (hreport.symm.trans hreport') nofun
    · obtain ⟨r', e', s₂', hreport', -⟩ | ⟨x', s₂', hreport', hraised⟩ := hleft'
      · exact absurd (hreport.symm.trans hreport') nofun
      · cases hreport.symm.trans hreport'
        exact ⟨hraised, e, hfail,
          hsites.exec_isCapable_of_error hfail (h.tells p r s₁ hleaves) hreport⟩
  · intro x s' hrun hstays
    exact (hsim.stays hstays).trans hrun

/-! ## A run with a call -/

/-- The place before the end is that of the last item. -/
theorem placeOf_last (n : Nat) : placeOf (n + 1) (-1) = some n := by
  have hlast : (if (-1 : Int) < 0 then (-1 : Int) + (n + 1 : Nat) else -1) = n := by
    rw [if_pos (by decide)]
    omega
  rw [placeOf, hlast, if_pos (by omega), Int.toNat_natCast]

/-- A call of `pop` takes the last item off a list. -/
theorem exec_call_pop {world : World} {n : Nat} {s : Store} {r : Ref} {v : Value} {xs : List Value}
    (ho : s.objects[r]? = some (.list (xs ++ [v]))) :
    exec ((ofDepth world (n + 2)).call (.bound (nativeMethod .list "pop") (.ref r)) [] []) s =
      (.ok v, { s with objects := s.objects.setIfInBounds r (.list xs) }) := by
  have hsplit : (Kind.list.name ++ "." ++ "pop").splitOn "." = ["list", "pop"] := by
    rw [Text.splitOn_char '.']
    decide
  have hindex : exec (Arguments.optional "index" [] []) s = (.ok none, s) := rfl
  rw [call_boundMethod hsplit (by decide)]
  simp [Native.callMethod, Native.withObject, CollectionMethod.callList, exec_bind, ho, hindex,
    placeOf_last, List.eraseIdx_append_of_length_le]

/-- The expression that calls `pop` on a variable. -/
def popOf (name : String) : SyntaxTree Span :=
  .node .call {} [.node (.attribute "pop" .load) {} [.node (.name name .load) {} []],
    .node .sequence {} [], .node .sequence {} []]

theorem isPlain_popOf (name : String) : (popOf name).IsPlain := by
  have hname : (SyntaxTree.node (.name name .load) ({} : Span) []).IsPlain :=
    SyntaxTree.isPlain_node.2 ⟨.name _ _, by simp⟩
  have hseq : (SyntaxTree.node .sequence ({} : Span) []).IsPlain :=
    SyntaxTree.isPlain_node.2 ⟨.sequence _, by simp⟩
  have hattr : (SyntaxTree.node (.attribute "pop" .load) ({} : Span)
      [.node (.name name .load) {} []]).IsPlain :=
    SyntaxTree.isPlain_node.2 ⟨.attr _ _ _ rfl, by simpa using hname⟩
  exact SyntaxTree.isPlain_node.2 ⟨.call _ _ _, by simp [hattr, hseq]⟩

theorem exec_popOf {world : World} {n : Nat} {s : Store} {name : String} {r : Ref} {v : Value}
    {xs : List Value} (hname : exec (env.read name) s = (.ok (.ref r), s))
    (hspell : env.spell "pop" = "pop") (ho : s.objects[r]? = some (.list (xs ++ [v]))) :
    exec ((ofDepth world (n + 2)).closed.evaluate env (popOf name)) s =
      (.ok v, { s with objects := s.objects.setIfInBounds r (.list xs) }) := by
  have hm := closed_closed (ofDepth world (n + 2))
  have hplain := (SyntaxTree.isPlain_node.1 (isPlain_popOf name)).2 _ List.mem_cons_self
  have hplain' := (SyntaxTree.isPlain_node.1 hplain).2 _ List.mem_cons_self
  have hfinds : s.Finds (.ref r) "pop" (some (.method .list)) := .of_kind (exec_classOf ho) rfl
  have hown : exec (ownFields (.ref r)) s = (.ok [], s) := by
    rw [ownFields, exec_bind_ok (exec_object? ho)]
    rfl
  have hmember : exec ((ofDepth world (n + 2)).getMember (.ref r) "pop") s =
      (.ok (.bound (nativeMethod .list "pop") (.ref r)), s) :=
    exec_getMember (exec_findMember_method ho rfl hfinds hown rfl)
  have hfunction : exec ((ofDepth world (n + 2)).closed.evaluate env
      (.node (.attribute "pop" .load) {} [.node (.name name .load) {} []])) s =
      (.ok (.bound (nativeMethod .list "pop") (.ref r)), s) := by
    rw [hm _ _ hplain]
    simp only [evaluateExpression, hm _ _ hplain', hspell]
    rw [exec_bind_ok hname, closed_getMember]
    exact hmember
  rw [hm _ _ (isPlain_popOf name), popOf]
  simp only [evaluateExpression, evaluateCall]
  rw [exec_bind_ok hfunction]
  simp only [SyntaxTree.items_sequence, evaluateAll, evaluateKeywords, pure_bind, closed_call]
  exact exec_call_pop ho

/-- A call takes a success off a list, which the inner site hands on. Its payload is the failing result of
an envelope, with which the outer site is left: the envelope is told the line of that site's word. -/
theorem evaluate_visit_pop :
    let mk : Marking := ⟨"f.py", "hook"⟩
    let env : Env := { cells := [("hook", 0), ("ys", 1)], own := ["hook", "ys"] }
    let inner : SyntaxTree Span := .site {} .load ⟨some 7, some 7⟩ {} {} (popOf "ys")
    let t : SyntaxTree Span := .site {} .load ⟨some 8, some 8⟩ {} {} inner
    let store (ys trail : List Value) : Store := { objects := #[.cell (some (.native "wherrapper")),
      .cell (some (.ref 2)), .list ys, .result true (.ref 4), .result false (.ref 5),
      .envelope [] .none (.str "boom") 6 [], .list trail] }
    t.IsPlain ∧ (ofDepth {} 999999).closed.Hosts (ofDepth {} 999998) env mk t (store [.ref 3] []) ∧
      exec ((standard {}).evaluate env (t.visit mk).1) (store [.ref 3] []) =
        (.error (.raised (.ref 7)), (store [] [.location ⟨"f.py", 8⟩]).extend [.signal (.ref 4)]) := by
  intro mk env inner t store
  have hm : (ofDepth {} 999999).closed.RunsSites (ofDepth {} 999998) := runsSites_ofDepth {} 999997
  have hinner : inner.IsPlain := SyntaxTree.isPlain_site.2 ⟨isPlain_popOf "ys", rfl⟩
  have hplain : t.IsPlain := SyntaxTree.isPlain_site.2 ⟨hinner, rfl⟩
  have hbinds : (ofDepth {} 999999).closed.BindsHook env mk (store [.ref 3] []) :=
    hm.closed.bindsHook (k := 0) (by decide) rfl rfl (by decide) rfl rfl
  have hread : exec (env.read "ys") (store [.ref 3] []) = (.ok (.ref 2), store [.ref 3] []) := by
    simp [env, store, Env.read, Env.spell, privateName, Env.readCell, Env.content, exec_bind,
      List.lookup_cons]
  have hpop : exec ((ofDepth {} 999999).closed.evaluate env (popOf "ys")) (store [.ref 3] []) =
      (.ok (.ref 3), store [] []) := by
    have hlist : (store [.ref 3] []).objects[2]? = some (.list ([] ++ [.ref 3])) := rfl
    exact exec_popOf hread rfl hlist
  have hvalue : exec ((ofDepth {} 999999).closed.evaluate env inner) (store [.ref 3] []) =
      (.ok (.ref 4), store [] []) := by
    rw [hm.evaluate_site env hinner, exec_bind_ok hpop, hm.exec_propagateOf rfl]
    exact exec_propagate_success rfl
  have henvelope : (store [] []).objects[5]? = some (.envelope [] .none (.str "boom") 6 []) := rfl
  have hfree : Fields.free [] := fun p _ => rfl
  have hhostsInner : (ofDepth {} 999999).closed.Hosts (ofDepth {} 999998) env mk inner
      (store [.ref 3] []) := by
    refine (hosts_site (SyntaxTree.propagation?_site ..)).2
      ⟨hbinds, hosts_of_forall (isPlain_popOf "ys") (by decide), fun r s₁ hr => ?_⟩
    cases hpop.symm.trans hr
    exact tells_ofDepth (fun e he => by cases he) _
  have hhosts : (ofDepth {} 999999).closed.Hosts (ofDepth {} 999998) env mk t
      (store [.ref 3] []) := by
    refine (hosts_site (SyntaxTree.propagation?_site ..)).2 ⟨hbinds, hhostsInner, fun r s₁ hr => ?_⟩
    cases hvalue.symm.trans hr
    exact tells_ofDepth (fun e he => by cases he; exact .envelope henvelope hfree rfl) _
  have hleaves : (ofDepth {} 999999).closed.Leaves env t (store [.ref 3] []) t (.ref 4) (store [] []) :=
    ⟨_, inner, _, .here _ _, SyntaxTree.propagation?_site .., hvalue, rfl⟩
  have hreport : exec ((ofDepth {} 999999).closed.reportSite (.ref 4) ⟨"f.py", 8⟩) (store [] []) =
      (.ok (.ref 4), store [] [.location ⟨"f.py", 8⟩]) := by
    rw [hm.site]
    exact exec_addSite_capable rfl (exec_isCapable_envelope henvelope hfree)
      (.envelope henvelope hfree rfl) rfl _
  obtain ⟨-, hreported, -⟩ := (evaluate_visit hplain hhosts).2.2.2.1 _ _ _ hleaves
  exact ⟨hplain, hhosts, (hreported _ _ hreport).2⟩

end Machine

end ErrorTrail
