import ErrorTrail.Proofs.Program.Closure
import ErrorTrail.Proofs.Program.Trails
import ErrorTrail.Proofs.Site.Plain

/-!
# Where instrumented expressions run

`Machine.Reaches` says to which subexpressions, and in which stores, the evaluation of an expression
comes, and `Machine.Leaves` at which propagation expression it ends.

What an instrumented expression needs is asked of one run of the expression it is made of
(`Machine.Hosts`): where that run comes to a propagation expression, the hook is the site function, and
where it is left, the error can be told the site. A run needs this node by node (`Machine.hosts_site`,
`Machine.hosts_other`); a cell that holds the site function binds the hook (`Machine.Closed.bindsHook`),
and the errors of `Store.IsError` can be told sites (`Machine.tells_ofDepth`).

Everything else holds of every run: the machines that run programs evaluate expressions to the end, and
have the site function and the method for early ends (`Machine.runsSites_ofDepth`). So what a
propagation expression and the call that reports its site do follows from the value of the receiver
(`RunsSites.evaluate_site`, `RunsSites.exec_hookCall`).
-/

namespace ErrorTrail

open Syntax Act

/-! ## Reaching a subexpression -/

/-- Evaluating `t` from `s` comes to the evaluation of `p` from `s'`. A propagation expression comes to
its receiver first. -/
inductive Machine.Reaches (m : Machine) (env : Env) :
    SyntaxTree Span → Store → SyntaxTree Span → Store → Prop
  | here (t : SyntaxTree Span) (s : Store) : Reaches m env t s t s
  | receiver {t r p : SyntaxTree Span} {s s' : Store} {word : Span}
      (ht : t.propagation? = some (word, r)) (h : Reaches m env r s p s') : Reaches m env t s p s'
  | part {t c p : SyntaxTree Span} {s s₁ s' : Store} (ht : t.propagation? = none)
      (hask : (m.plan env t).Asks (m.evaluate env) c s₁ s) (h : Reaches m env c s₁ p s') :
      Reaches m env t s p s'

/-- The evaluation of `t` from `s` ends at the propagation expression `p`: its receiver is a failing
result `r`, in the store `s'`. -/
def Machine.Leaves (m : Machine) (env : Env) (t : SyntaxTree Span) (s : Store) (p : SyntaxTree Span)
    (r : Value) (s' : Store) : Prop :=
  ∃ word receiver s₁, m.Reaches env t s p s₁ ∧ p.propagation? = some (word, receiver) ∧
    exec (m.evaluate env receiver) s₁ = (.ok r, s') ∧ (s'.failure? r).isSome

/-- The location that a site at `p` reports. -/
def Marking.siteOf (mk : Marking) (p : SyntaxTree Span) : Location :=
  ⟨mk.file, p.propagationLine?.getD 0⟩

@[simp] theorem Marking.siteOf_site (mk : Marking) (call : Span) (ctx : Context) (word args named : Span)
    (r : SyntaxTree Span) : mk.siteOf (SyntaxTree.site call ctx word args named r) =
      ⟨mk.file, SyntaxTree.siteLine call word⟩ := rfl

/-! ## What a run needs -/

/-- In `s`, the hook is the site function, and looking it up changes nothing. -/
def Machine.BindsHook (m : Machine) (env : Env) (mk : Marking) (s : Store) : Prop :=
  ∀ a, exec (m.evaluate env (hookExpr a mk.hook)) s = (.ok (.native "wherrapper"), s)

/-- If the error of `r` takes sites, telling it one raises nothing: its `push_location` returns, and `r`
is still a failing result. -/
def Machine.Tells (w : Machine) (r : Value) (site : Location) (s : Store) : Prop :=
  ∀ e, s.failure? r = some e → ∀ s₁, exec (Envelope.isCapable w e) s = (.ok true, s₁) →
    ∃ push s₂ x s₃ e', exec (w.getMember e "push_location") s₁ = (.ok push, s₂) ∧
      exec (w.call push [.str site.file, .int site.line] []) s₂ = (.ok x, s₃) ∧
      s₃.failure? r = some e'

/-- What the instrumented expression needs of the run of `t` from `s`. The site function is run by `w`. -/
structure Machine.Hosts (m w : Machine) (env : Env) (mk : Marking) (t : SyntaxTree Span) (s : Store) :
    Prop where
  /-- the hook is the site function where the run comes to a site -/
  hook : ∀ p s', m.Reaches env t s p s' → p.propagation?.isSome → m.BindsHook env mk s'
  /-- the error that the run is left with can be told the site -/
  tells : ∀ p r s', m.Leaves env t s p r s' → w.Tells r (mk.siteOf p) s'

/-- `m` evaluates expressions to the end, reports sites as `w` does, and has the method of results for
early ends. -/
structure Machine.RunsSites (m w : Machine) : Prop where
  closed : m.Closed
  site : ∀ v site, m.reportSite v site = Envelope.addSite w v site
  method : ∀ r x s, s.outcome? r = some x → exec (m.getMember r propagateWord) s =
    (.ok (.bound (Machine.nativeMethod .result propagateWord) r), s)
  propagate : ∀ r,
    m.call (.bound (Machine.nativeMethod .result propagateWord) r) [] [] = Outcome.propagate r

/-- The machines that run programs do, closed as they are for evaluating expressions. -/
theorem Machine.runsSites_ofDepth (world : World) (n : Nat) :
    (ofDepth world (n + 2)).closed.RunsSites (ofDepth world (n + 1)) where
  closed := closed_closed _
  site v site := by
    rw [Machine.reportSite, closed_call, call_wherrapper]
  method r x s hr := by
    rw [closed_getMember]
    unfold Store.outcome? at hr
    split at hr
    · split at hr
      · next ho => exact exec_getMember_propagate ho
      · cases hr
    · cases hr
  propagate r := by
    rw [closed_call]
    exact call_propagate r

section

variable {m w : Machine} {env : Env} {mk : Marking} {t c p q : SyntaxTree Span} {r e v : Value}
  {s s₁ s' : Store} {word : Span}

/-- The result that an expression is left with is a failing one. -/
theorem Machine.Leaves.failure (h : m.Leaves env t s p r s') : ∃ e, s'.failure? r = some e := by
  obtain ⟨-, -, -, -, -, -, hfail⟩ := h
  exact Option.isSome_iff_exists.1 hfail

/-- An expression is left where its receiver is. -/
theorem Machine.Leaves.receiver (h : m.Leaves env q s p r s')
    (ht : t.propagation? = some (word, q)) : m.Leaves env t s p r s' := by
  obtain ⟨word', q', s₁, hreach, hp⟩ := h
  exact ⟨word', q', s₁, .receiver ht hreach, hp⟩

/-- An expression is left where a part that it comes to is. -/
theorem Machine.Leaves.part (h : m.Leaves env c s₁ p r s') (ht : t.propagation? = none)
    (hask : (m.plan env t).Asks (m.evaluate env) c s₁ s) : m.Leaves env t s p r s' := by
  obtain ⟨word, q, s₂, hreach, hp⟩ := h
  exact ⟨word, q, s₂, .part ht hask hreach, hp⟩

/-- A run comes to subexpressions only. -/
theorem Machine.Reaches.mem_subtrees (hreach : m.Reaches env t s p s') (ht : t.IsPlain) :
    p ∈ t.subtrees := by
  induction hreach with
  | here t => exact t.self_mem_subtrees
  | receiver hprop _ ih =>
    obtain ⟨call, ctx, args, named, rfl⟩ := SyntaxTree.eq_site_of_propagation? hprop
    refine SyntaxTree.mem_subtrees_of_mem List.mem_cons_self ?_
    exact SyntaxTree.mem_subtrees_of_mem (List.mem_singleton_self _)
      (ih (SyntaxTree.isPlain_site.1 ht).1)
  | @part t c p s s₁ s' hprop hask _ ih =>
    cases t with
    | node f a cs =>
      have hwithin : (m.plan env (.node f a cs)).Within fun c => c ∈ (SyntaxTree.node f a cs).subtrees :=
        Machine.within_plan (SyntaxTree.isPlain_node.1 ht).1 fun c hc u hu =>
          SyntaxTree.mem_subtrees_of_mem hc hu
      have hc := hask.of_within hwithin
      exact SyntaxTree.mem_subtrees_trans (ih (ht.of_mem_subtrees hc)) hc

namespace Machine

/-- The run of a propagation expression needs what the run of its receiver needs, the hook in the store
that it starts from, and an error that can be told the site if the receiver is a failing result. -/
theorem hosts_site (ht : t.propagation? = some (word, q)) :
    m.Hosts w env mk t s ↔ m.BindsHook env mk s ∧ m.Hosts w env mk q s ∧
      ∀ r s₁, exec (m.evaluate env q) s = (.ok r, s₁) → w.Tells r (mk.siteOf t) s₁ := by
  constructor
  · intro h
    refine ⟨h.hook t s (.here t s) (by rw [ht]; rfl), ⟨fun p s' hreach => h.hook p s' (.receiver ht hreach),
      fun p r s' hleaves => h.tells p r s' (hleaves.receiver ht)⟩, fun r s₁ hr e he => ?_⟩
    exact h.tells t r s₁ ⟨word, q, s, .here t s, ht, hr, by rw [he]; rfl⟩ e he
  · rintro ⟨hhook, hq, htells⟩
    refine ⟨fun p s' hreach hp => ?_, fun p r s' hleaves => ?_⟩
    · cases hreach with
      | here => exact hhook
      | receiver ht' hreach =>
        cases ht.symm.trans ht'
        exact hq.hook p s' hreach hp
      | part ht' => exact absurd (ht.symm.trans ht') nofun
    · obtain ⟨word', q', s₁, hreach, hp, hvalue, hfail⟩ := hleaves
      cases hreach with
      | here =>
        cases ht.symm.trans hp
        exact htells r s' hvalue
      | receiver ht' hreach =>
        cases ht.symm.trans ht'
        exact hq.tells p r s' ⟨word', q', s₁, hreach, hp, hvalue, hfail⟩
      | part ht' => exact absurd (ht.symm.trans ht') nofun

/-- The run of any other expression needs what the runs of the parts that it comes to need. -/
theorem hosts_other (ht : t.propagation? = none) :
    m.Hosts w env mk t s ↔
      ∀ c s₁, (m.plan env t).Asks (m.evaluate env) c s₁ s → m.Hosts w env mk c s₁ := by
  constructor
  · intro h c s₁ hask
    exact ⟨fun p s' hreach => h.hook p s' (.part ht hask hreach),
      fun p r s' hleaves => h.tells p r s' (hleaves.part ht hask)⟩
  · refine fun h => ⟨fun p s' hreach hp => ?_, fun p r s' hleaves => ?_⟩
    · cases hreach with
      | here => exact absurd hp (by rw [ht]; nofun)
      | receiver ht' => exact absurd (ht.symm.trans ht') nofun
      | part _ hask hreach => exact (h _ _ hask).hook p s' hreach hp
    · obtain ⟨word, q, s₁, hreach, hp⟩ := hleaves
      cases hreach with
      | here => exact absurd (ht.symm.trans hp.1) nofun
      | receiver ht' => exact absurd (ht.symm.trans ht') nofun
      | part _ hask hreach => exact (h _ _ hask).tells p r s' ⟨word, q, s₁, hreach, hp⟩

/-- What a run needs, it needs from every place that it comes to. -/
theorem Hosts.reached (h : m.Hosts w env mk t s) (hreach : m.Reaches env t s p s') :
    m.Hosts w env mk p s' := by
  induction hreach with
  | here => exact h
  | receiver ht _ ih => exact ih ((hosts_site ht).1 h).2.1
  | part ht hask _ ih => exact ih ((hosts_other ht).1 h _ _ hask)

/-- The run of an expression without sites needs nothing. -/
theorem hosts_of_forall (ht : t.IsPlain) (hnone : ∀ p ∈ t.subtrees, p.propagation? = none) :
    m.Hosts w env mk t s where
  hook p s' hreach hp := by
    rw [hnone p (hreach.mem_subtrees ht)] at hp
    cases hp
  tells p r s' hleaves := by
    obtain ⟨word, q, s₁, hreach, hp, -⟩ := hleaves
    exact absurd ((hnone p (hreach.mem_subtrees ht)).symm.trans hp) nofun

/-- A variable of the block that holds the site function binds the hook. -/
theorem Closed.bindsHook (hm : m.Closed) {k : Ref} (hhook : '.' ∉ mk.hook.toList)
    (hspell : env.spell mk.hook = mk.hook) (hspace : env.space = none) (hown : mk.hook ∈ env.own)
    (hcell : env.cells.lookup mk.hook = some k)
    (ho : s.objects[k]? = some (.cell (some (.native "wherrapper")))) : m.BindsHook env mk s := by
  intro a
  have hexpr : hookExpr a mk.hook = .node (.name mk.hook .load) a [] := by
    rw [hookExpr, Text.splitOn_eq_singleton hhook]
    rfl
  rw [hexpr, hm env _ (SyntaxTree.isPlain_node.2 ⟨.name _ _, by simp⟩)]
  simp [evaluateExpression, Env.read, hspell, hspace, hown, Env.readCell, hcell, Env.content,
    exec_bind, ho]

/-- An error that a store holds can be told any site. -/
theorem tells_ofDepth {world : World} {n : Nat} (hr : ∀ e, s.failure? r = some e → s.IsError e)
    (site : Location) : (ofDepth world (n + 3)).Tells r site s := by
  intro e hfail s₁ hasked
  have he := hr e hfail
  obtain ⟨lists, hcapable⟩ := exec_isCapable world (n + 2) he
  obtain ⟨hsome, rfl⟩ := Prod.mk.inj (hcapable.symm.trans hasked)
  have hgrows := s.grows_extend (lists.map .list)
  obtain ⟨t, ht⟩ := Option.isSome_iff_exists.1 (Except.ok.inj hsome)
  obtain ⟨push, x, hmember, hcall⟩ :=
    exec_push world n (hgrows.isError he) ((hgrows.trailRef? he).trans ht) site
  exact ⟨push, _, x, _, e, hmember, hcall, (hgrows.trans (Store.grows_tell _ _ _)).failure? hfail⟩

end Machine

/-! ## Sites -/

/-- What a propagation expression does with the value of its receiver. -/
def Machine.propagateOf (m : Machine) (env : Env) (v : Value) : Act Value := do
  match ← m.getMember v propagateWord with
  | .kind .superType => Machine.implicitSuper env
  | .native "globals" => return .ref env.globals
  | f => m.call f [] []

theorem spell_propagateWord (env : Env) : env.spell propagateWord = propagateWord := by
  unfold Env.spell privateName
  cases env.site.owner with
  | none => rfl
  | some o =>
    have hplain : propagateWord.startsWith "__" = false := by simp [propagateWord]
    simp [hplain]

/-- The call that reports a site comes to its receiver in the store that it starts from. -/
theorem Machine.BindsHook.asks_hookCall (h : m.BindsHook env mk s) {a none_ : Span}
    (hstarred : q.starred? = none) (line : Int) :
    (m.plan env (mk.hookCall a none_ q line)).Asks (m.evaluate env) q s s := by
  refine .inr ⟨.native "wherrapper", s, h a, ?_⟩
  simp only [SyntaxTree.items_sequence, Machine.planAll, hstarred]
  exact .inl ⟨rfl, rfl⟩

namespace Machine.RunsSites

variable (h : m.RunsSites w)
include h

theorem evaluate_site (env : Env) {call : Span} {ctx : Context} {word args named : Span}
    (ht : (SyntaxTree.site call ctx word args named q).IsPlain) :
    m.evaluate env (SyntaxTree.site call ctx word args named q) =
      m.evaluate env q >>= m.propagateOf env := by
  have hattr := (SyntaxTree.isPlain_node.1 ht).2 _ List.mem_cons_self
  rw [h.closed env _ ht, SyntaxTree.site]
  simp only [evaluateExpression, evaluateCall, h.closed env _ hattr, spell_propagateWord, bind_assoc,
    SyntaxTree.items_sequence, evaluateAll, evaluateKeywords, pure_bind]
  refine congrArg (m.evaluate env q >>= ·) (funext fun v => ?_)
  refine congrArg (m.getMember v propagateWord >>= ·) (funext fun f => ?_)
  split
  · rfl
  · rfl
  · next hsuper hglobals =>
    symm
    split
    · exact (hsuper rfl rfl rfl).elim
    · exact (hglobals rfl rfl rfl).elim
    · rfl

/-- The call that reports a site reports it on the value of its receiver. -/
theorem exec_hookCall (hhook : m.BindsHook env mk s) {a none_ : Span} (hr : q.IsPlain)
    (hstarred : q.starred? = none) (line : Int) :
    exec (m.evaluate env (mk.hookCall a none_ q line)) s =
      exec (m.evaluate env q >>= fun v => m.reportSite v ⟨mk.file, line⟩) s := by
  have hconst : ∀ c : Constant,
      m.evaluate env (.node (.constant c none) a []) = constantValue c := fun c =>
    h.closed env _ (SyntaxTree.isPlain_node.2 ⟨.constant c none, by simp⟩)
  rw [h.closed env _ (SyntaxTree.isPlain_hookCall mk a none_ hr line), Marking.hookCall]
  simp only [evaluateExpression, evaluateCall, SyntaxTree.items_sequence]
  rw [exec_bind_ok (hhook a)]
  have hall : m.evaluateAll env [q, .node (.constant (.str mk.file) none) a [],
      .node (.constant (.int line) none) a []] =
      m.evaluate env q >>= fun v => pure [v, .str mk.file, .int line] := by
    rw [evaluateAll.eq_3 _ _ _ _ (fun ctx b t ht => by simp [ht, SyntaxTree.starred?] at hstarred)]
    simp [evaluateAll, hconst, constantValue]
  simp only [hall, evaluateKeywords, pure_bind, bind_assoc]
  rfl

/-- A result is propagated as it is. -/
theorem exec_propagateOf {x : Bool × Value} (hr : s.outcome? r = some x) :
    exec (m.propagateOf env r) s = exec (Outcome.propagate r) s := by
  rw [Machine.propagateOf, exec_bind_ok (h.method r x s hr), ← h.propagate r]

/-- What is no failing result is handed on by a site. -/
theorem exec_reportSite_passed (hv : s.failure? v = none) (site : Location) :
    exec (m.reportSite v site) s = (.ok v, s) := by
  rw [h.site v site, exec_addSite_passed hv]

/-- A site on a failing result gives a failing result, unless asking whether the error takes sites
raises. -/
theorem exec_reportSite_failure (hr : s.failure? r = some e) {site : Location}
    (htells : w.Tells r site s) :
    (∃ r' e' s', exec (m.reportSite r site) s = (.ok r', s') ∧ s'.failure? r' = some e') ∨
      ∃ x s', exec (Envelope.isCapable w e) s = (.error x, s') ∧
        exec (m.reportSite r site) s = (.error x, s') := by
  rw [h.site r site, exec_addSite_failure hr]
  rcases hasked : exec (Envelope.isCapable w e) s with ⟨x | b, s₁⟩
  · exact .inr ⟨x, s₁, rfl, exec_bind_error hasked⟩
  · left
    rw [exec_bind_ok hasked]
    cases b with
    | true =>
      obtain ⟨push, s₂, x, s₃, e', hmember, hcall, hfail⟩ := htells e hr s₁ hasked
      refine ⟨r, e', s₃, ?_, hfail⟩
      rw [if_pos rfl, exec_bind_ok hmember, exec_bind_ok hcall]
      rfl
    | false =>
      obtain ⟨cause, hnew⟩ := exec_newEnvelope e site s₁
      exact ⟨_, .ref (s₁.objects.size + 1), _, hnew,
        by simp [Store.failure?, Store.outcome?, Store.extend]⟩

/-- On a failing result, a site raises only what asking whether the error takes sites raises. -/
theorem exec_isCapable_of_error (hr : s.failure? r = some e) {site : Location}
    (htells : w.Tells r site s) {x : Stop} (hreport : exec (m.reportSite r site) s = (.error x, s₁)) :
    exec (Envelope.isCapable w e) s = (.error x, s₁) := by
  obtain ⟨r', e', s', hreport', -⟩ | ⟨x', s', hasked, hreport'⟩ :=
    h.exec_reportSite_failure hr htells
  · exact absurd (hreport.symm.trans hreport') nofun
  · cases hreport.symm.trans hreport'
    exact hasked

end Machine.RunsSites

end

end ErrorTrail
