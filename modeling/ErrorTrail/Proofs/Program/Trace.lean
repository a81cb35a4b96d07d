import ErrorTrail.Proofs.Program.Hosting
import ErrorTrail.Proofs.Site.Completeness

/-!
# What a run does

The acts of a run of an expression in their order, calls among them, each with the store that it
starts from (`Machine.events`). The evaluation of a hook call on the receiver of a propagation
expression is left out, but for its receiver. For a tree that does not use the name of the hook
nothing is left out, and its events are those of the plan of the expression (`events_other`) or of
the receiver and the early end (`events_site`).
-/

namespace ErrorTrail

open Syntax Act

/-- An act and the store that it starts from. -/
structure Event : Type 1 where
  result : Type
  act : Act result
  store : Store

/-- The events after an act that gives a result. -/
def Act.after {α : Type} (a : Act α) (s : Store) (f : α → Store → List Event) : List Event :=
  match exec a s with
  | (.ok x, s') => f x s'
  | (.error _, _) => []

theorem Act.after_ok {α : Type} {a : Act α} {s s' : Store} {x : α} {f : α → Store → List Event}
    (h : exec a s = (.ok x, s')) : after a s f = f x s' := by
  rw [after, h]

theorem Act.after_error {α : Type} {a : Act α} {s s' : Store} {e : Stop}
    {f : α → Store → List Event} (h : exec a s = (.error e, s')) : after a s f = [] := by
  rw [after, h]

/-- What comes after an act depends on its result only. -/
theorem Act.after_congr {α : Type} {a b : Act α} {s : Store} {f g : α → Store → List Event}
    (hab : ∀ x s', exec a s = (.ok x, s') ↔ exec b s = (.ok x, s'))
    (hfg : ∀ x s', exec a s = (.ok x, s') → f x s' = g x s') : after a s f = after b s g := by
  rcases ha : exec a s with ⟨e | x, s'⟩
  · rcases hb : exec b s with ⟨e' | y, s''⟩
    · rw [after_error ha, after_error hb]
    · exact absurd (ha.symm.trans ((hab y s'').2 hb)) nofun
  · rw [after_ok ha, after_ok ((hab x s').1 ha), hfg x s' ha]

namespace Plan

variable {α : Type} {e : SyntaxTree Span → Act Value} {g : SyntaxTree Span → SyntaxTree Span}
  {E E' : SyntaxTree Span → Store → List Event}

/-- The events of a run of a plan; `E` gives those of its parts. -/
def events (e : SyntaxTree Span → Act Value) (E : SyntaxTree Span → Store → List Event) :
    Plan α → Store → List Event
  | done _, _ => []
  | act a next, s => ⟨_, a, s⟩ :: after a s fun x => (next x).events e E
  | ask t next, s => E t s ++ after (e t) s fun v => (next v).events e E

theorem Within.events_congr {p : Plan α} (h : p.Within fun t => E t = E' t) :
    p.events e E = p.events e E' := by
  induction p with
  | done x => rfl
  | act a next ih =>
    funext s
    rw [events, events, funext fun x => ih x (h x)]
  | ask t next ih =>
    funext s
    rw [events, events, h.1, funext fun v => ih v (h.2 v)]

/-- The events for other parts, which give the same values and have the same events where the plan comes
to them. -/
theorem events_mapParts {p : Plan α} {s : Store}
    (h : ∀ t s', p.Asks e t s' s → E (g t) s' = E t s' ∧
      ∀ v s'', exec (e (g t)) s' = (.ok v, s'') ↔ exec (e t) s' = (.ok v, s'')) :
    (p.mapParts g).events e E s = p.events e E s := by
  induction p generalizing s with
  | done x => rfl
  | act a next ih =>
    refine congrArg (_ :: ·) (after_congr (fun _ _ => Iff.rfl) fun x s' hrun => ?_)
    exact ih x fun t s'' ht => h t s'' ⟨x, s', hrun, ht⟩
  | ask t next ih =>
    obtain ⟨hevents, hiff⟩ := h t s (.inl ⟨rfl, rfl⟩)
    rw [mapParts, events, events, hevents]
    refine congrArg (_ ++ ·) (after_congr hiff fun v s' hrun => ?_)
    exact ih v fun t' s'' ht => h t' s'' (.inr ⟨v, s', (hiff v s').1 hrun, ht⟩)

end Plan

namespace Syntax.SyntaxTree

variable {α : Type} {hook : String} {t : SyntaxTree α}

theorem hooked_mem_subtrees (hook : String) (t : SyntaxTree α) : t.hooked hook ∈ t.subtrees := by
  unfold hooked hookCall?
  split
  · split
    · refine mem_subtrees_of_mem (List.mem_cons_of_mem _ List.mem_cons_self) ?_
      exact mem_subtrees_of_mem List.mem_cons_self (self_mem_subtrees _)
    · exact self_mem_subtrees _
  · exact self_mem_subtrees _

theorem hooked_of_not_mem (h : pathHead hook ∉ t.identifiers) : t.hooked hook = t := by
  rw [hooked, hookCall?_of_not_mem h]
  rfl

theorem hooked_hookCall (mk : Marking) (a none_ : α) (r : SyntaxTree α) (line : Int) :
    (mk.hookCall a none_ r line).hooked mk.hook = r := by
  rw [hooked, hookCall?_hookCall]
  rfl

end Syntax.SyntaxTree

namespace Machine

/-- The events of a run of an expression. A call of the hook on the receiver of a propagation
expression is left out, and so is the early end with a failing result. -/
def events (m : Machine) (env : Env) (hook : String) (t : SyntaxTree Span) (s : Store) : List Event :=
  let below (c : SyntaxTree Span) (s : Store) : List Event :=
    if c.subtrees.length < t.subtrees.length then events m env hook c s else []
  match t.propagation? with
  | some (_, r) =>
    below (r.hooked hook) s ++ after (m.evaluate env r) s fun v s' =>
      if (s'.failure? v).isSome then [] else [⟨_, m.propagateOf env v, s'⟩]
  | none => (m.plan env t).events (m.evaluate env) below s
termination_by t.subtrees.length

variable {m : Machine} {env : Env} {hook : String} {s : Store}

theorem events_site {call : Span} {ctx : Context} {word args named : Span} {r : SyntaxTree Span} :
    m.events env hook (SyntaxTree.site call ctx word args named r) s =
      m.events env hook (r.hooked hook) s ++ after (m.evaluate env r) s fun v s' =>
        if (s'.failure? v).isSome then [] else [⟨_, m.propagateOf env v, s'⟩] := by
  have hle := SyntaxTree.length_subtrees_le (SyntaxTree.hooked_mem_subtrees hook r)
  have hlt : r.subtrees.length < (SyntaxTree.site call ctx word args named r).subtrees.length :=
    Nat.lt_trans (SyntaxTree.length_subtrees_lt (List.mem_singleton_self r))
      (SyntaxTree.length_subtrees_lt List.mem_cons_self)
  rw [events]
  simp only [SyntaxTree.propagation?_site]
  rw [if_pos (Nat.lt_of_le_of_lt hle hlt)]

theorem events_other {f : Form} {a : Span} {cs : List (SyntaxTree Span)}
    (hnode : SyntaxTree.PlainNode f cs) (hprop : (SyntaxTree.node f a cs).propagation? = none) :
    m.events env hook (.node f a cs) =
      (m.plan env (.node f a cs)).events (m.evaluate env) (m.events env hook) := by
  funext s
  rw [events]
  simp only [hprop]
  refine congrFun (Plan.Within.events_congr ?_) s
  refine within_plan hnode fun c hc u hu => ?_
  have hlt := Nat.lt_of_le_of_lt (SyntaxTree.length_subtrees_le hu)
    (SyntaxTree.length_subtrees_lt (f := f) (a := a) hc)
  funext s'
  rw [if_pos hlt]

end Machine

end ErrorTrail
