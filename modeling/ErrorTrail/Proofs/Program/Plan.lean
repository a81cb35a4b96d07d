import ErrorTrail.Proofs.Program.Run

/-!
# Plans

What an expression does, apart from the evaluation of its parts: a plan is the acts of an expression
itself, in their order, with a place for the evaluation of each part in between. A plan runs with any
evaluation of parts (`Plan.run`), the parts that it asks for can be exchanged (`Plan.mapParts`), and
which parts it comes to from a store, and in which stores, is `Plan.Asks`.
-/

namespace ErrorTrail

open Syntax Act

/-- The acts of an expression with the evaluation of its parts left open. -/
inductive Plan (α : Type) : Type 1 where
  | done (x : α)
  | act {β : Type} (a : Act β) (next : β → Plan α)
  | ask (t : SyntaxTree Span) (next : Value → Plan α)

namespace Plan

variable {α β : Type}

def bind : Plan α → (α → Plan β) → Plan β
  | done x, f => f x
  | act a next, f => act a fun x => (next x).bind f
  | ask t next, f => ask t fun v => (next v).bind f

instance : Monad Plan where
  pure := done
  bind := bind

/-- An act of the expression itself. -/
def perform (a : Act α) : Plan α := act a done

/-- The value of a part. -/
def part (t : SyntaxTree Span) : Plan Value := ask t done

/-- Runs a plan, `e` evaluating the parts. -/
def run (e : SyntaxTree Span → Act Value) : Plan α → Act α
  | done x => Pure.pure x
  | act a next => a >>= fun x => (next x).run e
  | ask t next => e t >>= fun v => (next v).run e

/-- The plan for other parts. -/
def mapParts (g : SyntaxTree Span → SyntaxTree Span) : Plan α → Plan α
  | done x => done x
  | act a next => act a fun x => (next x).mapParts g
  | ask t next => ask (g t) fun v => (next v).mapParts g

/-- Running a plan from a store comes to the evaluation of the part `c` in the store `s'`. -/
def Asks (e : SyntaxTree Span → Act Value) (c : SyntaxTree Span) (s' : Store) : Plan α → Store → Prop
  | done _, _ => False
  | act a next, s => ∃ x s₁, exec a s = (.ok x, s₁) ∧ (next x).Asks e c s' s₁
  | ask t next, s =>
    (t = c ∧ s = s') ∨ ∃ v s₁, exec (e t) s = (.ok v, s₁) ∧ (next v).Asks e c s' s₁

/-- The parts that a plan may ask for have a property. -/
def Within (P : SyntaxTree Span → Prop) : Plan α → Prop
  | done _ => True
  | act _ next => ∀ x, (next x).Within P
  | ask t next => P t ∧ ∀ v, (next v).Within P

variable {e : SyntaxTree Span → Act Value} {g : SyntaxTree Span → SyntaxTree Span}
  {P Q : SyntaxTree Span → Prop}

/-! ## Sequences -/

@[simp] theorem run_pure (x : α) : (pure x : Plan α).run e = pure x := rfl

@[simp] theorem run_bind (p : Plan α) (f : α → Plan β) :
    (p >>= f).run e = p.run e >>= fun x => (f x).run e := by
  induction p with
  | done x => exact (pure_bind x fun x => (f x).run e).symm
  | act a next ih => exact (congrArg (a >>= ·) (funext ih)).trans (bind_assoc _ _ _).symm
  | ask t next ih => exact (congrArg (e t >>= ·) (funext ih)).trans (bind_assoc _ _ _).symm

@[simp] theorem run_perform (a : Act α) : (perform a).run e = a := bind_pure a

@[simp] theorem run_part (t : SyntaxTree Span) : (part t).run e = e t := bind_pure (e t)

@[simp] theorem run_ite (c : Prop) [Decidable c] (p q : Plan α) :
    (if c then p else q).run e = if c then p.run e else q.run e := by
  split <;> rfl

@[simp] theorem mapParts_pure (x : α) : (pure x : Plan α).mapParts g = pure x := rfl

@[simp] theorem mapParts_bind (p : Plan α) (f : α → Plan β) :
    (p >>= f).mapParts g = p.mapParts g >>= fun x => (f x).mapParts g := by
  induction p with
  | done x => rfl
  | act a next ih => exact congrArg (act a) (funext ih)
  | ask t next ih => exact congrArg (ask (g t)) (funext ih)

@[simp] theorem mapParts_perform (a : Act α) : (perform a).mapParts g = perform a := rfl

@[simp] theorem mapParts_part (t : SyntaxTree Span) : (part t).mapParts g = part (g t) := rfl

@[simp] theorem mapParts_ite (c : Prop) [Decidable c] (p q : Plan α) :
    (if c then p else q).mapParts g = if c then p.mapParts g else q.mapParts g := by
  split <;> rfl

@[grind ←] theorem within_pure (x : α) : (pure x : Plan α).Within P := trivial

@[grind ←] theorem within_bind {p : Plan α} {f : α → Plan β} (hp : p.Within P)
    (hf : ∀ x, (f x).Within P) : (p >>= f).Within P := by
  induction p with
  | done x => exact hf x
  | act a next ih => exact fun x => ih x (hp x)
  | ask t next ih => exact ⟨hp.1, fun v => ih v (hp.2 v)⟩

@[grind ←] theorem within_perform (a : Act α) : (perform a).Within P := fun _ => trivial

@[grind ←] theorem within_part {t : SyntaxTree Span} (ht : P t) : (part t).Within P :=
  ⟨ht, fun _ => trivial⟩

/-- Running a plan depends on the evaluation of its parts only. -/
theorem Within.run_congr {e' : SyntaxTree Span → Act Value} {p : Plan α}
    (h : p.Within fun t => e t = e' t) : p.run e = p.run e' := by
  induction p with
  | done x => rfl
  | act a next ih => exact congrArg (a >>= ·) (funext fun x => ih x (h x))
  | ask t next ih =>
    rw [run, run, h.1]
    exact congrArg (e' t >>= ·) (funext fun v => ih v (h.2 v))

/-! ## Parts that a plan comes to -/

theorem Asks.of_within {p : Plan α} {c : SyntaxTree Span} {s s₁ : Store} (hask : p.Asks e c s₁ s)
    (h : p.Within P) : P c := by
  induction p generalizing s with
  | done x => exact hask.elim
  | act a next ih =>
    obtain ⟨x, s', -, hask⟩ := hask
    exact ih x hask (h x)
  | ask t next ih =>
    obtain ⟨rfl, -⟩ | ⟨v, s', -, hask⟩ := hask
    · exact h.1
    · exact ih v hask (h.2 v)

/-- What a plan comes to for other parts, which give the same values where it comes to them. -/
theorem Asks.mapParts {p : Plan α} {c : SyntaxTree Span} {s s₁ : Store} (hask : p.Asks e c s₁ s)
    (h : ∀ t s', p.Asks e t s' s → ∀ v s'', exec (e t) s' = (.ok v, s'') →
      exec (e (g t)) s' = (.ok v, s'')) : (p.mapParts g).Asks e (g c) s₁ s := by
  induction p generalizing s with
  | done x => exact hask.elim
  | act a next ih =>
    obtain ⟨x, s', hrun, hask⟩ := hask
    exact ⟨x, s', hrun, ih x hask fun t s'' ht => h t s'' ⟨x, s', hrun, ht⟩⟩
  | ask t next ih =>
    obtain ⟨rfl, rfl⟩ | ⟨v, s', hrun, hask⟩ := hask
    · exact .inl ⟨rfl, rfl⟩
    · refine .inr ⟨v, s', h t s (.inl ⟨rfl, rfl⟩) v s' hrun, ih v hask fun t' s'' ht => ?_⟩
      exact h t' s'' (.inr ⟨v, s', hrun, ht⟩)

end Plan

end ErrorTrail
