import ErrorTrail.Proofs.Program.Chain

/-!
# Steps one after the other

Two ways to take steps, functions that give results, one after the other from a value: to ask each
result for its payload inside a boundary (`stepwise`), and to hand the payload of each success to the
next step (`flatMaps`). `StepRun` says what taking steps is, apart from either: which calls are made,
each from which store, and how they end.

A `Script` is a program that shows its calls of steps, and what it calls is read off it
(`Script.calls`); both ways are scripts (`run_stepwiseScript`, `run_flatMapsScript`). By induction on a
`StepRun` each way makes its calls and ends as it does, so that the two agree
(`exec_boundary_stepwise`).
-/

namespace ErrorTrail

open Act

/-- A function from a value to a result, which may raise anything but a signal. -/
structure IsStep (f : Value → Act Value) : Prop where
  gives : ∀ {x r : Value} {s s' : Store}, exec (f x) s = (.ok r, s') → (s'.outcome? r).isSome
  raises : ∀ {x : Value} {stop : Stop} {s s' : Store}, exec (f x) s = (.error stop, s') →
    ¬ s'.StopsWithSignal stop

/-- A call of a step, and the store that it is made in. -/
structure StepCall where
  step : Value → Act Value
  argument : Value
  store : Store

/-- How steps taken one after the other end. -/
inductive StepEnding where
  /-- all succeeded, the last with this payload -/
  | success (payload : Value)
  /-- the last step taken gave this failure -/
  | failure (result : Value)
  /-- the last step taken stopped so -/
  | stopped (stop : Stop)
  deriving DecidableEq, Repr, Inhabited

/-- Taking steps from a value: the calls that are made in their order, how they end, and the store by
then. After a step that does not succeed none is taken. -/
inductive StepRun :
    List (Value → Act Value) → Value → Store → List StepCall → StepEnding → Store → Prop
  | done {x : Value} {s : Store} : StepRun [] x s [] (.success x) s
  | next {f : Value → Act Value} {fs : List (Value → Act Value)} {x y r : Value}
      {s s₁ s₂ : Store} {calls : List StepCall} {ending : StepEnding}
      (hcall : exec (f x) s = (.ok r, s₁)) (hr : s₁.outcome? r = some (true, y))
      (hrest : StepRun fs y s₁ calls ending s₂) :
      StepRun (f :: fs) x s (⟨f, x, s⟩ :: calls) ending s₂
  | failed {f : Value → Act Value} {fs : List (Value → Act Value)} {x e r : Value} {s s₁ : Store}
      (hcall : exec (f x) s = (.ok r, s₁)) (hr : s₁.failure? r = some e) :
      StepRun (f :: fs) x s [⟨f, x, s⟩] (.failure r) s₁
  | stopped {f : Value → Act Value} {fs : List (Value → Act Value)} {x : Value} {stop : Stop}
      {s s₁ : Store} (hcall : exec (f x) s = (.error stop, s₁))
      (hstop : ¬ s₁.StopsWithSignal stop) :
      StepRun (f :: fs) x s [⟨f, x, s⟩] (.stopped stop) s₁

/-! ## The two ways -/

/-- Each step is called with the payload of the result before, and the success of the last payload is
given. -/
def stepwise (steps : List (Value → Act Value)) (start : Value) : Act Value := do
  let last ← steps.foldlM (fun x f => do Outcome.propagate (← f x)) start
  Outcome.success last

/-- Each step is chained to the result before. -/
def flatMaps (steps : List (Value → Act Value)) (start : Value) : Act Value :=
  steps.foldlM (fun r f => Outcome.flatMap f r) start

/-- A program that calls steps, with its other acts in between. -/
inductive Script : Type 1 where
  | done (v : Value)
  | act {β : Type} (a : Act β) (next : β → Script)
  | call (f : Value → Act Value) (x : Value) (next : Value → Script)

namespace Script

/-- Runs a script. -/
def run : Script → Act Value
  | done v => pure v
  | act a next => a >>= fun x => (next x).run
  | call f x next => f x >>= fun v => (next v).run

/-- The calls of steps that a script makes from a store. -/
def calls : Script → Store → List StepCall
  | done _, _ => []
  | act a next, s =>
    match exec a s with
    | (.ok x, s') => (next x).calls s'
    | (.error _, _) => []
  | call f x next, s =>
    ⟨f, x, s⟩ ::
      match exec (f x) s with
      | (.ok v, s') => (next v).calls s'
      | (.error _, _) => []

theorem calls_act_ok {β : Type} {a : Act β} {next : β → Script} {s s' : Store} {x : β}
    (h : exec a s = (.ok x, s')) : (act a next).calls s = (next x).calls s' := by
  rw [calls, h]

theorem calls_act_error {β : Type} {a : Act β} {next : β → Script} {s s' : Store} {stop : Stop}
    (h : exec a s = (.error stop, s')) : (act a next).calls s = [] := by
  rw [calls, h]

theorem calls_call_ok {f : Value → Act Value} {x v : Value} {next : Value → Script} {s s' : Store}
    (h : exec (f x) s = (.ok v, s')) : (call f x next).calls s = ⟨f, x, s⟩ :: (next v).calls s' := by
  rw [calls, h]

theorem calls_call_error {f : Value → Act Value} {x : Value} {next : Value → Script}
    {s s' : Store} {stop : Stop} (h : exec (f x) s = (.error stop, s')) :
    (call f x next).calls s = [⟨f, x, s⟩] := by
  rw [calls, h]

end Script

/-- `stepwise` as a script. -/
def stepwiseScript : List (Value → Act Value) → Value → Script
  | [], x => .act (Outcome.success x) .done
  | f :: fs, x => .call f x fun r => .act (Outcome.propagate r) (stepwiseScript fs)

/-- `flatMaps` as a script. -/
def flatMapsScript : List (Value → Act Value) → Value → Script
  | [], r => .done r
  | f :: fs, r => .act (Outcome.view r) fun p =>
      if p.1 then .call f p.2 (flatMapsScript fs) else flatMapsScript fs r

theorem run_stepwiseScript (steps : List (Value → Act Value)) (x : Value) :
    (stepwiseScript steps x).run = stepwise steps x := by
  induction steps generalizing x with
  | nil =>
    rw [stepwise, List.foldlM_nil, pure_bind]
    exact bind_pure _
  | cons f fs ih =>
    rw [stepwise, List.foldlM_cons, bind_assoc, bind_assoc]
    simp only [stepwiseScript, Script.run, ih]
    rfl

theorem run_flatMapsScript (steps : List (Value → Act Value)) (r : Value) :
    (flatMapsScript steps r).run = flatMaps steps r := by
  induction steps generalizing r with
  | nil => rfl
  | cons f fs ih =>
    rw [flatMaps, List.foldlM_cons, Outcome.flatMap, bind_assoc]
    refine congrArg (Outcome.view r >>= ·) (funext fun p => ?_)
    obtain ⟨isOk, y⟩ := p
    cases isOk with
    | true => exact congrArg (f y >>= ·) (funext ih)
    | false => exact (ih r).trans (pure_bind r (flatMaps fs)).symm

variable {steps : List (Value → Act Value)} {s s' : Store} {x r e : Value}
  {calls : List StepCall} {ending : StepEnding}

theorem exec_view {p : Bool × Value} (h : s.outcome? r = some p) :
    exec (Outcome.view r) s = (.ok p, s) := by
  rw [Outcome.view, exec_bind_ok (exec_view? r), h]
  rfl

/-! ## What taking steps gives -/

/-- Steps can be taken from any value. -/
theorem exists_stepRun (hsteps : ∀ f ∈ steps, IsStep f) (x : Value) (s : Store) :
    ∃ calls ending s', StepRun steps x s calls ending s' := by
  induction steps generalizing x s with
  | nil => exact ⟨_, _, _, .done⟩
  | cons f fs ih =>
    have hf : IsStep f := hsteps f List.mem_cons_self
    have hfs : ∀ g ∈ fs, IsStep g := fun g hg => hsteps g (List.mem_cons_of_mem _ hg)
    rcases hcall : exec (f x) s with ⟨stop | r, s₁⟩
    · exact ⟨_, _, _, .stopped hcall (hf.raises hcall)⟩
    · obtain ⟨⟨isOk, y⟩, hr⟩ := Option.isSome_iff_exists.1 (hf.gives hcall)
      cases isOk with
      | true =>
        obtain ⟨calls, ending, s', hrest⟩ := ih hfs y s₁
        exact ⟨_, _, _, .next hcall hr hrest⟩
      | false =>
        have hfail : s₁.failure? r = some y := by simp [Store.failure?, hr]
        exact ⟨_, _, _, .failed hcall hfail⟩

/-- How a run of steps appears to those who took it by chaining: the last result, or why it
stopped. -/
def StepEnding.chained (s : Store) : StepEnding → Except Stop Value × Store → Prop
  | .success x, ran => ∃ q, ran = (.ok q, s) ∧ s.outcome? q = some (true, x)
  | .failure q, ran => ran = (.ok q, s) ∧ (s.failure? q).isSome
  | .stopped stop, ran => ran = (.error stop, s)

/-- How it leaves the body of a boundary: a new success, a signal of the failure, or why it stopped,
which is no signal. -/
def StepEnding.left (s : Store) : StepEnding → Except Stop Value × Store → Prop
  | .success x, ran => ran = (.ok (.ref s.objects.size), s.extend [.result true x])
  | .failure q, ran => ran = (.error (.raised (.ref s.objects.size)), s.extend [.signal q])
  | .stopped stop, ran => ran = (.error stop, s) ∧ ¬ s.StopsWithSignal stop

/-- How it appears to those who took it inside a boundary: a new success, the failure that a new signal
brought to the boundary, or why it stopped. -/
def StepEnding.ended (s : Store) : StepEnding → Except Stop Value × Store → Prop
  | .success x, ran => ran = (.ok (.ref s.objects.size), s.extend [.result true x])
  | .failure q, ran => ran = (.ok q, s.extend [.signal q])
  | .stopped stop, ran => ran = (.error stop, s)

/-- A failure is handed on by every step that is chained to it. -/
theorem exec_flatMaps_failure (h : s.failure? r = some e) (steps : List (Value → Act Value)) :
    exec (flatMaps steps r) s = (.ok r, s) ∧ (flatMapsScript steps r).calls s = [] := by
  have hview : exec (Outcome.view r) s = (.ok (false, e), s) := exec_view (outcome?_of_failure? h)
  induction steps with
  | nil => exact ⟨rfl, rfl⟩
  | cons f fs ih =>
    have hmap : exec (Outcome.flatMap f r) s = (.ok r, s) := by
      rw [Outcome.flatMap, exec_bind_ok hview]
      rfl
    refine ⟨?_, ?_⟩
    · rw [flatMaps, List.foldlM_cons, exec_bind_ok hmap]
      exact ih.1
    · rw [flatMapsScript, Script.calls_act_ok hview]
      exact ih.2

/-- Chaining a step to a success calls it. -/
theorem exec_flatMaps_success (h : s.outcome? r = some (true, x)) (f : Value → Act Value)
    (fs : List (Value → Act Value)) :
    exec (flatMaps (f :: fs) r) s = exec (f x >>= flatMaps fs) s ∧
      (flatMapsScript (f :: fs) r).calls s = (Script.call f x (flatMapsScript fs)).calls s := by
  have hview := exec_view h
  refine ⟨?_, by rw [flatMapsScript, Script.calls_act_ok hview]; rfl⟩
  rw [flatMaps, List.foldlM_cons, Outcome.flatMap, bind_assoc, exec_bind_ok hview]
  rfl

/-- Steps that are chained make the calls of taking them, and end so. -/
theorem StepRun.flatMaps (h : StepRun steps x s calls ending s')
    (hr : s.outcome? r = some (true, x)) :
    ending.chained s' (exec (flatMaps steps r) s) ∧ (flatMapsScript steps r).calls s = calls := by
  induction h generalizing r with
  | done => exact ⟨⟨r, rfl, hr⟩, rfl⟩
  | @next f fs x y r' s s₁ s₂ calls ending hcall hr' hrest ih =>
    obtain ⟨hexec, hcalls⟩ := exec_flatMaps_success hr f fs
    obtain ⟨hending, hrest⟩ := ih hr'
    rw [hexec, exec_bind_ok hcall, hcalls, Script.calls_call_ok hcall, hrest]
    exact ⟨hending, rfl⟩
  | @failed f fs x e r' s s₁ hcall hfail =>
    obtain ⟨hexec, hcalls⟩ := exec_flatMaps_success hr f fs
    obtain ⟨hkept, hnone⟩ := exec_flatMaps_failure hfail fs
    rw [hexec, exec_bind_ok hcall, hkept, hcalls, Script.calls_call_ok hcall, hnone]
    exact ⟨⟨rfl, Option.isSome_iff_exists.2 ⟨e, hfail⟩⟩, rfl⟩
  | @stopped f fs x stop s s₁ hcall hstop =>
    obtain ⟨hexec, hcalls⟩ := exec_flatMaps_success hr f fs
    rw [hexec, exec_bind_error hcall, hcalls, Script.calls_call_error hcall]
    exact ⟨rfl, rfl⟩

/-- Steps whose results are asked for their payloads make the calls of taking them, and leave the body
of a boundary so. -/
theorem StepRun.stepwise (h : StepRun steps x s calls ending s') :
    ending.left s' (exec (ErrorTrail.stepwise steps x) s) ∧
      (stepwiseScript steps x).calls s = calls := by
  rw [← run_stepwiseScript]
  induction h with
  | @done x s =>
    rw [stepwiseScript, Script.run, Script.calls_act_ok (exec_success x s),
      exec_bind_ok (exec_success x s)]
    exact ⟨rfl, rfl⟩
  | @next f fs x y r s s₁ s₂ calls ending hcall hr hrest ih =>
    have hpayload := exec_propagate_success hr
    rw [stepwiseScript, Script.run, exec_bind_ok hcall, Script.run, exec_bind_ok hpayload,
      Script.calls_call_ok hcall, Script.calls_act_ok hpayload, ih.2]
    exact ⟨ih.1, rfl⟩
  | @failed f fs x e r s s₁ hcall hfail =>
    have hsignal := exec_propagate_failure hfail
    rw [stepwiseScript, Script.run, exec_bind_ok hcall, Script.run, Script.calls_call_ok hcall,
      Script.calls_act_error hsignal]
    exact ⟨exec_bind_error hsignal, rfl⟩
  | @stopped f fs x stop s s₁ hcall hstop =>
    rw [stepwiseScript, Script.run, Script.calls_call_error hcall]
    exact ⟨⟨exec_bind_error hcall, hstop⟩, rfl⟩

/-- Inside a boundary the failure of a step is what is given. -/
theorem StepRun.boundary (h : StepRun steps x s calls ending s') :
    ending.ended s' (exec (Outcome.boundary (ErrorTrail.stepwise steps x)) s) := by
  have hbody := h.stepwise.1
  cases ending with
  | success y => exact exec_boundary_ok hbody
  | failure q => exact exec_boundary_signal hbody (by simp [Store.extend])
  | stopped stop => exact exec_boundary_stop hbody.1 hbody.2

/-- Asking the results of steps for their payloads inside a boundary is chaining the steps, from a
success `r` of the start: both make the calls of taking the steps, in the same order, with the same
arguments and from the same stores, and none after a step that does not succeed; and both end with a
success of the last payload, with the very failure that the last step taken gave, or with what the last
step taken raised. Neither leaves any object in another state than the steps did. -/
theorem exec_boundary_stepwise (hsteps : ∀ f ∈ steps, IsStep f)
    (hr : s.outcome? r = some (true, x)) :
    ∃ calls ending s', StepRun steps x s calls ending s' ∧
      ((stepwiseScript steps x).run = stepwise steps x ∧
        (stepwiseScript steps x).calls s = calls ∧
        ending.ended s' (exec (Outcome.boundary (stepwise steps x)) s)) ∧
      ((flatMapsScript steps r).run = flatMaps steps r ∧
        (flatMapsScript steps r).calls s = calls ∧
        ending.chained s' (exec (flatMaps steps r) s)) := by
  obtain ⟨calls, ending, s', h⟩ := exists_stepRun hsteps x s
  obtain ⟨hchained, hcalls⟩ := h.flatMaps hr
  exact ⟨calls, ending, s', h, ⟨run_stepwiseScript steps x, h.stepwise.2, h.boundary⟩,
    run_flatMapsScript steps r, hcalls, hchained⟩

/-- Making a result is a step. -/
theorem isStep_make (isOk : Bool) : IsStep (Outcome.make isOk) where
  gives h := by
    cases h
    exact Option.isSome_iff_exists.2 ⟨_, outcome?_new _ isOk _⟩
  raises h := by cases h

/-- The second of three steps fails: the third is not taken, and the failure is given. -/
theorem exec_boundary_stepwise_failing :
    let s : Store := { objects := #[.result true (.int 1)] }
    let steps := [Outcome.success, Outcome.failure, Outcome.success]
    (∀ f ∈ steps, IsStep f) ∧ s.outcome? (.ref 0) = some (true, .int 1) ∧
      (stepwiseScript steps (.int 1)).calls s = (flatMapsScript steps (.ref 0)).calls s ∧
      ((flatMapsScript steps (.ref 0)).calls s).length = 2 ∧
      (exec (Outcome.boundary (stepwise steps (.int 1))) s).1 = .ok (.ref 2) ∧
      (exec (flatMaps steps (.ref 0)) s).1 = .ok (.ref 2) := by
  intro s steps
  have hsteps : ∀ f ∈ steps, IsStep f := by
    intro f hf
    simp only [steps, List.mem_cons, List.not_mem_nil, or_false] at hf
    obtain rfl | rfl | rfl := hf <;> exact isStep_make _
  have hr : s.outcome? (.ref 0) = some (true, .int 1) := rfl
  obtain ⟨calls, ending, s', -, ⟨-, hstepwise, -⟩, -, hchained, -⟩ :=
    exec_boundary_stepwise hsteps hr
  exact ⟨hsteps, hr, hstepwise.trans hchained.symm, rfl, rfl, rfl⟩

end ErrorTrail
