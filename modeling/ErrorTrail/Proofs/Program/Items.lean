import ErrorTrail.Proofs.Program.Sequencing
import Mathlib.Data.List.Find

/-!
# Going through items

`goThrough` says what it is to go through items with a function that gives results: the calls that
are made, each from which store, and how they end (`ItemRun.Accounts`). After an item for which
there is no success none is taken. `traverse` is a `Script` that makes these calls and gives what
they come to, from any source of items and for any function (`exec_traverse`); it calls from inside
a generator, which an exception that ends iterations does not leave as itself.

A list is a source that gives its items as they are by then (`goThrough_takesList`), and one that
the calls leave alone gives them in order (`ItemRun.TakesList.inOrder`).
-/

namespace ErrorTrail

open Act

/-! ## Instances of built-in classes -/

/-- Whether a value is an instance of a built-in class. -/
def Store.isA (s : Store) (v : Value) (k : Kind) : Bool :=
  match (exec (isKind v k) s).1 with
  | .ok b => b
  | .error _ => false

variable {s s' : Store} {v : Value}

theorem exec_classOf_eq (v : Value) (s : Store) : ∃ c, exec (classOf v) s = (.ok c, s) := by
  cases v with
  | bound f self => cases f <;> exact ⟨_, rfl⟩
  | _ => exact ⟨_, rfl⟩

theorem exec_searchOrder (c : Value) (s : Store) :
    ∃ order, exec (searchOrder c) s = (.ok order, s) := by
  cases c with
  | ref r => rcases h : s.objects[r]? with _ | o <;> [skip; cases o] <;>
      simp [searchOrder, exec_bind, h]
  | _ => exact ⟨_, rfl⟩

theorem exec_isKind (v : Value) (k : Kind) (s : Store) :
    exec (isKind v k) s = (.ok (s.isA v k), s) := by
  obtain ⟨c, hc⟩ := exec_classOf_eq v s
  obtain ⟨order, horder⟩ := exec_searchOrder c s
  have hkind : exec (isKind v k) s = (.ok (order.contains (.kind k)), s) := by
    rw [isKind, isInstance, exec_bind_ok hc, isSubclass, exec_bind_ok horder]
    rfl
  rw [Store.isA, hkind]

/-! ## Calls and how they end -/

/-- What a call gives, or why it stops, and the store that it leaves. -/
def StepCall.gave (c : StepCall) : Except Stop Value × Store := exec (c.step c.argument) c.store

/-- The payload of a success. -/
def Store.success? (s : Store) (v : Value) : Option Value :=
  match s.outcome? v with
  | some (true, y) => some y
  | _ => none

/-- The payload of the success that a call gives. -/
def StepCall.payload? (c : StepCall) : Option Value :=
  match c.gave with
  | (.ok r, s) => s.success? r
  | _ => none

/-- A call changes nothing about an object. -/
def StepCall.Leaves (c : StepCall) (r : Ref) : Prop := c.gave.2.objects[r]? = c.store.objects[r]?

/-- A call as it is made from inside a generator. -/
def StepCall.guarded (c : StepCall) : StepCall := { c with step := Outcome.guarded c.step }

/-- How going through items ends. -/
inductive ItemEnding where
  /-- there was a success for each, with these payloads -/
  | success (payloads : List Value)
  /-- the last call gave this failure -/
  | failure (result : Value)
  /-- the last call stopped so -/
  | stopped (stop : Stop)
  /-- the last call gave this, which is no result -/
  | noResult (v : Value)
  /-- there was no way to get at another item -/
  | interrupted (stop : Stop)
  deriving DecidableEq, Repr, Inhabited

/-- The ending of what began with more successes. -/
def ItemEnding.behind (payloads : List Value) : ItemEnding → ItemEnding
  | success ys => success (payloads ++ ys)
  | e => e

theorem ItemEnding.behind_behind (e : ItemEnding) (xs ys : List Value) :
    (e.behind ys).behind xs = e.behind (xs ++ ys) := by
  cases e with
  | success zs => exact congrArg success (List.append_assoc xs ys zs).symm
  | _ => rfl

/-- What going through items comes to. -/
structure ItemRun where
  calls : List StepCall
  ending : ItemEnding
  store : Store

/-- A run after a call that gave a success. -/
def ItemRun.after (run : ItemRun) (c : StepCall) (payload : Value) : ItemRun :=
  ⟨c :: run.calls, run.ending.behind [payload], run.store⟩

/-- Goes through the items that `next` gives, `limit` of them at most. After an item for which `f`
gives no success, none is taken. -/
def goThrough (next : Act (Option Value)) (f : Value → Act Value) (limit : Nat) (s : Store) :
    ItemRun :=
  match limit with
  | 0 => ⟨[], .interrupted .exhausted, s⟩
  | n + 1 =>
    match exec next s with
    | (.error stop, s₁) => ⟨[], .interrupted stop, s₁⟩
    | (.ok none, s₁) => ⟨[], .success [], s₁⟩
    | (.ok (some x), s₁) =>
      match exec (f x) s₁ with
      | (.error stop, s₂) => ⟨[⟨f, x, s₁⟩], .stopped stop, s₂⟩
      | (.ok r, s₂) =>
        match s₂.outcome? r with
        | some (true, y) => (goThrough next f n s₂).after ⟨f, x, s₁⟩ y
        | some (false, _) => ⟨[⟨f, x, s₁⟩], .failure r, s₂⟩
        | none => ⟨[⟨f, x, s₁⟩], .noResult r, s₂⟩

/-- A new result of a new list. -/
def Outcome.makeList (isOk : Bool) (ys : List Value) : Act Value := do
  make isOk (← allocValue (.list ys))

/-- The failure of errors if there are any, else the success of payloads, each in a new list. -/
def Outcome.makeCollected (oks errs : List Value) : Act Value :=
  if errs.isEmpty then makeList true oks else makeList false errs

/-- The store with a new list and a result of it. -/
def Store.withList (s : Store) (isOk : Bool) (ys : List Value) : Store :=
  s.extend [.list ys, .result isOk (.ref s.objects.size)]

/-- What comes out of a generator in which an exception ended an iteration. -/
def Obj.endedGenerator (e : Value) : Obj :=
  .exception (.kind .runtimeError) [.str "generator raised StopIteration"] e .plain []

/-- What going through items gives: a new success of a new list of the payloads, the very failure,
or the exception. An exception that ends iterations is the cause of another. -/
def ItemEnding.given (s : Store) : ItemEnding → Except Stop Value × Store
  | success ys =>
    (.ok (.ref (s.objects.size + 1)), s.withList true ys)
  | failure r => (.ok r, s)
  | stopped (.raised e) =>
    if s.isA e .stopIteration then
      (.error (.raised (.ref s.objects.size)), s.extend [.endedGenerator e])
    else (.error (.raised e), s)
  | stopped .exhausted => (.error .exhausted, s)
  | noResult _ =>
    (.error (.raised (.ref s.objects.size)),
      s.extend [.exception (.kind .attributeError) [.str "no result"] .none .plain []])
  | interrupted stop => (.error stop, s)

/-! ## Running a script -/

namespace Script

theorem exec_act_ok {β : Type} {a : Act β} {next : β → Script} {x : β}
    (h : exec a s = (.ok x, s')) : exec (act a next).run s = exec (next x).run s' :=
  exec_bind_ok h

theorem exec_act_error {β : Type} {a : Act β} {next : β → Script} {stop : Stop}
    (h : exec a s = (.error stop, s')) : exec (act a next).run s = (.error stop, s') :=
  exec_bind_error h

theorem exec_call_ok {f : Value → Act Value} {x : Value} {next : Value → Script}
    (h : exec (f x) s = (.ok v, s')) : exec (call f x next).run s = exec (next v).run s' :=
  exec_bind_ok h

theorem exec_call_error {f : Value → Act Value} {x : Value} {next : Value → Script} {stop : Stop}
    (h : exec (f x) s = (.error stop, s')) : exec (call f x next).run s = (.error stop, s') :=
  exec_bind_error h

end Script

/-! ## The calls of `traverse` -/

/-- An exception passes through a generator unless it ends iterations. -/
theorem exec_guarded_raised {f : Value → Act Value} {x e : Value}
    (h : exec (f x) s = (.error (.raised e), s')) :
    exec (Outcome.guarded f x) s = (ItemEnding.stopped (.raised e)).given s' := by
  rw [Outcome.guarded, exec_rescue, h, ItemEnding.given]
  show exec (failGenerator false e) s' = _
  rw [failGenerator, exec_bind_ok (exec_isKind e .stopIteration s')]
  by_cases hstop : s'.isA e .stopIteration = true
  · rw [if_pos hstop, if_pos hstop]
    rfl
  · rw [if_neg hstop, if_neg hstop, exec_bind_ok (exec_isKind e .stopAsyncIteration s')]
    rfl

theorem exec_guarded_ok {f : Value → Act Value} {x r : Value} (h : exec (f x) s = (.ok r, s')) :
    exec (Outcome.guarded f x) s = (.ok r, s') := by
  rw [Outcome.guarded, exec_rescue, h]

theorem exec_guarded_exhausted {f : Value → Act Value} {x : Value}
    (h : exec (f x) s = (.error .exhausted, s')) :
    exec (Outcome.guarded f x) s = (.error .exhausted, s') := by
  rw [Outcome.guarded, exec_rescue, h]

/-- What is no result has no variant. -/
theorem exec_view_noResult (h : s.outcome? v = none) :
    exec (Outcome.view v) s = (.error (.raised (.ref s.objects.size)),
      s.extend [.exception (.kind .attributeError) [.str "no result"] .none .plain []]) := by
  rw [Outcome.view, exec_bind_ok (exec_view? v), h]
  rfl

/-- `traverse` as a script, after items whose payloads are given, the last first. -/
def traverseScript (next : Act (Option Value)) (f : Value → Act Value) :
    Nat → List Value → Script
  | 0, _ => .act (throw .exhausted) .done
  | n + 1, ys => .act next fun
    | none => .act (do Outcome.success (← allocValue (.list ys.reverse))) .done
    | some x => .call (Outcome.guarded f) x fun r => .act (Outcome.view r) fun p =>
        if p.1 then traverseScript next f n (p.2 :: ys) else .done r

theorem mapped_bind {α : Type} (f : Value → Act Value) (next : Act (Option Value))
    (k : Option Value → Act α) :
    Outcome.mapped f next >>= k = next >>= fun
      | none => k none
      | some x => Outcome.guarded f x >>= fun r => k (some r) := by
  rw [Outcome.mapped, bind_assoc]
  refine congrArg (next >>= ·) (funext fun item => ?_)
  cases item with
  | none => exact pure_bind none k
  | some x => exact (bind_assoc _ _ _).trans (congrArg _ (funext fun r => pure_bind (some r) k))

theorem run_traverseScript (next : Act (Option Value)) (f : Value → Act Value) (n : Nat) :
    (traverseScript next f n []).run = Outcome.traverse f next n := by
  rw [Outcome.traverse, Outcome.sequence]
  generalize ([] : List Value) = ys
  induction n generalizing ys with
  | zero =>
    rw [iterate]
    exact bind_pure _
  | succ n ih =>
    rw [iterate, traverseScript, Script.run, bind_assoc, mapped_bind]
    refine congrArg (next >>= ·) (funext fun item => ?_)
    cases item with
    | none => rfl
    | some x =>
      refine congrArg (Outcome.guarded f x >>= ·) (funext fun r => ?_)
      refine (congrArg (Outcome.view r >>= ·) (funext fun p => ?_)).trans (bind_assoc _ _ _).symm
      obtain ⟨isOk, y⟩ := p
      cases isOk with
      | true => exact ih (y :: ys)
      | false => rfl

theorem exec_makeList (isOk : Bool) (ys : List Value) (s : Store) :
    exec (Outcome.makeList isOk ys) s = (.ok (.ref (s.objects.size + 1)), s.withList isOk ys) := by
  have hpush (o o' : Obj) : (s.objects.push o).push o' = s.objects ++ [o, o'].toArray :=
    Array.ext' (by simp)
  rw [Store.withList, Store.extend, ← hpush, Outcome.makeList, exec_bind, exec_allocValue]
  simp [Outcome.make]

theorem exec_makeCollected (oks errs : List Value) (s : Store) :
    exec (Outcome.makeCollected oks errs) s =
      (.ok (.ref (s.objects.size + 1)),
        s.withList errs.isEmpty (if errs.isEmpty then oks else errs)) := by
  cases errs with
  | nil => exact exec_makeList true oks s
  | cons e es => exact exec_makeList false (e :: es) s

/-- A script that has taken items goes through those left: it makes the calls, and gives what they
come to with the payloads before. -/
theorem exec_traverseScript (next : Act (Option Value)) (f : Value → Act Value) (n : Nat)
    (ys : List Value) (s : Store) :
    exec (traverseScript next f n ys).run s =
        ((goThrough next f n s).ending.behind ys.reverse).given (goThrough next f n s).store ∧
      (traverseScript next f n ys).calls s =
        (goThrough next f n s).calls.map StepCall.guarded := by
  induction n generalizing ys s with
  | zero => exact ⟨rfl, rfl⟩
  | succ n ih =>
    rcases hnext : exec next s with ⟨stop | _ | x, s₁⟩
    · rw [traverseScript, Script.exec_act_error hnext, Script.calls_act_error hnext, goThrough,
        hnext]
      exact ⟨rfl, rfl⟩
    · have hmade : exec (do Outcome.success (← allocValue (.list ys.reverse))) s₁ = _ :=
        exec_makeList true ys.reverse s₁
      rw [traverseScript, Script.exec_act_ok hnext, Script.calls_act_ok hnext, goThrough, hnext]
      simp only
      rw [Script.exec_act_ok hmade, Script.calls_act_ok hmade, ItemEnding.behind, List.append_nil]
      exact ⟨rfl, rfl⟩
    rw [traverseScript, Script.exec_act_ok hnext, Script.calls_act_ok hnext, goThrough, hnext]
    simp only
    rcases hcall : exec (f x) s₁ with ⟨(e | _) | r, s₂⟩
    · have hguarded := exec_guarded_raised hcall
      obtain ⟨stop, s₃, hstop⟩ : ∃ stop s₃,
          (ItemEnding.stopped (.raised e)).given s₂ = (.error stop, s₃) := by
        rw [ItemEnding.given]
        split <;> exact ⟨_, _, rfl⟩
      rw [hstop] at hguarded
      rw [Script.exec_call_error hguarded, Script.calls_call_error hguarded]
      exact ⟨hstop.symm, rfl⟩
    · have hguarded := exec_guarded_exhausted hcall
      rw [Script.exec_call_error hguarded, Script.calls_call_error hguarded]
      exact ⟨rfl, rfl⟩
    · have hguarded := exec_guarded_ok hcall
      rw [Script.exec_call_ok hguarded, Script.calls_call_ok hguarded]
      simp only
      rcases hr : s₂.outcome? r with _ | ⟨_ | _, y⟩
      · have hview := exec_view_noResult hr
        rw [Script.exec_act_error hview, Script.calls_act_error hview]
        exact ⟨rfl, rfl⟩
      · have hview := exec_view hr
        rw [Script.exec_act_ok hview, Script.calls_act_ok hview]
        exact ⟨rfl, rfl⟩
      · have hview := exec_view hr
        obtain ⟨hexec, hcalls⟩ := ih (y :: ys) s₂
        rw [Script.exec_act_ok hview, Script.calls_act_ok hview]
        refine ⟨hexec.trans ?_, congrArg _ hcalls⟩
        simp only [ItemRun.after, ItemEnding.behind_behind, List.reverse_cons]

/-- Going through items with `traverse` makes the calls of going through them, and no other, and
gives what they come to. -/
theorem exec_traverse (next : Act (Option Value)) (f : Value → Act Value) (n : Nat) (s : Store) :
    exec (Outcome.traverse f next n) s =
        (goThrough next f n s).ending.given (goThrough next f n s).store ∧
      (traverseScript next f n []).calls s = (goThrough next f n s).calls.map StepCall.guarded := by
  have hscript := exec_traverseScript next f n [] s
  rw [run_traverseScript] at hscript
  refine ⟨hscript.1.trans ?_, hscript.2⟩
  cases (goThrough next f n s).ending <;> rfl

/-! ## What the calls gave -/

/-- All calls but the last gave successes, and the last gave this. -/
def ItemRun.LastGave (run : ItemRun) (r : Except Stop Value) : Prop :=
  ∃ before last, run.calls = before ++ [last] ∧ (∀ c ∈ before, c.payload?.isSome) ∧
    last.gave = (r, run.store)

/-- The ending of a run is what its calls gave. -/
def ItemRun.Accounts (run : ItemRun) : Prop :=
  match run.ending with
  | .success ys => run.calls.map StepCall.payload? = ys.map some
  | .failure r => run.LastGave (.ok r) ∧ (run.store.failure? r).isSome
  | .stopped stop => run.LastGave (.error stop)
  | .noResult v => run.LastGave (.ok v) ∧ run.store.outcome? v = none
  | .interrupted _ => ∀ c ∈ run.calls, c.payload?.isSome

theorem ItemRun.LastGave.after {run : ItemRun} {r : Except Stop Value} (h : run.LastGave r)
    {c : StepCall} {y : Value} (hc : c.payload? = some y) : (run.after c y).LastGave r := by
  obtain ⟨before, last, hcalls, hbefore, hlast⟩ := h
  refine ⟨c :: before, last, congrArg (c :: ·) hcalls, fun d hd => ?_, hlast⟩
  obtain rfl | hd := List.mem_cons.1 hd
  · exact Option.isSome_iff_exists.2 ⟨y, hc⟩
  · exact hbefore d hd

theorem ItemRun.Accounts.after {run : ItemRun} (h : run.Accounts) {c : StepCall} {y : Value}
    (hc : c.payload? = some y) : (run.after c y).Accounts := by
  obtain ⟨calls, ending, s⟩ := run
  cases ending with
  | success ys => exact congrArg₂ List.cons hc h
  | failure r => exact ⟨h.1.after hc, h.2⟩
  | stopped stop => exact ItemRun.LastGave.after h hc
  | noResult v => exact ⟨h.1.after hc, h.2⟩
  | interrupted stop =>
    intro d hd
    obtain rfl | hd := List.mem_cons.1 hd
    · exact Option.isSome_iff_exists.2 ⟨y, hc⟩
    · exact h d hd

/-- Going through items ends as its calls say. -/
theorem goThrough_accounts (next : Act (Option Value)) (f : Value → Act Value) (n : Nat)
    (s : Store) : (goThrough next f n s).Accounts := by
  induction n generalizing s with
  | zero => exact fun c hc => absurd hc List.not_mem_nil
  | succ n ih =>
    rcases hnext : exec next s with ⟨stop | _ | x, s₁⟩
    · simp [goThrough, hnext, ItemRun.Accounts]
    · simp [goThrough, hnext, ItemRun.Accounts]
    rcases hcall : exec (f x) s₁ with ⟨stop | r, s₂⟩
    · rw [goThrough, hnext]
      simp only [hcall]
      exact ⟨[], ⟨f, x, s₁⟩, rfl, fun c hc => absurd hc List.not_mem_nil, hcall⟩
    rw [goThrough, hnext]
    simp only [hcall]
    rcases hr : s₂.outcome? r with _ | ⟨_ | _, y⟩
    · exact ⟨⟨[], ⟨f, x, s₁⟩, rfl, fun c hc => absurd hc List.not_mem_nil, hcall⟩, hr⟩
    · exact ⟨⟨[], ⟨f, x, s₁⟩, rfl, fun c hc => absurd hc List.not_mem_nil, hcall⟩, by
        simp [Store.failure?, hr]⟩
    · have hpayload : StepCall.payload? ⟨f, x, s₁⟩ = some y := by
        rw [StepCall.payload?, StepCall.gave, hcall]
        simp only [Store.success?, hr]
      exact (ih s₂).after hpayload

/-! ## Iterators over lists -/

/-- The items of a list. -/
def Store.listAt (s : Store) (l : Ref) : List Value :=
  match s.objects[l]? with
  | some (.list items) => items
  | _ => []

/-- The first of several values that is a failure. -/
def Store.firstFailure? (s : Store) (rs : List Value) : Option Value :=
  rs.find? fun r => (s.failure? r).isSome

/-- The store in which an iterator has come somewhere. -/
def Store.turn (s : Store) (i : Ref) (c : Course) : Store :=
  { s with objects := s.objects.setIfInBounds i (.iterator c) }

section Turn

variable {i l : Ref} {c c' : Course}

theorem Store.turn_getElem?_ne {r : Ref} (h : r ≠ i) :
    (s.turn i c).objects[r]? = s.objects[r]? := by
  rw [turn, Array.getElem?_setIfInBounds_ne (Ne.symm h)]

@[simp] theorem Store.turn_turn : (s.turn i c).turn i c' = s.turn i c' := by
  rw [turn, turn, turn, Array.setIfInBounds_setIfInBounds]

variable (hi : s.objects[i]? = some (.iterator c))

include hi

theorem Store.turn_getElem?_self : (s.turn i c').objects[i]? = some (.iterator c') := by
  have hlt : i < s.objects.size := (Array.getElem?_eq_some_iff.1 hi).1
  rw [turn, Array.getElem?_setIfInBounds_self_of_lt hlt]

/-- An iterator is no result, and the results are those before. -/
theorem Store.outcome?_turn (v : Value) : (s.turn i c').outcome? v = s.outcome? v := by
  cases v with
  | ref r =>
    by_cases hr : r = i
    · subst hr
      simp [outcome?, turn_getElem?_self hi, hi]
    · simp [outcome?, turn_getElem?_ne hr]
  | _ => rfl

theorem Store.listAt_turn (l : Ref) : (s.turn i c').listAt l = s.listAt l := by
  by_cases hl : l = i
  · subst hl
    simp [listAt, turn_getElem?_self hi, hi]
  · simp [listAt, turn_getElem?_ne hl]

end Turn

section Lists

variable {i l : Ref} {k : Nat} (hi : s.objects[i]? = some (.iterator (.sequence l k)))

include hi

/-- An iterator over a list gives the item that the list has at its place by then. -/
theorem Machine.exec_stepIterator {m : Machine} :
    exec (m.stepIterator (.ref i)) s =
      match (s.listAt l)[k]? with
      | some x => (.ok (.item x), s.turn i (.sequence l (k + 1)))
      | none => (.ok (.done .none), s.turn i (.items [])) := by
  have hread : exec (read i) s = (.ok (.iterator (.sequence l k)), s) := by rw [exec_read, hi]; rfl
  have hitems : exec (listItems l) s = (.ok (s.listAt l), s) := by
    rw [listItems, exec_bind_ok (exec_read l s), Store.listAt]
    rcases s.objects[l]? with _ | o
    · rfl
    · cases o <;> rfl
  rw [stepIterator, exec_bind_ok hread]
  simp only [advanceCourse]
  rw [bind_assoc, exec_bind_ok hitems]
  cases (s.listAt l)[k]? <;> rfl

theorem Machine.exec_advance_sequence {m m' : Machine} (hm : m.resume = m'.step) :
    exec (m.advance (.ref i)) s =
      match (s.listAt l)[k]? with
      | some x => (.ok (some x), s.turn i (.sequence l (k + 1)))
      | none => (.ok none, s.turn i (.items [])) := by
  have hresume : exec (m.resume (.ref i) (.send .none)) s = exec (m'.stepIterator (.ref i)) s := by
    rw [hm, Machine.step, exec_bind_ok (exec_object? hi)]
  rw [Machine.exec_stepIterator hi] at hresume
  rcases hx : (s.listAt l)[k]? with _ | x <;> rw [hx] at hresume
  · exact exec_bind_ok hresume
  · exact exec_bind_ok hresume

end Lists

/-- What a run over a list takes, from a place in it on: each call is made for the item that the
list has at the next place by then, the list is at its end where the run succeeds, and what the
calls leave alone is what it was. -/
structure ItemRun.TakesList (run : ItemRun) (s : Store) (i l : Ref) (k n : Nat) : Prop where
  argument : ∀ j c, run.calls[j]? = some c → (c.store.listAt l)[k + j]? = some c.argument
  whole : ∀ ys, run.ending = .success ys → (run.store.listAt l)[k + run.calls.length]? = none
  enough : ∀ stop, run.ending = .interrupted stop → run.calls.length = n
  same : ∀ r, r ≠ i → (∀ c ∈ run.calls, c.Leaves r) →
    (∀ c ∈ run.calls, c.store.objects[r]? = s.objects[r]?) ∧
      run.store.objects[r]? = s.objects[r]?

section TakesList

variable {i l : Ref} {k n : Nat} (hi : s.objects[i]? = some (.iterator (.sequence l k)))
  {f : Value → Act Value} {x : Value} (hx : (s.listAt l)[k]? = some x)

include hi hx

theorem ItemRun.TakesList.last {ending : ItemEnding} (hsuccess : ∀ ys, ending ≠ .success ys)
    (hinterrupted : ∀ stop, ending ≠ .interrupted stop) {r : Except Stop Value}
    (hcall : exec (f x) (s.turn i (.sequence l (k + 1))) = (r, s')) :
    ItemRun.TakesList ⟨[⟨f, x, s.turn i (.sequence l (k + 1))⟩], ending, s'⟩ s i l k n where
  argument j c hc := by
    obtain ⟨rfl, rfl⟩ : j = 0 ∧ StepCall.mk f x (s.turn i (.sequence l (k + 1))) = c := by
      simpa [List.getElem?_singleton] using hc
    rw [Store.listAt_turn hi]
    exact hx
  whole ys hys := absurd hys (hsuccess ys)
  enough stop hstop := absurd hstop (hinterrupted stop)
  same r hr hleaves := by
    have hstore := Store.turn_getElem?_ne (s := s) (c := .sequence l (k + 1)) hr
    have hleft := hleaves _ List.mem_cons_self
    rw [StepCall.Leaves, StepCall.gave, hcall] at hleft
    refine ⟨fun c hc => ?_, hleft.trans hstore⟩
    rw [List.mem_singleton.1 hc]
    exact hstore

theorem ItemRun.TakesList.after {run : ItemRun} {y : Value} {r : Except Stop Value}
    (hcall : exec (f x) (s.turn i (.sequence l (k + 1))) = (r, s'))
    (h : run.TakesList s' i l (k + 1) n) :
    (run.after ⟨f, x, s.turn i (.sequence l (k + 1))⟩ y).TakesList s i l k (n + 1) where
  argument j c hc := by
    cases j with
    | zero =>
      obtain rfl : StepCall.mk f x (s.turn i (.sequence l (k + 1))) = c := by
        simpa [ItemRun.after] using hc
      rw [Store.listAt_turn hi]
      exact hx
    | succ j =>
      have hrest := h.argument j c (by simpa [ItemRun.after] using hc)
      rwa [show k + (j + 1) = k + 1 + j by omega]
  whole ys hys := by
    obtain ⟨zs, hzs⟩ : ∃ zs, run.ending = .success zs := by
      rcases hending : run.ending <;> simp_all [ItemRun.after, ItemEnding.behind]
    have hrest := h.whole zs hzs
    show (run.store.listAt l)[k + (run.calls.length + 1)]? = none
    rwa [show k + (run.calls.length + 1) = k + 1 + run.calls.length by omega]
  enough stop hstop := by
    have hending : run.ending = .interrupted stop := by
      rcases hending : run.ending <;> simp_all [ItemRun.after, ItemEnding.behind]
    exact congrArg (· + 1) (h.enough stop hending)
  same r hr hleaves := by
    have hstore := Store.turn_getElem?_ne (s := s) (c := .sequence l (k + 1)) hr
    have hleft := hleaves _ List.mem_cons_self
    rw [StepCall.Leaves, StepCall.gave, hcall] at hleft
    obtain ⟨hcalls, hrest⟩ := h.same r hr fun c hc => hleaves c (List.mem_cons_of_mem _ hc)
    refine ⟨fun c hc => ?_, hrest.trans (hleft.trans hstore)⟩
    obtain rfl | hc := List.mem_cons.1 hc
    · exact hstore
    · exact (hcalls c hc).trans (hleft.trans hstore)

end TakesList

/-- Going through a list by an iterator that the calls leave alone takes the items of the list. -/
theorem goThrough_takesList {m m' : Machine} (hm : m.resume = m'.step) {f : Value → Act Value}
    {n : Nat} {i l : Ref} {k : Nat} (hi : s.objects[i]? = some (.iterator (.sequence l k)))
    (hleaves : ∀ c ∈ (goThrough (m.advance (.ref i)) f n s).calls, c.Leaves i) :
    (goThrough (m.advance (.ref i)) f n s).TakesList s i l k n := by
  induction n generalizing s k with
  | zero =>
    exact ⟨by simp [goThrough], by simp [goThrough], by simp [goThrough], by simp [goThrough]⟩
  | succ n ih =>
    have hnext := Machine.exec_advance_sequence hi hm
    rcases hx : (s.listAt l)[k]? with _ | x <;> rw [hx] at hnext <;>
      rw [goThrough, hnext] at hleaves ⊢
    · refine ⟨by simp, fun ys _ => ?_, by simp, fun r hr _ => ⟨by simp, Store.turn_getElem?_ne hr⟩⟩
      rw [Store.listAt_turn hi]
      exact hx
    simp only at hleaves ⊢
    rcases hcall : exec (f x) (s.turn i (.sequence l (k + 1))) with ⟨stop | r, s₂⟩
    · exact .last hi hx (by simp) (by simp) hcall
    rw [hcall] at hleaves
    simp only at hleaves ⊢
    rcases hr : s₂.outcome? r with _ | ⟨_ | _, y⟩ <;> rw [hr] at hleaves
    · exact .last hi hx (by simp) (by simp) hcall
    · exact .last hi hx (by simp) (by simp) hcall
    · have hleft := hleaves _ List.mem_cons_self
      rw [StepCall.Leaves, StepCall.gave, hcall, Store.turn_getElem?_self hi] at hleft
      exact .after hi hx hcall (ih hleft fun c hc => hleaves c (List.mem_cons_of_mem _ hc))

theorem Store.listAt_congr {l : Ref} (h : s'.objects[l]? = s.objects[l]?) :
    s'.listAt l = s.listAt l := by
  rw [listAt, listAt, h]

/-- A run over items makes the calls for a beginning of them in their order, for all of them where
it succeeds, and does not end for want of patience. -/
structure ItemRun.InOrder (run : ItemRun) (items : List Value) : Prop where
  arguments : run.calls.map StepCall.argument = items.take run.calls.length
  whole : ∀ ys, run.ending = .success ys → run.calls.length = items.length
  ends : ∀ stop, run.ending ≠ .interrupted stop

/-- A list that the calls leave alone is taken in the order of its items. -/
theorem ItemRun.TakesList.inOrder {run : ItemRun} {i l : Ref} {n : Nat}
    (h : run.TakesList s i l 0 n) (hl : l ≠ i) (hleaves : ∀ c ∈ run.calls, c.Leaves l)
    (hn : (s.listAt l).length < n) : run.InOrder (s.listAt l) := by
  obtain ⟨hcalls, hstore⟩ := h.same l hl hleaves
  have hitem : ∀ (j : Nat) (c : StepCall), run.calls[j]? = some c →
      (s.listAt l)[j]? = some c.argument := by
    intro j c hc
    have hthen := h.argument j c hc
    rwa [Store.listAt_congr (hcalls c (List.mem_of_getElem? hc)), Nat.zero_add] at hthen
  have hlength : run.calls.length ≤ (s.listAt l).length := by
    by_contra hlonger
    have hlt : (s.listAt l).length < run.calls.length := Nat.lt_of_not_le hlonger
    have hnone := hitem _ _ (List.getElem?_eq_getElem hlt)
    rw [List.getElem?_eq_none le_rfl] at hnone
    cases hnone
  refine ⟨List.ext_getElem? fun j => ?_, fun ys hys => ?_, fun stop hstop => ?_⟩
  · rw [List.getElem?_map, List.getElem?_take]
    split
    · next hj =>
      rw [List.getElem?_eq_getElem hj, hitem j _ (List.getElem?_eq_getElem hj)]
      rfl
    · next hj =>
      rw [List.getElem?_eq_none (Nat.le_of_not_lt hj)]
      rfl
  · have hnone := h.whole ys hys
    rw [Store.listAt_congr hstore, Nat.zero_add, List.getElem?_eq_none_iff] at hnone
    exact Nat.le_antisymm hlength hnone
  · have henough := h.enough stop hstop
    omega

end ErrorTrail
