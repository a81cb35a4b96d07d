import ErrorTrail.Program.Evaluator

/-!
# What an act does to a store

`Act.exec` is running an act from a store: the result or the reason for stopping, and the store
that is left. The `exec_*` lemmas say what the operations of a store do, and `exec_bind` takes a
sequence of them apart.
-/

namespace ErrorTrail

namespace Act

variable {α β : Type}

/-- What an act gives when it runs from a store, and the store that it leaves. -/
def exec (a : Act α) (s : Store) : Except Stop α × Store := a.run.run s

@[simp] theorem exec_pure (x : α) (s : Store) : exec (pure x) s = (.ok x, s) := rfl

@[simp] theorem exec_throw (e : Stop) (s : Store) : exec (throw e : Act α) s = (.error e, s) := rfl

@[simp] theorem exec_raise (e : Value) (s : Store) :
    exec (raise e : Act α) s = (.error (.raised e), s) := rfl

theorem exec_bind (a : Act α) (f : α → Act β) (s : Store) :
    exec (a >>= f) s =
      match exec a s with
      | (.ok x, s') => exec (f x) s'
      | (.error e, s') => (.error e, s') := by
  unfold exec
  rw [ExceptT.run_bind, StateT.run_bind]
  rcases h : a.run.run s with ⟨_ | x, s'⟩ <;> rfl

/-- A step that gives a result is followed by what makes use of it. -/
theorem exec_bind_ok {a : Act α} {f : α → Act β} {s s' : Store} {x : α}
    (h : exec a s = (.ok x, s')) : exec (a >>= f) s = exec (f x) s' := by
  rw [exec_bind, h]

theorem exec_bind_error {a : Act α} {f : α → Act β} {s s' : Store} {e : Stop}
    (h : exec a s = (.error e, s')) : exec (a >>= f) s = (.error e, s') := by
  rw [exec_bind, h]

@[simp] theorem exec_map (f : α → β) (a : Act α) (s : Store) :
    exec (f <$> a) s =
      match exec a s with
      | (.ok x, s') => (.ok (f x), s')
      | (.error e, s') => (.error e, s') := by
  rw [← bind_pure_comp, exec_bind]
  rcases exec a s with ⟨_ | x, s'⟩ <;> rfl

@[simp] theorem exec_read (r : Ref) (s : Store) :
    exec (read r) s = (.ok ((s.objects[r]?).getD (.cell none)), s) := rfl

@[simp] theorem exec_write (r : Ref) (o : Obj) (s : Store) :
    exec (write r o) s = (.ok (), { s with objects := s.objects.setIfInBounds r o }) := rfl

@[simp] theorem exec_alloc (o : Obj) (s : Store) :
    exec (alloc o) s = (.ok s.objects.size, { s with objects := s.objects.push o }) := rfl

@[simp] theorem exec_allocValue (o : Obj) (s : Store) :
    exec (allocValue o) s = (.ok (.ref s.objects.size), { s with objects := s.objects.push o }) :=
  rfl

theorem exec_object? {r : Ref} {s : Store} {o : Obj} (h : s.objects[r]? = some o) :
    exec (object? (.ref r)) s = (.ok (some o), s) := by
  show (Except.ok (some ((s.objects[r]?).getD (.cell none))), s) = _
  rw [h]
  rfl

/-- An exception is handled in the store that it leaves. -/
theorem exec_rescue (body : Act α) (handler : Value → Act α) (s : Store) :
    exec (rescue body handler) s =
      match exec body s with
      | (.error (.raised e), s') => exec (handler e) s'
      | r => r := by
  unfold exec rescue
  rw [ExceptT.run_tryCatch, StateT.run_bind]
  rcases h : body.run.run s with ⟨(_ | _) | x, s'⟩ <;> rfl

end Act

end ErrorTrail
