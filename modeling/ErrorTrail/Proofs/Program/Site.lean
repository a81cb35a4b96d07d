import ErrorTrail.Proofs.Program.Capability
import ErrorTrail.Proofs.Program.Library

/-!
# One instrumented site

What `Envelope.addSite` does to a store, by what the result is (`Store.failure?`) and whether its
error keeps locations (`Store.trailRef?`):

* `exec_addSite_passed`: what is no failing result is handed on, and nothing changes;
* `exec_addSite_told`: an error that keeps locations is told the site, and the result is handed on;
* `exec_addSite_wrapped`: any other error gets a new envelope with this one location, in a new
  failing result.

`Store.tell` is the store in which one object has been told a site. Asking an error object of
another library may leave unused lists behind; nothing else is made.
-/

namespace ErrorTrail

open Act

/-! ## Failures and trails -/

/-- The variant and payload of a result, if a value is one. -/
def Store.outcome? (s : Store) : Value → Option (Bool × Value)
  | .ref r =>
    match s.objects[r]? with
    | some (.result isOk payload) => some (isOk, payload)
    | _ => none
  | _ => none

/-- The error of a failing result. -/
def Store.failure? (s : Store) (v : Value) : Option Value :=
  match s.outcome? v with
  | some (false, e) => some e
  | _ => none

theorem Store.failure?_eq_some {s : Store} {v e : Value} :
    s.failure? v = some e ↔ ∃ r, v = .ref r ∧ s.objects[r]? = some (.result false e) := by
  unfold failure? outcome?
  constructor
  · intro h
    split at h
    · next e' he =>
      cases h
      split at he
      · next r =>
        split at he
        · next h => cases he; exact ⟨r, rfl, h⟩
        · cases he
      · cases he
    · cases h
  · rintro ⟨r, rfl, h⟩
    simp [h]

/-- The locations that an object keeps, as values. -/
def Obj.kept : Obj → List Value
  | .list items => items
  | .foreign f => f.pushed.map .location
  | _ => []

/-- An object that keeps locations after it was told one more. -/
def Obj.told (site : Location) : Obj → Obj
  | .list items => .list (items ++ [.location site])
  | .foreign f => .foreign { f with pushed := f.pushed ++ [site] }
  | o => o

/-- The trail of an error; empty for one that keeps no locations. -/
def Store.trail (s : Store) (v : Value) : List Value :=
  match s.trailRef? v with
  | some t => ((s.objects[t]?).map Obj.kept).getD []
  | none => []

/-- The store in which an object has been told a site. -/
def Store.tell (s : Store) (t : Ref) (site : Location) : Store :=
  { s with objects := s.objects.modify t (Obj.told site) }

theorem Store.tell_getElem? (s : Store) (t : Ref) (site : Location) (r : Ref) :
    (s.tell t site).objects[r]? =
      if t = r then (s.objects[r]?).map (Obj.told site) else s.objects[r]? := by
  rw [Store.tell, Array.getElem?_modify]

/-- Telling an object is writing it. -/
theorem Store.tell_eq_write {s : Store} {t : Ref} {o : Obj} (h : s.objects[t]? = some o)
    (site : Location) :
    s.tell t site = { s with objects := s.objects.setIfInBounds t (o.told site) } := by
  have hobjects : s.objects.modify t (Obj.told site) =
      s.objects.setIfInBounds t (o.told site) := by
    refine Array.ext_getElem? fun i => ?_
    rw [Array.getElem?_modify, Array.getElem?_setIfInBounds]
    obtain ⟨hlt, rfl⟩ := Array.getElem?_eq_some_iff.1 h
    by_cases hi : t = i
    · subst hi
      simp [hlt]
    · simp [hi]
  rw [Store.tell, hobjects]

variable {world : World} {n : Nat} {s : Store}

theorem exec_view? (v : Value) : exec (Outcome.view? v) s = (.ok (s.outcome? v), s) := by
  cases v with
  | ref r =>
    rcases h : s.objects[r]? with _ | o
    · simp [Outcome.view?, object?, exec_bind, Store.outcome?, h]
    · cases o <;> simp [Outcome.view?, object?, exec_bind, Store.outcome?, h]
  | _ => rfl

/-- What is no failing result passes. -/
theorem exec_addSite_passed {m : Machine} {v : Value} (h : s.failure? v = none) (site : Location) :
    exec (Envelope.addSite m v site) s = (.ok v, s) := by
  rw [Envelope.addSite, exec_bind_ok (exec_view? v)]
  unfold Store.failure? at h
  rcases hv : s.outcome? v with _ | ⟨_ | _, e⟩
  · rfl
  · simp [hv] at h
  · rfl

theorem outcome?_of_failure? {v e : Value} (h : s.failure? v = some e) :
    s.outcome? v = some (false, e) := by
  obtain ⟨r, rfl, hr⟩ := Store.failure?_eq_some.1 h
  simp [Store.outcome?, hr]

/-! ## Propagation -/

theorem exec_propagate_success {r v : Value} (h : s.outcome? r = some (true, v)) :
    exec (Outcome.propagate r) s = (.ok v, s) := by
  have hview : exec (Outcome.view r) s = (.ok (true, v), s) := by
    rw [Outcome.view, exec_bind_ok (exec_view? r), h]
    rfl
  rw [Outcome.propagate, exec_bind_ok hview]
  rfl

/-- The object of a signal that carries a result. -/
def Obj.signal (r : Value) : Obj := .exception (.kind .propagation) [r] .none (.signal r) []

theorem exec_propagate_failure {r e : Value} (h : s.failure? r = some e) :
    exec (Outcome.propagate r) s =
      (.error (.raised (.ref s.objects.size)), s.extend [.signal r]) := by
  have hview : exec (Outcome.view r) s = (.ok (false, e), s) := by
    rw [Outcome.view, exec_bind_ok (exec_view? r), outcome?_of_failure? h]
    rfl
  rw [Outcome.propagate, exec_bind_ok hview]
  simp [Outcome.signal, Obj.signal, exec_bind, Store.extend]

/-! ## Growth of a store -/

theorem Store.grows_extend (s : Store) (more : List Obj) : s.Grows (s.extend more) :=
  fun _ o ho => ⟨o, Store.extend_getElem? ho more, .refl o⟩

theorem Store.grows_tell (s : Store) (t : Ref) (site : Location) : s.Grows (s.tell t site) := by
  intro r o ho
  rw [Store.tell_getElem?, ho]
  by_cases ht : t = r
  · refine ⟨o.told site, by simp [ht], ?_⟩
    cases o with
    | list items => exact .list _ _
    | foreign f => exact .foreign f _
    | _ => exact .refl _
  · exact ⟨o, by simp [ht], .refl o⟩

/-- The values of a store keep their locations where they did. -/
theorem Store.Grows.trailRef?_of_lt {s s' : Store} (h : s.Grows s') {v : Value}
    (hv : ∀ r, v = .ref r → r < s.objects.size) : s'.trailRef? v = s.trailRef? v := by
  cases v with
  | ref r =>
    obtain ⟨o, ho⟩ : ∃ o, s.objects[r]? = some o := ⟨_, Array.getElem?_eq_getElem (hv r rfl)⟩
    obtain ⟨o', ho', hkeeps⟩ := h ho
    rw [Store.trailRef?, Store.trailRef?, ho, ho']
    cases hkeeps <;> rfl
  | _ => rfl

/-- The errors of a store stay errors. -/
theorem Store.Grows.isError {s s' : Store} (h : s.Grows s') {e : Value} (he : s.IsError e) :
    s'.IsError e := by
  cases he with
  | lacking hv htrail hinner =>
    refine .lacking ?_ ?_ fun world n s'' h' => hinner world n s'' (h.trans h')
    · intro r hr
      obtain ⟨_, ho', -⟩ := h (Array.getElem?_eq_getElem (hv r hr))
      exact (Array.getElem?_eq_some_iff.1 ho').1
    · rwa [h.trailRef?_of_lt hv]
  | envelope ho hfree htrail =>
    obtain ⟨_, ho', hkeeps⟩ := h ho
    obtain ⟨_, htrail', hkeeps'⟩ := h htrail
    cases hkeeps
    cases hkeeps' <;> exact .envelope ho' hfree htrail'
  | foreign ho =>
    obtain ⟨_, ho', hkeeps⟩ := h ho
    cases hkeeps <;> exact .foreign ho'

theorem Store.IsError.lt {s : Store} {e : Value} (he : s.IsError e) :
    ∀ r, e = .ref r → r < s.objects.size := by
  rintro r rfl
  cases he with
  | lacking hv => exact hv r rfl
  | envelope ho => exact (Array.getElem?_eq_some_iff.1 ho).1
  | foreign ho => exact (Array.getElem?_eq_some_iff.1 ho).1

theorem Store.Grows.trailRef? {s s' : Store} (h : s.Grows s') {e : Value} (he : s.IsError e) :
    s'.trailRef? e = s.trailRef? e :=
  h.trailRef?_of_lt he.lt

/-- Failing results stay failing results of the same error. -/
theorem Store.Grows.failure? {s s' : Store} (h : s.Grows s') {v e : Value}
    (hv : s.failure? v = some e) : s'.failure? v = some e := by
  obtain ⟨r, rfl, hr⟩ := Store.failure?_eq_some.1 hv
  obtain ⟨_, hr', hkeeps⟩ := h hr
  cases hkeeps
  exact Store.failure?_eq_some.2 ⟨r, rfl, hr'⟩

/-- An object beyond those of a later store is none of the earlier one. -/
theorem Store.Grows.getElem?_eq_none {s s' : Store} (h : s.Grows s') {r : Ref}
    (hr : s'.objects.size ≤ r) : s.objects[r]? = none := by
  rcases ho : s.objects[r]? with _ | o
  · rfl
  · obtain ⟨o', ho', -⟩ := h ho
    exact absurd (Array.getElem?_eq_some_iff.1 ho').1 (Nat.not_lt.2 hr)

/-! ## The three effects of a site -/

variable (world n) in
/-- The method by which an error that keeps locations is told one. -/
theorem exec_push {e : Value} {t : Ref} (he : s.IsError e) (ht : s.trailRef? e = some t)
    (site : Location) :
    ∃ push x, exec ((Machine.ofDepth world (n + 3)).getMember e "push_location") s = (.ok push, s) ∧
      exec ((Machine.ofDepth world (n + 3)).call push [.str site.file, .int site.line] []) s =
        (.ok x, s.tell t site) := by
  cases he with
  | lacking _ htrail => exact absurd (htrail.symm.trans ht) nofun
  | @envelope r trail args cause inner fields items ho hfree htrail =>
    have ht' : trail = t := by simpa [Store.trailRef?, ho, Obj.envelope] using ht
    subst ht'
    obtain ⟨-, -, hmethods⟩ := exec_findMember_envelope (m := .ofDepth world (n + 2)) ho hfree
    refine ⟨.bound (Machine.nativeMethod .envelope "push_location") (.ref r), .none, ?_, ?_⟩
    · rw [Machine.getMember, Machine.member_ofDepth,
        exec_bind_ok (hmethods "push_location" (by decide))]
      rfl
    · rw [Machine.call_pushEnvelope, Store.tell_eq_write htrail site]
      simp [Envelope.push, Envelope.view, Envelope.append, exec_bind, exec_object? ho, Obj.envelope,
        htrail, Obj.told]
  | @foreign r f ho =>
    have hcapable : f.capable = true ∧ r = t := by
      simpa [Store.trailRef?, ho] using ht
    obtain ⟨hcapable, rfl⟩ := hcapable
    have hmem : ("push_location", true) ∈ Envelope.capabilities := by decide
    have hhas : f.has ("push_location", true) = true := List.all_eq_true.1 hcapable _ hmem
    have hmember : exec (foreignMember (.ref r) f "push_location") s =
        (.ok (some (.bound (.native "Foreign.push_location") (.ref r))), s) := by
      obtain ⟨hmissing, hblocked⟩ : "push_location" ∉ f.missing ∧ "push_location" ∉ f.blocked := by
        simpa [Foreign.has] using hhas
      simp [foreignMember, hmissing, hblocked]
    rw [← exec_findMember_foreign (m := .ofDepth world (n + 2)) ho hmem] at hmember
    refine ⟨.bound (.native "Foreign.push_location") (.ref r), .none, ?_, ?_⟩
    · rw [Machine.getMember, Machine.member_ofDepth, exec_bind_ok hmember]
      rfl
    · rw [Machine.exec_call_pushForeign ho, Store.tell_eq_write ho site]
      rfl

/-- On a failing result, the site function asks whether the error takes sites. -/
theorem exec_addSite_failure {m : Machine} {v e : Value} (h : s.failure? v = some e) (site : Location) :
    exec (Envelope.addSite m v site) s = exec (do
      if ← Envelope.isCapable m e then
        let push ← m.getMember e "push_location"
        let _ ← m.call push [.str site.file, .int site.line] []
        return v
      else Outcome.failure (← Envelope.new (.kind .envelope) e site)) s := by
  rw [Envelope.addSite, exec_bind_ok (exec_view? v), outcome?_of_failure? h]

/-- An error that takes sites and keeps locations is told the site. -/
theorem exec_addSite_capable {v e : Value} {t : Ref} {s₁ : Store} (h : s.failure? v = some e)
    (hcapable : exec (Envelope.isCapable (.ofDepth world (n + 3)) e) s = (.ok true, s₁))
    (he : s₁.IsError e) (ht : s₁.trailRef? e = some t) (site : Location) :
    exec (Envelope.addSite (.ofDepth world (n + 3)) v site) s = (.ok v, s₁.tell t site) := by
  obtain ⟨push, x, hmember, hcall⟩ := exec_push world n he ht site
  rw [exec_addSite_failure h, exec_bind_ok hcapable, if_pos rfl, exec_bind_ok hmember,
    exec_bind_ok hcall]
  rfl

variable (world n) in
/-- An error that keeps locations is told the site. -/
theorem exec_addSite_told {v e : Value} {t : Ref} (h : s.failure? v = some e) (he : s.IsError e)
    (ht : s.trailRef? e = some t) (site : Location) :
    ∃ lists : List (List Value), exec (Envelope.addSite (.ofDepth world (n + 3)) v site) s =
      (.ok v, (s.extend (lists.map .list)).tell t site) := by
  obtain ⟨lists, hcapable⟩ := exec_isCapable world (n + 2) he
  rw [ht] at hcapable
  have hgrows := s.grows_extend (lists.map .list)
  exact ⟨lists, exec_addSite_capable h hcapable (hgrows.isError he)
    ((hgrows.trailRef? he).trans ht) site⟩

theorem exec_isException (v : Value) : ∃ b, exec (isException v) s = (.ok b, s) := by
  cases v with
  | ref r =>
    rcases h : s.objects[r]? with _ | o
    · exact ⟨false, by simp [isException, object?, exec_bind, h]⟩
    · cases o <;> simp [isException, object?, exec_bind, h]
  | _ => exact ⟨false, rfl⟩

/-- A new envelope of an error, with one location, in a new failing result. -/
theorem exec_newEnvelope (e : Value) (site : Location) (s : Store) :
    ∃ cause : Value,
      exec (do Outcome.failure (← Envelope.new (.kind .envelope) e site)) s =
        (.ok (.ref (s.objects.size + 2)), s.extend [.list [.location site],
          .envelope [] cause e s.objects.size [], .result false (.ref (s.objects.size + 1))]) := by
  obtain ⟨b, hb⟩ := exec_isException (s := s) e
  refine ⟨if b then e else .none, ?_⟩
  simp only [Envelope.new, Envelope.make, Outcome.failure, Outcome.make]
  have happend : ∀ (os : Array Obj) (a b c : Obj), ((os.push a).push b).push c = os ++ #[a, b, c] :=
    fun os a b c => rfl
  cases b <;> simp [exec_bind, hb, Store.extend, Obj.envelope, happend]

variable (world n) in
/-- An error that keeps no locations gets an envelope in a new failing result. -/
theorem exec_addSite_wrapped {v e : Value} (h : s.failure? v = some e) (he : s.IsError e)
    (ht : s.trailRef? e = none) (site : Location) :
    ∃ (lists : List (List Value)) (cause : Value),
      let s' := s.extend (lists.map .list)
      let k := s'.objects.size
      exec (Envelope.addSite (.ofDepth world (n + 1)) v site) s =
        (.ok (.ref (k + 2)), s'.extend
          [.list [.location site], .envelope [] cause e k [], .result false (.ref (k + 1))]) := by
  obtain ⟨lists, hcapable⟩ := exec_isCapable world n he
  rw [ht] at hcapable
  obtain ⟨cause, hnew⟩ := exec_newEnvelope e site (s.extend (lists.map .list))
  refine ⟨lists, cause, ?_⟩
  rw [exec_addSite_failure h, exec_bind_ok hcapable]
  exact hnew

end ErrorTrail
