import ErrorTrail.Proofs.Program.Envelope.Views
import ErrorTrail.Proofs.Program.Trails

/-!
# Envelopes over whole runs

A program makes envelopes, tells them locations, takes their errors out and copies them, in any
order (`EnvelopeAction`, `EnvelopeRun`). A `Ledger` is what it has done so far to each of its
envelopes. One step lemma, `EnvelopeAction.step`, says that every action ends and that the store is
what the ledger then says it is. By induction so is every store that a run comes to, and from what
the ledger says all views of an envelope follow (`envelopes_spec`).
-/

namespace ErrorTrail

open Act

/-! ## Ledgers -/

/-- What a program did to one of its envelopes: its class, the error and the locations given to it
when it was made, the locations told to it since, and whether its error was taken. -/
structure Envelope.Record where
  cls : Value
  given : Value
  start : List Location
  pushed : List Location := []
  taken : Bool := false

namespace Envelope.Record

/-- The error that is in the envelope. -/
def inner (e : Record) : Value := if e.taken then .none else e.given

def locations (e : Record) : List Location := e.start ++ e.pushed

def push (site : Location) (e : Record) : Record := { e with pushed := e.pushed ++ [site] }

def take (e : Record) : Record := { e with taken := true }

/-- What is known of a copy when it is made. -/
def copy (e : Record) (inner : Value) : Record :=
  { cls := e.cls, given := inner, start := e.locations }

@[simp] theorem push_inner (e : Record) (site : Location) : (e.push site).inner = e.inner := rfl

@[simp] theorem push_locations (e : Record) (site : Location) :
    (e.push site).locations = e.locations ++ [site] := (List.append_assoc _ _ _).symm

@[simp] theorem copy_inner (e : Record) (inner : Value) : (e.copy inner).inner = inner := rfl

@[simp] theorem copy_locations (e : Record) (inner : Value) :
    (e.copy inner).locations = e.locations := List.append_nil _

@[simp] theorem take_inner (e : Record) : e.take.inner = .none := rfl

@[simp] theorem take_locations (e : Record) : e.take.locations = e.locations := rfl

end Envelope.Record

/-- The envelopes that a program has made. -/
abbrev Ledger := Ref → Option Envelope.Record

/-- A ledger with what is known of one envelope. -/
def Ledger.put (known : Ledger) (w : Ref) (e : Envelope.Record) : Ledger :=
  Function.update known w (some e)

@[simp] theorem Ledger.put_self (known : Ledger) (w : Ref) (e : Envelope.Record) :
    known.put w e w = some e := Function.update_self _ _ _

theorem Ledger.put_ne {known : Ledger} {w w' : Ref} (h : w' ≠ w) (e : Envelope.Record) :
    known.put w e w' = known w' := Function.update_of_ne h _ _

/-- A ledger tells what is in a store: each envelope with its error and a list of its locations that
is no other's. -/
structure Ledger.Describes (known : Ledger) (s : Store) : Prop where
  object : ∀ ⦃w : Ref⦄ ⦃e : Envelope.Record⦄, known w = some e →
    s.IsEnvelopeClass Envelope.constructors e.cls ∧
    ∃ cause t, s.objects[w]? = some (.envelopeOf e.cls cause e.inner t) ∧
      s.objects[t]? = some (.list (e.locations.map .location))
  unshared : ∀ ⦃w w' : Ref⦄ ⦃t : Ref⦄, (known w).isSome → (known w').isSome →
    s.trailRef? (.ref w) = some t → s.trailRef? (.ref w') = some t → w = w'

/-- The envelopes of a ledger and their lists are in another store as they are. -/
def Store.LeavesEnvelopes (s : Store) (known : Ledger) (s' : Store) : Prop :=
  ∀ ⦃w : Ref⦄, (known w).isSome → s'.objects[w]? = s.objects[w]? ∧
    ∀ t, s.trailRef? (.ref w) = some t → s'.objects[t]? = s.objects[t]?

/-- An envelope keeps its list when its error is taken out. -/
theorem trailRef?_take {s : Store} {w t : Ref} {c cause inner : Value}
    (ho : s.objects[w]? = some (.envelopeOf c cause inner t)) (v : Value) :
    (s.set w (.envelopeOf c cause .none t)).trailRef? v = s.trailRef? v := by
  have hset := Store.set_getElem? ho (.envelopeOf c cause .none t)
  cases v with
  | ref r =>
    by_cases hr : w = r
    · subst hr
      rw [trailRef?_envelopeOf ((hset w).trans (if_pos rfl)), trailRef?_envelopeOf ho]
    · simp only [Store.trailRef?, hset, if_neg hr]
  | _ => rfl

namespace Ledger.Describes

variable {known : Ledger} {s s' : Store} {w t : Ref} {e : Envelope.Record}

/-- A ledger of the same envelopes describes a store in which each of them has the list that it had,
with what the ledger says of it. -/
theorem change (h : known.Describes s) {known' : Ledger} (hclasses : s.KeepsClasses s')
    (hobject : ∀ ⦃w e'⦄, known' w = some e' → ∃ e cause t, known w = some e ∧ e'.cls = e.cls ∧
      s.trailRef? (.ref w) = some t ∧ s'.objects[w]? = some (.envelopeOf e.cls cause e'.inner t) ∧
      s'.objects[t]? = some (.list (e'.locations.map .location))) : known'.Describes s' := by
  have htrail {w t' : Ref} (hw : (known' w).isSome) (ht' : s'.trailRef? (.ref w) = some t') :
      (known w).isSome ∧ s.trailRef? (.ref w) = some t' := by
    obtain ⟨e', hw⟩ := Option.isSome_iff_exists.1 hw
    obtain ⟨e, cause, t, hw, -, ht, ho, -⟩ := hobject hw
    obtain rfl : t = t' := Option.some.inj ((trailRef?_envelopeOf ho).symm.trans ht')
    exact ⟨Option.isSome_iff_exists.2 ⟨e, hw⟩, ht⟩
  refine ⟨fun w e' hw => ?_, fun w w' t hw hw' ht ht' => ?_⟩
  · obtain ⟨e, cause, t, hw, hcls, -, ho, ht⟩ := hobject hw
    rw [hcls]
    exact ⟨hclasses.isEnvelopeClass (h.object hw).1, cause, t, ho, ht⟩
  · obtain ⟨hw, ht⟩ := htrail hw ht
    obtain ⟨hw', ht'⟩ := htrail hw' ht'
    exact h.unshared hw hw' ht ht'

/-- What leaves classes, envelopes and their lists alone changes nothing. -/
theorem leave (h : known.Describes s) (hclasses : s.KeepsClasses s')
    (hleaves : s.LeavesEnvelopes known s') : known.Describes s' := by
  refine h.change hclasses fun w e hw => ?_
  obtain ⟨-, cause, t, ho, ht⟩ := h.object hw
  obtain ⟨hself, hlist⟩ := hleaves (Option.isSome_iff_exists.2 ⟨e, hw⟩)
  have htrail := trailRef?_envelopeOf ho
  exact ⟨e, cause, t, hw, rfl, htrail, hself.trans ho, (hlist t htrail).trans ht⟩

/-- More objects change nothing. -/
theorem keep (h : known.Describes s)
    (hkeeps : ∀ ⦃r : Ref⦄ ⦃o : Obj⦄, s.objects[r]? = some o → s'.objects[r]? = some o) :
    known.Describes s' := by
  refine h.leave (fun _ _ _ _ _ _ ho => hkeeps ho) fun w hw => ?_
  obtain ⟨e, hw⟩ := Option.isSome_iff_exists.1 hw
  obtain ⟨-, cause, t, ho, ht⟩ := h.object hw
  refine ⟨(hkeeps ho).trans ho.symm, fun t' ht' => ?_⟩
  obtain rfl : t = t' := Option.some.inj ((trailRef?_envelopeOf ho).symm.trans ht')
  exact (hkeeps ht).trans ht.symm

/-- A new envelope with a list of its own. -/
theorem add (h : known.Describes s) (hc : s.IsEnvelopeClass Envelope.constructors e.cls)
    (cause : Value) :
    (known.put s.objects.size e).Describes (s.extend
      [.envelopeOf e.cls cause e.inner (s.objects.size + 1),
        .list (e.locations.map .location)]) := by
  set s' := s.extend [.envelopeOf e.cls cause e.inner (s.objects.size + 1),
    .list (e.locations.map .location)] with hs'
  have hold : known.Describes s' := h.keep fun _ _ ho => Store.extend_getElem? ho _
  have hnew : s'.objects[s.objects.size]? =
      some (.envelopeOf e.cls cause e.inner (s.objects.size + 1)) := s.extend_getElem?_size _ _
  have hlist : s'.objects[s.objects.size + 1]? = some (.list (e.locations.map .location)) := by
    simp [hs', Store.extend]
  -- the lists of the envelopes from before are objects from before
  have hapart {w : Ref} (hw : (known w).isSome) :
      s'.trailRef? (.ref w) ≠ some (s.objects.size + 1) := by
    obtain ⟨e', hw⟩ := Option.isSome_iff_exists.1 hw
    obtain ⟨-, cause', t, ho, ht⟩ := h.object hw
    rw [trailRef?_envelopeOf (Store.extend_getElem? ho _)]
    rintro ⟨⟩
    have hlt := (Array.getElem?_eq_some_iff.1 ht).1
    omega
  refine ⟨fun w e' hw => ?_, fun w w' t hw hw' ht ht' => ?_⟩
  · by_cases hk : w = s.objects.size
    · subst hk
      rw [Ledger.put_self] at hw
      cases hw
      exact ⟨(s.keepsClasses_extend _).isEnvelopeClass hc, cause, _, hnew, hlist⟩
    · rw [Ledger.put_ne hk] at hw
      exact hold.object hw
  · have hself := trailRef?_envelopeOf hnew
    by_cases hk : w = s.objects.size <;> by_cases hk' : w' = s.objects.size
    · exact hk.trans hk'.symm
    · subst hk
      rw [Ledger.put_ne hk'] at hw'
      rw [hself] at ht
      exact absurd (ht'.trans ht.symm) (hapart hw')
    · subst hk'
      rw [Ledger.put_ne hk] at hw
      rw [hself] at ht'
      exact absurd (ht.trans ht'.symm) (hapart hw)
    · rw [Ledger.put_ne hk] at hw
      rw [Ledger.put_ne hk'] at hw'
      exact hold.unshared hw hw' ht ht'

/-- A location at the end of a list, and the ledger that has it for the envelope that has the list.
-/
theorem told (h : known.Describes s) {known' : Ledger} {site : Location}
    (hknown : ∀ w e', known' w = some e' → ∃ e, known w = some e ∧ e'.cls = e.cls ∧
      e'.inner = e.inner ∧ e'.locations =
        e.locations ++ if s.trailRef? (.ref w) = some t then [site] else []) :
    known'.Describes (s.tell t site) := by
  have hclasses : s.KeepsClasses (s.tell t site) := by
    intro r name path bases mro fields ho
    rw [Store.tell_getElem?, ho]
    by_cases hr : t = r <;> simp [hr, Obj.told]
  refine h.change hclasses fun w e' hw => ?_
  obtain ⟨e, hw, hcls, hinner, hlocations⟩ := hknown w e' hw
  obtain ⟨-, cause, t', ho, ht⟩ := h.object hw
  have htrail := trailRef?_envelopeOf ho
  refine ⟨e, cause, t', hw, hcls, htrail, ?_, ?_⟩
  · rw [hinner, Store.tell_getElem?, ho]
    by_cases hw : t = w <;> simp [hw, Obj.told, Obj.envelopeOf]
  · rw [hlocations, htrail, Store.tell_getElem?, ht]
    by_cases htt : t = t'
    · simp [htt, Obj.told]
    · simp [htt, Ne.symm htt]

/-- A location that an envelope is told is in no other's list. -/
theorem tell (h : known.Describes s) (hw : known w = some e) (ht : s.trailRef? (.ref w) = some t)
    (site : Location) : (known.put w (e.push site)).Describes (s.tell t site) := by
  refine h.told fun w' e' hw' => ?_
  by_cases hww : w' = w
  · subst hww
    rw [Ledger.put_self] at hw'
    cases hw'
    exact ⟨e, hw, rfl, rfl, by simp [ht]⟩
  · rw [Ledger.put_ne hww] at hw'
    have hne : s.trailRef? (.ref w') ≠ some t := fun ht' => hww <|
      h.unshared (Option.isSome_iff_exists.2 ⟨e', hw'⟩) (Option.isSome_iff_exists.2 ⟨e, hw⟩) ht' ht
    exact ⟨e', hw', rfl, rfl, by simp [hne]⟩

/-- A location in a list that is no envelope's. -/
theorem append (h : known.Describes s) {l : Ref}
    (hl : ∀ w, (known w).isSome → s.trailRef? (.ref w) ≠ some l) (site : Location) :
    known.Describes (s.tell l site) := by
  refine h.told fun w e hw => ⟨e, hw, rfl, rfl, ?_⟩
  rw [if_neg (hl w (Option.isSome_iff_exists.2 ⟨e, hw⟩)), List.append_nil]

/-- An error that is taken out. -/
theorem take (h : known.Describes s) (hw : known w = some e) {cause : Value}
    (ho : s.objects[w]? = some (.envelopeOf e.cls cause e.inner t)) :
    (known.put w e.take).Describes (s.set w (.envelopeOf e.cls cause .none t)) := by
  have hclasses : s.KeepsClasses (s.set w (.envelopeOf e.cls cause .none t)) :=
    fun _ _ _ _ _ _ hr => Store.set_keeps ho _ hr (by simp [Obj.envelopeOf])
  have hlists {r : Ref} {items : List Value} (hr : s.objects[r]? = some (.list items)) :
      (s.set w (.envelopeOf e.cls cause .none t)).objects[r]? = some (.list items) :=
    Store.set_keeps ho _ hr (by simp [Obj.envelopeOf])
  have hset := Store.set_getElem? ho (.envelopeOf e.cls cause .none t)
  refine h.change hclasses fun w' e' hw' => ?_
  by_cases hww : w' = w
  · subst hww
    rw [Ledger.put_self] at hw'
    cases hw'
    obtain ⟨-, cause', t', ho', ht'⟩ := h.object hw
    obtain rfl : t' = t :=
      Option.some.inj ((trailRef?_envelopeOf ho').symm.trans (trailRef?_envelopeOf ho))
    refine ⟨e, cause, t', hw, rfl, trailRef?_envelopeOf ho, ?_, hlists ht'⟩
    rw [hset, if_pos rfl]
    rfl
  · rw [Ledger.put_ne hww] at hw'
    obtain ⟨-, cause', t', ho', ht'⟩ := h.object hw'
    refine ⟨e', cause', t', hw', rfl, trailRef?_envelopeOf ho', ?_, hlists ht'⟩
    rw [hset, if_neg (Ne.symm hww), ho']

end Ledger.Describes

/-! ## Actions -/

/-- What a program may do to its envelopes. -/
inductive EnvelopeAction where
  /-- calls a class with an error and, perhaps, a list, in which the locations are `start` -/
  | make (c inner : Value) (list : Option Ref) (start : List Location)
  /-- calls the class method `new` -/
  | new (c inner : Value) (site : Location)
  | push (w : Ref) (site : Location)
  | take (w : Ref)
  | copy (w : Ref)
  /-- copies an envelope deeply, or by `anew` through its pickled form, the error in it coming out
  as `inner` -/
  | reproduce (w : Ref) (anew : Bool) (fuel : Nat) (inner : Value)
  /-- adds a location to a list of its own -/
  | append (list : Ref) (site : Location)

namespace EnvelopeAction

/-- How a program does it. -/
def perform (m : Machine) : EnvelopeAction → Act Value
  | .make c inner list _ => m.call c (Envelope.arguments inner list) []
  | .new c inner site => m.callMember c "new" [inner, .str site.file, .int site.line]
  | .push w site => m.callMember (.ref w) "push_location" [.str site.file, .int site.line]
  | .take w => m.callMember (.ref w) "take_inner" []
  | .copy w => Copy.shallow m (.ref w)
  | .reproduce w anew fuel _ => do return (← Copy.deep m anew (fuel + 2) [] (.ref w)).1
  | .append list site => m.callMember (.ref list) "append" [.location site]

/-- When a program may do it. -/
def Allowed (m : Machine) (s : Store) (known : Ledger) : EnvelopeAction → Prop
  | .make c _ list start =>
      s.IsEnvelopeClass Envelope.constructors c ∧ s.Lists list (start.map .location)
  | .new c _ _ => s.IsEnvelopeClass Envelope.constructors c ∧ s.IsEnvelopeClass ["new"] c
  | .push w _ => ∃ e, known w = some e ∧ s.IsEnvelopeClass ["push_location"] e.cls
  | .take w => ∃ e, known w = some e ∧ s.IsEnvelopeClass ["take_inner"] e.cls
  | .copy w => ∃ e, known w = some e ∧ s.IsEnvelopeClass ["__reduce__"] e.cls
  | .reproduce w anew fuel inner => ∃ e t s₁, known w = some e ∧
      s.IsEnvelopeClass ["__reduce__"] e.cls ∧ s.trailRef? (.ref w) = some t ∧
      e.locations.length < fuel ∧ Copy.Reproduces m anew (fuel + 1) s t e.inner inner s₁
  | .append list _ => (∃ items, s.objects[list]? = some (.list items)) ∧
      ∀ w, (known w).isSome → s.trailRef? (.ref w) ≠ some list

/-- What is known of the new envelope, if one is made. -/
def made (known : Ledger) : EnvelopeAction → Option Envelope.Record
  | .make c inner _ start => some { cls := c, given := inner, start }
  | .new c inner site => some { cls := c, given := inner, start := [site] }
  | .copy w => (known w).map fun e => e.copy e.inner
  | .reproduce w _ _ inner => (known w).map fun e => e.copy inner
  | _ => none

/-- What is known after an action of the envelopes from before. -/
def changed (known : Ledger) : EnvelopeAction → Ledger
  | .push w site => (known w).elim known fun e => known.put w (e.push site)
  | .take w => (known w).elim known fun e => known.put w e.take
  | _ => known

/-- What is known after an action that gave `answer`. -/
def after (known : Ledger) (a : EnvelopeAction) (answer : Value) : Ledger :=
  match a.made known, answer with
  | some e, .ref w => known.put w e
  | _, _ => a.changed known

variable {known : Ledger} {e : Envelope.Record} {w : Ref}

theorem made_copy (hw : known w = some e) : (copy w).made known = some (e.copy e.inner) := by
  simp only [made, hw, Option.map_some]

theorem made_reproduce (hw : known w = some e) (anew : Bool) (fuel : Nat) (inner : Value) :
    (reproduce w anew fuel inner).made known = some (e.copy inner) := by
  simp only [made, hw, Option.map_some]

theorem after_of_made {a : EnvelopeAction} (h : a.made known = some e) (w : Ref) :
    a.after known (.ref w) = known.put w e := by
  simp only [after, h]

theorem after_push (hw : known w = some e) (site : Location) (answer : Value) :
    (push w site).after known answer = known.put w (e.push site) := by
  simp only [after, made, changed, hw, Option.elim_some]

theorem after_take (hw : known w = some e) (answer : Value) :
    (take w).after known answer = known.put w e.take := by
  simp only [after, made, changed, hw, Option.elim_some]

end EnvelopeAction

/-- The object that an action changes. -/
def EnvelopeAction.touched (s : Store) : EnvelopeAction → Option Ref
  | .push w _ => s.trailRef? (.ref w)
  | .take w => some w
  | .append list _ => some list
  | _ => none

/-- What an action that gives `v` does to a store: what is known afterwards is so, an envelope that
it makes is a new object with a new list, those from before keep their lists, and only one object is
changed, which for a told location is the list of the envelope that is told it. -/
structure EnvelopeStep (m : Machine) (s : Store) (known : Ledger) (a : EnvelopeAction) (v : Value)
    (s' : Store) : Prop where
  performs : exec (a.perform m) s = (.ok v, s')
  describes : (a.after known v).Describes s'
  fresh : (a.made known).isSome → ∃ w t, v = .ref w ∧ s.objects[w]? = none ∧
    s'.trailRef? (.ref w) = some t ∧ s.objects[t]? = none
  lists : ∀ ⦃w : Ref⦄, (known w).isSome → s'.trailRef? (.ref w) = s.trailRef? (.ref w)
  frame : ∀ ⦃r : Ref⦄ ⦃o : Obj⦄, a.touched s ≠ some r → s.objects[r]? = some o →
    s'.objects[r]? = some o

section Step

variable {m : Machine} {world : World} {n : Nat} {known : Ledger} {s : Store} {a : EnvelopeAction}
  {e : Envelope.Record}

/-- An action that makes an envelope after it made other objects. -/
theorem EnvelopeStep.makes (s₁ : Store) (cause : Value) (h : known.Describes s)
    (hmade : a.made known = some e)
    (hkeeps : ∀ ⦃r : Ref⦄ ⦃o : Obj⦄, s.objects[r]? = some o → s₁.objects[r]? = some o)
    (hc : s.IsEnvelopeClass Envelope.constructors e.cls)
    (hexec : exec (a.perform m) s = (.ok (.ref s₁.objects.size), s₁.extend
      [.envelopeOf e.cls cause e.inner (s₁.objects.size + 1), .list (e.locations.map .location)])) :
    EnvelopeStep m s known a (.ref s₁.objects.size) (s₁.extend
      [.envelopeOf e.cls cause e.inner (s₁.objects.size + 1),
        .list (e.locations.map .location)]) := by
  have hclasses : s.KeepsClasses s₁ := fun _ _ _ _ _ _ ho => hkeeps ho
  have hfresh {r : Ref} (hr : s₁.objects.size ≤ r) : s.objects[r]? = none := by
    rcases ho : s.objects[r]? with _ | o
    · rfl
    · have hlt := (Array.getElem?_eq_some_iff.1 (hkeeps ho)).1
      omega
  have hnew : (s₁.extend [.envelopeOf e.cls cause e.inner (s₁.objects.size + 1),
      .list (e.locations.map .location)]).objects[s₁.objects.size]? =
      some (.envelopeOf e.cls cause e.inner (s₁.objects.size + 1)) :=
    s₁.extend_getElem?_size _ _
  refine ⟨hexec, ?_, fun _ => ⟨_, _, rfl, hfresh (Nat.le_refl _), trailRef?_envelopeOf hnew,
    hfresh (Nat.le_succ _)⟩, fun w hw => ?_, fun r o _ ho => Store.extend_getElem? (hkeeps ho) _⟩
  · rw [EnvelopeAction.after_of_made hmade]
    exact (h.keep hkeeps).add (hclasses.isEnvelopeClass hc) cause
  · obtain ⟨e', hw⟩ := Option.isSome_iff_exists.1 hw
    obtain ⟨-, cause', t, ho, -⟩ := h.object hw
    rw [trailRef?_envelopeOf (Store.extend_getElem? (hkeeps ho) _), trailRef?_envelopeOf ho]

/-- Every action that a program may take is done. -/
theorem EnvelopeAction.step (h : known.Describes s)
    (ha : a.Allowed (.ofDepth world (n + 3)) s known) :
    ∃ v s', EnvelopeStep (.ofDepth world (n + 3)) s known a v s' := by
  cases a with
  | make c inner list start =>
    obtain ⟨hc, hlist⟩ := ha
    obtain ⟨cause, hmake⟩ := exec_makeEnvelope world (n + 2) inner hc hlist
    refine ⟨_, _, .makes (e := { cls := c, given := inner, start }) s cause h rfl
      (fun _ _ ho => ho) hc ?_⟩
    rw [Envelope.Record.locations, List.append_nil]
    exact hmake
  | new c inner site =>
    obtain ⟨hc, hcnew⟩ := ha
    obtain ⟨cause, hnew⟩ := exec_callMember_new world n inner hc hcnew site
    refine ⟨_, _, .makes (e := { cls := c, given := inner, start := [site] })
      (s.extend [.list [.location site]]) cause h rfl
      (fun _ _ ho => Store.extend_getElem? ho _) hc ?_⟩
    have hsize : (s.extend [.list [.location site]]).objects.size = s.objects.size + 1 := by
      simp [Store.extend]
    rw [Store.extend_extend, hsize]
    exact hnew
  | push w site =>
    obtain ⟨e, hw, hc⟩ := ha
    obtain ⟨-, cause, t, ho, ht⟩ := h.object hw
    refine ⟨.none, s.tell t site, exec_callMember_push world n ho hc ht site, ?_,
      fun hmade => absurd hmade Bool.false_ne_true,
      fun w' _ => Store.trailRef?_tell s t site (.ref w'), ?_⟩
    · rw [EnvelopeAction.after_push hw]
      exact h.tell hw (trailRef?_envelopeOf ho) site
    · intro r o hr hro
      have hne : t ≠ r := fun htr => hr ((trailRef?_envelopeOf ho).trans (congrArg some htr))
      rw [Store.tell_getElem?, if_neg hne, hro]
  | take w =>
    obtain ⟨e, hw, hc⟩ := ha
    obtain ⟨-, cause, t, ho, ht⟩ := h.object hw
    refine ⟨e.inner, _, exec_callMember_take world (n + 1) ho hc, ?_,
      fun hmade => absurd hmade Bool.false_ne_true,
      fun w' _ => trailRef?_take ho (.ref w'), ?_⟩
    · rw [EnvelopeAction.after_take hw]
      exact h.take hw ho
    · intro r o hr hro
      have hne : w ≠ r := fun hwr => hr (congrArg some hwr)
      rw [Store.set_getElem? ho, if_neg hne, hro]
  | copy w =>
    obtain ⟨e, hw, -⟩ := ha
    obtain ⟨hc, cause, t, ho, ht⟩ := h.object hw
    obtain ⟨cause', hcopy⟩ := exec_shallow world (n + 2) ho hc ht
    refine ⟨_, _, .makes s cause' h (made_copy hw) (fun _ _ ho => ho) hc ?_⟩
    rw [Envelope.Record.copy_locations]
    exact hcopy
  | reproduce w anew fuel inner =>
    obtain ⟨e, t, s₁, hw, -, htrail, hfuel, hinner⟩ := ha
    obtain ⟨hc, cause, t', ho, ht⟩ := h.object hw
    obtain rfl : t' = t := Option.some.inj ((trailRef?_envelopeOf ho).symm.trans htrail)
    obtain ⟨memo, more, cause', hdeep⟩ := exec_deep world (n + 2) ho hc ht hfuel hinner
    refine ⟨_, _, .makes (s₁.extend more) cause' h (made_reproduce hw anew fuel inner)
      (fun _ _ ho => Store.extend_getElem? (hinner.keeps ho) _) hc ?_⟩
    rw [Envelope.Record.copy_locations]
    exact exec_bind_ok hdeep
  | append list site =>
    obtain ⟨⟨items, hlist⟩, hown⟩ := ha
    refine ⟨.none, s.tell list site, exec_callMember_append world (n + 1) hlist site,
      h.append hown site, fun hmade => absurd hmade Bool.false_ne_true,
      fun w _ => Store.trailRef?_tell s list site (.ref w), ?_⟩
    intro r o hr hro
    have hne : list ≠ r := fun hlr => hr (congrArg some hlr)
    rw [Store.tell_getElem?, if_neg hne, hro]

end Step

/-! ## Views -/

/-- What a program sees of an envelope: its members, what its methods give, and what it is shown as,
each as far as its class takes it over. -/
structure Store.Shows (s : Store) (world : World) (m : Machine) (w : Ref) (e : Envelope.Record) :
    Prop where
  cls : exec (classOf (.ref w)) s = (.ok e.cls, s)
  inner : s.IsEnvelopeClass ["inner"] e.cls →
    exec (m.getMember (.ref w) "inner") s = (.ok e.inner, s)
  locations : s.IsEnvelopeClass ["locations"] e.cls →
    ∃ t, exec (m.getMember (.ref w) "locations") s = (.ok (.ref t), s) ∧
      s.objects[t]? = some (.list (e.locations.map .location))
  origin : s.IsEnvelopeClass ["origin"] e.cls → exec (m.getMember (.ref w) "origin") s =
    (.ok ((e.locations.map Value.location).head?.getD .none), s)
  take : s.IsEnvelopeClass ["take_inner"] e.cls →
    ∃ s', exec (m.callMember (.ref w) "take_inner" []) s = (.ok e.inner, s')
  reduce : s.IsEnvelopeClass ["__reduce__"] e.cls →
    ∃ r args t s', exec (m.callMember (.ref w) "__reduce__" []) s = (.ok (.ref r), s') ∧
      s'.objects[r]? = some (.tuple [e.cls, .ref args]) ∧
      s'.objects[args]? = some (.tuple [e.inner, .ref t]) ∧
      s'.objects[t]? = some (.list (e.locations.map .location))
  stack : s.IsEnvelopeClass ["stack"] e.cls →
    exec (m.callMember (.ref w) "stack" []) s = (.ok (.str (stackText e.locations)), s)
  text : s.IsEnvelopeClass ["__str__"] e.cls →
    ∀ head, s.Gives world (Envelope.head · e.inner) head →
      s.Gives world (·.text (.ref w)) (head ++ trailText e.locations)
  report : s.IsEnvelopeClass ["report"] e.cls →
    ∀ head, s.Gives world (Envelope.head · e.inner) head →
      s.Gives world (·.askReport (.ref w)) (head ++ trailText e.locations,
        .int e.locations.length, (e.locations.head?.map Location.text).elim .none .str)
  repr : s.IsEnvelopeClass ["__repr__"] e.cls →
    ∀ head, s.Gives world (·.repr e.inner) head →
      s.Gives world (·.repr (.ref w)) (head ++ trailText e.locations)

/-- What a ledger says of an envelope is seen of it. -/
theorem Ledger.Describes.shows {world : World} {n : Nat} {s : Store} {known : Ledger} {w : Ref}
    {e : Envelope.Record} (h : known.Describes s) (hw : known w = some e) :
    s.Shows world (.ofDepth world (n + 3)) w e := by
  obtain ⟨-, cause, t, ho, ht⟩ := h.object hw
  refine
    { cls := exec_classOf ho
      inner := exec_member_inner world (n + 2) ho
      locations := fun hc => ⟨t, exec_member_locations world (n + 2) ho hc, ht⟩
      origin := fun hc => exec_member_origin world (n + 2) ho hc ht
      take := fun hc => ⟨_, exec_callMember_take world (n + 1) ho hc⟩
      reduce := fun hc => ⟨_, s.objects.size, t, _, exec_callMember_reduce world (n + 1) ho hc,
        ?_, ?_, Store.extend_getElem? ht _⟩
      stack := fun hc => exec_callMember_stack ho hc ht
      text := fun hc _ => gives_text ho ht hc
      report := fun hc _ => gives_report ho hc ht
      repr := fun hc _ => gives_repr ho ht hc }
  · simp [Store.extend]
  · simp [Store.extend]

/-- An envelope whose error was taken is shown by its locations only. -/
theorem Store.Shows.taken {s : Store} {world : World} {m : Machine} {w : Ref}
    {e : Envelope.Record} (h : s.Shows world m w e.take) :
    (s.IsEnvelopeClass ["__str__"] e.cls →
      s.Gives world (·.text (.ref w)) (trailText e.locations)) ∧
    (s.IsEnvelopeClass ["__repr__"] e.cls →
      s.Gives world (·.repr (.ref w)) ("None" ++ trailText e.locations)) := by
  refine ⟨fun hc => ?_, fun hc => h.repr hc _ gives_repr_none⟩
  have htext := h.text hc _ gives_head_none
  rwa [String.empty_append] at htext

/-! ## Runs -/

/-- A run of a program that begins without envelopes: it acts on those that it makes, and between
its actions does other things, which leave them and the classes alone. -/
inductive EnvelopeRun (m : Machine) : Store → Ledger → Prop
  | start (s : Store) : EnvelopeRun m s fun _ => none
  | act {s s' : Store} {known : Ledger} {a : EnvelopeAction} {v : Value}
      (hrun : EnvelopeRun m s known) (ha : a.Allowed m s known)
      (hperform : exec (a.perform m) s = (.ok v, s')) : EnvelopeRun m s' (a.after known v)
  | other {s s' : Store} {known : Ledger} (hrun : EnvelopeRun m s known)
      (hclasses : s.KeepsClasses s') (hleaves : s.LeavesEnvelopes known s') : EnvelopeRun m s' known

/-- In every store that a run comes to, the ledger tells what is there. -/
theorem EnvelopeRun.describes {world : World} {n : Nat} {s : Store} {known : Ledger}
    (hrun : EnvelopeRun (.ofDepth world (n + 3)) s known) : known.Describes s := by
  induction hrun with
  | start s => exact ⟨nofun, nofun⟩
  | act _ ha hperform ih =>
    obtain ⟨v', s'', hstep⟩ := EnvelopeAction.step ih ha
    obtain ⟨rfl, rfl⟩ : v' = _ ∧ s'' = _ := by
      have h := hstep.performs.symm.trans hperform
      exact ⟨Except.ok.inj (Prod.ext_iff.1 h).1, (Prod.ext_iff.1 h).2⟩
    exact hstep.describes
  | other _ hclasses hleaves ih => exact ih.leave hclasses hleaves

section Next

variable {world : World} {n : Nat} {s : Store} {known : Ledger} {e : Envelope.Record}

/-- A run goes on with a new envelope. -/
theorem EnvelopeRun.makes {a : EnvelopeAction} (hrun : EnvelopeRun (.ofDepth world (n + 3)) s known)
    (ha : a.Allowed (.ofDepth world (n + 3)) s known) (hmade : a.made known = some e) :
    ∃ w s', EnvelopeRun (.ofDepth world (n + 3)) s' (known.put w e) ∧ known w = none := by
  obtain ⟨v, s', hstep⟩ := EnvelopeAction.step hrun.describes ha
  obtain ⟨w, -, rfl, hnone, -⟩ := hstep.fresh (Option.isSome_iff_exists.2 ⟨e, hmade⟩)
  refine ⟨w, s', ?_, Option.eq_none_iff_forall_ne_some.2 fun e' hw => ?_⟩
  · rw [← EnvelopeAction.after_of_made hmade]
    exact hrun.act ha hstep.performs
  · obtain ⟨-, cause, t, ho, -⟩ := hrun.describes.object hw
    rw [hnone] at ho
    cases ho

/-- A run goes on with an envelope that is told a location. -/
theorem EnvelopeRun.tells {w : Ref} (hrun : EnvelopeRun (.ofDepth world (n + 3)) s known)
    (hw : known w = some e) (hc : s.IsEnvelopeClass ["push_location"] e.cls) (site : Location) :
    ∃ s', EnvelopeRun (.ofDepth world (n + 3)) s' (known.put w (e.push site)) := by
  have ha : (EnvelopeAction.push w site).Allowed (.ofDepth world (n + 3)) s known := ⟨e, hw, hc⟩
  obtain ⟨v, s', hstep⟩ := EnvelopeAction.step hrun.describes ha
  refine ⟨s', ?_⟩
  rw [← EnvelopeAction.after_push hw site v]
  exact hrun.act ha hstep.performs

end Next

/-- At every point of a run:

* each envelope shows what is known of it (`Store.Shows`). Its locations are those that it was given
  when it was made and those that it was told since. Taking its error gives that error the first
  time and nothing from then on. Its text, its report and its representation are the error's, and
  then a line for each location; the stack has the same locations; the report tells their number and
  the first.
* each action that the program may take next is done (`EnvelopeStep`). What is made is a new object
  with a new list: a copy has the class, the error and the locations of the original, and what one
  of them is told afterwards, or what is added to the list that it was made from, is in no other
  list. -/
theorem envelopes_spec {world : World} {n : Nat} {s : Store} {known : Ledger}
    (hrun : EnvelopeRun (.ofDepth world (n + 3)) s known) :
    let m := Machine.ofDepth world (n + 3)
    (∀ w e, known w = some e → s.Shows world m w e) ∧
      ∀ a : EnvelopeAction, a.Allowed m s known → ∃ v s', EnvelopeStep m s known a v s' ∧
        ∀ w e, a.after known v w = some e → s'.Shows world m w e := by
  refine ⟨fun w e hw => hrun.describes.shows hw, fun a ha => ?_⟩
  obtain ⟨v, s', hstep⟩ := EnvelopeAction.step hrun.describes ha
  exact ⟨v, s', hstep, fun w e hw => hstep.describes.shows hw⟩

/-- An envelope is pickled between two locations that it is told. The copy has the first of them. -/
theorem envelopes_spec_pickled :
    ∃ (s : Store) (known : Ledger) (w w' : Ref), EnvelopeRun (.ofDepth {} 3) s known ∧
      s.Gives {} (·.text (.ref w))
        ("boom" ++ trailText [⟨"c.py", 10⟩, ⟨"b.py", 20⟩, ⟨"a.py", 30⟩]) ∧
      s.Gives {} (·.text (.ref w')) ("boom" ++ trailText [⟨"c.py", 10⟩, ⟨"b.py", 20⟩]) := by
  have hstart : EnvelopeRun (.ofDepth {} 3)
      { objects := #[.list [.location ⟨"c.py", 10⟩]] } fun _ => none := .start _
  -- the envelope is made from a list of the program
  obtain ⟨w, s₁, hrun₁, -⟩ := hstart.makes (n := 0)
    (a := .make (.kind .envelope) (.str "boom") (some 0) [⟨"c.py", 10⟩]) ⟨.own, rfl⟩ rfl
  obtain ⟨s₂, hrun₂⟩ := hrun₁.tells (Ledger.put_self _ w _) .own ⟨"b.py", 20⟩
  obtain ⟨-, _, t, ho, -⟩ := hrun₂.describes.object (Ledger.put_self _ w _)
  obtain ⟨w', s₃, hrun₃, hnew⟩ := hrun₂.makes (a := .reproduce w true 5 (.str "boom"))
    ⟨_, t, s₂, Ledger.put_self _ w _, .own, trailRef?_envelopeOf ho, by decide,
      Copy.reproduces_datum rfl true 5 s₂ t⟩
    (EnvelopeAction.made_reproduce (Ledger.put_self _ w _) true 5 (.str "boom"))
  have hne : w ≠ w' := by
    rintro rfl
    rw [Ledger.put_self] at hnew
    cases hnew
  obtain ⟨s₄, hrun₄⟩ := hrun₃.tells ((Ledger.put_ne hne _).trans (Ledger.put_self _ w _))
    .own ⟨"a.py", 30⟩
  refine ⟨s₄, _, w, w', hrun₄, ?_, ?_⟩
  · have hshows := (envelopes_spec hrun₄).1 w _ (Ledger.put_self _ w _)
    exact hshows.text .own _ (gives_head_str "boom")
  · have hshows := (envelopes_spec hrun₄).1 w' _
      ((Ledger.put_ne hne.symm _).trans (Ledger.put_self _ w' _))
    exact hshows.text .own _ (gives_head_str "boom")

end ErrorTrail
