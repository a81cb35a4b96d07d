import ErrorTrail.Proofs.Program.Site

/-!
# Classes of envelopes

A program may make classes below the class of envelopes. One that takes over some of its members
(`Store.IsEnvelopeClass`) has those of the library: the search for them comes to the class of
envelopes (`Store.LeadsToEnvelope.exec_findIn`) and finds none of the program on the way
(`Store.IsEnvelopeClass.exec_userMember`).
-/

namespace ErrorTrail

open Act

/-! ## Classes -/

/-- The object at `r` is a class of a program that has none of some members itself. -/
def Store.Inherits (s : Store) (members : List String) (r : Ref) : Prop :=
  ∃ name path bases mro fields, s.objects[r]? = some (.cls name path bases mro fields) ∧
    ∀ n ∈ members, fields.lookup n = none

/-- The classes that are searched for a member of an envelope: some of a program, then the class of
envelopes, and more above it. Those of the program have none of some members themselves. -/
structure Store.LeadsToEnvelope (s : Store) (members : List String) (order : List Value) :
    Prop where
  split : ∃ (below : List Ref) (above : List Value),
    order = below.map .ref ++ .kind .envelope :: above
  inherits : ∀ r, .ref r ∈ order → s.Inherits members r

/-- A class of envelopes with some members of the library: the class itself, or one of a program
below it that takes them over. -/
inductive Store.IsEnvelopeClass (s : Store) (members : List String) : Value → Prop
  | own : s.IsEnvelopeClass members (.kind .envelope)
  | below {r : Ref} {name path : String} {bases mro : List Value} {fields : Fields}
      (ho : s.objects[r]? = some (.cls name path bases mro fields)) (hself : .ref r ∈ mro)
      (hmro : s.LeadsToEnvelope members mro) : s.IsEnvelopeClass members (.ref r)

/-- A class that takes these over has no constructor of its own. -/
def Envelope.constructors : List String := ["__init__", "__new__"]

variable {world : World} {n : Nat} {s s' : Store} {c : Value} {order : List Value}
  {members : List String}

/-- The classes of a store are in another as they are. -/
def Store.KeepsClasses (s s' : Store) : Prop :=
  ∀ ⦃r : Ref⦄ ⦃name path : String⦄ ⦃bases mro : List Value⦄ ⦃fields : Fields⦄,
    s.objects[r]? = some (.cls name path bases mro fields) →
      s'.objects[r]? = some (.cls name path bases mro fields)

theorem Store.KeepsClasses.leadsToEnvelope (h : s.KeepsClasses s')
    (ho : s.LeadsToEnvelope members order) : s'.LeadsToEnvelope members order := by
  refine ⟨ho.split, fun r hr => ?_⟩
  obtain ⟨name, path, bases, mro, fields, hclass, hfree⟩ := ho.inherits r hr
  exact ⟨name, path, bases, mro, fields, h hclass, hfree⟩

theorem Store.KeepsClasses.isEnvelopeClass (h : s.KeepsClasses s')
    (hc : s.IsEnvelopeClass members c) : s'.IsEnvelopeClass members c := by
  cases hc with
  | own => exact .own
  | below ho hself hmro => exact .below (h ho) hself (h.leadsToEnvelope hmro)

theorem Store.keepsClasses_extend (s : Store) (more : List Obj) : s.KeepsClasses (s.extend more) :=
  fun _ _ _ _ _ _ ho => Store.extend_getElem? ho more

/-! ### The search -/

namespace Store.LeadsToEnvelope

/-- No class of a program has one of the members. -/
theorem exec_search (h : s.LeadsToEnvelope members order) {name : String}
    (hname : name ∈ members) :
    exec (userMember.search name order) s = (.ok none, s) := by
  have hinherits := h.inherits
  clear h
  induction order with
  | nil => rfl
  | cons v order ih =>
    have hrest := ih fun r hr => hinherits r (List.mem_cons_of_mem _ hr)
    cases v with
    | ref r =>
      obtain ⟨_, _, _, _, fields, ho, hfree⟩ := hinherits r List.mem_cons_self
      simp [userMember.search, exec_bind, ho, hfree name hname, hrest]
    | _ => exact hrest

/-- The search for a member comes to the class of envelopes. -/
theorem exec_findIn (h : s.LeadsToEnvelope members order) {name : String}
    (hname : name ∈ members) :
    ∃ above, (∀ r, .ref r ∈ above → s.Inherits members r) ∧
      exec (findIn name order) s = exec (findIn name (.kind .envelope :: above)) s := by
  obtain ⟨⟨below, above, rfl⟩, hinherits⟩ := h
  refine ⟨above, fun r hr => hinherits r (by simp [hr]), ?_⟩
  induction below with
  | nil => rfl
  | cons r below ih =>
    have hrest := ih fun r' hr' => hinherits r' (List.mem_cons_of_mem _ hr')
    obtain ⟨_, _, _, _, fields, ho, hfree⟩ := hinherits r List.mem_cons_self
    simp [findIn, exec_bind, ho, hfree name hname, hrest]

/-- The error of an envelope is no member of its classes. -/
theorem exec_findIn_inner (h : s.LeadsToEnvelope members order) (hinner : "inner" ∈ members) :
    exec (findIn "inner" order) s = (.ok none, s) := by
  obtain ⟨above, hinherits, hfind⟩ := h.exec_findIn hinner
  rw [hfind]
  have hclasses : ∀ r, .ref r ∈ Value.kind .envelope :: above → s.Inherits members r := by
    simpa using hinherits
  clear hfind hinherits h
  generalize Value.kind .envelope :: above = classes at hclasses ⊢
  induction classes with
  | nil => rfl
  | cons v classes ih =>
    have hrest := ih fun r hr => hclasses r (List.mem_cons_of_mem _ hr)
    cases v with
    | ref r =>
      obtain ⟨_, _, _, _, fields, ho, hfree⟩ := hclasses r List.mem_cons_self
      simp [findIn, exec_bind, ho, hfree "inner" hinner, hrest]
    | kind k =>
      obtain ⟨hproperty, hmethod, hclassMethod⟩ := k.inner_not_mem
      simp [findIn, hproperty, hmethod, hclassMethod, hrest]
    | _ => exact hrest

theorem exec_findIn_property (h : s.LeadsToEnvelope members order) {name : String}
    (hname : name ∈ members) (hproperty : name ∈ Kind.envelope.properties) :
    exec (findIn name order) s = (.ok (some (.property .envelope)), s) := by
  obtain ⟨above, -, hfind⟩ := h.exec_findIn hname
  rw [hfind, findIn, if_pos (by simpa using hproperty)]
  rfl

theorem exec_findIn_method (h : s.LeadsToEnvelope members order) {name : String}
    (hname : name ∈ members) (hmethod : name ∈ Kind.envelope.methods) :
    exec (findIn name order) s = (.ok (some (.method .envelope)), s) := by
  have hproperty : ∀ n ∈ Kind.envelope.methods, n ∉ Kind.envelope.properties := by decide
  obtain ⟨above, -, hfind⟩ := h.exec_findIn hname
  rw [hfind, findIn, if_neg (by simpa using hproperty name hmethod),
    if_pos (by simpa using hmethod)]
  rfl

theorem exec_findIn_new (h : s.LeadsToEnvelope members order) (hnew : "new" ∈ members) :
    exec (findIn "new" order) s = (.ok (some (.classMethod .envelope)), s) := by
  obtain ⟨above, -, hfind⟩ := h.exec_findIn hnew
  rw [hfind]
  rfl

end Store.LeadsToEnvelope

namespace Store.IsEnvelopeClass

theorem exec_searchOrder (h : s.IsEnvelopeClass members c) :
    ∃ order, exec (searchOrder c) s = (.ok order, s) ∧ c ∈ order ∧
      s.LeadsToEnvelope members order := by
  cases h with
  | own =>
    refine ⟨_, exec_searchOrder_kind .envelope s, by decide, ⟨[], _, rfl⟩, fun r hr => ?_⟩
    simp at hr
  | below ho hself hmro => exact ⟨_, by simp [searchOrder, exec_bind, ho], hself, hmro⟩

theorem exec_isClass (h : s.IsEnvelopeClass members c) : exec (isClass c) s = (.ok true, s) := by
  cases h with
  | own => rfl
  | below ho => simp [isClass, exec_bind, ho]

/-- A program gives the objects of a class of envelopes none of the members that it takes over. -/
theorem exec_userMember (h : s.IsEnvelopeClass members c) {name : String}
    (hname : name ∈ members) :
    exec (userMember c name) s = (.ok none, s) := by
  obtain ⟨order, horder, -, hleads⟩ := h.exec_searchOrder
  rw [userMember, exec_bind_ok horder, hleads.exec_search hname]

theorem exec_builtinBase (h : s.IsEnvelopeClass members c) :
    exec (builtinBase c) s = (.ok .envelope, s) := by
  obtain ⟨order, horder, -, ⟨below, above, rfl⟩, -⟩ := h.exec_searchOrder
  have hbelow : below.findSome? (fun _ => (none : Option Kind)) = none := by simp
  rw [builtinBase, exec_bind_ok horder]
  simp [List.findSome?_append, List.findSome?_map, Function.comp_def, hbelow]

/-- The instances of a class of envelopes are those objects that are told to be of it. -/
theorem exec_isInstance (h : s.IsEnvelopeClass members c) {v : Value}
    (hv : exec (classOf v) s = (.ok c, s)) : exec (isInstance v c) s = (.ok true, s) := by
  obtain ⟨order, horder, hmem, -⟩ := h.exec_searchOrder
  rw [isInstance, exec_bind_ok hv, isSubclass, exec_bind_ok horder]
  simp [hmem]

end Store.IsEnvelopeClass

end ErrorTrail
