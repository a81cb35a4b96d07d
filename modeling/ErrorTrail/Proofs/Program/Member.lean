import ErrorTrail.Proofs.Program.Run

/-!
# Members of instances

The search for a member of an object whose class is built in: the classes above its own are searched
in order (`exec_findIn_kinds`), and a program adds nothing to them (`exec_userMethod_kind`).

What the search finds (`Store.Finds`) settles which member of an object it is: a property of its
classes, a field of its own or a method bound to it (`Machine.exec_findMember_property`,
`Machine.exec_findMember_field`, `Machine.exec_findMember_method`), or none
(`Machine.exec_findMember_none`).
-/

namespace ErrorTrail

open Act

theorem exec_findIn_kinds {name : String} {ks : List Kind} (s : Store)
    (h : ∀ k ∈ ks, name ∉ k.properties ∧ name ∉ k.methods ∧ name ∉ k.classMethods) :
    exec (findIn name (ks.map .kind)) s = (.ok none, s) := by
  induction ks with
  | nil => rfl
  | cons k ks ih =>
    obtain ⟨hp, hm, hc⟩ := h k List.mem_cons_self
    have hks := ih fun k' hk' => h k' (List.mem_cons_of_mem _ hk')
    simp [findIn, hp, hm, hc, hks]

/-- No built-in class has a member `inner`. -/
theorem Kind.inner_not_mem (k : Kind) :
    "inner" ∉ k.properties ∧ "inner" ∉ k.methods ∧ "inner" ∉ k.classMethods := by
  cases k <;> decide

theorem exec_search_kinds (name : String) (ks : List Kind) (s : Store) :
    exec (userMember.search name (ks.map .kind)) s = (.ok none, s) := by
  induction ks with
  | nil => rfl
  | cons k ks ih => simpa [userMember.search] using ih

theorem exec_searchOrder_kind (k : Kind) (s : Store) :
    exec (searchOrder (.kind k)) s = (.ok (k.ancestors.map .kind), s) := rfl

/-- A program gives no methods to the instances of built-in classes. -/
theorem exec_userMethod_kind {v : Value} {k : Kind} {s : Store}
    (hv : exec (classOf v) s = (.ok (.kind k), s)) (name : String) :
    exec (userMethod v name) s = (.ok none, s) := by
  rw [userMethod, exec_bind_ok hv, userMember, exec_bind_ok (exec_searchOrder_kind k s),
    exec_search_kinds]

theorem exec_classOf {r : Ref} {s : Store} {o : Obj} (h : s.objects[r]? = some o) :
    exec (classOf (.ref r)) s = (.ok o.cls?, s) := by
  show (Except.ok ((s.objects[r]?).getD (.cell none)).cls?, s) = _
  rw [h]
  rfl

/-! ## What is found -/

/-- What the search of the classes of a value finds for a name. -/
def Store.Finds (s : Store) (v : Value) (name : String) (found : Option Found) : Prop :=
  ∃ c order, exec (classOf v) s = (.ok c, s) ∧ exec (searchOrder c) s = (.ok order, s) ∧
    exec (findIn name order) s = (.ok found, s)

/-- The classes above a built-in class are those that are searched for its instances. -/
theorem Store.Finds.of_kind {s : Store} {v : Value} {k : Kind} {name : String}
    {found : Option Found} (hv : exec (classOf v) s = (.ok (.kind k), s))
    (hfind : exec (findIn name (k.ancestors.map .kind)) s = (.ok found, s)) :
    s.Finds v name found :=
  ⟨_, _, hv, exec_searchOrder_kind k s, hfind⟩

/-- Whether an object is neither a class nor a view of the classes above one. -/
def Obj.isInstance : Obj → Bool
  | .cls _ _ _ _ _ | .superProxy _ _ => false
  | _ => true

namespace Machine

variable {m : Machine} {s : Store} {r : Ref} {o : Obj} {name : String} {k : Kind} {x : Value}

/-- The members of an instance are those of its classes and its own. -/
theorem exec_findMember_instance (ho : s.objects[r]? = some o) (hinstance : o.isInstance)
    (name : String) :
    exec (m.findMember (.ref r) name) s = exec (m.instanceMember (.ref r) name) s := by
  have hclass : exec (isClass (.ref r)) s = (.ok false, s) := by
    cases o <;> first
      | exact absurd hinstance Bool.false_ne_true
      | simp [isClass, exec_bind, ho]
  rw [findMember, exec_bind_ok hclass]
  simp only [Bool.false_eq_true, ↓reduceIte]
  rw [exec_bind_ok (exec_object? ho)]
  cases o <;> first
    | exact absurd hinstance Bool.false_ne_true
    | rfl

/-- A property of the classes comes before the fields of the object. -/
theorem exec_findMember_property (ho : s.objects[r]? = some o) (hinstance : o.isInstance)
    (hfinds : s.Finds (.ref r) name (some (.property k))) (hname : name ≠ "__class__")
    (hx : exec (objectProperty name o) s = (.ok (some x), s)) :
    exec (m.findMember (.ref r) name) s = (.ok (some x), s) := by
  obtain ⟨c, order, hclass, horder, hfind⟩ := hfinds
  have hproperty : exec (nativeProperty (.ref r) name) s = (.ok (some x), s) := by
    simp [nativeProperty, hname, exec_bind, ho, hx]
  rw [exec_findMember_instance ho hinstance]
  unfold instanceMember
  rw [exec_bind_ok hclass, exec_bind_ok horder, exec_bind_ok hfind]
  simp [exec_bind, hproperty]

/-- A field of the object is found where its classes have nothing. -/
theorem exec_findMember_field {fields : Fields} (ho : s.objects[r]? = some o)
    (hinstance : o.isInstance) (hfinds : s.Finds (.ref r) name none)
    (hown : exec (ownFields (.ref r)) s = (.ok fields, s)) (hx : fields.lookup name = some x) :
    exec (m.findMember (.ref r) name) s = (.ok (some x), s) := by
  obtain ⟨c, order, hclass, horder, hfind⟩ := hfinds
  rw [exec_findMember_instance ho hinstance]
  unfold instanceMember
  rw [exec_bind_ok hclass, exec_bind_ok horder, exec_bind_ok hfind]
  simp [exec_bind, hown, hx]

/-- A method of the classes is bound to the object that has no such field. -/
theorem exec_findMember_method {fields : Fields} (ho : s.objects[r]? = some o)
    (hinstance : o.isInstance) (hfinds : s.Finds (.ref r) name (some (.method k)))
    (hown : exec (ownFields (.ref r)) s = (.ok fields, s)) (hfree : fields.lookup name = none) :
    exec (m.findMember (.ref r) name) s =
      (.ok (some (.bound (nativeMethod k name) (.ref r))), s) := by
  obtain ⟨c, order, hclass, horder, hfind⟩ := hfinds
  rw [exec_findMember_instance ho hinstance]
  unfold instanceMember
  rw [exec_bind_ok hclass, exec_bind_ok horder, exec_bind_ok hfind]
  simp [exec_bind, hown, hfree]

/-- An instance of a built-in class has no other members, unless another library gave it. -/
theorem exec_findMember_none {fields : Fields} (ho : s.objects[r]? = some o)
    (hinstance : o.isInstance) (hforeign : ∀ f, o ≠ .foreign f)
    (hclass : exec (classOf (.ref r)) s = (.ok (.kind k), s))
    (hfind : exec (findIn name (k.ancestors.map .kind)) s = (.ok none, s))
    (hown : exec (ownFields (.ref r)) s = (.ok fields, s)) (hfree : fields.lookup name = none)
    (hdict : name ≠ "__dict__") (hdoc : name ≠ "__doc__") :
    exec (m.findMember (.ref r) name) s = (.ok none, s) := by
  have hobject := exec_object? ho
  have hmethod := exec_userMethod_kind hclass "__getattr__"
  rw [exec_findMember_instance ho hinstance]
  unfold instanceMember
  rw [exec_bind_ok hclass, exec_bind_ok (exec_searchOrder_kind k s), exec_bind_ok hfind]
  cases o <;> first
    | exact absurd rfl (hforeign _)
    | simp [exec_bind, hown, hfree, hobject, hdict, hmethod]

/-- A member that is found is the answer of the machine above. -/
theorem exec_getMember {world : World} {n : Nat} {v : Value} {s' : Store}
    (h : exec ((ofDepth world n).findMember v name) s = (.ok (some x), s')) :
    exec ((ofDepth world (n + 1)).getMember v name) s = (.ok x, s') := by
  rw [getMember, exec_bind_ok (show exec ((ofDepth world (n + 1)).member v name) s = _ from h)]
  rfl

end Machine

/-- The method of a result that hands its payload on. -/
theorem exec_getMember_propagate {world : World} {n : Nat} {s : Store} {r : Ref} {isOk : Bool}
    {payload : Value} (ho : s.objects[r]? = some (.result isOk payload)) :
    exec ((Machine.ofDepth world (n + 1)).getMember (.ref r) "propagate") s =
      (.ok (.bound (Machine.nativeMethod .result "propagate") (.ref r)), s) := by
  have hfinds : s.Finds (.ref r) "propagate" (some (.method .result)) :=
    .of_kind (exec_classOf ho) rfl
  have hown : exec (ownFields (.ref r)) s = (.ok [], s) := by
    rw [ownFields, exec_bind_ok (exec_object? ho)]
    rfl
  exact Machine.exec_getMember (Machine.exec_findMember_method ho rfl hfinds hown rfl)

end ErrorTrail
