import ErrorTrail.Proofs.Program.Envelope.Class

/-!
# Objects of envelopes

An envelope is an object with an error and a list of locations that is its own. A call of a class of
envelopes makes one from an error and the locations of a list (`exec_makeEnvelope`), and so do the
class method `new` (`exec_callMember_new`), a copy (`exec_shallow`) and a deep copy (`exec_deep`),
which reproduces the error as well. A location that an envelope is told goes to its list
(`exec_callMember_push`), and its error can be taken out (`exec_callMember_take`).
-/

namespace ErrorTrail

open Act

/-- An envelope of a class. -/
def Obj.envelopeOf (c cause inner : Value) (trail : Ref) : Obj :=
  .exception c [] cause (.envelope inner trail) []

variable {world : World} {n : Nat} {s : Store} {c inner : Value} {members : List String}

/-! ## Making -/

/-- The list that is given for the locations of a new envelope. -/
def Store.Lists (s : Store) (list : Option Ref) (items : List Value) : Prop :=
  match list with
  | none => items = []
  | some r => s.objects[r]? = some (.list items)

/-- The arguments of the class of envelopes. -/
def Envelope.arguments (inner : Value) (list : Option Ref) : List Value :=
  inner :: (list.map .ref).toList

theorem exec_items_list {m : Machine} {r : Ref} {items : List Value}
    (ho : s.objects[r]? = some (.list items)) : exec (m.items (.ref r)) s = (.ok items, s) := by
  simp [Machine.items, Machine.heldItems, exec_bind, ho, Obj.items?]

variable (inner) in
/-- A new exception of a class of envelopes gets its error and its own list of locations. -/
theorem exec_initialiseEnvelope (m : Machine) {r : Ref} {args items : List Value}
    {list : Option Ref} (ho : s.objects[r]? = some (.exception c args .none .plain []))
    (hlist : s.Lists list items) :
    ∃ cause,
      exec (Construct.initialiseException m .envelope r (Envelope.arguments inner list) []) s =
      (.ok (), { s.extend [.list items] with
        objects := (s.extend [.list items]).objects.setIfInBounds r
          (.envelopeOf c cause inner s.objects.size) }) := by
  obtain ⟨b, hb⟩ := exec_isException (s := s) inner
  refine ⟨if b then inner else .none, ?_⟩
  rw [Construct.initialiseException]
  cases list with
  | none =>
    have harrange : exec (Arguments.arrange ["inner", "locations"]
        (Envelope.arguments inner none) []) s = (.ok [some inner, none], s) := rfl
    obtain rfl : items = [] := hlist
    cases b <;> simp [exec_bind, ho, harrange, hb, Store.extend, Obj.envelopeOf]
  | some l =>
    have harrange : exec (Arguments.arrange ["inner", "locations"]
        (Envelope.arguments inner (some l)) []) s = (.ok [some inner, some (.ref l)], s) := rfl
    have hitems := exec_items_list (m := m) hlist
    cases b <;> simp [exec_bind, ho, harrange, hitems, hb, Store.extend, Obj.envelopeOf]

/-- An object of a class of envelopes, not yet initialised. -/
theorem exec_bareEnvelope (hc : s.IsEnvelopeClass members c) (args : List Value) :
    exec (Construct.exception c args) s =
      (.ok (.ref s.objects.size), s.extend [.exception c args .none .plain []]) := by
  have hosError : Kind.isA .envelope .osError = false := by decide
  unfold Construct.exception
  rw [exec_bind_ok hc.exec_builtinBase]
  simp only [hosError, Bool.false_eq_true, ↓reduceIte]
  simp [Store.extend]

section Call

variable {args : List Value} {r : Ref} {s₁ s₂ : Store}

/-- A call of the class of envelopes makes an object and initialises it. -/
theorem exec_call_own
    (hbare : exec (Construct.exception (.kind .envelope) args) s = (.ok (.ref r), s₁))
    (hnew : s₁.objects[r]? = some (.exception (.kind .envelope) args .none .plain []))
    (hinit : exec (Construct.initialiseException (.ofDepth world n) .envelope r args []) s₁ =
      (.ok (), s₂)) :
    exec ((Machine.ofDepth world (n + 1)).call (.kind .envelope) args []) s =
      (.ok (.ref r), s₂) := by
  have hexception : Kind.isException .envelope = true := by decide
  have hosError : Kind.isA .envelope .osError = false := by decide
  show exec (Construct.builtin (.ofDepth world n) .envelope args []) s = _
  unfold Construct.builtin
  simp only [hexception, ↓reduceIte]
  rw [exec_bind_ok hbare]
  simp [exec_bind, hnew, hosError, hinit]

/-- A call of a class of a program does the same, since the class neither makes nor initialises its
objects itself. -/
theorem exec_call_below {k : Ref} (hc : s.IsEnvelopeClass Envelope.constructors (.ref k))
    (hc₁ : s₁.IsEnvelopeClass Envelope.constructors (.ref k))
    (hbare : exec (Construct.exception (.ref k) args) s = (.ok (.ref r), s₁))
    (hnew : s₁.objects[r]? = some (.exception (.ref k) args .none .plain []))
    (hinit : exec (Construct.initialiseException (.ofDepth world n) .envelope r args []) s₁ =
      (.ok (), s₂)) :
    exec ((Machine.ofDepth world (n + 1)).call (.ref k) args []) s = (.ok (.ref r), s₂) := by
  have hinvoke : exec ((Machine.ofDepth world n).invoke (.ref k) args []) s =
      exec (Construct.instantiate (.ofDepth world n) (.ref k) args []) s := by
    cases hc with
    | below ho => simp [Machine.invoke, exec_bind, ho]
  have hnone : exec (userMember (.ref k) "__new__") s = (.ok none, s) :=
    hc.exec_userMember (by decide)
  have hmake : exec (Construct.bare (.ref k) args) s = (.ok (.ref r), s₁) := by
    have hexception : Kind.isException .envelope = true := by decide
    rw [Construct.bare, exec_bind_ok hc.exec_builtinBase]
    simp only [hexception, ↓reduceIte]
    exact hbare
  have hinstance : exec (isInstance (.ref r) (.ref k)) s₁ = (.ok true, s₁) :=
    hc₁.exec_isInstance (exec_classOf hnew)
  have hnone₁ : exec (userMember (.ref k) "__new__") s₁ = (.ok none, s₁) :=
    hc₁.exec_userMember (by decide)
  have hinit₁ : exec (userMember (.ref k) "__init__") s₁ = (.ok none, s₁) :=
    hc₁.exec_userMember (by decide)
  have hinitialise : exec (Construct.initialise (.ofDepth world n) (.ref r) args []) s₁ =
      (.ok (), s₂) := by
    rw [Construct.initialise]
    simp only [exec_bind, exec_read, hnew, Option.getD_some, hc₁.exec_builtinBase]
    exact hinit
  rw [Machine.call_ofDepth, hinvoke]
  unfold Construct.instantiate
  simp [exec_bind, hnone, hmake, hinstance, hinit₁, hnone₁, hinitialise]

end Call

variable (world n inner) in
/-- Calling a class of envelopes makes an object of it with a list of its own. -/
theorem exec_makeEnvelope (hc : s.IsEnvelopeClass Envelope.constructors c) {list : Option Ref}
    {items : List Value} (hlist : s.Lists list items) :
    ∃ cause, exec ((Machine.ofDepth world (n + 1)).call c (Envelope.arguments inner list) []) s =
      (.ok (.ref s.objects.size), s.extend
        [.envelopeOf c cause inner (s.objects.size + 1), .list items]) := by
  have hbare := exec_bareEnvelope hc (Envelope.arguments inner list)
  set s₁ := s.extend [.exception c (Envelope.arguments inner list) .none .plain []] with hs₁
  have hnew : s₁.objects[s.objects.size]? =
      some (.exception c (Envelope.arguments inner list) .none .plain []) :=
    s.extend_getElem?_size _ []
  have hc₁ : s₁.IsEnvelopeClass Envelope.constructors c :=
    (s.keepsClasses_extend _).isEnvelopeClass hc
  have hlist₁ : s₁.Lists list items := by
    cases list with
    | none => exact hlist
    | some l => exact Store.extend_getElem? hlist _
  obtain ⟨cause, hinit⟩ :=
    exec_initialiseEnvelope inner (.ofDepth world n) hnew hlist₁
  have hstore : { s₁.extend [.list items] with
      objects := (s₁.extend [.list items]).objects.setIfInBounds s.objects.size
        (.envelopeOf c cause inner s₁.objects.size) } =
      s.extend [.envelopeOf c cause inner (s.objects.size + 1), .list items] := by
    have hsize : s₁.objects.size = s.objects.size + 1 := by simp [hs₁, Store.extend]
    rw [hsize, hs₁, Store.extend_extend]
    exact Store.write_extend s _ _ _
  rw [hstore] at hinit
  refine ⟨cause, ?_⟩
  cases hc with
  | own => exact exec_call_own hbare hnew hinit
  | below ho hself hmro => exact exec_call_below (.below ho hself hmro) hc₁ hbare hnew hinit

/-! ## Members -/

section Members

variable {w t : Ref} {cause : Value}

/-- What the classes of envelopes lead to is found for an envelope of one of them. -/
theorem Store.Finds.of_envelope {name : String} {found : Option Found}
    (ho : s.objects[w]? = some (.envelopeOf c cause inner t)) (hc : s.IsEnvelopeClass members c)
    (hfind : ∀ order, s.LeadsToEnvelope members order →
      exec (findIn name order) s = (.ok found, s)) :
    s.Finds (.ref w) name found := by
  obtain ⟨order, horder, -, hleads⟩ := hc.exec_searchOrder
  exact ⟨c, order, exec_classOf ho, horder, hfind order hleads⟩

theorem exec_ownFields_envelope (ho : s.objects[w]? = some (.envelopeOf c cause inner t)) :
    exec (ownFields (.ref w)) s = (.ok [("inner", inner), ("_locations", .ref t)], s) := by
  rw [ownFields, exec_bind_ok (exec_object? ho)]
  rfl

variable (world n) in
/-- The error in an envelope. -/
theorem exec_member_inner (ho : s.objects[w]? = some (.envelopeOf c cause inner t))
    (hc : s.IsEnvelopeClass ["inner"] c) :
    exec ((Machine.ofDepth world (n + 1)).getMember (.ref w) "inner") s = (.ok inner, s) := by
  have hfinds : s.Finds (.ref w) "inner" none :=
    .of_envelope ho hc fun _ hleads => hleads.exec_findIn_inner (by decide)
  exact Machine.exec_getMember
    (Machine.exec_findMember_field ho rfl hfinds (exec_ownFields_envelope ho) rfl)

/-- A property of the class of envelopes is a member of an envelope. -/
theorem exec_member_property {name : String} {x : Value}
    (ho : s.objects[w]? = some (.envelopeOf c cause inner t)) (hc : s.IsEnvelopeClass [name] c)
    (hproperty : name ∈ Kind.envelope.properties) (hname : name ≠ "__class__")
    (hx : exec (Machine.objectProperty name (.envelopeOf c cause inner t)) s = (.ok (some x), s)) :
    exec ((Machine.ofDepth world (n + 1)).getMember (.ref w) name) s = (.ok x, s) := by
  have hfinds : s.Finds (.ref w) name (some (.property .envelope)) :=
    .of_envelope ho hc fun _ hleads =>
      hleads.exec_findIn_property (List.mem_singleton_self _) hproperty
  exact Machine.exec_getMember (Machine.exec_findMember_property ho rfl hfinds hname hx)

variable (world n) in
/-- The list of the locations of an envelope. -/
theorem exec_member_locations (ho : s.objects[w]? = some (.envelopeOf c cause inner t))
    (hc : s.IsEnvelopeClass ["locations"] c) :
    exec ((Machine.ofDepth world (n + 1)).getMember (.ref w) "locations") s =
      (.ok (.ref t), s) :=
  exec_member_property ho hc (by decide) (by decide) rfl

variable (world n) in
/-- The first of the locations of an envelope. -/
theorem exec_member_origin (ho : s.objects[w]? = some (.envelopeOf c cause inner t))
    (hc : s.IsEnvelopeClass ["origin"] c) {items : List Value}
    (ht : s.objects[t]? = some (.list items)) :
    exec ((Machine.ofDepth world (n + 1)).getMember (.ref w) "origin") s =
      (.ok (items.head?.getD .none), s) := by
  refine exec_member_property ho hc (by decide) (by decide) ?_
  simp [Obj.envelopeOf, Machine.objectProperty, Machine.listItems, exec_bind, ht]

/-- The methods of an envelope are those of the library, bound to it. -/
theorem exec_member_method (ho : s.objects[w]? = some (.envelopeOf c cause inner t))
    {name : String} (hc : s.IsEnvelopeClass [name] c)
    (hname : name ∈ Kind.envelope.methods) :
    exec ((Machine.ofDepth world (n + 1)).getMember (.ref w) name) s =
      (.ok (.bound (Machine.nativeMethod .envelope name) (.ref w)), s) := by
  have hfinds : s.Finds (.ref w) name (some (.method .envelope)) :=
    .of_envelope ho hc fun _ hleads =>
      hleads.exec_findIn_method (List.mem_singleton_self _) hname
  have hfree : ([("inner", inner), ("_locations", .ref t)] : Fields).lookup name = none := by
    have hown : ∀ n ∈ Kind.envelope.methods,
        (n == "inner") = false ∧ (n == "_locations") = false := by decide
    obtain ⟨hinner, hlocations⟩ := hown name hname
    simp [List.lookup_cons, hinner, hlocations]
  exact Machine.exec_getMember
    (Machine.exec_findMember_method ho rfl hfinds (exec_ownFields_envelope ho) hfree)

end Members

/-! ## Calls -/

/-- A call of a method of a value. -/
def Machine.callMember (m : Machine) (v : Value) (name : String) (args : List Value) :
    Act Value := do
  m.call (← m.getMember v name) args []

/-- A call of a method of the class of envelopes. -/
theorem Machine.call_envelope {name : String} (hname : name ∈ "new" :: Kind.envelope.methods)
    (self : Value) (args : List Value) :
    (ofDepth world (n + 2)).call (.bound (nativeMethod .envelope name) self) args [] =
      LibraryFunction.callEnvelope (ofDepth world n) name self args [] := by
  have hnames : ∀ name ∈ "new" :: Kind.envelope.methods,
      ((Kind.envelope.name ++ "." ++ name).toList.splitOnP (· == '.')).map String.ofList =
          ["Wherr", name] ∧ nativeMethod .envelope name ≠ completion := by
    decide
  obtain ⟨hparts, hcompletion⟩ := hnames name hname
  have hsplit : (Kind.envelope.name ++ "." ++ name).splitOn "." = ["Wherr", name] :=
    (Text.splitOn_char '.' _).trans hparts
  rw [call_boundMethod hsplit hcompletion]
  rfl

theorem exec_member_new (hc : s.IsEnvelopeClass ["new"] c) :
    exec ((Machine.ofDepth world (n + 1)).getMember c "new") s =
      (.ok (.bound (Machine.nativeMethod .envelope "new") c), s) := by
  obtain ⟨order, horder, -, hleads⟩ := hc.exec_searchOrder
  have hnew := hleads.exec_findIn_new (by decide)
  have hclass := hc.exec_isClass
  simp [Machine.getMember, Machine.member_ofDepth, Machine.findMember, Machine.classMember,
      Machine.classFact, exec_bind, horder, hnew, hclass]

/-- A store in which one object is another. -/
def Store.set (s : Store) (r : Ref) (o : Obj) : Store :=
  { s with objects := s.objects.setIfInBounds r o }

theorem Store.set_getElem? {r : Ref} {o : Obj} (h : s.objects[r]? = some o) (o' : Obj) (i : Ref) :
    (s.set r o').objects[i]? = if r = i then some o' else s.objects[i]? := by
  obtain ⟨hlt, -⟩ := Array.getElem?_eq_some_iff.1 h
  rw [Store.set, Array.getElem?_setIfInBounds]
  by_cases hi : r = i
  · rw [if_pos hi, if_pos hi, if_pos (hi ▸ hlt)]
  · rw [if_neg hi, if_neg hi]

/-- Objects that differ from the one that is replaced stay. -/
theorem Store.set_keeps {r r' : Ref} {o o₁ : Obj} (h : s.objects[r]? = some o) (o' : Obj)
    (hr : s.objects[r']? = some o₁) (hne : o₁ ≠ o) : (s.set r o').objects[r']? = some o₁ := by
  rw [Store.set_getElem? h, if_neg, hr]
  rintro rfl
  rw [h] at hr
  exact hne (Option.some.inj hr).symm

section Calls

variable {w t : Ref} {cause : Value} {items : List Value}

/-- An envelope is seen as its error and its list of locations. -/
theorem exec_view_envelope (ho : s.objects[w]? = some (.envelopeOf c cause inner t)) :
    exec (Envelope.view (.ref w)) s = (.ok (inner, t), s) := by
  simp [Envelope.view, exec_bind, exec_object? ho, Obj.envelopeOf]

/-- A method of an envelope is called as that of the library. -/
theorem exec_callMember_method (ho : s.objects[w]? = some (.envelopeOf c cause inner t))
    {name : String} (hc : s.IsEnvelopeClass [name] c) (hname : name ∈ Kind.envelope.methods)
    (args : List Value) :
    exec ((Machine.ofDepth world (n + 2)).callMember (.ref w) name args) s =
      exec (LibraryFunction.callEnvelope (.ofDepth world n) name (.ref w) args []) s := by
  rw [Machine.callMember, exec_bind_ok (exec_member_method ho hc hname),
    Machine.call_envelope (List.mem_cons_of_mem _ hname)]

variable (world n inner) in
/-- The class method makes an envelope with one location, from a list that nothing else uses. -/
theorem exec_callMember_new (hc : s.IsEnvelopeClass Envelope.constructors c)
    (hcnew : s.IsEnvelopeClass ["new"] c) (site : Location) :
    ∃ cause, exec ((Machine.ofDepth world (n + 3)).callMember c "new"
        [inner, .str site.file, .int site.line]) s =
      (.ok (.ref (s.objects.size + 1)), s.extend [.list [.location site],
        .envelopeOf c cause inner (s.objects.size + 2), .list [.location site]]) := by
  set s₁ := s.extend [.list [.location site]] with hs₁
  have hsize : s₁.objects.size = s.objects.size + 1 := by simp [hs₁, Store.extend]
  have hlist : s₁.Lists (some s.objects.size) [.location site] := by
    exact s.extend_getElem?_size _ []
  have hc₁ : s₁.IsEnvelopeClass Envelope.constructors c :=
    (s.keepsClasses_extend _).isEnvelopeClass hc
  obtain ⟨cause, hmake⟩ := exec_makeEnvelope world n inner hc₁ hlist
  have harrange : exec (Arguments.arrange ["err", "file", "line"]
      [inner, .str site.file, .int site.line] []) s =
      (.ok [some inner, some (.str site.file), some (.int site.line)], s) := rfl
  have htrail : exec (newTrail [site]) s = (.ok s.objects.size, s₁) := by
    simp [newTrail, hs₁, Store.extend]
  refine ⟨cause, ?_⟩
  rw [Machine.callMember, exec_bind_ok (exec_member_new hcnew), Machine.call_envelope (by decide),
    LibraryFunction.callEnvelope, exec_bind_ok harrange]
  simp only
  rw [exec_bind_ok (Machine.exec_siteOf site), exec_bind_ok htrail]
  rw [hsize] at hmake
  refine hmake.trans ?_
  rw [hs₁, Store.extend_extend]
  rfl

variable (world n) in
/-- A location that is told to an envelope comes at the end of its own list. -/
theorem exec_callMember_push (ho : s.objects[w]? = some (.envelopeOf c cause inner t))
    (hc : s.IsEnvelopeClass ["push_location"] c) (ht : s.objects[t]? = some (.list items))
    (site : Location) :
    exec ((Machine.ofDepth world (n + 3)).callMember (.ref w) "push_location"
        [.str site.file, .int site.line]) s = (.ok .none, s.tell t site) := by
  rw [Machine.callMember, exec_bind_ok (exec_member_method ho hc (by decide)),
    Machine.call_pushEnvelope, Store.tell_eq_write ht site]
  simp [Envelope.push, Envelope.view, Envelope.append, exec_bind, exec_object? ho, Obj.envelopeOf,
    ht, Obj.told]

variable (world n) in
/-- The error is taken out of an envelope, and nothing is left in its place. -/
theorem exec_callMember_take (ho : s.objects[w]? = some (.envelopeOf c cause inner t))
    (hc : s.IsEnvelopeClass ["take_inner"] c) :
    exec ((Machine.ofDepth world (n + 2)).callMember (.ref w) "take_inner" []) s =
      (.ok inner, s.set w (.envelopeOf c cause .none t)) := by
  have hnothing : exec (Arguments.nothing [] []) s = (.ok (), s) := rfl
  rw [exec_callMember_method ho hc (by decide), LibraryFunction.callEnvelope, exec_bind_ok hnothing]
  simp [Envelope.takeInner, exec_bind, ho, Obj.envelopeOf, Store.set]

variable (world n) in
/-- What an envelope says that it is made from: its class, with its error and its list. -/
theorem exec_callMember_reduce (ho : s.objects[w]? = some (.envelopeOf c cause inner t))
    (hc : s.IsEnvelopeClass ["__reduce__"] c) :
    exec ((Machine.ofDepth world (n + 2)).callMember (.ref w) "__reduce__" []) s =
      (.ok (.ref (s.objects.size + 1)),
        s.extend [.tuple [inner, .ref t], .tuple [c, .ref s.objects.size]]) := by
  rw [exec_callMember_method ho hc (by decide), LibraryFunction.callEnvelope,
    exec_bind_ok (exec_view_envelope ho)]
  simp only
  rw [exec_bind_ok (exec_classOf ho)]
  have happend (os : Array Obj) (a b : Obj) : (os.push a).push b = os ++ #[a, b] := rfl
  simp [exec_bind, Store.extend, Obj.envelopeOf, Obj.cls?, happend]

variable (world n) in
/-- A location at the end of a list of the program. -/
theorem exec_callMember_append (ht : s.objects[t]? = some (.list items)) (site : Location) :
    exec ((Machine.ofDepth world (n + 2)).callMember (.ref t) "append" [.location site]) s =
      (.ok .none, s.tell t site) := by
  have hfinds : s.Finds (.ref t) "append" (some (.method .list)) := .of_kind (exec_classOf ht) rfl
  have hown : exec (ownFields (.ref t)) s = (.ok [], s) := by
    rw [ownFields, exec_bind_ok (exec_object? ht)]
    rfl
  have hmember : exec ((Machine.ofDepth world (n + 2)).getMember (.ref t) "append") s =
      (.ok (.bound (Machine.nativeMethod .list "append") (.ref t)), s) :=
    Machine.exec_getMember (Machine.exec_findMember_method ht rfl hfinds hown rfl)
  have hsplit : (Kind.list.name ++ "." ++ "append").splitOn "." = ["list", "append"] := by
    rw [Text.splitOn_char '.']
    decide
  have hone : exec (Arguments.one "object" [.location site] []) s = (.ok (.location site), s) := rfl
  rw [Machine.callMember, exec_bind_ok hmember, Machine.call_boundMethod hsplit (by decide),
    Store.tell_eq_write ht site]
  simp [Native.callMethod, Native.withObject, CollectionMethod.callList, exec_bind, ht, hone,
    Obj.told]

end Calls

/-! ## Copies -/

section Copies

variable {m : Machine} {w t : Ref} {cause : Value} {items : List Value} {s₁ : Store}

variable (world n) in
/-- A copy of an envelope holds the same error and a list of its own. -/
theorem exec_shallow (ho : s.objects[w]? = some (.envelopeOf c cause inner t))
    (hc : s.IsEnvelopeClass Envelope.constructors c) (ht : s.objects[t]? = some (.list items)) :
    ∃ cause, exec (Copy.shallow (.ofDepth world (n + 1)) (.ref w)) s =
      (.ok (.ref s.objects.size), s.extend
        [.envelopeOf c cause inner (s.objects.size + 1), .list items]) := by
  have hlist : s.Lists (some t) items := ht
  obtain ⟨cause', hmake⟩ := exec_makeEnvelope world n inner hc hlist
  refine ⟨cause', ?_⟩
  rw [Copy.shallow, exec_bind_ok (exec_object? ho)]
  exact hmake

variable (m) in
/-- Locations are copied as they are. -/
theorem exec_deepAll_locations (anew : Bool) (memo : Copy.Memo) (trail : List Location) {fuel : Nat}
    (hfuel : trail.length < fuel) :
    exec (Copy.deepAll m anew fuel memo (trail.map .location)) s =
      (.ok (trail.map .location, memo), s) := by
  induction trail generalizing fuel with
  | nil =>
    obtain ⟨fuel, rfl⟩ : ∃ k, fuel = k + 1 := ⟨fuel - 1, by omega⟩
    rfl
  | cons l trail ih =>
    obtain ⟨fuel, rfl⟩ : ∃ k, fuel = k + 2 := ⟨fuel - 2, by simp at hfuel; omega⟩
    have hlt : trail.length < fuel + 1 := Nat.lt_of_succ_lt_succ hfuel
    have hrest := ih hlt
    have hl : exec (Copy.deep m anew (fuel + 1) memo (.location l)) s =
        (.ok (.location l, memo), s) := rfl
    rw [List.map_cons, Copy.deepAll, exec_bind_ok hl]
    simp only
    rw [exec_bind_ok hrest]
    rfl

/-- A list of locations that was not copied before is copied as a new list of them. -/
theorem exec_deep_trail {anew : Bool} {memo : Copy.Memo} {trail : List Location} {fuel : Nat}
    (ht : s.objects[t]? = some (.list (trail.map .location))) (hmemo : memo.lookup t = none)
    (hfuel : trail.length < fuel) :
    exec (Copy.deep m anew (fuel + 1) memo (.ref t)) s =
      (.ok (.ref s.objects.size, (t, .ref s.objects.size) :: memo),
        s.extend [.list (trail.map .location)]) := by
  have hall := exec_deepAll_locations (s := s.extend [.list []]) m anew
    ((t, .ref s.objects.size) :: memo) trail hfuel
  have hnew : exec (alloc (.list [])) s = (.ok s.objects.size, s.extend [.list []]) := by
    simp [Store.extend]
  have hread : exec (read t) s = (.ok (.list (trail.map .location)), s) := by simp [ht]
  rw [Copy.deep]
  simp only [hmemo]
  rw [exec_bind_ok hread]
  simp only
  rw [exec_bind_ok hnew, exec_bind_ok hall]
  simp only
  rw [exec_bind_ok (exec_write _ _ _), Store.write_extend]
  rfl

/-- A deep copy of the error in an envelope whose locations are at `t` comes out as `inner'`: no
object that was there is changed, and if the error comes by the list of the locations, it has a copy
of it. -/
structure Copy.Reproduces (m : Machine) (anew : Bool) (fuel : Nat) (s : Store) (t : Ref)
    (inner inner' : Value) (s₁ : Store) : Prop where
  copies : ∃ memo, exec (Copy.deep m anew fuel [] inner) s = (.ok (inner', memo), s₁) ∧
    ∀ v, memo.lookup t = some v → ∃ t', v = .ref t' ∧ s₁.objects[t']? = s.objects[t]?
  keeps : ∀ ⦃r : Ref⦄ ⦃o : Obj⦄, s.objects[r]? = some o → s₁.objects[r]? = some o

/-- Data are their own copies. -/
theorem Copy.reproduces_datum {v : Value} (hv : v.isDatum) (anew : Bool) (fuel : Nat) (s : Store)
    (t : Ref) : Copy.Reproduces m anew (fuel + 1) s t v v s := by
  have hcopy : exec (Copy.deep m anew (fuel + 1) [] v) s = (.ok (v, []), s) := by
    cases v with
    | ref r => exact absurd hv Bool.false_ne_true
    | _ => rfl
  exact ⟨⟨[], hcopy, nofun⟩, fun _ _ ho => ho⟩

variable (world n) in
/-- A deep copy of an envelope holds the copy of the error and a list of its own. -/
theorem exec_deep {anew : Bool} {inner' : Value} {trail : List Location} {fuel : Nat}
    (ho : s.objects[w]? = some (.envelopeOf c cause inner t))
    (hc : s.IsEnvelopeClass Envelope.constructors c)
    (ht : s.objects[t]? = some (.list (trail.map .location))) (hfuel : trail.length < fuel)
    (hinner : Copy.Reproduces (.ofDepth world (n + 1)) anew (fuel + 1) s t inner inner' s₁) :
    ∃ memo more cause, exec (Copy.deep (.ofDepth world (n + 1)) anew (fuel + 2) [] (.ref w)) s =
      (.ok (.ref (s₁.extend more).objects.size, memo), (s₁.extend more).extend
        [.envelopeOf c cause inner' ((s₁.extend more).objects.size + 1),
          .list (trail.map .location)]) := by
  obtain ⟨memo, hcopy, hmemo⟩ := hinner.copies
  have hc₁ : s₁.IsEnvelopeClass Envelope.constructors c :=
    Store.KeepsClasses.isEnvelopeClass (fun _ _ _ _ _ _ ho => hinner.keeps ho) hc
  have ht₁ := hinner.keeps ht
  -- the list of the copied locations is new, or a copy that the error has
  obtain ⟨more, t', memo', htrail, ht'⟩ : ∃ more t' memo',
      exec (Copy.deep (.ofDepth world (n + 1)) anew (fuel + 1) memo (.ref t)) s₁ =
        (.ok (.ref t', memo'), s₁.extend more) ∧
      (s₁.extend more).objects[t']? = some (.list (trail.map .location)) := by
    rcases hlookup : memo.lookup t with _ | v
    · exact ⟨_, _, _, exec_deep_trail ht₁ hlookup hfuel, s₁.extend_getElem?_size _ []⟩
    · obtain ⟨t', rfl, hsame⟩ := hmemo v hlookup
      refine ⟨[], t', memo, ?_, ?_⟩
      · rw [Copy.deep]
        simp [hlookup]
      · rw [Store.extend_nil, hsame, ht]
  have hc₂ : (s₁.extend more).IsEnvelopeClass Envelope.constructors c :=
    (s₁.keepsClasses_extend more).isEnvelopeClass hc₁
  have hlist : (s₁.extend more).Lists (some t') (trail.map .location) := ht'
  obtain ⟨cause', hmake⟩ := exec_makeEnvelope world n inner' hc₂ hlist
  have hread : exec (read w) s = (.ok (.envelopeOf c cause inner t), s) := by simp [ho]
  refine ⟨(w, .ref (s₁.extend more).objects.size) :: memo', more, cause', ?_⟩
  rw [Copy.deep]
  simp only [List.lookup_nil]
  rw [exec_bind_ok hread, Obj.envelopeOf]
  simp only
  rw [exec_bind_ok hcopy]
  simp only
  rw [exec_bind_ok htrail]
  exact exec_bind_ok hmake

end Copies

end ErrorTrail
