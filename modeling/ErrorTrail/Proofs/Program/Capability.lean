import ErrorTrail.Proofs.Program.Member

/-!
# Which errors take sites

The errors of a program are of three kinds: plain values, which have no member `inner`; envelopes,
whose members are those of their class and whose locations are in a list of their own; and error
objects of other libraries, which may lack members. `Store.IsError` describes them, and
`Store.trailRef?` is the object that keeps the locations of an error that takes any.

`exec_isCapable` ties this to what the code asks of an error, member by member: it holds for the
errors that have a `trailRef?`, and asking makes at most an unused list.
-/

namespace ErrorTrail

open Act

/-! ## Kinds of errors -/

/-- A value that is data and has no members of a program. -/
def Value.isDatum : Value → Bool
  | .none | .bool _ | .int _ | .float _ _ | .str _ | .bytes _ | .ellipsis | .notImplemented
  | .location _ => true
  | _ => false

/-- Whether an object is a collection, a result, a report or a path. -/
def Obj.isPlain : Obj → Bool
  | .list _ | .tuple _ | .dict _ | .set _ _ | .range _ _ _ | .slice _ _ _ | .result _ _
  | .report _ | .path _ => true
  | _ => false

/-- Whether the detail of an exception is that of an envelope. -/
def Detail.isEnvelope : Detail → Bool
  | .envelope _ _ => true
  | _ => false

/-- An envelope of the class of envelopes. -/
def Obj.envelope (args : List Value) (cause inner : Value) (trail : Ref) (fields : Fields) : Obj :=
  .exception (.kind .envelope) args cause (.envelope inner trail) fields

/-- Whether fields leave the members of an envelope alone. -/
def Fields.free (fields : Fields) : Prop :=
  ∀ p ∈ Envelope.capabilities, fields.lookup p.1 = none

/-- Whether an error object of another library has a member of an envelope. -/
def Foreign.has (f : Foreign) (p : String × Bool) : Bool :=
  !f.missing.contains p.1 && !(p.2 && f.blocked.contains p.1)

/-- Whether an error object of another library has all members of an envelope. -/
def Foreign.capable (f : Foreign) : Bool := Envelope.capabilities.all f.has

/-- The object that keeps the locations of an error, if the error takes any. -/
def Store.trailRef? (s : Store) : Value → Option Ref
  | .ref r =>
    match s.objects[r]? with
    | some (.exception _ _ _ (.envelope _ trail) _) => some trail
    | some (.foreign f) => if f.capable then some r else none
    | _ => none
  | _ => none

/-- `o'` is `o` apart from the locations that it keeps. -/
inductive Obj.Keeps : Obj → Obj → Prop
  | refl (o : Obj) : Keeps o o
  | list (xs ys : List Value) : Keeps (.list xs) (.list ys)
  | foreign (f : Foreign) (pushed : List Location) :
      Keeps (.foreign f) (.foreign { f with pushed })

/-- Every object of `s` is one of `s'`, apart from the locations that it keeps. -/
def Store.Grows (s s' : Store) : Prop :=
  ∀ ⦃r : Ref⦄ ⦃o : Obj⦄, s.objects[r]? = some o → ∃ o', s'.objects[r]? = some o' ∧ o.Keeps o'

theorem Store.Grows.refl (s : Store) : s.Grows s := fun _ o h => ⟨o, h, .refl o⟩

theorem Store.Grows.trans {s s' s'' : Store} (h : s.Grows s') (h' : s'.Grows s'') :
    s.Grows s'' := by
  intro r o ho
  obtain ⟨o', ho', hkeeps⟩ := h ho
  obtain ⟨o'', ho'', hkeeps'⟩ := h' ho'
  refine ⟨o'', ho'', ?_⟩
  cases hkeeps with
  | refl => exact hkeeps'
  | list xs ys => cases hkeeps' <;> exact .list xs _
  | foreign f pushed => cases hkeeps' <;> exact .foreign f _

/-- The errors that a store holds. -/
inductive Store.IsError (s : Store) : Value → Prop
  /-- a plain error: the code finds no member `inner` in it, now or later -/
  | lacking {v : Value} (hv : ∀ r, v = .ref r → r < s.objects.size) (htrail : s.trailRef? v = none)
      (hinner : ∀ world n s', s.Grows s' →
        exec ((Machine.ofDepth world n).findMember v "inner") s' = (.ok none, s')) : s.IsError v
  | envelope {r trail : Ref} {args : List Value} {cause inner : Value} {fields : Fields}
      {items : List Value} (ho : s.objects[r]? = some (.envelope args cause inner trail fields))
      (hfree : fields.free) (htrail : s.objects[trail]? = some (.list items)) : s.IsError (.ref r)
  | foreign {r : Ref} {f : Foreign} (ho : s.objects[r]? = some (.foreign f)) : s.IsError (.ref r)

/-- A store with more objects. -/
def Store.extend (s : Store) (more : List Obj) : Store :=
  { s with objects := s.objects ++ more.toArray }

@[simp] theorem Store.extend_nil (s : Store) : s.extend [] = s := by simp [Store.extend]

@[simp] theorem Store.extend_extend (s : Store) (more more' : List Obj) :
    (s.extend more).extend more' = s.extend (more ++ more') := by
  simp [Store.extend]

theorem Store.extend_getElem?_size (s : Store) (o : Obj) (more : List Obj) :
    (s.extend (o :: more)).objects[s.objects.size]? = some o := by
  simp [Store.extend]

/-- What is written to a new object is there as if it had been made so. -/
theorem Store.write_extend (s : Store) (o o' : Obj) (more : List Obj) :
    { s.extend (o :: more) with
      objects := (s.extend (o :: more)).objects.setIfInBounds s.objects.size o' } =
        s.extend (o' :: more) := by
  have hobjects : (s.extend (o :: more)).objects.setIfInBounds s.objects.size o' =
      (s.extend (o' :: more)).objects := by
    refine Array.ext_getElem? fun i => ?_
    rw [Array.getElem?_setIfInBounds, extend, extend, Array.getElem?_append,
      Array.getElem?_append]
    by_cases hi : s.objects.size = i
    · subst hi
      simp
    · rcases hd : i - s.objects.size with _ | d
      · rw [if_neg hi, if_pos (by omega), if_pos (by omega)]
      · simp [hi]
  rw [hobjects]
  rfl

variable {m : Machine} {s : Store} {r : Ref}

/-! ## Members of errors -/

/-- Data have no member `inner`. -/
theorem exec_findMember_datum {v : Value} (hv : v.isDatum) :
    exec (m.findMember v "inner") s = (.ok none, s) := by
  have hclass : ∃ k, exec (classOf v) s = (.ok (.kind k), s) := by
    cases v <;> first | exact absurd hv Bool.false_ne_true | exact ⟨_, rfl⟩
  obtain ⟨k, hk⟩ := hclass
  have horder := exec_searchOrder_kind k s
  have hfind := exec_findIn_kinds s fun k' (_ : k' ∈ k.ancestors) => k'.inner_not_mem
  have hmethod := exec_userMethod_kind hk "__getattr__"
  cases v <;> first
    | exact absurd hv Bool.false_ne_true
    | simp [Machine.findMember, Machine.instanceMember, isClass, object?, ownFields, exec_bind, hk,
        horder, hfind, hmethod]

/-- Plain objects have no member `inner`. -/
theorem exec_findMember_plain {o : Obj} (ho : s.objects[r]? = some o) (hplain : o.isPlain) :
    exec (m.findMember (.ref r) "inner") s = (.ok none, s) := by
  have hclass : ∃ k, o.cls? = .kind k := by
    cases o with
    | set items frozen => cases frozen <;> exact ⟨_, rfl⟩
    | _ => first | exact absurd hplain Bool.false_ne_true | exact ⟨_, rfl⟩
  obtain ⟨k, hk⟩ := hclass
  have hclass := exec_classOf ho
  rw [hk] at hclass
  have hinstance : o.isInstance := by
    cases o <;> first | exact absurd hplain Bool.false_ne_true | rfl
  have hforeign : ∀ f, o ≠ .foreign f := by
    rintro f rfl
    exact absurd hplain Bool.false_ne_true
  have hown : exec (ownFields (.ref r)) s = (.ok [], s) := by
    rw [ownFields, exec_bind_ok (exec_object? ho)]
    cases o <;> first | exact absurd hplain Bool.false_ne_true | rfl
  have hfind := exec_findIn_kinds s fun k' (_ : k' ∈ k.ancestors) => k'.inner_not_mem
  exact Machine.exec_findMember_none ho hinstance hforeign hclass hfind hown rfl (by decide)
    (by decide)

/-- Exceptions of built-in classes have no member `inner` unless they are envelopes or were given
one. -/
theorem exec_findMember_exception {k : Kind} {args : List Value} {cause : Value} {detail : Detail}
    {fields : Fields} (ho : s.objects[r]? = some (.exception (.kind k) args cause detail fields))
    (hdetail : detail.isEnvelope = false) (hinner : fields.lookup "inner" = none) :
    exec (m.findMember (.ref r) "inner") s = (.ok none, s) := by
  have hfind := exec_findIn_kinds s fun k' (_ : k' ∈ k.ancestors) => k'.inner_not_mem
  have hown : exec (ownFields (.ref r)) s = (.ok fields, s) := by
    rw [ownFields, exec_bind_ok (exec_object? ho)]
    cases detail <;> first
      | exact absurd hdetail.symm Bool.false_ne_true
      | rfl
  exact Machine.exec_findMember_none ho rfl (by simp) (exec_classOf ho) hfind hown hinner (by decide)
    (by decide)

/-- Data are plain errors. -/
theorem Store.isError_datum {v : Value} (hv : v.isDatum) : s.IsError v := by
  refine .lacking ?_ ?_ fun _ _ _ _ => exec_findMember_datum hv
  · rintro r rfl
    exact absurd hv Bool.false_ne_true
  · cases v <;> first | exact absurd hv Bool.false_ne_true | rfl

/-- Collections, results, reports and paths are plain errors. -/
theorem Store.isError_plain {o : Obj} (ho : s.objects[r]? = some o) (hplain : o.isPlain) :
    s.IsError (.ref r) := by
  refine .lacking ?_ ?_ ?_
  · intro r' hr'
    cases hr'
    exact (Array.getElem?_eq_some_iff.1 ho).1
  · rw [Store.trailRef?, ho]
    cases o <;> first | exact absurd hplain Bool.false_ne_true | rfl
  · intro world n s' hgrows
    obtain ⟨o', ho', hkeeps⟩ := hgrows ho
    refine exec_findMember_plain ho' ?_
    cases hkeeps with
    | refl => exact hplain
    | list => rfl
    | foreign => exact absurd hplain Bool.false_ne_true

/-- Exceptions of built-in classes are plain errors unless they are envelopes or were given a member
`inner`. -/
theorem Store.isError_exception {k : Kind} {args : List Value} {cause : Value} {detail : Detail}
    {fields : Fields} (ho : s.objects[r]? = some (.exception (.kind k) args cause detail fields))
    (hdetail : detail.isEnvelope = false) (hinner : fields.lookup "inner" = none) :
    s.IsError (.ref r) := by
  refine .lacking ?_ ?_ ?_
  · intro r' hr'
    cases hr'
    exact (Array.getElem?_eq_some_iff.1 ho).1
  · simp only [Store.trailRef?, ho]
    cases detail <;> first | exact absurd hdetail.symm Bool.false_ne_true | rfl
  · intro world n s' hgrows
    obtain ⟨_, ho', hkeeps⟩ := hgrows ho
    cases hkeeps
    exact exec_findMember_exception ho' hdetail hinner

/-- The members of an envelope: its error, its list of locations, and its methods bound to it. -/
theorem exec_findMember_envelope {args : List Value} {cause inner : Value} {trail : Ref}
    {fields : Fields} (ho : s.objects[r]? = some (.envelope args cause inner trail fields))
    (hfree : fields.free) :
    exec (m.findMember (.ref r) "inner") s = (.ok (some inner), s) ∧
      exec (m.findMember (.ref r) "locations") s = (.ok (some (.ref trail)), s) ∧
      ∀ name ∈ ["push_location", "take_inner", "stack"],
        exec (m.findMember (.ref r) name) s =
          (.ok (some (.bound (Machine.nativeMethod .envelope name) (.ref r))), s) := by
  have hown : exec (ownFields (.ref r)) s =
      (.ok (("inner", inner) :: ("_locations", .ref trail) :: fields), s) := by
    rw [ownFields, exec_bind_ok (exec_object? ho)]
    rfl
  have hinner : s.Finds (.ref r) "inner" none :=
    .of_kind (exec_classOf ho)
      (exec_findIn_kinds s fun k' (_ : k' ∈ Kind.envelope.ancestors) => k'.inner_not_mem)
  have hlocations : s.Finds (.ref r) "locations" (some (.property .envelope)) :=
    .of_kind (exec_classOf ho) rfl
  refine ⟨Machine.exec_findMember_field ho rfl hinner hown rfl,
    Machine.exec_findMember_property ho rfl hlocations (by decide) rfl, fun name hname => ?_⟩
  have hmethod : exec (findIn name (Kind.envelope.ancestors.map .kind)) s =
      (.ok (some (.method .envelope)), s) := by
    simp only [List.mem_cons, List.not_mem_nil, or_false] at hname
    obtain rfl | rfl | rfl := hname <;> rfl
  have hfield : (("inner", inner) :: ("_locations", .ref trail) :: fields).lookup name = none := by
    simp only [List.mem_cons, List.not_mem_nil, or_false] at hname
    obtain rfl | rfl | rfl := hname <;> exact hfree (_, true) (by decide)
  exact Machine.exec_findMember_method ho rfl (.of_kind (exec_classOf ho) hmethod) hown hfield

/-- Asking an error object of another library for a member of an envelope tells whether it has it,
and makes at most an unused list. -/
theorem exec_foreignMember (f : Foreign) (v : Value) (s : Store) {p : String × Bool}
    (hp : p ∈ Envelope.capabilities) :
    ∃ (found : Option Value) (lists : List (List Value)),
      exec (foreignMember v f p.1) s = (.ok found, s.extend (lists.map .list)) ∧
      f.has p = (found.any fun x => !(p.2 && x == .none)) := by
  by_cases hmissing : p.1 ∈ f.missing
  · exact ⟨none, [], by simp [foreignMember, hmissing], by simp [Foreign.has, hmissing]⟩
  by_cases hblocked : p.1 ∈ f.blocked
  · refine ⟨some .none, [], ?_, ?_⟩
    · simp [foreignMember, hmissing, hblocked]
    · simp [Foreign.has, hmissing, hblocked]
  have hhas : f.has p = true := by simp [Foreign.has, hmissing, hblocked]
  have hmember : foreignMember v f p.1 = foreignMember v { f with missing := [], blocked := [] } p.1 := by
    simp [foreignMember, hmissing, hblocked]
  rw [hhas, hmember]
  simp only [Envelope.capabilities, List.mem_cons, List.not_mem_nil, or_false] at hp
  obtain rfl | rfl | rfl | rfl | rfl := hp
  · exact ⟨some f.inner, [], by simp [foreignMember], by simp⟩
  · refine ⟨some (.ref s.objects.size), [f.pushed.map .location], ?_, by simp⟩
    simp [foreignMember, newTrail, Store.extend]
  · exact ⟨some (.bound (.native "Foreign.push_location") v), [], by simp [foreignMember], by simp⟩
  · exact ⟨some (.bound (.native "Foreign.take_inner") v), [], by simp [foreignMember], by simp⟩
  · exact ⟨some (.bound (.native "Foreign.stack") v), [], by simp [foreignMember], by simp⟩

theorem Store.extend_getElem? {r : Ref} {o : Obj} (h : s.objects[r]? = some o) (more : List Obj) :
    (s.extend more).objects[r]? = some o := by
  obtain ⟨hlt, -⟩ := Array.getElem?_eq_some_iff.1 h
  rw [Store.extend, Array.getElem?_append_left hlt, h]

/-- The members of an error object of another library are its own. -/
theorem exec_findMember_foreign {f : Foreign} (ho : s.objects[r]? = some (.foreign f))
    {p : String × Bool} (hp : p ∈ Envelope.capabilities) :
    exec (m.findMember (.ref r) p.1) s = exec (foreignMember (.ref r) f p.1) s := by
  obtain ⟨found, lists, hfound, -⟩ := exec_foreignMember f (.ref r) s hp
  have hclass := exec_classOf ho
  have horder := exec_searchOrder_kind .foreign s
  have hobject := exec_object? ho
  have hfree : ∀ p ∈ Envelope.capabilities,
      (∀ k ∈ Kind.foreign.ancestors,
        p.1 ∉ k.properties ∧ p.1 ∉ k.methods ∧ p.1 ∉ k.classMethods) ∧ p.1 ≠ "__doc__" := by
    decide
  obtain ⟨hkinds, hdoc⟩ := hfree p hp
  have hfind := exec_findIn_kinds s hkinds
  have hmethod := exec_userMethod_kind (exec_classOf (Store.extend_getElem? ho (lists.map .list)))
    "__getattr__"
  rw [Obj.cls?] at hclass
  have hown : exec (ownFields (.ref r)) s = (.ok [], s) := by
    rw [ownFields, exec_bind_ok hobject]
    rfl
  rw [Machine.exec_findMember_instance ho rfl, hfound]
  unfold Machine.instanceMember
  rw [exec_bind_ok hclass, exec_bind_ok horder, exec_bind_ok hfind]
  cases found with
  | none => simp [exec_bind, hown, hobject, hfound, hmethod]
  | some x => simp [exec_bind, hown, hobject, hfound]

/-! ## What the code asks of an error -/

variable {world : World} {n : Nat}

theorem exec_hasCapability {v : Value} {p : String × Bool} {found : Option Value} {s' : Store}
    (h : exec (m.member v p.1) s = (.ok found, s')) :
    exec (Envelope.hasCapability m v p) s =
      (.ok (found.any fun x => !(p.2 && x == .none)), s') := by
  cases found <;> simp [Envelope.hasCapability, Machine.member?, exec_bind, exec_rescue, h]

/-- A value that lacks the first member asked for takes no sites. -/
theorem exec_isCapable_absent {v : Value} (h : exec (m.member v "inner") s = (.ok none, s)) :
    exec (Envelope.isCapable m v) s = (.ok false, s) := by
  rw [Envelope.isCapable, Envelope.capabilities, Envelope.hasAll,
    exec_bind_ok (exec_hasCapability (p := ("inner", false)) h)]
  rfl

theorem exec_hasAll_of_forall {v : Value} {ps : List (String × Bool)}
    (h : ∀ p ∈ ps, exec (Envelope.hasCapability m v p) s = (.ok true, s)) :
    exec (Envelope.hasAll m v ps) s = (.ok true, s) := by
  induction ps with
  | nil => rfl
  | cons p ps ih =>
    rw [Envelope.hasAll, exec_bind_ok (h p List.mem_cons_self)]
    exact ih fun q hq => h q (List.mem_cons_of_mem _ hq)

/-- A value that has all the members asked for takes sites. -/
theorem exec_isCapable_present {v : Value}
    (h : ∀ p ∈ Envelope.capabilities, ∃ x, exec (m.member v p.1) s = (.ok (some x), s) ∧
      (p.2 && x == .none) = false) :
    exec (Envelope.isCapable m v) s = (.ok true, s) := by
  refine exec_hasAll_of_forall fun p hp => ?_
  obtain ⟨x, hmember, hx⟩ := h p hp
  rw [exec_hasCapability hmember, Option.any_some, hx]
  rfl

/-- An envelope takes sites. -/
theorem exec_isCapable_envelope {args : List Value} {cause inner : Value} {trail : Ref}
    {fields : Fields} (ho : s.objects[r]? = some (.envelope args cause inner trail fields))
    (hfree : fields.free) :
    exec (Envelope.isCapable (.ofDepth world (n + 1)) (.ref r)) s = (.ok true, s) := by
  obtain ⟨hinner, hlocations, hmethods⟩ :=
    exec_findMember_envelope (m := .ofDepth world n) ho hfree
  refine exec_isCapable_present fun p hp => ?_
  simp only [Envelope.capabilities, List.mem_cons, List.not_mem_nil, or_false] at hp
  obtain rfl | rfl | rfl | rfl | rfl := hp
  · exact ⟨_, hinner, rfl⟩
  · exact ⟨_, hlocations, rfl⟩
  · exact ⟨_, hmethods _ (by decide), rfl⟩
  · exact ⟨_, hmethods _ (by decide), rfl⟩
  · exact ⟨_, hmethods _ (by decide), rfl⟩

/-- Asking an error object of another library for members one by one. -/
theorem exec_hasAll_foreign {f : Foreign} (ho : s.objects[r]? = some (.foreign f)) :
    ∀ ps ⊆ Envelope.capabilities, ∃ lists : List (List Value),
      exec (Envelope.hasAll (.ofDepth world (n + 1)) (.ref r) ps) s =
        (.ok (ps.all f.has), s.extend (lists.map .list)) := by
  intro ps hps
  induction ps generalizing s with
  | nil => exact ⟨[], by simp [Envelope.hasAll]⟩
  | cons p ps ih =>
    have hp : p ∈ Envelope.capabilities := hps List.mem_cons_self
    obtain ⟨found, lists, hfound, hhas⟩ := exec_foreignMember f (.ref r) s hp
    rw [← exec_findMember_foreign (m := .ofDepth world n) ho hp] at hfound
    have hstep := exec_hasCapability (m := .ofDepth world (n + 1)) hfound
    rw [← hhas] at hstep
    obtain ⟨lists', hrest⟩ := ih (Store.extend_getElem? ho (lists.map .list))
      fun q hq => hps (List.mem_cons_of_mem _ hq)
    rw [Envelope.hasAll, exec_bind_ok hstep]
    cases hval : f.has p with
    | false => exact ⟨lists, by simp [hval]⟩
    | true => exact ⟨lists ++ lists', by simp [hval, hrest]⟩

variable (world n) in
/-- The code takes an error for an envelope when the error keeps locations, and asking changes no
object. -/
theorem exec_isCapable {v : Value} (h : s.IsError v) :
    ∃ lists : List (List Value), exec (Envelope.isCapable (.ofDepth world (n + 1)) v) s =
      (.ok (s.trailRef? v).isSome, s.extend (lists.map .list)) := by
  cases h with
  | lacking _ htrail hinner =>
    refine ⟨[], ?_⟩
    simp [exec_isCapable_absent (m := .ofDepth world (n + 1)) (hinner world n s (.refl s)), htrail]
  | @envelope r trail args cause inner fields items ho hfree htrail =>
    refine ⟨[], ?_⟩
    simp [exec_isCapable_envelope ho hfree, Store.trailRef?, ho, Obj.envelope]
  | @foreign r f ho =>
    obtain ⟨lists, hlists⟩ : ∃ lists : List (List Value),
        exec (Envelope.isCapable (.ofDepth world (n + 1)) (.ref r)) s =
          (.ok f.capable, s.extend (lists.map .list)) :=
      exec_hasAll_foreign ho _ (List.Subset.refl _)
    refine ⟨lists, hlists.trans ?_⟩
    simp only [Store.trailRef?, ho]
    by_cases hcapable : f.capable <;> simp [hcapable]

end ErrorTrail
