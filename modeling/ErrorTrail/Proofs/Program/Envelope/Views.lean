import ErrorTrail.Proofs.Program.Envelope.Object

/-!
# Views of envelopes

An envelope is shown as a text, as a representation, as a report and as a stack. All of them show
the same locations in the same order (`gives_text`, `gives_repr`, `gives_report`,
`exec_callMember_stack`), and the first three what the error in it is shown as. `Store.Gives` says
what such a question gives where there is room for the calls that it takes.
-/

namespace ErrorTrail

open Act

variable {α : Type} {world : World} {n : Nat} {s : Store} {w t : Ref} {c cause inner : Value}
  {trail : List Location}

/-! ## Questions -/

/-- A question gives `x` in a store: on every machine of at least some depth, with at least some
calls to spare. No trail of the store changes by it. -/
def Store.Gives (s : Store) (world : World) (ask : Machine → Act α) (x : α) : Prop :=
  ∃ depth room, ∀ n ≥ depth, ∀ d, d + room ≤ maxDepth →
    ∃ s', exec (ask (.ofDepth world n)) { s with depth := d } = (.ok x, s') ∧
      ∀ ⦃v : Value⦄ ⦃t : Ref⦄ ⦃o : Obj⦄, s.trailRef? v = some t → s.objects[t]? = some o →
        s'.objects[t]? = some o

theorem exec_ensuring {body : Act α} {after : Act Unit} {x : α} {s s' s'' : Store}
    (h : exec body s = (.ok x, s')) (hafter : exec after s' = (.ok (), s'')) :
    exec (ensuring body after) s = (.ok x, s'') := by
  have hobserve : exec (observe body) s = (.ok (.ok x), s') := by
    unfold exec observe at *
    simp only [ExceptT.run_mk, StateT.run_bind, h]
    rfl
  rw [ensuring, exec_bind_ok hobserve, exec_bind_ok hafter]
  rfl

theorem exec_deeper {body : Act α} {x : α} {s s' : Store} (hroom : s.depth < maxDepth)
    (h : exec body { s with depth := s.depth + 1 } = (.ok x, s')) :
    exec (deeper body) s = (.ok x, { s' with depth := s.depth }) := by
  have hget : exec (get : Act Store) s = (.ok s, s) := rfl
  have hmodify (f : Store → Store) (s : Store) : exec (modify f) s = (.ok (), f s) := rfl
  rw [deeper, exec_bind_ok hget]
  simp only [if_neg (Nat.not_le.2 hroom)]
  rw [exec_bind_ok (hmodify _ s)]
  exact exec_ensuring h (hmodify _ s')

/-- The text of a location. -/
theorem exec_text_location (l : Location) (s : Store) :
    exec ((Machine.ofDepth world (n + 1)).text (.location l)) s = (.ok l.text, s) := by
  have hmethod : exec (userMethod (.location l) "__str__") s = (.ok none, s) :=
    exec_userMethod_kind (k := .location) rfl "__str__"
  show exec ((Machine.ofDepth world n).describe (.location l)) s = _
  rw [Machine.describe, exec_bind_ok hmethod]
  rfl

theorem exec_listItems {items : List Value} (ht : s.objects[t]? = some (.list items)) :
    exec (Machine.listItems t) s = (.ok items, s) := by
  simp [Machine.listItems, exec_bind, ht]

/-- The lines that locations add to a text. -/
theorem exec_showTrail (trail : List Location) (s : Store) :
    exec ((Machine.ofDepth world (n + 1)).showTrail (trail.map .location)) s =
      (.ok (trailText trail), s) := by
  induction trail with
  | nil => rfl
  | cons l trail ih =>
    rw [List.map_cons, Machine.showTrail, exec_bind_ok (exec_text_location l s), exec_bind_ok ih,
      trailText, trailText]
    simp

theorem trailRef?_envelopeOf (ho : s.objects[w]? = some (.envelopeOf c cause inner t)) :
    s.trailRef? (.ref w) = some t := by
  simp [Store.trailRef?, ho, Obj.envelopeOf]

theorem Store.IsEnvelopeClass.withDepth {members : List String}
    (hc : s.IsEnvelopeClass members c) (d : Nat) :
    Store.IsEnvelopeClass { s with depth := d } members c := by
  have hkeeps : s.KeepsClasses { s with depth := d } := fun _ _ _ _ _ _ ho => ho
  exact hkeeps.isEnvelopeClass hc

/-! ## Text and representation -/

/-- What an envelope is shown as by its error. -/
def Envelope.head (m : Machine) (inner : Value) : Act String :=
  if inner == .none then pure "" else m.text inner

/-- A question that is answered at once, by every machine of some depth. -/
theorem Store.Gives.of_pure {ask : Machine → Act α} {x : α} (depth : Nat)
    (h : ∀ n ≥ depth, ∀ s : Store, exec (ask (.ofDepth world n)) s = (.ok x, s)) :
    s.Gives world ask x :=
  ⟨depth, 0, fun n hn d _ => ⟨{ s with depth := d }, h n hn _, fun _ _ _ _ ho => ho⟩⟩

/-- Without an error an envelope begins with nothing. -/
theorem gives_head_none : s.Gives world (Envelope.head · .none) "" :=
  .of_pure 0 fun _ _ _ => rfl

theorem gives_repr_none : s.Gives world (·.repr .none) "None" := by
  refine .of_pure 1 fun n hn s => ?_
  obtain ⟨n, rfl⟩ : ∃ k, n = k + 1 := ⟨n - 1, by omega⟩
  rfl

/-- A text as the error stands for itself. -/
theorem gives_head_str (words : String) : s.Gives world (Envelope.head · (.str words)) words := by
  refine .of_pure 1 fun n hn s => ?_
  obtain ⟨n, rfl⟩ : ∃ k, n = k + 1 := ⟨n - 1, by omega⟩
  exact Machine.exec_text_str words

section Shown

variable (ho : s.objects[w]? = some (.envelopeOf c cause inner t))
  (ht : s.objects[t]? = some (.list (trail.map .location))) {head : String}

include ho

/-- The text of an envelope is made as one more call. -/
theorem exec_text_envelope (hc : s.IsEnvelopeClass ["__str__"] c) (d : Nat) :
    exec ((Machine.ofDepth world (n + 1)).text (.ref w)) { s with depth := d } =
      exec (deeper do
        let head ← Envelope.head (.ofDepth world n) inner
        return head ++ (← (Machine.ofDepth world n).showTrail (← Machine.listItems t)))
        { s with depth := d } := by
  have hmethod : exec (userMethod (.ref w) "__str__") { s with depth := d } =
      (.ok none, { s with depth := d }) := by
    rw [userMethod, exec_bind_ok (exec_classOf (s := { s with depth := d }) ho)]
    exact (hc.withDepth d).exec_userMember (by decide)
  show exec ((Machine.ofDepth world n).describe (.ref w)) _ = _
  rw [Machine.describe, exec_bind_ok hmethod]
  simp only [Machine.describeNative, exec_bind, exec_read, ho, Option.getD_some, Obj.envelopeOf,
    Machine.describeException, Envelope.head]
  cases inner == .none <;> rfl

/-- So is its representation. -/
theorem exec_repr_envelope (hc : s.IsEnvelopeClass ["__repr__"] c) (d : Nat) :
    exec ((Machine.ofDepth world (n + 1)).repr (.ref w)) { s with depth := d } =
      exec (do
        let head ← deeper ((Machine.ofDepth world n).repr inner)
        return head ++ (← (Machine.ofDepth world n).showTrail (← Machine.listItems t)))
        { s with depth := d } := by
  have hmethod : exec (userMethod (.ref w) "__repr__") { s with depth := d } =
      (.ok none, { s with depth := d }) := by
    rw [userMethod, exec_bind_ok (exec_classOf (s := { s with depth := d }) ho)]
    exact (hc.withDepth d).exec_userMember (by decide)
  show exec ((Machine.ofDepth world n).represent (.ref w)) _ = _
  rw [Machine.represent, exec_bind_ok hmethod]
  simp only [exec_bind, exec_read, ho, Option.getD_some, Obj.envelopeOf, Machine.reprObject]

include ht

/-- An envelope is shown if its error is, one call further in. -/
theorem gives_of_head {ask ask' : Machine → Act String} {text : String} (h : s.Gives world ask head)
    (hshow : ∀ n d s', d < maxDepth →
      exec (ask (.ofDepth world (n + 1))) { s with depth := d + 1 } = (.ok head, s') →
      s'.objects[t]? = some (.list (trail.map .location)) →
      exec (ask' (.ofDepth world (n + 2))) { s with depth := d } =
        (.ok text, { s' with depth := d })) :
    s.Gives world ask' text := by
  obtain ⟨depth, room, h⟩ := h
  refine ⟨depth + 2, room + 1, fun n hn d hd => ?_⟩
  obtain ⟨n, rfl⟩ : ∃ k, n = k + 2 := ⟨n - 2, by omega⟩
  obtain ⟨s', hhead, hkeeps⟩ := h (n + 1) (by omega) (d + 1) (by omega)
  have ht' := hkeeps (trailRef?_envelopeOf ho) ht
  exact ⟨{ s' with depth := d }, hshow n d s' (by omega) hhead ht', hkeeps⟩

/-- The text of an envelope is that of its error and a line for each location. -/
theorem gives_text (hc : s.IsEnvelopeClass ["__str__"] c)
    (h : s.Gives world (Envelope.head · inner) head) :
    s.Gives world (·.text (.ref w)) (head ++ trailText trail) := by
  refine gives_of_head ho ht h fun n d s' hroom hhead ht' => ?_
  rw [exec_text_envelope ho hc]
  refine exec_deeper hroom ?_
  rw [exec_bind_ok hhead, exec_bind_ok (exec_listItems ht'), exec_bind_ok (exec_showTrail trail s')]
  rfl

/-- The representation of an envelope differs from its text in how the error is shown. -/
theorem gives_repr (hc : s.IsEnvelopeClass ["__repr__"] c)
    (h : s.Gives world (·.repr inner) head) :
    s.Gives world (·.repr (.ref w)) (head ++ trailText trail) := by
  refine gives_of_head ho ht h fun n d s' hroom hhead ht' => ?_
  have hdeeper := exec_deeper (s := { s with depth := d }) hroom hhead
  rw [exec_repr_envelope ho hc, exec_bind_ok hdeeper,
    exec_bind_ok (exec_listItems (s := { s' with depth := d }) ht'),
    exec_bind_ok (exec_showTrail trail _)]
  rfl

end Shown

/-! ## Stack and report -/

/-- The stack of an envelope has a line for each location. -/
theorem exec_callMember_stack (ho : s.objects[w]? = some (.envelopeOf c cause inner t))
    (hc : s.IsEnvelopeClass ["stack"] c) (ht : s.objects[t]? = some (.list (trail.map .location))) :
    exec ((Machine.ofDepth world (n + 3)).callMember (.ref w) "stack" []) s =
      (.ok (.str (stackText trail)), s) := by
  have hnothing : exec (Arguments.nothing [] []) s = (.ok (), s) := rfl
  have hlines : exec ((trail.map Value.location).mapM fun l => do
      return "at " ++ (← (Machine.ofDepth world (n + 1)).text l) ++ "\n") s =
      (.ok (trail.map fun l => "at " ++ l.text ++ "\n"), s) := by
    clear ht
    induction trail with
    | nil => rfl
    | cons l trail ih =>
      have hl : exec (do
          return "at " ++ (← (Machine.ofDepth world (n + 1)).text (.location l)) ++ "\n") s =
          (.ok ("at " ++ l.text ++ "\n"), s) := by
        rw [exec_bind_ok (exec_text_location l s)]
        rfl
      rw [List.map_cons, List.mapM_cons, exec_bind_ok hl, exec_bind_ok ih]
      rfl
  have hstack : exec (Envelope.stack (Machine.ofDepth world (n + 1)).text (.ref w)) s =
      (.ok (stackText trail), s) := by
    rw [Envelope.stack, exec_bind_ok (exec_view_envelope ho)]
    simp only
    rw [exec_bind_ok (exec_listItems ht), exec_bind_ok hlines]
    rfl
  rw [exec_callMember_method ho hc (by decide), LibraryFunction.callEnvelope,
    exec_bind_ok hnothing, exec_bind_ok hstack]
  rfl

theorem exec_kindName (v : Value) (s : Store) : ∃ name, exec (kindName v) s = (.ok name, s) := by
  have hclass : ∃ c, exec (classOf v) s = (.ok c, s) := by
    cases v with
    | bound f self => cases f <;> exact ⟨_, rfl⟩
    | _ => exact ⟨_, rfl⟩
  obtain ⟨c, hc⟩ := hclass
  have hname : ∃ name, exec (className c) s = (.ok name, s) := by
    cases c with
    | ref r =>
      rcases h : s.objects[r]? with _ | o
      · exact ⟨"", by simp [className, exec_bind, h]⟩
      · cases o <;> simp [className, exec_bind, h]
    | _ => exact ⟨_, rfl⟩
  obtain ⟨name, hname⟩ := hname
  exact ⟨name, by rw [kindName, exec_bind_ok hc, hname]⟩

theorem locations_map (trail : List Location) :
    Envelope.locations (trail.map .location) = trail := by
  simp [Envelope.locations, List.filterMap_map]

/-- A report begins as the text of the envelope does. -/
theorem report_eq (m : Machine) (v : Value) :
    Envelope.report m.text v = (do
      let (inner, trail) ← Envelope.view v
      let message ← Envelope.head m inner
      return ⟨message, ← kindName inner, Envelope.locations (← Machine.listItems trail)⟩) := by
  unfold Envelope.report Envelope.head
  refine bind_congr fun (inner, trail) => ?_
  cases h : inner == .none <;> simp [h]

/-- What a program finds in the report of an envelope: its text, its depth and its origin. -/
def Machine.askReport (m : Machine) (w : Value) : Act (String × Value × Value) := do
  let r ← m.callMember w "report" []
  return (← m.text r, ← m.getMember r "depth", ← m.getMember r "origin")

variable (world n) in
/-- The text, the depth and the origin of a report. -/
theorem exec_report_members {r : Ref} {p : Report} (ho : s.objects[r]? = some (.report p)) :
    exec ((Machine.ofDepth world (n + 1)).text (.ref r)) s = (.ok p.text, s) ∧
      exec ((Machine.ofDepth world (n + 1)).getMember (.ref r) "depth") s =
        (.ok (.int p.depth), s) ∧
      exec ((Machine.ofDepth world (n + 1)).getMember (.ref r) "origin") s =
        (.ok (p.origin.elim .none .str), s) := by
  have hdepth : s.Finds (.ref r) "depth" (some (.property .report)) :=
    .of_kind (exec_classOf ho) rfl
  have horigin : s.Finds (.ref r) "origin" (some (.property .report)) :=
    .of_kind (exec_classOf ho) rfl
  refine ⟨?_, ?_, ?_⟩
  · show exec ((Machine.ofDepth world n).describe (.ref r)) s = _
    rw [Machine.describe, exec_bind_ok (exec_userMethod_kind (exec_classOf ho) "__str__")]
    simp [Machine.describeNative, exec_bind, ho]
  · exact Machine.exec_getMember
      (Machine.exec_findMember_property ho rfl hdepth (by decide) rfl)
  · exact Machine.exec_getMember
      (Machine.exec_findMember_property ho rfl horigin (by decide) rfl)

/-- An envelope makes a report of what its error is shown as, where its list of locations is still the
same then. -/
theorem exec_callMember_report {s' : Store} {head : String}
    (ho : s.objects[w]? = some (.envelopeOf c cause inner t)) (hc : s.IsEnvelopeClass ["report"] c)
    (hhead : exec (Envelope.head (.ofDepth world n) inner) s = (.ok head, s'))
    (ht : s'.objects[t]? = some (.list (trail.map .location))) :
    ∃ kind, exec ((Machine.ofDepth world (n + 2)).callMember (.ref w) "report" []) s =
      (.ok (.ref s'.objects.size), s'.extend [.report ⟨head, kind, trail⟩]) := by
  obtain ⟨kind, hkind⟩ := exec_kindName inner s'
  have hreport : exec (Envelope.report (Machine.ofDepth world n).text (.ref w)) s =
      (.ok ⟨head, kind, trail⟩, s') := by
    rw [report_eq, exec_bind_ok (exec_view_envelope ho)]
    simp only
    rw [exec_bind_ok hhead, exec_bind_ok hkind, exec_bind_ok (exec_listItems ht), locations_map]
    rfl
  have hnothing : exec (Arguments.nothing [] []) s = (.ok (), s) := rfl
  refine ⟨kind, ?_⟩
  rw [exec_callMember_method ho hc (by decide), LibraryFunction.callEnvelope,
    exec_bind_ok hnothing, exec_bind_ok hreport]
  simp [Store.extend]

/-- The report of an envelope has the same text, and tells how many locations there are and which is
the first. -/
theorem gives_report (ho : s.objects[w]? = some (.envelopeOf c cause inner t))
    (hc : s.IsEnvelopeClass ["report"] c) (ht : s.objects[t]? = some (.list (trail.map .location)))
    {head : String} (h : s.Gives world (Envelope.head · inner) head) :
    s.Gives world (·.askReport (.ref w))
      (head ++ trailText trail, .int trail.length,
        (trail.head?.map Location.text).elim .none .str) := by
  obtain ⟨depth, room, h⟩ := h
  refine ⟨depth + 2, room, fun n hn d hd => ?_⟩
  obtain ⟨n, rfl⟩ : ∃ k, n = k + 2 := ⟨n - 2, by omega⟩
  obtain ⟨s', hhead, hkeeps⟩ := h n (by omega) d hd
  have ht' := hkeeps (trailRef?_envelopeOf ho) ht
  obtain ⟨kind, hcall⟩ := exec_callMember_report (s := { s with depth := d }) ho (hc.withDepth d)
    hhead ht'
  set p : Report := ⟨head, kind, trail⟩ with hp
  have hnew : (s'.extend [.report p]).objects[s'.objects.size]? = some (.report p) :=
    s'.extend_getElem?_size _ []
  obtain ⟨htext, hdepth, horigin⟩ := exec_report_members world (n + 1) hnew
  refine ⟨s'.extend [.report p], ?_, fun v t o hv ho => Store.extend_getElem? (hkeeps hv ho) _⟩
  simp only [Machine.askReport]
  rw [exec_bind_ok hcall, exec_bind_ok htext, exec_bind_ok hdepth, exec_bind_ok horigin]
  rfl

end ErrorTrail
