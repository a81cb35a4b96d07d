import ErrorTrail.Proofs.Program.Trails

/-!
# Call chains

A chain is a base, which gives a result, and frames around it, innermost first: each frame asks the
call inside for the payload of its result, goes on with it and gives a success. A frame may be
instrumented, only a boundary, or bare (`FrameKind`).

* `exec_chain_success`: a chain on a success is its steps (`composed`), whatever its frames are.
* `Provenance` is how a chain hands a failure on: which result it is in the end, and what its error
  has been told. `Delivers.chain` carries it through the frames, one at a time by `Delivers.frame`,
  with `recordedSites` the sites that are told.
* `chain_spec` is both.
-/

namespace ErrorTrail

open Act

/-- How a frame is made. -/
inductive FrameKind where
  /-- its propagation expression reports the site, and a boundary is around it -/
  | instrumented (site : Location)
  /-- a boundary is around it -/
  | boundary
  | bare
  deriving DecidableEq, Repr, Inhabited

/-- A function that gives the success of what it makes of a payload. -/
structure Frame where
  kind : FrameKind
  step : Value → Act Value

namespace Frame

def isBare (f : Frame) : Bool := f.kind = .bare

/-- The frame without instrumentation. -/
def plain (f : Frame) : Frame := { f with kind := .bare }

/-- What the hook of a frame makes of the result of the call inside. -/
def report (m : Machine) (f : Frame) (result : Value) : Act Value :=
  match f.kind with
  | .instrumented site => m.reportSite result site
  | _ => pure result

/-- What a frame does with the result of the call inside. -/
def body (m : Machine) (f : Frame) (inside : Act Value) : Act Value := do
  let result ← f.report m (← inside)
  let propagate ← m.getMember result "propagate"
  let payload ← m.call propagate [] []
  m.call (.native "Ok") [← f.step payload] []

/-- A call of a frame. -/
def call (m : Machine) (f : Frame) (inside : Act Value) : Act Value :=
  if f.isBare then f.body m inside else Outcome.boundary (f.body m inside)

end Frame

/-- A call of the outermost of some frames, which are given innermost first. -/
def chain (m : Machine) (base : Act Value) (frames : List Frame) : Act Value :=
  frames.foldl (fun inside f => f.call m inside) base

/-- The site that a frame reports to a failure that the call inside returned. -/
def Frame.sites (f : Frame) : List Location :=
  match f.kind with
  | .instrumented site => [site]
  | _ => []

/-- The sites that a failure is told on its way through frames, innermost first: those of the
instrumented frames whose call inside returns it, and does not let a signal pass. -/
def recordedSites : Bool → List Frame → List Location
  | _, [] => []
  | returns, f :: fs => (if returns then f.sites else []) ++ recordedSites (!f.isBare) fs

/-- Whether a call of the outermost of some frames returns a failure, when a call of the base does:
it does unless the outermost frame is bare. -/
def returnsFailure (returns : Bool) (frames : List Frame) : Bool :=
  (frames.getLast?.map fun f => !f.isBare).getD returns

variable {world : World} {n : Nat} {s s₁ : Store}

/-! ## Boundaries -/

/-- A boundary turns a signal into the result that it carries. -/
theorem exec_boundary_signal {body : Act Value} {q : Ref} {r : Value} {s' : Store}
    (h : exec body s = (.error (.raised (.ref q)), s')) (hq : s'.objects[q]? = some (.signal r)) :
    exec (Outcome.boundary body) s = (.ok r, s') := by
  rw [Outcome.boundary, exec_rescue, h]
  simp [Outcome.signalled?, exec_bind, exec_object? hq, Obj.signal]

/-- A boundary changes nothing about a body that gives a value. -/
theorem exec_boundary_ok {body : Act Value} {r : Value} {s' : Store}
    (h : exec body s = (.ok r, s')) : exec (Outcome.boundary body) s = (.ok r, s') := by
  rw [Outcome.boundary, exec_rescue, h]

variable (world n) in
/-- The propagation expression of a frame. -/
theorem exec_propagateMember {r : Value} {p : Bool × Value} (h : s.outcome? r = some p) :
    ∃ f, exec ((Machine.ofDepth world (n + 4)).getMember r "propagate") s = (.ok f, s) ∧
      (Machine.ofDepth world (n + 4)).call f [] [] = Outcome.propagate r := by
  unfold Store.outcome? at h
  split at h
  · next r =>
    split at h
    · next ho => exact ⟨_, exec_getMember_propagate ho, Machine.call_propagate _⟩
    · cases h
  · cases h

/-! ## Successes -/

/-- The result that an exception carries as a signal. -/
def Store.signal? (s : Store) : Value → Option Value
  | .ref q =>
    match s.objects[q]? with
    | some (.exception _ _ _ (.signal r) _) => some r
    | _ => none
  | _ => none

theorem exec_signalled? (e : Value) :
    exec (Outcome.signalled? e) s = (.ok (s.signal? e), s) := by
  cases e with
  | ref q =>
    rcases h : s.objects[q]? with _ | o
    · simp [Outcome.signalled?, object?, exec_bind, Store.signal?, h]
    · cases o with
      | exception _ _ _ detail _ =>
        cases detail <;> simp [Outcome.signalled?, object?, exec_bind, Store.signal?, h]
      | _ => simp [Outcome.signalled?, object?, exec_bind, Store.signal?, h]
  | _ => rfl

/-- Whether running stopped with a signal. -/
def Store.StopsWithSignal (s : Store) (stop : Stop) : Prop :=
  ∃ e r, stop = .raised e ∧ s.signal? e = some r

/-- What stops a body without a signal passes a boundary. -/
theorem exec_boundary_stop {body : Act Value} {stop : Stop} {s' : Store}
    (h : exec body s = (.error stop, s')) (hstop : ¬ s'.StopsWithSignal stop) :
    exec (Outcome.boundary body) s = (.error stop, s') := by
  rw [Outcome.boundary, exec_rescue, h]
  cases stop with
  | exhausted => rfl
  | raised e =>
    have hnone : s'.signal? e = none :=
      Option.eq_none_iff_forall_ne_some.2 fun r hr => hstop ⟨e, r, rfl, hr⟩
    simp only
    rw [exec_bind_ok (exec_signalled? e), hnone]
    rfl

/-- The steps of frames on a payload, one after the other, each making a success: the last payload
and the last result. -/
def composed (frames : List Frame) (start : Value × Value) : Act (Value × Value) :=
  frames.foldlM
    (fun p f => do
      let v ← f.step p.1
      return (v, ← Outcome.success v))
    start

theorem composed_map_plain (frames : List Frame) (start : Value × Value) :
    composed (frames.map .plain) start = composed frames start := by
  rw [composed, List.foldlM_map]
  rfl

variable {inside : Act Value} {f : Frame} {r v : Value}

/-- The hook of a frame hands a success on. -/
theorem exec_report_success (f : Frame) (hr : s.outcome? r = some (true, v)) :
    exec (f.report (.ofDepth world (n + 2)) r) s = (.ok r, s) := by
  have hnone : s.failure? r = none := by simp [Store.failure?, hr]
  cases hkind : f.kind with
  | instrumented site =>
    simp only [Frame.report, hkind, Machine.reportSite, Machine.call_wherrapper]
    exact exec_addSite_passed hnone site
  | _ => simp [Frame.report, hkind]

/-- A frame on a success takes its step and makes a success of what it gives. -/
theorem exec_body_success (h : exec inside s = (.ok r, s₁)) (hr : s₁.outcome? r = some (true, v)) :
    exec (f.body (.ofDepth world (n + 4)) inside) s =
      exec (do Outcome.success (← f.step v)) s₁ := by
  obtain ⟨g, hmember, hcall⟩ := exec_propagateMember world n hr
  rw [Frame.body, exec_bind_ok h, exec_bind_ok (exec_report_success f hr), exec_bind_ok hmember, hcall,
    exec_bind_ok (exec_propagate_success hr)]
  simp only [Machine.call_success]

/-- A frame changes nothing about a call inside that stops without a signal. -/
theorem exec_call_stop {m : Machine} {stop : Stop} (h : exec inside s = (.error stop, s₁))
    (hstop : ¬ s₁.StopsWithSignal stop) (f : Frame) :
    exec (f.call m inside) s = (.error stop, s₁) := by
  have hbody : exec (f.body m inside) s = (.error stop, s₁) := by
    rw [Frame.body, exec_bind_error h]
  rw [Frame.call]
  split
  · exact hbody
  · exact exec_boundary_stop hbody hstop

theorem exec_chain_stop {m : Machine} {stop : Stop} (h : exec inside s = (.error stop, s₁))
    (hstop : ¬ s₁.StopsWithSignal stop) (frames : List Frame) :
    exec (chain m inside frames) s = (.error stop, s₁) := by
  induction frames generalizing inside with
  | nil => exact h
  | cons f fs ih => exact ih (exec_call_stop h hstop f)

theorem exec_success (w : Value) (s : Store) :
    exec (Outcome.success w) s = (.ok (.ref s.objects.size), s.extend [.result true w]) := rfl

/-- A frame on a success gives the success of what its step gives. -/
theorem exec_call_success {w : Value} {s₂ : Store} (h : exec inside s = (.ok r, s₁))
    (hr : s₁.outcome? r = some (true, v)) (hstep : exec (f.step v) s₁ = (.ok w, s₂)) :
    exec (f.call (.ofDepth world (n + 4)) inside) s =
      (.ok (.ref s₂.objects.size), s₂.extend [.result true w]) := by
  have hbody : exec (f.body (.ofDepth world (n + 4)) inside) s =
      (.ok (.ref s₂.objects.size), s₂.extend [.result true w]) := by
    rw [exec_body_success h hr, exec_bind_ok hstep, exec_success]
  rw [Frame.call]
  split
  · exact hbody
  · exact exec_boundary_ok hbody

/-- A frame whose step stops without a signal stops so. -/
theorem exec_call_step_stop {stop : Stop} {s₂ : Store} (h : exec inside s = (.ok r, s₁))
    (hr : s₁.outcome? r = some (true, v)) (hstep : exec (f.step v) s₁ = (.error stop, s₂))
    (hstop : ¬ s₂.StopsWithSignal stop) :
    exec (f.call (.ofDepth world (n + 4)) inside) s = (.error stop, s₂) := by
  have hbody : exec (f.body (.ofDepth world (n + 4)) inside) s = (.error stop, s₂) := by
    rw [exec_body_success h hr, exec_bind_error hstep]
  rw [Frame.call]
  split
  · exact hbody
  · exact exec_boundary_stop hbody hstop

theorem outcome?_new (s : Store) (isOk : Bool) (w : Value) :
    (s.extend [.result isOk w]).outcome? (.ref s.objects.size) = some (isOk, w) := by
  simp [Store.outcome?, Store.extend]

theorem exec_composed_cons (f : Frame) (fs : List Frame) (v r : Value) (s : Store) :
    exec (composed (f :: fs) (v, r)) s =
      match exec (f.step v) s with
      | (.ok w, s') =>
        exec (composed fs (w, .ref s'.objects.size)) (s'.extend [.result true w])
      | (.error stop, s') => (.error stop, s') := by
  rw [composed, List.foldlM_cons, exec_bind, exec_bind]
  rcases exec (f.step v) s with ⟨_ | w, s'⟩ <;> rfl

variable (world n) in
/-- A chain on a success is its steps, whatever its frames are. -/
theorem exec_chain_success (frames : List Frame) (h : exec inside s = (.ok r, s₁))
    (hr : s₁.outcome? r = some (true, v)) :
    match exec (composed frames (v, r)) s₁ with
    | (.ok (w, r'), s₂) =>
      exec (chain (.ofDepth world (n + 4)) inside frames) s = (.ok r', s₂) ∧
        s₂.outcome? r' = some (true, w)
    | (.error stop, s₂) =>
      ¬ s₂.StopsWithSignal stop →
        exec (chain (.ofDepth world (n + 4)) inside frames) s = (.error stop, s₂) := by
  induction frames generalizing inside s s₁ r v with
  | nil => exact ⟨h, hr⟩
  | cons f fs ih =>
    rw [exec_composed_cons]
    rcases hstep : exec (f.step v) s₁ with ⟨stop | w, s'⟩
    · exact fun hstop => exec_chain_stop (exec_call_step_stop h hr hstep hstop) hstop fs
    · exact ih (exec_call_success h hr hstep) (outcome?_new s' true w)

/-! ## Failures -/

/-- How a call hands a result on: it returns it, or raises a signal that carries it. -/
inductive Delivers (a : Act Value) (s : Store) : Bool → Value → Store → Prop
  | returned {r : Value} {s' : Store} (h : exec a s = (.ok r, s')) : Delivers a s true r s'
  | raised {q : Ref} {r : Value} {s' : Store} (h : exec a s = (.error (.raised (.ref q)), s'))
      (hq : s'.objects[q]? = some (.signal r)) : Delivers a s false r s'

/-- What sites make of the failure `b` of an error `e`, from a store in which it was given: the
result that carries the failure on, and the store by then. -/
inductive Provenance (s : Store) (b e : Value) : List Location → Value → Store → Prop
  /-- no site: the result itself is carried on, and every object is as it was -/
  | untouched {s' : Store}
      (hold : ∀ ⦃i : Ref⦄ ⦃o : Obj⦄, s.objects[i]? = some o → s'.objects[i]? = some o) :
      Provenance s b e [] b s'
  /-- sites told to an error that keeps locations: the result itself is carried on, with its error
  the same apart from its trail, which has the sites at its end -/
  | extended {sites : List Location} {t : Ref} {s' : Store} (hsites : sites ≠ [])
      (ht : s.trailRef? e = some t) (hgrows : s.Grows s')
      (hold : ∀ ⦃i : Ref⦄ ⦃o : Obj⦄, i ≠ t → s.objects[i]? = some o →
        s'.objects[i]? = some o)
      (htrail : s'.trail e = s.trail e ++ sites.map .location) : Provenance s b e sites b s'
  /-- sites told to another error: a new result of one new envelope of the error is carried on, with
  the sites as its trail, and every object is as it was -/
  | wrapped {sites : List Location} {k q t : Ref} {cause : Value} {s' : Store} (hsites : sites ≠ [])
      (ht : s.trailRef? e = none) (hnew : ∀ i ∈ [k, q, t], s.objects[i]? = none)
      (hold : ∀ ⦃i : Ref⦄ ⦃o : Obj⦄, s.objects[i]? = some o → s'.objects[i]? = some o)
      (hresult : s'.objects[k]? = some (.result false (.ref q)))
      (henvelope : s'.objects[q]? = some (.envelope [] cause e t []))
      (htrail : s'.objects[t]? = some (.list (sites.map .location))) :
      Provenance s b e sites (.ref k) s'

namespace Provenance

variable {b e r : Value} {sites : List Location} {s₂ : Store}

theorem grows (h : Provenance s b e sites r s₂) : s.Grows s₂ := by
  cases h with
  | untouched hold => exact fun _ o ho => ⟨o, hold ho, .refl o⟩
  | extended _ _ hgrows => exact hgrows
  | wrapped _ _ _ hold => exact fun _ o ho => ⟨o, hold ho, .refl o⟩

/-- What is carried on is a failure of an error. -/
theorem failure (h : Provenance s b e sites r s₂) (hb : s.failure? b = some e) (he : s.IsError e) :
    ∃ e', s₂.failure? r = some e' ∧ s₂.IsError e' := by
  have hgrows := h.grows
  cases h with
  | untouched => exact ⟨e, hgrows.failure? hb, hgrows.isError he⟩
  | extended => exact ⟨e, hgrows.failure? hb, hgrows.isError he⟩
  | @wrapped sites k q t cause s₂ _ _ _ _ hresult henvelope htrail =>
    exact ⟨.ref q, Store.failure?_eq_some.2 ⟨k, rfl, hresult⟩,
      .envelope henvelope (fun _ _ => rfl) htrail⟩

/-- More objects change nothing about a failure. -/
theorem extend (h : Provenance s b e sites r s₂) (he : s.IsError e) (more : List Obj) :
    Provenance s b e sites r (s₂.extend more) := by
  have hgrows := h.grows
  cases h with
  | untouched hold => exact .untouched fun _ _ ho => Store.extend_getElem? (hold ho) more
  | extended hsites ht _ hold htrail =>
    refine .extended hsites ht (hgrows.trans (Store.grows_extend _ more))
      (fun _ _ hi ho => Store.extend_getElem? (hold hi ho) more) ?_
    rw [(hgrows.isError he).trail_extend, htrail]
  | wrapped hsites ht hnew hold hresult henvelope htrail =>
    exact .wrapped hsites ht hnew (fun _ _ ho => Store.extend_getElem? (hold ho) more)
      (Store.extend_getElem? hresult more) (Store.extend_getElem? henvelope more)
      (Store.extend_getElem? htrail more)

/-- One more site, told to an error that keeps locations. -/
theorem told {t : Ref} (hb : s.failure? b = some e) (he : s.IsError e)
    (ht : s.trailRef? e = some t) (hgrows : s.Grows s₂)
    (hold : ∀ ⦃i : Ref⦄ ⦃o : Obj⦄, i ≠ t → s.objects[i]? = some o → s₂.objects[i]? = some o)
    (htrail : s₂.trail e = s.trail e ++ sites.map .location) (site : Location) :
    ∃ s₃, exec ((Machine.ofDepth world (n + 4)).reportSite b site) s₂ = (.ok b, s₃) ∧
      Provenance s b e (sites ++ [site]) b s₃ := by
  have hb₂ := hgrows.failure? hb
  have he₂ := hgrows.isError he
  have ht₂ := (hgrows.trailRef? he).trans ht
  obtain ⟨lists, hexec⟩ := exec_addSite_told world n hb₂ he₂ ht₂ site
  have hmore := s₂.grows_extend (lists.map .list)
  refine ⟨_, (by rw [Machine.reportSite, Machine.call_wherrapper]; exact hexec),
    .extended (by simp) ht ((hgrows.trans hmore).trans (Store.grows_tell _ _ _)) ?_ ?_⟩
  · intro i o hi ho
    rw [Store.tell_getElem?, if_neg hi.symm]
    exact Store.extend_getElem? (hold hi ho) _
  · rw [(hmore.isError he₂).trail_tell ((hmore.trailRef? he₂).trans ht₂), he₂.trail_extend, htrail,
      List.map_append, List.append_assoc, List.map_singleton]

/-- The first site, told to an error that keeps no locations. -/
theorem first (hb : s.failure? b = some e) (he : s.IsError e) (ht : s.trailRef? e = none)
    (hold : ∀ ⦃i : Ref⦄ ⦃o : Obj⦄, s.objects[i]? = some o → s₂.objects[i]? = some o)
    (site : Location) :
    ∃ r s₃, exec ((Machine.ofDepth world (n + 4)).reportSite b site) s₂ = (.ok r, s₃) ∧
      Provenance s b e [site] r s₃ := by
  have hgrows : s.Grows s₂ := fun _ o ho => ⟨o, hold ho, .refl o⟩
  obtain ⟨lists, cause, hexec⟩ := exec_addSite_wrapped world (n + 2)
    (hgrows.failure? hb) (hgrows.isError he) ((hgrows.trailRef? he).trans ht) site
  obtain ⟨hlist, henvelope, hresult⟩ :=
    (s₂.extend (lists.map .list)).wrap_getElem?_new e cause site
  have hmore := hgrows.trans (s₂.grows_extend (lists.map .list))
  refine ⟨_, _, (by rw [Machine.reportSite, Machine.call_wherrapper]; exact hexec),
    .wrapped (by simp) ht ?_ ?_ hresult henvelope hlist⟩
  · intro i hi
    refine hmore.getElem?_eq_none ?_
    simp only [List.mem_cons, List.not_mem_nil, or_false] at hi
    obtain rfl | rfl | rfl := hi
    · exact Nat.le_add_right _ 2
    · exact Nat.le_add_right _ 1
    · exact Nat.le_refl _
  · exact fun i o ho => Store.wrap_getElem?_old (Store.extend_getElem? (hold ho) _) e cause site

/-- What a site makes of a failure that was told some sites before. -/
theorem report (h : Provenance s b e sites r s₂) (hb : s.failure? b = some e) (he : s.IsError e)
    (site : Location) :
    ∃ r' s₃, exec ((Machine.ofDepth world (n + 4)).reportSite r site) s₂ = (.ok r', s₃) ∧
      Provenance s b e (sites ++ [site]) r' s₃ := by
  have hgrows := h.grows
  cases h with
  | untouched hold =>
    rcases ht : s.trailRef? e with _ | t
    · exact first hb he ht hold site
    · have htrail : s₂.trail e = s.trail e ++ ([] : List Location).map .location := by
        obtain ⟨o, ho, -⟩ := he.keeper ht
        simp [Store.trail, hgrows.trailRef? he, ht, ho, hold ho]
      exact ⟨b, told hb he ht hgrows (fun _ _ _ ho => hold ho) htrail site⟩
  | extended hsites ht _ hold htrail => exact ⟨b, told hb he ht hgrows hold htrail site⟩
  | @wrapped sites k q t cause s₂ hsites ht hnew hold hresult henvelope htrail =>
    -- the new envelope keeps locations, so that it is told the site
    have hself : s₂.IsError (.ref q) := .envelope henvelope (fun _ _ => rfl) htrail
    have htrailRef : s₂.trailRef? (.ref q) = some t := by
      simp [Store.trailRef?, henvelope, Obj.envelope]
    obtain ⟨lists, hexec⟩ := exec_addSite_told world n
      (Store.failure?_eq_some.2 ⟨k, rfl, hresult⟩) hself htrailRef site
    have hothers : ∀ {i : Ref} {o : Obj}, i ≠ t → s₂.objects[i]? = some o →
        ((s₂.extend (lists.map .list)).tell t site).objects[i]? = some o := by
      intro i o hi ho
      rw [Store.tell_getElem?, if_neg hi.symm]
      exact Store.extend_getElem? ho _
    refine ⟨.ref k, _, (by rw [Machine.reportSite, Machine.call_wherrapper]; exact hexec),
      .wrapped (by simp) ht hnew ?_ (hothers ?_ hresult) (hothers ?_ henvelope) ?_⟩
    · intro i o ho
      refine hothers ?_ (hold ho)
      rintro rfl
      rw [hnew i (by simp)] at ho
      cases ho
    · rintro rfl
      rw [hresult] at htrail
      cases htrail
    · rintro rfl
      rw [henvelope] at htrail
      cases htrail
    · rw [Store.tell_getElem?, if_pos rfl, Store.extend_getElem? htrail]
      simp [Obj.told]

end Provenance

/-- A boundary returns what a signal carries, and a bare frame lets the signal pass. -/
theorem Delivers.call {m : Machine} {s₂ : Store} (h : Delivers (f.body m inside) s false r s₂) :
    Delivers (f.call m inside) s (!f.isBare) r s₂ := by
  rw [Frame.call]
  cases hbare : f.isBare with
  | false =>
    cases h with
    | raised h hq => exact .returned (exec_boundary_signal h hq)
  | true => exact h

variable {b e : Value} {sites : List Location} {returns : Bool} {s₂ : Store}

/-- The hook of a frame on a failure. -/
theorem exec_report_failure (hb : s₁.failure? b = some e) (he : s₁.IsError e)
    (h : Provenance s₁ b e sites r s₂) (f : Frame) :
    ∃ r' s₃, exec (f.report (.ofDepth world (n + 4)) r) s₂ = (.ok r', s₃) ∧
      Provenance s₁ b e (sites ++ f.sites) r' s₃ := by
  cases hkind : f.kind with
  | instrumented site =>
    simp only [Frame.report, Frame.sites, hkind]
    exact h.report hb he site
  | _ =>
    refine ⟨r, s₂, by simp [Frame.report, hkind], ?_⟩
    rwa [Frame.sites, hkind, List.append_nil]

variable (world n) in
/-- A frame on a failure: the sites that it was told grow by that of the frame, if the call inside
returned the failure. -/
theorem Delivers.frame (hb : s₁.failure? b = some e) (he : s₁.IsError e)
    (h : Delivers inside s returns r s₂) (hprovenance : Provenance s₁ b e sites r s₂) (f : Frame) :
    ∃ r' s₃, Delivers (f.call (.ofDepth world (n + 4)) inside) s (!f.isBare) r' s₃ ∧
      Provenance s₁ b e (sites ++ if returns then f.sites else []) r' s₃ := by
  cases h with
  | returned h =>
    obtain ⟨r', s₃, hreport, hprovenance'⟩ := exec_report_failure hb he hprovenance f
    obtain ⟨e', hfail, -⟩ := hprovenance'.failure hb he
    obtain ⟨g, hmember, hcall⟩ :=
      exec_propagateMember world n (outcome?_of_failure? hfail)
    refine ⟨r', s₃.extend [.signal r'], .call (.raised (q := s₃.objects.size) ?_ ?_),
      hprovenance'.extend he _⟩
    · rw [Frame.body, exec_bind_ok h, exec_bind_ok hreport, exec_bind_ok hmember, hcall,
        exec_bind_error (exec_propagate_failure hfail)]
    · simp [Store.extend]
  | raised h hq =>
    refine ⟨r, s₂, .call (.raised ?_ hq), ?_⟩
    · rw [Frame.body, exec_bind_error h]
    · simpa using hprovenance

theorem returnsFailure_cons (returns : Bool) (f : Frame) (fs : List Frame) :
    returnsFailure returns (f :: fs) = returnsFailure (!f.isBare) fs := by
  cases fs with
  | nil => rfl
  | cons f' fs =>
    rw [returnsFailure, returnsFailure, List.getLast?_cons_cons,
      List.getLast?_eq_some_getLast (List.cons_ne_nil f' fs)]
    rfl

/-- A chain on a failure that was told some sites before. -/
theorem Delivers.chain (hb : s₁.failure? b = some e) (he : s₁.IsError e) (frames : List Frame)
    (h : Delivers inside s returns r s₂) (hprovenance : Provenance s₁ b e sites r s₂) :
    ∃ r' s₃, Delivers (chain (.ofDepth world (n + 4)) inside frames) s
        (returnsFailure returns frames) r' s₃ ∧
      Provenance s₁ b e (sites ++ recordedSites returns frames) r' s₃ := by
  induction frames generalizing inside returns r s₂ sites with
  | nil => exact ⟨r, s₂, h, by simpa [recordedSites] using hprovenance⟩
  | cons f fs ih =>
    obtain ⟨r', s₃, hframe, hframe'⟩ := h.frame world n hb he hprovenance f
    obtain ⟨r'', s₄, hchain, hchain'⟩ := ih hframe hframe'
    refine ⟨r'', s₄, ?_, ?_⟩
    · rw [returnsFailure_cons]
      exact hchain
    · rw [recordedSites, ← List.append_assoc]
      exact hchain'

/-! ## Chains -/

/-- A chain around a base that gives a result.

* On a success it gives the success of what its steps make of the payload, and stops where they do,
  exactly as without instrumentation. What they stop with is taken not to be a signal, which a
  boundary would turn into a result.
* On a failure of an error it returns a failure, or raises a signal that carries one when its
  outermost frame is bare. That failure is told the sites of the instrumented frames whose call
  inside returns, innermost first, and nothing else (`Provenance`). -/
theorem chain_spec (world : World) (n : Nat) (frames : List Frame) {base : Act Value}
    {s s₁ : Store} {b : Value} (hbase : exec base s = (.ok b, s₁)) :
    let m := Machine.ofDepth world (n + 4)
    (∀ v, s₁.outcome? b = some (true, v) →
      (∀ w r s₂, exec (composed frames (v, b)) s₁ = (.ok (w, r), s₂) →
        exec (chain m base frames) s = (.ok r, s₂) ∧ s₂.outcome? r = some (true, w) ∧
          exec (chain m base (frames.map .plain)) s = (.ok r, s₂)) ∧
      ∀ stop s₂, exec (composed frames (v, b)) s₁ = (.error stop, s₂) →
        ¬ s₂.StopsWithSignal stop →
        exec (chain m base frames) s = (.error stop, s₂) ∧
          exec (chain m base (frames.map .plain)) s = (.error stop, s₂)) ∧
    ∀ e, s₁.failure? b = some e → s₁.IsError e →
      ∃ r s₂, Delivers (chain m base frames) s (returnsFailure true frames) r s₂ ∧
        (∃ e', s₂.failure? r = some e') ∧
        Provenance s₁ b e (recordedSites true frames) r s₂ := by
  refine ⟨fun v hv => ?_, fun e hb he => ?_⟩
  · have hchain := exec_chain_success world n frames hbase hv
    have hplain := exec_chain_success world n (frames.map .plain) hbase hv
    rw [composed_map_plain] at hplain
    refine ⟨fun w r s₂ hsteps => ?_, fun stop s₂ hsteps hstop => ?_⟩
    · rw [hsteps] at hchain hplain
      exact ⟨hchain.1, hchain.2, hplain.1⟩
    · rw [hsteps] at hchain hplain
      exact ⟨hchain hstop, hplain hstop⟩
  · have hstart : Provenance s₁ b e [] b s₁ := .untouched fun _ _ ho => ho
    obtain ⟨r, s₂, hchain, hprovenance⟩ := Delivers.chain hb he frames (.returned hbase) hstart
    obtain ⟨e', hfail, -⟩ := hprovenance.failure hb he
    exact ⟨r, s₂, hchain, ⟨e', hfail⟩, hprovenance⟩

/-- A bare frame inside keeps the third frame from reporting its site. -/
theorem chain_spec_bare :
    let s : Store := { objects := #[.result false (.str "boom")] }
    let frames : List Frame := [⟨.instrumented ⟨"a.py", 1⟩, pure⟩, ⟨.bare, pure⟩,
      ⟨.instrumented ⟨"b.py", 2⟩, pure⟩, ⟨.instrumented ⟨"c.py", 3⟩, pure⟩]
    exec (pure (Value.ref 0)) s = (.ok (.ref 0), s) ∧
      ∃ r s', exec (chain (.ofDepth {} 4) (pure (.ref 0)) frames) s = (.ok r, s') ∧
        Provenance s (.ref 0) (.str "boom") [⟨"a.py", 1⟩, ⟨"c.py", 3⟩] r s' := by
  intro s frames
  have hbase : exec (pure (Value.ref 0)) s = (.ok (.ref 0), s) := rfl
  obtain ⟨r, s', hchain, -, hprovenance⟩ :=
    (chain_spec {} 0 frames hbase).2 (.str "boom") rfl (Store.isError_datum rfl)
  refine ⟨hbase, r, s', ?_, hprovenance⟩
  have hreturns : returnsFailure true frames = true := rfl
  rw [hreturns] at hchain
  cases hchain with
  | returned h => exact h

end ErrorTrail
