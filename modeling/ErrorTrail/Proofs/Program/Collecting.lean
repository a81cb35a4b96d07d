import ErrorTrail.Proofs.Program.Items

/-!
# Results of many items

What the functions of the library make of a list: `traverse` of the items with a function
(`exec_traverse_list`), `sequence` and `collect_results` of results (`exec_sequence`,
`exec_collect`). The latter call nothing: both go through the list with a pure function for each result
(`exec_iterate_results`), so that they are known by the list alone, and they agree
(`sequence_collect`).
-/

namespace ErrorTrail

open Act

variable {s s' : Store} {v : Value}

/-! ## Lists of results -/

/-- One turn of `Outcome.sequence`, after successes whose payloads are given, the last first. -/
def Outcome.sequenceTurn (next : Act (Option Value)) (done : List Value) :
    Act (List Value ⊕ Value) := do
  match ← next with
  | none => return .inr (← success (← allocValue (.list done.reverse)))
  | some r =>
    let (isOk, payload) ← view r
    return if isOk then .inl (payload :: done) else .inr r

/-- One turn of `Outcome.collect`, after results whose payloads are given, the last first. -/
def Outcome.collectTurn (next : Act (Option Value)) (done : List Value × List Value) :
    Act ((List Value × List Value) ⊕ Value) := do
  match ← next with
  | none =>
    if done.2.isEmpty then return .inr (← success (← allocValue (.list done.1.reverse)))
    else return .inr (← failure (← allocValue (.list done.2.reverse)))
  | some r =>
    let (isOk, payload) ← view r
    return .inl (if isOk then (payload :: done.1, done.2) else (done.1, payload :: done.2))

theorem sequence_eq (next : Act (Option Value)) (n : Nat) :
    Outcome.sequence next n = iterate (Outcome.sequenceTurn next) n [] := rfl

theorem collect_eq (next : Act (Option Value)) (n : Nat) :
    Outcome.collect next n = iterate (Outcome.collectTurn next) n ([], []) := rfl

/-! ### Loops -/

/-- What a loop over results comes to: from `x`, `turn` goes on with each result and what is in it, or
ends with a value. -/
def Outcome.throughResults {σ : Type} (view : Value → Option (Bool × Value))
    (turn : σ → Value → Bool × Value → σ ⊕ Value) : σ → List Value → σ ⊕ Value
  | x, [] => .inl x
  | x, r :: rest =>
    match (view r).map (turn x r) with
    | none => .inl x
    | some (.inl y) => throughResults view turn y rest
    | some (.inr v) => .inr v

/-- What `sequence` does with a result: it keeps the payload of a success, and ends with a failure. -/
def Outcome.keepSuccess (done : List Value) (r : Value) (p : Bool × Value) : List Value ⊕ Value :=
  if p.1 then .inl (p.2 :: done) else .inr r

/-- What `collect_results` does with a result: it keeps the payload, of a success or of a failure. -/
def Outcome.keepEither (done : List Value × List Value) (_ : Value) (p : Bool × Value) :
    (List Value × List Value) ⊕ Value :=
  .inl (if p.1 then (p.2 :: done.1, done.2) else (done.1, p.2 :: done.2))

theorem sequenceTurn_eq (next : Act (Option Value)) (done : List Value) :
    Outcome.sequenceTurn next done = do
      match ← next with
      | none => return .inr (← Outcome.makeList true done.reverse)
      | some r => return Outcome.keepSuccess done r (← Outcome.view r) := by
  refine bind_congr fun r? => ?_
  cases r? with
  | none => simp only [Outcome.makeList, Outcome.success, bind_assoc]
  | some r => rfl

theorem collectTurn_eq (next : Act (Option Value)) (done : List Value × List Value) :
    Outcome.collectTurn next done = do
      match ← next with
      | none => return .inr (← Outcome.makeCollected done.1.reverse done.2.reverse)
      | some r => return Outcome.keepEither done r (← Outcome.view r) := by
  refine bind_congr fun r? => ?_
  cases r? with
  | none =>
    rw [Outcome.makeCollected, List.isEmpty_reverse]
    cases done.2.isEmpty <;>
      simp [Outcome.makeList, Outcome.success, Outcome.failure]
  | some r => rfl

section Through

variable {σ : Type} {view : Value → Option (Bool × Value)} {turn : σ → Value → Bool × Value → σ ⊕ Value}
  {x y : σ} {r v : Value} {p : Bool × Value} {rest : List Value}

theorem throughResults_inl (hr : view r = some p) (h : turn x r p = .inl y) :
    Outcome.throughResults view turn x (r :: rest) = Outcome.throughResults view turn y rest := by
  simp [Outcome.throughResults, hr, h]

theorem throughResults_inr (hr : view r = some p) (h : turn x r p = .inr v) :
    Outcome.throughResults view turn x (r :: rest) = .inr v := by
  simp [Outcome.throughResults, hr, h]

end Through

/-- `sequence` ends with the first failure, or else has all payloads. -/
theorem throughResults_keepSuccess {rest : List Value}
    (hresults : ∀ r ∈ rest, (s.outcome? r).isSome) (done : List Value) :
    Outcome.throughResults s.outcome? Outcome.keepSuccess done rest =
      match s.firstFailure? rest with
      | some r => .inr r
      | none => .inl ((rest.filterMap s.success?).reverse ++ done) := by
  induction rest generalizing done with
  | nil => rfl
  | cons r rest ih =>
    obtain ⟨⟨isOk, y⟩, hr⟩ := Option.isSome_iff_exists.1 (hresults r List.mem_cons_self)
    cases isOk with
    | false =>
      rw [throughResults_inr hr rfl]
      simp [Store.firstFailure?, Store.failure?, hr]
    | true =>
      have hfirst : s.firstFailure? (r :: rest) = s.firstFailure? rest := by
        simp [Store.firstFailure?, Store.failure?, hr]
      have hpayload : (r :: rest).filterMap s.success? = y :: rest.filterMap s.success? :=
        List.filterMap_cons_some (by simp [Store.success?, hr])
      rw [throughResults_inl hr rfl, ih fun q hq => hresults q (List.mem_cons_of_mem r hq), hfirst,
        hpayload, List.reverse_cons, List.append_assoc]
      rfl

/-- `collect_results` has all payloads. -/
theorem throughResults_keepEither {rest : List Value}
    (hresults : ∀ r ∈ rest, (s.outcome? r).isSome) (oks errs : List Value) :
    Outcome.throughResults s.outcome? Outcome.keepEither (oks, errs) rest =
      .inl ((rest.filterMap s.success?).reverse ++ oks,
        (rest.filterMap s.failure?).reverse ++ errs) := by
  induction rest generalizing oks errs with
  | nil => rfl
  | cons r rest ih =>
    obtain ⟨⟨isOk, y⟩, hr⟩ := Option.isSome_iff_exists.1 (hresults r List.mem_cons_self)
    have hrest := fun q hq => hresults q (List.mem_cons_of_mem r hq)
    rw [throughResults_inl hr rfl, ih hrest]
    cases isOk <;> simp [Store.success?, Store.failure?, hr]

section Results

variable {m m' : Machine} (hm : m.resume = m'.step) {i l : Ref} {k n : Nat} {rest : List Value}

theorem exec_iterate_inl {σ α : Type} {step : σ → Act (σ ⊕ α)} {x y : σ}
    (h : exec (step x) s = (.ok (.inl y), s')) (n : Nat) :
    exec (iterate step (n + 1) x) s = exec (iterate step n y) s' := by
  rw [iterate, exec_bind_ok h]

theorem exec_iterate_inr {σ α : Type} {step : σ → Act (σ ⊕ α)} {x : σ} {a : α}
    (h : exec (step x) s = (.ok (.inr a), s')) (n : Nat) :
    exec (iterate step (n + 1) x) s = (.ok a, s') := by
  rw [iterate, exec_bind_ok h]
  rfl

section Turn

variable (hi : s.objects[i]? = some (.iterator (.sequence l k))) {r : Value} {c : Course}

include hi

theorem drop_turn (hrest : (s.listAt l).drop k = r :: rest) :
    ((s.turn i c).listAt l).drop (k + 1) = rest := by
  rw [Store.listAt_turn hi, ← List.drop_drop, hrest, List.drop_one, List.tail_cons]

theorem outcomes_turn (hresults : ∀ q ∈ r :: rest, (s.outcome? q).isSome) :
    ∀ q ∈ rest, ((s.turn i c).outcome? q).isSome := by
  intro q hq
  rw [Store.outcome?_turn hi]
  exact hresults q (List.mem_cons_of_mem _ hq)

end Turn

include hm

section Next

variable (hi : s.objects[i]? = some (.iterator (.sequence l k)))

include hi

/-- The next of the results in a list is taken and looked into. -/
theorem exec_advance_result {r : Value} {p : Bool × Value}
    (hrest : (s.listAt l).drop k = r :: rest) (hr : s.outcome? r = some p) :
    exec (m.advance (.ref i)) s = (.ok (some r), s.turn i (.sequence l (k + 1))) ∧
      exec (Outcome.view r) (s.turn i (.sequence l (k + 1))) =
        (.ok p, s.turn i (.sequence l (k + 1))) := by
  have hat : (s.listAt l)[k]? = some r := by
    rw [← List.head?_drop, hrest, List.head?_cons]
  have hnext := Machine.exec_advance_sequence hi hm
  rw [hat] at hnext
  exact ⟨hnext, exec_view ((Store.outcome?_turn hi r).trans hr)⟩

theorem exec_advance_end (hrest : (s.listAt l).drop k = []) :
    exec (m.advance (.ref i)) s = (.ok none, s.turn i (.items [])) := by
  have hnext := Machine.exec_advance_sequence hi hm
  rwa [List.getElem?_eq_none (List.drop_eq_nil_iff.1 hrest)] at hnext

end Next

/-- A loop over the results in a list takes one after the other, until a turn ends it. -/
theorem exec_iterate_results {σ : Type} {step : σ → Act (σ ⊕ Value)} {finish : σ → Act Value}
    {turn : σ → Value → Bool × Value → σ ⊕ Value}
    (hstep : ∀ x, step x = do
      match ← m.advance (.ref i) with
      | none => return .inr (← finish x)
      | some r => return turn x r (← Outcome.view r))
    (hi : s.objects[i]? = some (.iterator (.sequence l k))) (hrest : (s.listAt l).drop k = rest)
    (hresults : ∀ r ∈ rest, (s.outcome? r).isSome) (hn : rest.length < n) (x : σ) :
    ∃ c, exec (iterate step n x) s =
      match Outcome.throughResults s.outcome? turn x rest with
      | .inl y => exec (finish y) (s.turn i c)
      | .inr v => (.ok v, s.turn i c) := by
  induction rest generalizing s k n x with
  | nil =>
    obtain ⟨n, rfl⟩ : ∃ n', n = n' + 1 := ⟨n - 1, (Nat.sub_add_cancel hn).symm⟩
    refine ⟨.items [], ?_⟩
    rw [iterate, hstep, bind_assoc, exec_bind_ok (exec_advance_end hm hi hrest)]
    simp only [bind_assoc, pure_bind, bind_pure, Outcome.throughResults]
  | cons r rest ih =>
    obtain ⟨n, rfl⟩ : ∃ n', n = n' + 1 := ⟨n - 1, by omega⟩
    obtain ⟨p, hr⟩ := Option.isSome_iff_exists.1 (hresults r List.mem_cons_self)
    obtain ⟨hnext, hview⟩ := exec_advance_result hm hi hrest hr
    have hturn : exec (step x) s = (.ok (turn x r p), s.turn i (.sequence l (k + 1))) := by
      rw [hstep, exec_bind_ok hnext]
      exact exec_bind_ok hview
    cases hp : turn x r p with
    | inr v =>
      rw [hp] at hturn
      rw [throughResults_inr hr hp]
      exact ⟨_, exec_iterate_inr hturn n⟩
    | inl y =>
      rw [hp] at hturn
      obtain ⟨c, hc⟩ := ih (Store.turn_getElem?_self hi) (n := n) (k := k + 1) (drop_turn hi hrest)
        (outcomes_turn hi hresults) (Nat.lt_of_succ_lt_succ hn) y
      have hsame : (s.turn i (.sequence l (k + 1))).outcome? = s.outcome? :=
        funext (Store.outcome?_turn hi)
      rw [hsame, Store.turn_turn] at hc
      rw [throughResults_inl hr hp]
      exact ⟨c, (exec_iterate_inl hturn n).trans hc⟩

/-- A list of results up to the first failure: the very result. Without one: the success of a new
list of the payloads. -/
theorem exec_sequence_rest (hi : s.objects[i]? = some (.iterator (.sequence l k)))
    (hrest : (s.listAt l).drop k = rest) (hresults : ∀ r ∈ rest, (s.outcome? r).isSome)
    (hn : rest.length < n) (ys : List Value) :
    ∃ c, exec (iterate (Outcome.sequenceTurn (m.advance (.ref i))) n ys) s =
      match s.firstFailure? rest with
      | some r => (.ok r, s.turn i c)
      | none =>
        exec (Outcome.makeList true (ys.reverse ++ rest.filterMap s.success?)) (s.turn i c) := by
  obtain ⟨c, hc⟩ :=
    exec_iterate_results hm (sequenceTurn_eq _) hi hrest hresults hn ys
  rw [throughResults_keepSuccess hresults] at hc
  refine ⟨c, hc.trans ?_⟩
  cases s.firstFailure? rest with
  | none => simp only [List.reverse_append, List.reverse_reverse]
  | some r => rfl

/-- All results of a list: the failure of a new list of the errors if there are any, else the
success of a new list of the payloads. -/
theorem exec_collect_rest (hi : s.objects[i]? = some (.iterator (.sequence l k)))
    (hrest : (s.listAt l).drop k = rest) (hresults : ∀ r ∈ rest, (s.outcome? r).isSome)
    (hn : rest.length < n) (oks errs : List Value) :
    ∃ c, exec (iterate (Outcome.collectTurn (m.advance (.ref i))) n (oks, errs)) s =
      exec (Outcome.makeCollected (oks.reverse ++ rest.filterMap s.success?)
        (errs.reverse ++ rest.filterMap s.failure?)) (s.turn i c) := by
  obtain ⟨c, hc⟩ :=
    exec_iterate_results hm (collectTurn_eq _) hi hrest hresults hn (oks, errs)
  rw [throughResults_keepEither hresults] at hc
  refine ⟨c, hc.trans ?_⟩
  simp only [List.reverse_append, List.reverse_reverse]

end Results

/-! ## The functions of the library -/

/-- The items of a list are gone through by a new iterator. -/
theorem exec_overItems {m : Machine} {l : Ref} {items : List Value}
    (hl : s.objects[l]? = some (.list items)) (take : Act (Option Value) → Nat → Act Value) :
    exec (LibraryFunction.overItems m (.ref l) take) s =
      exec (take (m.advance (.ref s.objects.size)) m.patience)
        (s.extend [.iterator (.sequence l 0)]) := by
  have hread : exec (read l) s = (.ok (.list items), s) := by rw [exec_read, hl]; rfl
  have hiterator : exec (m.iterator (.ref l)) s =
      (.ok (.ref s.objects.size), s.extend [.iterator (.sequence l 0)]) := by
    rw [Machine.iterator, exec_bind_ok hread]
    rfl
  rw [LibraryFunction.overItems, exec_bind_ok hiterator]

theorem exec_traverse_list {m : Machine} {l : Ref} {items : List Value}
    (hl : s.objects[l]? = some (.list items)) (f : Value) :
    exec (LibraryFunction.call m "traverse" [.ref l, f] []) s =
      exec (Outcome.traverse (LibraryFunction.apply m f) (m.advance (.ref s.objects.size))
        m.patience) (s.extend [.iterator (.sequence l 0)]) := by
  rw [LibraryFunction.call, exec_bind_ok (Machine.exec_two "items" "f" _ _)]
  exact exec_overItems hl _

/-- The only change to a store with a new iterator is where it has come. -/
theorem Store.turn_extend (s : Store) (c c' : Course) :
    (s.extend [.iterator c]).turn s.objects.size c' = s.extend [.iterator c'] :=
  s.write_extend (.iterator c) (.iterator c') []

/-- A value is a result of a list with these items. -/
def Store.HoldsList (s : Store) (v : Value) (isOk : Bool) (xs : List Value) : Prop :=
  ∃ p a, v = .ref p ∧ s.objects[p]? = some (.result isOk (.ref a)) ∧
    s.objects[a]? = some (.list xs)

theorem holdsList_withList (s : Store) (isOk : Bool) (xs : List Value) :
    (s.withList isOk xs).HoldsList (.ref (s.objects.size + 1)) isOk xs :=
  ⟨_, s.objects.size, rfl, by simp [Store.withList, Store.extend],
    by simp [Store.withList, Store.extend]⟩

theorem Store.HoldsList.extend {isOk : Bool} {xs : List Value} (h : s.HoldsList v isOk xs)
    (more : List Obj) : (s.extend more).HoldsList v isOk xs := by
  obtain ⟨p, a, rfl, hp, ha⟩ := h
  exact ⟨p, a, rfl, Store.extend_getElem? hp more, Store.extend_getElem? ha more⟩

/-- A result stays what it is when objects are made. -/
theorem outcome?_extend {p : Bool × Value} (h : s.outcome? v = some p) (more : List Obj) :
    (s.extend more).outcome? v = some p := by
  cases v with
  | ref r =>
    rcases ho : s.objects[r]? with _ | o
    · simp [Store.outcome?, ho] at h
    · rw [Store.outcome?, ho] at h
      rw [Store.outcome?, Store.extend_getElem? ho]
      exact h
  | _ => cases h

section Lists

variable {m m' : Machine} (hm : m.resume = m'.step) {l : Ref} {items : List Value}
  (hl : s.objects[l]? = some (.list items)) (hresults : ∀ r ∈ items, (s.outcome? r).isSome)
  (hn : items.length < m.patience)

include hresults in
theorem outcomes_extend (more : List Obj) :
    s.firstFailure? items = (s.extend more).firstFailure? items ∧
      items.filterMap (s.extend more).success? = items.filterMap s.success? ∧
      items.filterMap (s.extend more).failure? = items.filterMap s.failure? ∧
      ∀ r ∈ items, ((s.extend more).outcome? r).isSome := by
  have hsame : ∀ r ∈ items, (s.extend more).outcome? r = s.outcome? r := by
    intro r hr
    obtain ⟨p, hp⟩ := Option.isSome_iff_exists.1 (hresults r hr)
    rw [hp, outcome?_extend hp]
  have hfailure : ∀ r ∈ items, (s.extend more).failure? r = s.failure? r := by
    intro r hr
    rw [Store.failure?, Store.failure?, hsame r hr]
  refine ⟨?_, List.filterMap_congr fun r hr => ?_, List.filterMap_congr hfailure, fun r hr => ?_⟩
  · refine List.find?_congr fun r hr => ?_
    rw [hfailure r hr]
  · rw [Store.success?, Store.success?, hsame r hr]
  · rw [hsame r hr]
    exact hresults r hr

include hm hl hresults hn

/-- `sequence` makes nothing but new objects. It gives the first failure, or else a success of all
payloads. -/
theorem exec_sequence : ∃ q more,
    exec (LibraryFunction.call m "sequence" [.ref l] []) s = (.ok q, s.extend more) ∧
      match s.firstFailure? items with
      | some r => q = r
      | none => (s.extend more).HoldsList q true (items.filterMap s.success?) := by
  have hnew := s.extend_getElem?_size (.iterator (.sequence l 0)) []
  have hitems : ((s.extend [.iterator (.sequence l 0)]).listAt l).drop 0 = items := by
    rw [List.drop_zero, Store.listAt, Store.extend_getElem? hl]
  have hone : exec (Arguments.one "results" [.ref l] []) s = (.ok (.ref l), s) := rfl
  obtain ⟨hfirst, hoks, -, hsome⟩ := outcomes_extend hresults [.iterator (.sequence l 0)]
  obtain ⟨c, hc⟩ := exec_sequence_rest hm hnew hitems hsome hn []
  rw [Store.turn_extend, hoks, ← hfirst, List.reverse_nil, List.nil_append] at hc
  rw [LibraryFunction.call, exec_bind_ok hone, exec_overItems hl, sequence_eq, hc]
  rcases s.firstFailure? items with _ | r
  · exact ⟨_, _, (exec_makeList _ _ _).trans (by rw [Store.withList, Store.extend_extend]),
      by rw [← Store.extend_extend]; exact holdsList_withList _ _ _⟩
  · exact ⟨r, _, rfl, rfl⟩

/-- `collect_results` makes nothing but new objects. It gives a failure of all errors if there are
any, or else a success of all payloads. -/
theorem exec_collect : ∃ c more,
    exec (LibraryFunction.call m "collect_results" [.ref l] []) s = (.ok c, s.extend more) ∧
      (s.extend more).HoldsList c (items.filterMap s.failure?).isEmpty
        (if (items.filterMap s.failure?).isEmpty then items.filterMap s.success?
          else items.filterMap s.failure?) := by
  have hnew := s.extend_getElem?_size (.iterator (.sequence l 0)) []
  have hitems : ((s.extend [.iterator (.sequence l 0)]).listAt l).drop 0 = items := by
    rw [List.drop_zero, Store.listAt, Store.extend_getElem? hl]
  have hone : exec (Arguments.one "results" [.ref l] []) s = (.ok (.ref l), s) := rfl
  obtain ⟨-, hoks, herrs, hsome⟩ := outcomes_extend hresults [.iterator (.sequence l 0)]
  obtain ⟨c, hc⟩ := exec_collect_rest hm hnew hitems hsome hn [] []
  rw [Store.turn_extend, hoks, herrs, List.reverse_nil, List.nil_append, List.nil_append,
    exec_makeCollected] at hc
  rw [LibraryFunction.call, exec_bind_ok hone, exec_overItems hl, collect_eq, hc]
  refine ⟨_, _, by rw [Store.withList, Store.extend_extend], ?_⟩
  rw [← Store.extend_extend]
  exact holdsList_withList _ _ _

end Lists

/-! ## Equality of results of lists -/

section Equality

variable {world : World} {n : Nat} {p q a b : Ref} {xs : List Value} {isOk : Bool}

theorem exec_sameItems_self (m : Machine) (xs : List Value) (s : Store) :
    exec (m.sameItems xs xs) s = (.ok true, s) := by
  induction xs with
  | nil => rfl
  | cons x xs ih =>
    have hsame : exec (m.sameItem x x) s = (.ok true, s) := by
      rw [Machine.sameItem, if_pos (by simp)]
      rfl
    rw [Machine.sameItems, exec_bind_ok hsame]
    exact ih

/-- Objects of built-in classes are equal as the comparison of their classes says. -/
theorem exec_isEqual_objects {m : Machine} {o o' : Obj} {k : Kind} {e : Bool}
    (ho : s.objects[a]? = some o) (ho' : s.objects[b]? = some o') (hk : o.cls? = .kind k)
    (h : exec (m.equalObjects o o') s = (.ok (.bool e), s)) :
    exec (m.isEqual (.ref a) (.ref b)) s = (.ok e, s) := by
  have hclass := exec_classOf ho
  rw [hk] at hclass
  have hread : exec (read a) s = (.ok o, s) := by rw [exec_read, ho]; rfl
  have hread' : exec (read b) s = (.ok o', s) := by rw [exec_read, ho']; rfl
  have hhalf : exec (m.equalHalf (.ref a) (.ref b)) s = (.ok (.bool e), s) := by
    rw [Machine.equalHalf]
    simp only [Value.plainEqual?, Value.number?]
    rw [exec_bind_ok (exec_userMethod_kind hclass "__eq__")]
    simp only
    rw [exec_bind_ok hread, exec_bind_ok hread', h]
  have hcompare : exec (m.compareEqual (.ref a) (.ref b)) s = (.ok (.bool e), s) := by
    rw [Machine.compareEqual, exec_bind_ok hhalf]
    rfl
  rw [Machine.isEqual, exec_bind_ok hcompare]
  rfl

/-- Results of one variant are equal when their lists have the same items. -/
theorem exec_equal_lists (hp : s.objects[p]? = some (.result isOk (.ref a)))
    (hq : s.objects[q]? = some (.result isOk (.ref b))) (ha : s.objects[a]? = some (.list xs))
    (hb : s.objects[b]? = some (.list xs)) :
    exec ((Machine.ofDepth world (n + 2)).equal (.ref p) (.ref q)) s = (.ok true, s) := by
  have hlists : exec ((Machine.ofDepth world n).equalObjects (.list xs) (.list xs)) s =
      (.ok (.bool true), s) := by
    rw [Machine.equalObjects, if_neg (by simp), exec_bind_ok (exec_sameItems_self _ xs s)]
    rfl
  have hinner : exec ((Machine.ofDepth world (n + 1)).equal (.ref a) (.ref b)) s = (.ok true, s) :=
    exec_isEqual_objects ha hb rfl hlists
  have hresults : exec ((Machine.ofDepth world (n + 1)).equalObjects
      (.result isOk (.ref a)) (.result isOk (.ref b))) s = (.ok (.bool true), s) := by
    rw [Machine.equalObjects, if_neg (by simp)]
    simp only [Value.plainEqual?, Value.number?]
    exact exec_bind_ok hinner
  exact exec_isEqual_objects hp hq rfl hresults

end Equality

/-! ## The three functions -/

/-- Without a failure among results each has a payload. -/
theorem map_success?_of_firstFailure? {items : List Value}
    (hresults : ∀ r ∈ items, (s.outcome? r).isSome) (h : s.firstFailure? items = none) :
    items.map s.success? = (items.filterMap s.success?).map some ∧
      items.filterMap s.failure? = [] := by
  have hnone : ∀ r ∈ items, s.failure? r = none := by
    intro r hr
    simpa using List.find?_eq_none.1 h r hr
  refine ⟨?_, List.filterMap_eq_nil_iff.2 hnone⟩
  have hsome : ∀ r ∈ items, ∃ y, s.success? r = some y := by
    intro r hr
    obtain ⟨⟨isOk, y⟩, hy⟩ := Option.isSome_iff_exists.1 (hresults r hr)
    cases isOk with
    | true => exact ⟨y, by rw [Store.success?, hy]⟩
    | false =>
      have hfail := hnone r hr
      rw [Store.failure?, hy] at hfail
      cases hfail
  clear h hresults hnone
  induction items with
  | nil => rfl
  | cons r rest ih =>
    obtain ⟨y, hy⟩ := hsome r List.mem_cons_self
    rw [List.map_cons, List.filterMap_cons_some hy, List.map_cons, hy,
      ih fun q hq => hsome q (List.mem_cons_of_mem _ hq)]

/-- The error of the first failure is the first of all errors. -/
theorem head?_filterMap_failure? {items : List Value} {r : Value}
    (h : s.firstFailure? items = some r) :
    ∃ e, s.failure? r = some e ∧ (items.filterMap s.failure?).head? = some e := by
  induction items with
  | nil => cases h
  | cons q rest ih =>
    rcases hq : s.failure? q with _ | e
    · rw [List.filterMap_cons_none hq]
      exact ih (by simpa [Store.firstFailure?, List.find?_cons, hq] using h)
    · obtain rfl : q = r := by simpa [Store.firstFailure?, List.find?_cons, hq] using h
      exact ⟨e, hq, by rw [List.filterMap_cons_some hq, List.head?_cons]⟩

section Agree

variable {world : World} {n patience : Nat} {l : Ref} {items : List Value}

/-- On a list of results `sequence` and `collect_results` are successes together, of the payloads
and then equal; or `sequence` is the first failure and `collect_results` a failure of all errors. -/
theorem sequence_collect (hl : s.objects[l]? = some (.list items))
    (hresults : ∀ r ∈ items, (s.outcome? r).isSome) (hn : items.length < patience) :
    let m : Machine := { Machine.ofDepth world (n + 2) with patience }
    ∃ q c s₁ s₂,
      exec (LibraryFunction.call m "sequence" [.ref l] []) s = (.ok q, s₁) ∧
      exec (LibraryFunction.call m "collect_results" [.ref l] []) s₁ = (.ok c, s₂) ∧
      match s.firstFailure? items with
      | none => ∃ oks, items.map s.success? = oks.map some ∧
          s₂.HoldsList q true oks ∧ s₂.HoldsList c true oks ∧
          exec (m.equal q c) s₂ = (.ok true, s₂)
      | some r => q = r ∧ s₂.HoldsList c false (items.filterMap s.failure?) ∧
          ∃ e, s₂.failure? q = some e ∧ (items.filterMap s.failure?).head? = some e := by
  intro m
  have hm : m.resume = (Machine.ofDepth world (n + 1)).step := rfl
  obtain ⟨q, more, hsequence, hq⟩ := exec_sequence hm hl hresults hn
  obtain ⟨hfirst, hoks, herrs, hsome⟩ := outcomes_extend hresults more
  obtain ⟨c, more', hcollect, hc⟩ := exec_collect hm (Store.extend_getElem? hl more) hsome hn
  rw [hoks, herrs] at hc
  refine ⟨q, c, _, _, hsequence, hcollect, ?_⟩
  rcases hr : s.firstFailure? items with _ | r <;> rw [hr] at hq
  · obtain ⟨hmap, hnone⟩ := map_success?_of_firstFailure? hresults hr
    rw [hnone] at hc
    have hq' := hq.extend more'
    refine ⟨_, hmap, hq', hc, ?_⟩
    obtain ⟨p, a, rfl, hp, ha⟩ := hq'
    obtain ⟨p', b, rfl, hp', hb⟩ := hc
    exact exec_equal_lists hp hp' ha hb
  · obtain ⟨e, he, hhead⟩ := head?_filterMap_failure? hr
    have hsome : (items.filterMap s.failure?).isEmpty = false := by
      rcases hlist : items.filterMap s.failure? with _ | ⟨e, es⟩
      · rw [hlist] at hhead
        cases hhead
      · rfl
    rw [hsome] at hc
    obtain rfl : q = r := hq
    refine ⟨rfl, hc, e, ?_, hhead⟩
    have hkept := (Store.grows_extend s more).failure? he
    exact (Store.grows_extend _ more').failure? hkept

/-- `traverse` of a list calls the function for one item after the other, up to the first for which
it does not give a success, and gives what that comes to; `sequence` and `collect_results` of a list
of results agree. The iterator over the list is new: it is for the calls of no function to change
it. -/
theorem traverse_sequence_collect (hl : s.objects[l]? = some (.list items))
    (hn : items.length < patience) (f : Value) :
    let m : Machine := { Machine.ofDepth world (n + 2) with patience }
    let i := s.objects.size
    let begun := s.extend [.iterator (.sequence l 0)]
    let run := goThrough (m.advance (.ref i)) (LibraryFunction.apply m f) patience begun
    let script := traverseScript (m.advance (.ref i)) (LibraryFunction.apply m f) patience []
    (exec (LibraryFunction.call m "traverse" [.ref l, f] []) s = exec script.run begun ∧
      exec script.run begun = run.ending.given run.store ∧
      script.calls begun = run.calls.map StepCall.guarded ∧ run.Accounts ∧
      ((∀ c ∈ run.calls, c.Leaves i) → run.TakesList begun i l 0 patience) ∧
      ((∀ c ∈ run.calls, c.Leaves i ∧ c.Leaves l) → run.InOrder items)) ∧
    ((∀ r ∈ items, (s.outcome? r).isSome) → ∃ q c s₁ s₂,
      exec (LibraryFunction.call m "sequence" [.ref l] []) s = (.ok q, s₁) ∧
      exec (LibraryFunction.call m "collect_results" [.ref l] []) s₁ = (.ok c, s₂) ∧
      match s.firstFailure? items with
      | none => ∃ oks, items.map s.success? = oks.map some ∧
          s₂.HoldsList q true oks ∧ s₂.HoldsList c true oks ∧
          exec (m.equal q c) s₂ = (.ok true, s₂)
      | some r => q = r ∧ s₂.HoldsList c false (items.filterMap s.failure?) ∧
          ∃ e, s₂.failure? q = some e ∧ (items.filterMap s.failure?).head? = some e) := by
  intro m i begun run script
  have hm : m.resume = (Machine.ofDepth world (n + 1)).step := rfl
  have hi : begun.objects[i]? = some (.iterator (.sequence l 0)) :=
    s.extend_getElem?_size _ []
  have hitems : begun.listAt l = items := by rw [Store.listAt, Store.extend_getElem? hl]
  have hne : l ≠ i := by
    intro h
    obtain ⟨hlt, -⟩ := Array.getElem?_eq_some_iff.1 hl
    exact absurd h (Nat.ne_of_lt hlt)
  have htakes (h : ∀ c ∈ run.calls, c.Leaves i) := goThrough_takesList hm hi h
  have hscript : script.run = _ := run_traverseScript _ _ _
  obtain ⟨hgiven, hcalls⟩ :=
    exec_traverse (m.advance (.ref i)) (LibraryFunction.apply m f) patience begun
  refine ⟨⟨?_, ?_, hcalls, goThrough_accounts _ _ _ _, htakes, fun h => ?_⟩,
    fun hresults => sequence_collect hl hresults hn⟩
  · rw [hscript]
    exact exec_traverse_list hl f
  · rw [hscript]
    exact hgiven
  · have horder := (htakes fun c hc => (h c hc).1).inOrder hne (fun c hc => (h c hc).2)
    rw [hitems] at horder
    exact horder hn

end Agree

/-- A list of a success and a failure: each is made the payload of a success, and together they are
a failure. -/
theorem traverse_sequence_collect_mixed :
    let s : Store :=
      { objects := #[.list [.ref 1, .ref 2], .result true .none, .result false (.str "e")] }
    let items : List Value := [.ref 1, .ref 2]
    let m : Machine := { Machine.ofDepth {} 3 with patience := 3 }
    let begun := s.extend [.iterator (.sequence 0 0)]
    let run := goThrough (m.advance (.ref 3)) (LibraryFunction.apply m (.native "Ok")) 3 begun
    (s.objects[0]? = some (.list items) ∧ items.length < 3) ∧
      (∀ c ∈ run.calls, c.Leaves 3 ∧ c.Leaves 0) ∧ run.InOrder items ∧
      (exec (LibraryFunction.call m "traverse" [.ref 0, .native "Ok"] []) s).1 = .ok (.ref 7) ∧
      (∀ r ∈ items, (s.outcome? r).isSome) ∧ s.firstFailure? items = some (.ref 2) ∧
      (exec (LibraryFunction.call m "sequence" [.ref 0] []) s).1 = .ok (.ref 2) := by
  intro s items m begun run
  have hl : s.objects[0]? = some (.list items) := rfl
  have hn : items.length < 3 := by decide
  have happly : LibraryFunction.apply m (.native "Ok") = Outcome.success :=
    funext fun v => Machine.call_success v
  obtain ⟨⟨htraverse, hgiven, -, -, -, horder⟩, hresults⟩ :=
    @traverse_sequence_collect s {} 1 3 0 items hl hn (.native "Ok")
  have hrun : run = goThrough (m.advance (.ref 3)) Outcome.success 3 begun := by rw [← happly]
  have hleaves : ∀ c ∈ run.calls, c.Leaves 3 ∧ c.Leaves 0 := by
    rw [hrun]
    intro c hc
    obtain rfl | hc := List.mem_cons.1 hc
    · exact ⟨rfl, rfl⟩
    obtain rfl | hc := List.mem_cons.1 hc
    · exact ⟨rfl, rfl⟩
    exact absurd hc List.not_mem_nil
  have hsome : ∀ r ∈ items, (s.outcome? r).isSome := by decide
  have hfirst : s.firstFailure? items = some (.ref 2) := rfl
  refine ⟨⟨hl, hn⟩, hleaves, horder hleaves, ?_, hsome, hfirst, ?_⟩
  · rw [htraverse, hgiven]
    show (run.ending.given run.store).1 = _
    rw [hrun]
    rfl
  · obtain ⟨q, c, s₁, s₂, hq, -, hboth⟩ := hresults hsome
    rw [hfirst] at hboth
    rw [hq, hboth.1]

namespace Machine

variable {world : World} {n : Nat} {it : Value}

/-- At the end of an iterator `next` raises what ends iterations. -/
theorem exec_call_next
    (h : exec ((ofDepth world n).resume it (.send .none)) s = (.ok (.done .none), s')) :
    exec ((ofDepth world (n + 1)).call (.native "next") [it] []) s =
      (.error (.raised (.ref s'.objects.size)),
        s'.extend [.exception (.kind .stopIteration) [] .none .plain []]) := by
  have hsplit : "next".splitOn "." = ["next"] := by
    rw [Text.splitOn_char '.']
    decide
  have hlibrary : "next" ∉ libraryFunctions := by decide
  have hcall : (ofDepth world (n + 1)).call (.native "next") [it] [] =
      BasicFunction.call (ofDepth world n) "next" [it] [] := by
    rw [call_ofDepth]
    unfold invoke
    simp [completion, Native.call, hsplit, hlibrary]
  rw [hcall]
  unfold BasicFunction.call
  simp only
  rw [exec_bind_ok h]
  rfl

end Machine

/-- A function that raises what ends iterations is not told from the end of the generator: another
exception comes out. -/
theorem not_traverse_raises :
    let s : Store := { objects := #[.iterator (.items []), .list [.ref 0]] }
    let m : Machine := { Machine.ofDepth {} 3 with patience := 2 }
    ∃ e s₁, exec (LibraryFunction.apply m (.native "next") (.ref 0))
        (s.extend [.iterator (.sequence 1 1)]) = (.error (.raised e), s₁) ∧
      (exec (LibraryFunction.call m "traverse" [.ref 1, .native "next"] []) s).1 ≠
        .error (.raised e) := by
  intro s m
  have hl : s.objects[1]? = some (.list [.ref 0]) := rfl
  have hnext : exec (m.advance (.ref 2)) (s.extend [.iterator (.sequence 1 0)]) =
      (.ok (some (.ref 0)), s.extend [.iterator (.sequence 1 1)]) := rfl
  let raised : Store := { objects := #[.iterator (.items []), .list [.ref 0],
    .iterator (.sequence 1 1), .exception (.kind .stopIteration) [] .none .plain []] }
  have hf : exec (LibraryFunction.apply m (.native "next") (.ref 0))
      (s.extend [.iterator (.sequence 1 1)]) = (.error (.raised (.ref 3)), raised) :=
    @Machine.exec_call_next _ (s.extend [.iterator (.sequence 1 1)]) {} 2 _ rfl
  have hrun : goThrough (m.advance (.ref s.objects.size))
      (LibraryFunction.apply m (.native "next")) m.patience (s.extend [.iterator (.sequence 1 0)]) =
      ⟨[⟨LibraryFunction.apply m (.native "next"), .ref 0, s.extend [.iterator (.sequence 1 1)]⟩],
        .stopped (.raised (.ref 3)), raised⟩ := by
    show goThrough (m.advance (.ref 2)) _ 2 _ = _
    rw [goThrough, hnext]
    simp only [hf]
  refine ⟨.ref 3, raised, hf, ?_⟩
  have hran := (exec_traverse_list (m := m) hl (.native "next")).trans (exec_traverse _ _ _ _).1
  have hgiven : (exec (LibraryFunction.call m "traverse" [.ref 1, .native "next"] []) s).1 =
      .error (.raised (.ref 4)) := by
    rw [hran, hrun]
    rfl
  rw [hgiven]
  decide

end ErrorTrail
