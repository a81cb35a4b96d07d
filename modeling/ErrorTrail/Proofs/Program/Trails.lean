import ErrorTrail.Proofs.Program.Site

/-!
# Trails along a run of sites

A run reports sites on values of a store, one after the other: on results and other values, on
shared ones and on those that earlier calls gave. `Store.WellFormed` says what the failing results and
the envelopes of the store hold: errors, of which no two keep their locations in one object.

* `SiteStep` is what one call does, and `exec_reportSite` that every call does it.
* `SiteStep.wellFormed`, `SiteStep.flat` and `SiteStep.trail` are what a step preserves: the shape of
  the store, that no envelope holds an error that takes sites itself, and every trail up to the
  site that its own error was told.
* `reportSites_spec` carries these to whole runs.
-/

namespace ErrorTrail

open Act

/-! ## Well-formed stores -/

/-- Whether the code finds the members of an envelope in an error. -/
def Store.Capable (m : Machine) (s : Store) (e : Value) : Prop :=
  ∃ s', exec (Envelope.isCapable m e) s = (.ok true, s')

/-- The object at `r` is an envelope of `inner` with its locations at `trail`. -/
def Store.HasEnvelope (s : Store) (r : Ref) (inner : Value) (trail : Ref) : Prop :=
  ∃ c args cause fields,
    s.objects[r]? = some (.exception c args cause (.envelope inner trail) fields)

/-- Failing results and envelopes hold errors, and no two errors keep their locations in one
object. -/
structure Store.WellFormed (s : Store) : Prop where
  failures : ∀ {r : Ref} {e : Value}, s.objects[r]? = some (.result false e) → s.IsError e
  envelopes : ∀ {r : Ref} {inner : Value} {trail : Ref}, s.HasEnvelope r inner trail →
    s.IsError (.ref r) ∧ s.IsError inner
  unshared : ∀ {v v' : Value} {t : Ref}, s.trailRef? v = some t → s.trailRef? v' = some t → v = v'

/-- No envelope holds an error that takes sites itself. -/
def Store.Flat (m : Machine) (s : Store) : Prop :=
  ∀ ⦃r : Ref⦄ ⦃inner : Value⦄ ⦃trail : Ref⦄, s.HasEnvelope r inner trail → ¬ s.Capable m inner

namespace Store

variable {world : World} {n : Nat} {s s' : Store}

/-- The code finds the members of an envelope in the errors that keep locations. -/
theorem IsError.capable_iff {e : Value} (he : s.IsError e) :
    s.Capable (.ofDepth world (n + 1)) e ↔ (s.trailRef? e).isSome := by
  obtain ⟨lists, h⟩ := exec_isCapable world n he
  constructor
  · rintro ⟨s', h'⟩
    rw [h'] at h
    exact (Except.ok.inj (Prod.ext_iff.1 h).1).symm
  · intro hsome
    rw [hsome] at h
    exact ⟨_, h⟩

theorem Grows.capable_iff (h : s.Grows s') {e : Value} (he : s.IsError e) :
    s'.Capable (.ofDepth world (n + 1)) e ↔ s.Capable (.ofDepth world (n + 1)) e := by
  rw [(h.isError he).capable_iff, he.capable_iff, h.trailRef? he]

theorem WellFormed.failure (hs : s.WellFormed) {v e : Value} (h : s.failure? v = some e) :
    s.IsError e := by
  obtain ⟨r, -, hr⟩ := failure?_eq_some.1 h
  exact hs.failures hr

/-- The object that keeps the locations of an error takes any site that it is told. -/
theorem IsError.keeper {e : Value} {t : Ref} (he : s.IsError e) (ht : s.trailRef? e = some t) :
    ∃ o, s.objects[t]? = some o ∧ ∀ site, (o.told site).kept = o.kept ++ [.location site] := by
  cases he with
  | lacking _ htrail => exact absurd (htrail.symm.trans ht) nofun
  | @envelope r trail args cause inner fields items ho hfree htrail =>
    obtain rfl : trail = t := by simpa [trailRef?, ho, Obj.envelope] using ht
    exact ⟨_, htrail, fun site => rfl⟩
  | @foreign r f ho =>
    obtain ⟨-, rfl⟩ : f.capable = true ∧ r = t := by simpa [trailRef?, ho] using ht
    exact ⟨_, ho, fun site => by simp [Obj.told, Obj.kept]⟩

/-- More objects change no trail. -/
theorem IsError.trail_extend {e : Value} (he : s.IsError e) (more : List Obj) :
    (s.extend more).trail e = s.trail e := by
  have href := (s.grows_extend more).trailRef? he
  rcases ht : s.trailRef? e with _ | t
  · simp [trail, href, ht]
  · obtain ⟨o, ho, -⟩ := he.keeper ht
    simp [trail, href, ht, ho, extend_getElem? ho more]

theorem IsError.trail_tell {e : Value} {t : Ref} (he : s.IsError e) (ht : s.trailRef? e = some t)
    (site : Location) : (s.tell t site).trail e = s.trail e ++ [.location site] := by
  have href := (s.grows_tell t site).trailRef? he
  obtain ⟨o, ho, hkept⟩ := he.keeper ht
  simp [trail, href, ht, tell_getElem?, ho, hkept]

/-- Telling one error changes no other's trail. -/
theorem IsError.trail_tell_ne {e : Value} {t t' : Ref} (he : s.IsError e)
    (ht : s.trailRef? e = some t) (hne : t' ≠ t) (site : Location) :
    (s.tell t' site).trail e = s.trail e := by
  have href := (s.grows_tell t' site).trailRef? he
  simp [trail, href, ht, tell_getElem?, hne]

/-- What keeps locations is an error of the store. -/
theorem WellFormed.isError (hs : s.WellFormed) {v : Value} {t : Ref} (h : s.trailRef? v = some t) :
    s.IsError v := by
  unfold trailRef? at h
  split at h
  · split at h
    · next ho => exact (hs.envelopes ⟨_, _, _, _, ho⟩).1
    · next ho => exact .foreign ho
    · cases h
  · cases h

theorem WellFormed.trailRef?_lt (hs : s.WellFormed) {v : Value} {t : Ref}
    (h : s.trailRef? v = some t) : t < s.objects.size := by
  obtain ⟨o, ho, -⟩ := (hs.isError h).keeper h
  exact (Array.getElem?_eq_some_iff.1 ho).1

/-! ### Unused lists -/

/-- An object of a store with more lists is one of the store or a list. -/
theorem extend_lists_getElem? {lists : List (List Value)} {r : Ref} {o : Obj}
    (h : (s.extend (lists.map .list)).objects[r]? = some o) :
    s.objects[r]? = some o ∨ ∃ xs, o = .list xs := by
  rw [extend, Array.getElem?_append] at h
  split at h
  · exact .inl h
  · rw [List.getElem?_toArray, List.getElem?_map, Option.map_eq_some_iff] at h
    obtain ⟨xs, -, rfl⟩ := h
    exact .inr ⟨xs, rfl⟩

theorem hasEnvelope_of_extend_lists {lists : List (List Value)} {r : Ref} {inner : Value}
    {trail : Ref} (h : (s.extend (lists.map .list)).HasEnvelope r inner trail) :
    s.HasEnvelope r inner trail := by
  obtain ⟨c, args, cause, fields, ho⟩ := h
  obtain hold | ⟨xs, hxs⟩ := extend_lists_getElem? ho
  · exact ⟨c, args, cause, fields, hold⟩
  · cases hxs

/-- Lists keep no locations of errors. -/
theorem trailRef?_extend_lists (s : Store) (lists : List (List Value)) (v : Value) :
    (s.extend (lists.map .list)).trailRef? v = s.trailRef? v := by
  cases v with
  | ref r =>
    rcases h : s.objects[r]? with _ | o
    · simp only [trailRef?, h]
      rcases h' : (s.extend (lists.map .list)).objects[r]? with _ | o
      · rfl
      · obtain hold | ⟨xs, rfl⟩ := extend_lists_getElem? h'
        · simp [h] at hold
        · rfl
    · simp only [trailRef?, h, extend_getElem? h]
  | _ => rfl

theorem WellFormed.extend_lists (hs : s.WellFormed) (lists : List (List Value)) :
    (s.extend (lists.map .list)).WellFormed := by
  have hgrows := s.grows_extend (lists.map .list)
  refine ⟨?_, ?_, ?_⟩
  · intro r e h
    obtain hold | ⟨xs, hxs⟩ := extend_lists_getElem? h
    · exact hgrows.isError (hs.failures hold)
    · cases hxs
  · intro r inner trail h
    obtain ⟨he, hinner⟩ := hs.envelopes (hasEnvelope_of_extend_lists h)
    exact ⟨hgrows.isError he, hgrows.isError hinner⟩
  · intro v v' t h h'
    rw [trailRef?_extend_lists] at h h'
    exact hs.unshared h h'

/-! ### Telling -/

/-- An object after one was told a site is one from before, which may be the one that was told. -/
theorem tell_getElem?_some {t : Ref} {site : Location} {r : Ref} {o : Obj}
    (h : (s.tell t site).objects[r]? = some o) :
    s.objects[r]? = some o ∨ ∃ o', s.objects[r]? = some o' ∧ o = o'.told site := by
  rw [tell_getElem?] at h
  split at h
  · obtain ⟨o', ho', rfl⟩ := Option.map_eq_some_iff.1 h
    exact .inr ⟨o', ho', rfl⟩
  · exact .inl h

theorem hasEnvelope_of_tell {t : Ref} {site : Location} {r : Ref} {inner : Value} {trail : Ref}
    (h : (s.tell t site).HasEnvelope r inner trail) : s.HasEnvelope r inner trail := by
  obtain ⟨c, args, cause, fields, ho⟩ := h
  obtain hold | ⟨o, ho, htold⟩ := tell_getElem?_some ho
  · exact ⟨c, args, cause, fields, hold⟩
  · cases o <;> cases htold
    exact ⟨c, args, cause, fields, ho⟩

theorem trailRef?_tell (s : Store) (t : Ref) (site : Location) (v : Value) :
    (s.tell t site).trailRef? v = s.trailRef? v := by
  cases v with
  | ref r =>
    simp only [trailRef?, tell_getElem?]
    rcases s.objects[r]? with _ | o
    · simp
    · by_cases ht : t = r
      · cases o <;> simp [ht, Obj.told]
        rfl
      · simp [ht]
  | _ => rfl

theorem WellFormed.tell (hs : s.WellFormed) (t : Ref) (site : Location) :
    (s.tell t site).WellFormed := by
  have hgrows := s.grows_tell t site
  refine ⟨?_, ?_, ?_⟩
  · intro r e h
    obtain hold | ⟨o, ho, hresult⟩ := tell_getElem?_some h
    · exact hgrows.isError (hs.failures hold)
    · cases o <;> cases hresult
      exact hgrows.isError (hs.failures ho)
  · intro r inner trail h
    obtain ⟨he, hinner⟩ := hs.envelopes (hasEnvelope_of_tell h)
    exact ⟨hgrows.isError he, hgrows.isError hinner⟩
  · intro v v' t' h h'
    rw [trailRef?_tell] at h h'
    exact hs.unshared h h'

/-! ### Wrapping -/

/-- The store with a new failing result of a new envelope of an error, with one location. -/
def wrap (s : Store) (e cause : Value) (site : Location) : Store :=
  s.extend [.list [.location site], .envelope [] cause e s.objects.size [],
    .result false (.ref (s.objects.size + 1))]

theorem grows_wrap (s : Store) (e cause : Value) (site : Location) : s.Grows (s.wrap e cause site) :=
  s.grows_extend _

theorem wrap_getElem?_old {r : Ref} {o : Obj} (h : s.objects[r]? = some o) (e cause : Value)
    (site : Location) : (s.wrap e cause site).objects[r]? = some o :=
  extend_getElem? h _

/-- An object of a store with a new envelope is one of the store or one of the three new ones. -/
theorem wrap_getElem? {e cause : Value} {site : Location} {r : Ref} {o : Obj}
    (h : (s.wrap e cause site).objects[r]? = some o) :
    s.objects[r]? = some o ∨
      (r = s.objects.size ∧ o = .list [.location site]) ∨
      (r = s.objects.size + 1 ∧ o = .envelope [] cause e s.objects.size []) ∨
      (r = s.objects.size + 2 ∧ o = .result false (.ref (s.objects.size + 1))) := by
  rw [wrap, extend, Array.getElem?_append] at h
  split at h
  · exact .inl h
  · next hlt =>
    refine .inr ?_
    obtain ⟨d, rfl⟩ := Nat.exists_eq_add_of_le (Nat.le_of_not_lt hlt)
    rw [Nat.add_sub_cancel_left, List.getElem?_toArray] at h
    rcases d with _ | _ | _ | d
    · exact .inl ⟨rfl, (Option.some.inj h).symm⟩
    · exact .inr (.inl ⟨rfl, (Option.some.inj h).symm⟩)
    · exact .inr (.inr ⟨rfl, (Option.some.inj h).symm⟩)
    · simp at h

theorem hasEnvelope_of_wrap {e cause : Value} {site : Location} {r : Ref} {inner : Value}
    {trail : Ref} (h : (s.wrap e cause site).HasEnvelope r inner trail) :
    s.HasEnvelope r inner trail ∨ (r = s.objects.size + 1 ∧ inner = e) := by
  obtain ⟨c, args, cause', fields, ho⟩ := h
  obtain hold | ⟨-, ho⟩ | ⟨hr, ho⟩ | ⟨-, ho⟩ := wrap_getElem? ho
  · exact .inl ⟨c, args, cause', fields, hold⟩
  · cases ho
  · cases ho
    exact .inr ⟨hr, rfl⟩
  · cases ho

theorem wrap_getElem?_new (s : Store) (e cause : Value) (site : Location) :
    (s.wrap e cause site).objects[s.objects.size]? = some (.list [.location site]) ∧
      (s.wrap e cause site).objects[s.objects.size + 1]? =
        some (.envelope [] cause e s.objects.size []) ∧
      (s.wrap e cause site).objects[s.objects.size + 2]? =
        some (.result false (.ref (s.objects.size + 1))) := by
  simp [wrap, extend]

/-- A new envelope keeps its location in the new list. -/
theorem isError_wrap (s : Store) (e cause : Value) (site : Location) :
    (s.wrap e cause site).IsError (.ref (s.objects.size + 1)) := by
  obtain ⟨hlist, henvelope, -⟩ := s.wrap_getElem?_new e cause site
  exact .envelope henvelope (fun _ _ => rfl) hlist

/-- Besides the errors of the store only the new envelope keeps locations. -/
theorem trailRef?_wrap {e cause v : Value} {site : Location} {t : Ref}
    (h : (s.wrap e cause site).trailRef? v = some t) :
    s.trailRef? v = some t ∨ (v = .ref (s.objects.size + 1) ∧ t = s.objects.size) := by
  cases v with
  | ref r =>
    rcases hr : (s.wrap e cause site).objects[r]? with _ | o
    · simp [trailRef?, hr] at h
    · obtain hold | ⟨rfl, rfl⟩ | ⟨rfl, rfl⟩ | ⟨rfl, rfl⟩ := wrap_getElem? hr
      · refine .inl ?_
        simpa only [trailRef?, hr, hold] using h
      · simp [trailRef?, hr] at h
      · refine .inr ⟨rfl, ?_⟩
        simpa [trailRef?, hr, Obj.envelope] using h.symm
      · simp [trailRef?, hr] at h
  | _ => cases h

theorem WellFormed.wrap (hs : s.WellFormed) {e : Value} (he : s.IsError e) (cause : Value)
    (site : Location) : (s.wrap e cause site).WellFormed := by
  have hgrows := s.grows_wrap e cause site
  refine ⟨?_, ?_, ?_⟩
  · intro r e' h
    obtain hold | ⟨rfl, ho⟩ | ⟨rfl, ho⟩ | ⟨rfl, ho⟩ := wrap_getElem? h
    · exact hgrows.isError (hs.failures hold)
    · cases ho
    · cases ho
    · cases ho
      exact s.isError_wrap e cause site
  · intro r inner trail h
    obtain hold | ⟨rfl, rfl⟩ := hasEnvelope_of_wrap h
    · obtain ⟨hself, hinner⟩ := hs.envelopes hold
      exact ⟨hgrows.isError hself, hgrows.isError hinner⟩
    · exact ⟨s.isError_wrap inner cause site, hgrows.isError he⟩
  · intro v v' t h h'
    obtain hold | ⟨rfl, rfl⟩ := trailRef?_wrap h <;>
      obtain hold' | ⟨rfl, ht'⟩ := trailRef?_wrap h'
    · exact hs.unshared hold hold'
    · subst ht'
      exact absurd (hs.trailRef?_lt hold) (Nat.lt_irrefl _)
    · exact absurd (hs.trailRef?_lt hold') (Nat.lt_irrefl _)
    · rfl

end Store

/-! ## One call -/

/-- Calls the site function on a value. -/
def Machine.reportSite (m : Machine) (v : Value) (site : Location) : Act Value :=
  m.call (.native "wherrapper") [v, .str site.file, .int site.line] []

/-- What a call of the site function on `v` does to the store `s`: its answer and the store that it
leaves. Asking an error of another library for its members may leave unused lists. -/
inductive SiteStep (m : Machine) (s : Store) (v : Value) (site : Location) : Value → Store → Prop
  /-- a success or no result: the value is handed on, and nothing changes -/
  | passed (h : s.failure? v = none) : SiteStep m s v site v s
  /-- the failure of an error that takes sites: the one object that keeps its locations gets the
  site at its end, and the same result is handed on -/
  | told {e : Value} {t : Ref} (lists : List (List Value)) (h : s.failure? v = some e)
      (hcapable : s.Capable m e) (ht : s.trailRef? e = some t) :
      SiteStep m s v site v ((s.extend (lists.map .list)).tell t site)
  /-- the failure of another error: a new failing result of a new envelope of that error, all other
  objects staying as they are -/
  | wrapped {e : Value} (lists : List (List Value)) (cause : Value) (h : s.failure? v = some e)
      (hcapable : ¬ s.Capable m e) :
      SiteStep m s v site (.ref ((s.extend (lists.map .list)).objects.size + 2))
        ((s.extend (lists.map .list)).wrap e cause site)

section Step

variable {world : World} {n : Nat} {s s' : Store} {v r : Value} {site : Location}

variable (world n) in
/-- A call of the site function on what is no failure of anything but an error ends, and is a step. -/
theorem exec_reportSite (hv : ∀ e, s.failure? v = some e → s.IsError e) (site : Location) :
    ∃ r s', exec ((Machine.ofDepth world (n + 4)).reportSite v site) s = (.ok r, s') ∧
      SiteStep (.ofDepth world (n + 4)) s v site r s' := by
  have hcall : (Machine.ofDepth world (n + 4)).reportSite v site =
      Envelope.addSite (.ofDepth world (n + 3)) v site := Machine.call_wherrapper v site
  rw [hcall]
  rcases h : s.failure? v with _ | e
  · exact ⟨v, s, exec_addSite_passed h site, .passed h⟩
  have he := hv e h
  rcases ht : s.trailRef? e with _ | t
  · obtain ⟨lists, cause, hexec⟩ := exec_addSite_wrapped world (n + 2) h he ht site
    refine ⟨_, _, hexec, .wrapped lists cause h ?_⟩
    rw [he.capable_iff, ht]
    simp
  · obtain ⟨lists, hexec⟩ := exec_addSite_told world n h he ht site
    refine ⟨_, _, hexec, .told lists h ?_ ht⟩
    rw [he.capable_iff, ht]
    rfl

namespace SiteStep

variable {m : Machine}

/-- A step changes no object except for the locations that one keeps. -/
theorem grows (h : SiteStep m s v site r s') : s.Grows s' := by
  cases h with
  | passed => exact .refl s
  | told lists => exact (s.grows_extend _).trans (Store.grows_tell _ _ _)
  | wrapped lists cause => exact (s.grows_extend _).trans (Store.grows_wrap _ _ _ _)

theorem wellFormed (hs : s.WellFormed) (h : SiteStep m s v site r s') : s'.WellFormed := by
  cases h with
  | passed => exact hs
  | told lists => exact (hs.extend_lists lists).tell _ _
  | wrapped lists cause hfail =>
    exact (hs.extend_lists lists).wrap ((s.grows_extend _).isError (hs.failure hfail)) cause site

/-- A step makes no envelope of an error that takes sites itself. -/
theorem flat (hs : s.WellFormed) (h : SiteStep (.ofDepth world (n + 1)) s v site r s')
    (hflat : s.Flat (.ofDepth world (n + 1))) : s'.Flat (.ofDepth world (n + 1)) := by
  have hgrows := h.grows
  -- an envelope of the store from before holds an error that the step leaves as it was
  have hold : ∀ {r inner trail}, s.HasEnvelope r inner trail →
      ¬ s'.Capable (.ofDepth world (n + 1)) inner := by
    intro r inner trail ho
    rw [hgrows.capable_iff (hs.envelopes ho).2]
    exact hflat ho
  intro r' inner trail ho
  cases h with
  | passed => exact hflat ho
  | told => exact hold (Store.hasEnvelope_of_extend_lists (Store.hasEnvelope_of_tell ho))
  | wrapped lists cause hfail hcapable =>
    obtain ho | ⟨-, rfl⟩ := Store.hasEnvelope_of_wrap ho
    · exact hold (Store.hasEnvelope_of_extend_lists ho)
    · rw [hgrows.capable_iff (hs.failure hfail)]
      exact hcapable

/-- A step adds its site to the trail of the error that it is about, and to no other. -/
theorem trail (hs : s.WellFormed) (h : SiteStep (.ofDepth world (n + 1)) s v site r s') {e : Value}
    {t : Ref} (ht : s.trailRef? e = some t) :
    s'.trail e = s.trail e ++ if s.failure? v = some e then [.location site] else [] := by
  have he := hs.isError ht
  cases h with
  | passed hfail => simp [hfail]
  | @told e' t' lists hfail hcapable hte' =>
    have hgrows := s.grows_extend (lists.map .list)
    have ht₁ := (hgrows.trailRef? he).trans ht
    rw [hfail]
    by_cases hee' : e' = e
    · -- the site is for this error
      subst hee'
      obtain rfl : t' = t := Option.some.inj (hte'.symm.trans ht)
      rw [(hgrows.isError he).trail_tell ht₁, he.trail_extend, if_pos rfl]
    · have htt' : t' ≠ t := fun h => hee' (hs.unshared (h ▸ hte') ht)
      rw [(hgrows.isError he).trail_tell_ne ht₁ htt', he.trail_extend,
        if_neg fun h => hee' (Option.some.inj h), List.append_nil]
  | @wrapped e' lists cause hfail hcapable =>
    have hee' : e' ≠ e := by
      rintro rfl
      exact hcapable (he.capable_iff.2 (by simp [ht]))
    rw [Store.wrap, Store.extend_extend, he.trail_extend, hfail,
      if_neg fun h => hee' (Option.some.inj h), List.append_nil]

/-- A step changes at most one object of the store. -/
theorem frame (h : SiteStep m s v site r s') :
    ∃ t, ∀ r' < s.objects.size, r' ≠ t → s'.objects[r']? = s.objects[r']? := by
  have hextend : ∀ (more : List Obj) (r' : Ref), r' < s.objects.size →
      (s.extend more).objects[r']? = s.objects[r']? := by
    intro more r' hlt
    rw [Store.extend, Array.getElem?_append_left hlt]
  cases h with
  | passed => exact ⟨0, fun _ _ _ => rfl⟩
  | @told e t lists =>
    refine ⟨t, fun r' hlt hne => ?_⟩
    rw [Store.tell_getElem?, if_neg (Ne.symm hne), hextend _ _ hlt]
  | wrapped lists cause =>
    refine ⟨0, fun r' hlt _ => ?_⟩
    rw [Store.wrap, Store.extend_extend, hextend _ _ hlt]

end SiteStep

end Step

/-! ## Runs -/

namespace Machine

/-- Calls the site function on values, one after the other. -/
def reportSites (m : Machine) (calls : List (Value × Location)) : Act (List Value) :=
  calls.mapM fun c => m.reportSite c.1 c.2

/-- The sites that an error is told by calls that begin in a store: those of the calls on a result
that fails with this error. -/
def sitesTold (m : Machine) (e : Value) : List (Value × Location) → Store → List Location
  | [], _ => []
  | (v, site) :: calls, s =>
    (if s.failure? v = some e then [site] else []) ++
      m.sitesTold e calls (exec (m.reportSite v site) s).2

variable {world : World} {n : Nat} {s : Store}

/-- A run from a well-formed store ends, keeps its shape, and adds to every trail the sites that its
error was told. -/
theorem exec_reportSites (hs : s.WellFormed) (calls : List (Value × Location)) :
    ∃ answers s', exec ((ofDepth world (n + 4)).reportSites calls) s = (.ok answers, s') ∧
      s'.WellFormed ∧ s.Grows s' ∧
      (s.Flat (.ofDepth world (n + 4)) → s'.Flat (.ofDepth world (n + 4))) ∧
      ∀ {e t}, s.trailRef? e = some t →
        s'.trail e =
          s.trail e ++ ((ofDepth world (n + 4)).sitesTold e calls s).map .location := by
  induction calls generalizing s with
  | nil => exact ⟨[], s, rfl, hs, .refl s, id, fun _ => (List.append_nil _).symm⟩
  | cons c calls ih =>
    obtain ⟨v, site⟩ := c
    obtain ⟨r, s₁, hcall, hstep⟩ :=
      exec_reportSite world n (v := v) (fun e h => hs.failure h) site
    obtain ⟨answers, s', hrun, hs', hgrows, hflat, htrail⟩ := ih (hstep.wellFormed hs)
    refine ⟨r :: answers, s', ?_, hs', hstep.grows.trans hgrows,
      fun h => hflat (hstep.flat hs h), ?_⟩
    · rw [reportSites] at hrun ⊢
      rw [List.mapM_cons, exec_bind_ok hcall, exec_bind_ok hrun]
      rfl
    · intro e t ht
      have ht₁ := (hstep.grows.trailRef? (hs.isError ht)).trans ht
      rw [htrail ht₁, hstep.trail hs ht, sitesTold, hcall, List.append_assoc, List.map_append]
      split <;> rfl

end Machine

/-- A run of calls of the site function from a well-formed store, on any values, ends. In the store
that it leaves

* no envelope holds an error that takes sites itself, if none did at the start;
* any further call ends and is a step: it adds its site to the trail of an error that takes sites,
  or makes a new envelope, or does nothing (`SiteStep`), and changes no other object;
* after any further calls the trail of every envelope, and of every other error that takes sites, is
  the trail before them followed by the sites that they told it, in their order. -/
theorem reportSites_spec (world : World) (n : Nat) {s : Store} (hs : s.WellFormed)
    (calls : List (Value × Location)) :
    let m := Machine.ofDepth world (n + 4)
    ∃ answers s', exec (m.reportSites calls) s = (.ok answers, s') ∧
      (s.Flat m → s'.Flat m) ∧
      (∀ v site, ∃ r s'', exec (m.reportSite v site) s' = (.ok r, s'') ∧
        SiteStep m s' v site r s'' ∧
        ∃ t, ∀ r' < s'.objects.size, r' ≠ t → s''.objects[r']? = s'.objects[r']?) ∧
      ∀ later, ∃ answers' s'', exec (m.reportSites later) s' = (.ok answers', s'') ∧
        ∀ e t, s'.trailRef? e = some t →
          s''.trail e = s'.trail e ++ (m.sitesTold e later s').map .location := by
  intro m
  obtain ⟨answers, s', hrun, hs', -, hflat, -⟩ := Machine.exec_reportSites hs calls
  refine ⟨answers, s', hrun, hflat, ?_, ?_⟩
  · intro v site
    obtain ⟨r, s'', hcall, hstep⟩ :=
      exec_reportSite world n (v := v) (fun e h => hs'.failure h) site
    exact ⟨r, s'', hcall, hstep, hstep.frame⟩
  · intro later
    obtain ⟨answers', s'', hlater, -, -, -, htrail⟩ := Machine.exec_reportSites hs' later
    exact ⟨answers', s'', hlater, fun e t ht => htrail ht⟩

/-- Two failing results that share an envelope: a site on the second is told the envelope. -/
theorem reportSites_spec_shared :
    let s : Store := { objects := #[.list [.location ⟨"a.py", 1⟩],
      .envelope [] .none (.str "boom") 0 [], .result false (.ref 1), .result false (.ref 1)] }
    let m := Machine.ofDepth {} 4
    s.WellFormed ∧ ∃ answers s', exec (m.reportSites [(.ref 3, ⟨"b.py", 2⟩)]) s = (.ok answers, s') ∧
      s'.trail (.ref 1) = [.location ⟨"a.py", 1⟩, .location ⟨"b.py", 2⟩] := by
  intro s m
  have ho : s.objects[1]? = some (.envelope [] .none (.str "boom") 0 []) := rfl
  have henvelope : s.IsError (.ref 1) := .envelope ho (fun _ _ => rfl) rfl
  have honly : ∀ {v t}, s.trailRef? v = some t → v = .ref 1 := by
    intro v t h
    match v, h with
    | .ref 1, _ => rfl
    | .ref 0, h => cases h
    | .ref 2, h => cases h
    | .ref 3, h => cases h
  have hs : s.WellFormed := by
    refine ⟨?_, ?_, ?_⟩
    · intro r e h
      match r, h with
      | 2, h => cases h; exact henvelope
      | 3, h => cases h; exact henvelope
    · intro r inner trail ⟨_, _, _, _, h⟩
      match r, h with
      | 1, h => cases h; exact ⟨henvelope, Store.isError_datum rfl⟩
      | 2, h => cases h
      | 3, h => cases h
    · intro v v' t h h'
      exact (honly h).trans (honly h').symm
  obtain ⟨_, s', hrun, -, -, hlater⟩ := reportSites_spec {} 0 hs []
  cases hrun
  obtain ⟨answers, s'', hrun, htrail⟩ := hlater [(.ref 3, ⟨"b.py", 2⟩)]
  exact ⟨hs, answers, s'', hrun, htrail (.ref 1) 0 rfl⟩

end ErrorTrail
