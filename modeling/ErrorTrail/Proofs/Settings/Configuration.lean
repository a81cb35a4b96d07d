import ErrorTrail.Settings.Configuration

/-!
# Settings over whole runs

What asking for the settings gives at any time of a run in which the environment changes, the cache
is cleared and the settings are asked for, in any order (`answer_spec`). `asked` says all that one
question can do. For runs it follows by induction that what is given is kept until it is cleared
(`kept_after`), that failed questions leave nothing kept (`empty_after`), and that a reading has a
number of its own (`answers_lt`, `Above.after`).
-/

namespace ErrorTrail

namespace Configuration

variable {p : Configuration} {k : Nat × Settings} {steps : List SettingsStep}

/-! ## One step -/

/-- All that asking can do: to give what is kept, to read and keep, or to fail and change nothing.
-/
inductive Asked (p : Configuration) : Except SettingsError (Nat × Settings) → Configuration → Prop
  | kept {k : Nat × Settings} (hk : p.cache.kept = some k) : Asked p (.ok k) p
  | read {settings : Settings} (hk : p.cache.kept = none)
      (hload : Settings.load p.sources = .ok settings) :
      Asked p (.ok (p.cache.count, settings))
        { p with cache := ⟨some (p.cache.count, settings), p.cache.count + 1⟩ }
  | failed {e : SettingsError} (hk : p.cache.kept = none)
      (hload : Settings.load p.sources = .error e) : Asked p (.error e) p

theorem asked (p : Configuration) : Asked p p.answer (p.step .get) := by
  unfold answer step Cache.get
  rcases hk : p.cache.kept with _ | k
  · rcases hload : Settings.load p.sources with e | settings
    · exact .failed hk hload
    · exact .read hk hload
  · exact .kept hk

/-- What is kept is given. -/
theorem answer_of_kept (hk : p.cache.kept = some k) : p.answer = .ok k := by
  rw [answer, Cache.get, hk]

/-- With nothing kept the settings are read from the environment as it is. -/
theorem answer_of_empty (hk : p.cache.kept = none) :
    p.answer = (Settings.load p.sources).map (Prod.mk p.cache.count) := by
  rw [answer, Cache.get, hk]
  rcases Settings.load p.sources with e | settings <;> rfl

/-- What is given is kept. -/
theorem kept_of_answer (h : p.answer = .ok k) : (p.step .get).cache.kept = some k := by
  have hasked := p.asked
  generalize p.step .get = q at hasked ⊢
  rw [h] at hasked
  cases hasked with
  | kept hk => exact hk
  | read hk hload => rfl

/-- A question that fails leaves nothing kept. -/
theorem kept_of_failed {e : SettingsError} (h : p.answer = .error e) :
    (p.step .get).cache.kept = none := by
  have hasked := p.asked
  generalize p.step .get = q at hasked ⊢
  rw [h] at hasked
  cases hasked with
  | failed hk hload => exact hk

/-! ## Runs -/

theorem after_append (p : Configuration) (before rest : List SettingsStep) :
    p.after (before ++ rest) = (p.after before).after rest := List.foldl_append

theorem answers_eq_nil (h : .get ∉ steps) : p.answers steps = [] := by
  induction steps generalizing p with
  | nil => rfl
  | cons e steps ih =>
    have hrest : .get ∉ steps := fun hmem => h (List.mem_cons_of_mem _ hmem)
    cases e with
    | get => exact absurd List.mem_cons_self h
    | _ => exact ih hrest

/-- What is kept stays until it is cleared. -/
theorem kept_after (hk : p.cache.kept = some k) (hclear : .clear ∉ steps) :
    (p.after steps).cache.kept = some k := by
  induction steps generalizing p with
  | nil => exact hk
  | cons e steps ih =>
    have hrest : .clear ∉ steps := fun h => hclear (List.mem_cons_of_mem _ h)
    cases e with
    | assign name value => exact ih hk hrest
    | remove name => exact ih hk hrest
    | get => exact ih (kept_of_answer (answer_of_kept hk)) hrest
    | clear => exact absurd List.mem_cons_self hclear

/-- As long as all questions fail nothing is kept. -/
theorem empty_after (hk : p.cache.kept = none)
    (hfailed : ∀ a ∈ p.answers steps, ∃ e, a = .error e) :
    (p.after steps).cache.kept = none := by
  induction steps generalizing p with
  | nil => exact hk
  | cons e steps ih =>
    cases e with
    | assign name value => exact ih hk hfailed
    | remove name => exact ih hk hfailed
    | get =>
      obtain ⟨e, he⟩ := hfailed p.answer List.mem_cons_self
      exact ih (kept_of_failed he) fun a ha => hfailed a (List.mem_cons_of_mem _ ha)
    | clear => exact ih rfl hfailed

/-! ## Numbers of readings -/

/-- The kept settings are of a reading so far. -/
def Sound (p : Configuration) : Prop := ∀ k, p.cache.kept = some k → k.1 < p.cache.count

/-- The kept settings, and all that will be read, are of readings from number `n` on. -/
structure Above (n : Nat) (p : Configuration) : Prop where
  count : n ≤ p.cache.count
  kept : ∀ k, p.cache.kept = some k → n ≤ k.1

theorem Sound.step (h : p.Sound) (e : SettingsStep) :
    (p.step e).Sound ∧ p.cache.count ≤ (p.step e).cache.count := by
  cases e with
  | assign name value => exact ⟨h, Nat.le_refl _⟩
  | remove name => exact ⟨h, Nat.le_refl _⟩
  | clear => exact ⟨(fun k hk => nomatch hk), Nat.le_refl _⟩
  | get =>
    have hasked := p.asked
    generalize p.answer = a, p.step .get = q at hasked ⊢
    cases hasked with
    | kept hk => exact ⟨h, Nat.le_refl _⟩
    | read hk hload =>
      refine ⟨fun k hk => ?_, Nat.le_succ _⟩
      cases hk
      exact Nat.lt_succ_self _
    | failed hk hload => exact ⟨h, Nat.le_refl _⟩

theorem Above.step {n : Nat} (h : p.Above n) (e : SettingsStep) : (p.step e).Above n := by
  cases e with
  | assign name value => exact ⟨h.count, h.kept⟩
  | remove name => exact ⟨h.count, h.kept⟩
  | clear => exact ⟨h.count, fun k hk => nomatch hk⟩
  | get =>
    have hasked := p.asked
    generalize p.answer = a, p.step .get = q at hasked ⊢
    cases hasked with
    | kept hk => exact h
    | read hk hload =>
      refine ⟨Nat.le_trans h.count (Nat.le_succ _), fun k hk => ?_⟩
      cases hk
      exact h.count
    | failed hk hload => exact h

theorem Sound.after (h : p.Sound) (steps : List SettingsStep) :
    (p.after steps).Sound ∧ p.cache.count ≤ (p.after steps).cache.count := by
  induction steps generalizing p with
  | nil => exact ⟨h, Nat.le_refl _⟩
  | cons e steps ih =>
    obtain ⟨hsound, hle⟩ := ih (h.step e).1
    exact ⟨hsound, Nat.le_trans (h.step e).2 hle⟩

theorem Above.after {n : Nat} (h : p.Above n) (steps : List SettingsStep) :
    (p.after steps).Above n := by
  induction steps generalizing p with
  | nil => exact h
  | cons e steps ih => exact ih (h.step e)

/-- All that was given so far is of readings so far. -/
theorem Sound.answers_lt (h : p.Sound) (hk : .ok k ∈ p.answers steps) :
    k.1 < (p.after steps).cache.count := by
  induction steps generalizing p with
  | nil => cases hk
  | cons e steps ih =>
    have hsound := (h.step e).1
    cases e with
    | assign name value => exact ih hsound hk
    | remove name => exact ih hsound hk
    | clear => exact ih hsound hk
    | get =>
      obtain hfirst | hrest := List.mem_cons.1 hk
      · have hlt := hsound k (kept_of_answer hfirst.symm)
        exact Nat.lt_of_lt_of_le hlt (hsound.after steps).2
      · exact ih hsound hrest

theorem Above.answer {n : Nat} (h : p.Above n) (hk : p.answer = .ok k) : n ≤ k.1 :=
  (h.step .get).kept k (kept_of_answer hk)

/-! ## The environment -/

end Configuration

/-- What an event makes of the environment. -/
def SettingsStep.environment (env : List (String × String)) :
    SettingsStep → List (String × String)
  | .assign name value => EnvFile.assign env name value
  | .remove name => env.filter (·.1 != name)
  | .get | .clear => env

/-- The environment after several events: what was asked and cleared does not matter. -/
def environmentAfter (env : List (String × String)) (steps : List SettingsStep) :
    List (String × String) := steps.foldl SettingsStep.environment env

namespace Configuration

theorem sources_after (p : Configuration) (steps : List SettingsStep) :
    (p.after steps).sources = { env := environmentAfter p.env steps, envFile := p.envFile } := by
  induction steps generalizing p with
  | nil => rfl
  | cons e steps ih =>
    refine (ih (p.step e)).trans ?_
    cases e <;> rfl

/-- Whatever happens to the environment, the cache and the questions before:

* what is given once is given again until the cache is cleared;
* the first question of all, the first after the cache is cleared, and one after failed questions
  only is answered from the environment by then, and what it gives is of a new number;
* a question that fails leaves nothing kept, so that the next is answered from the environment
  again;
* what is given after the cache is cleared is of another number than all that was given before. -/
theorem answer_spec (env : List (String × String)) (file : Option String) :
    let start : Configuration := { env, envFile := file }
    (∀ before between k, (start.after before).answer = .ok k → .clear ∉ between →
      (start.after (before ++ .get :: between)).answer = .ok k) ∧
    (∀ before since, before = [] ∨ before.getLast? = some .clear →
      (∀ a ∈ (start.after before).answers since, ∃ e, a = .error e) →
      ∃ n, (∀ k, .ok k ∈ start.answers (before ++ since) → k.1 < n) ∧
        (start.after (before ++ since)).answer =
          (Settings.load { env := environmentAfter env (before ++ since), envFile := file }).map
            (Prod.mk n)) ∧
    (∀ before changes e, (start.after before).answer = .error e → .get ∉ changes →
      (start.after (before ++ [.get])).cache.kept = none ∧
        ∃ n, (start.after (before ++ .get :: changes)).answer =
          (Settings.load
            { env := environmentAfter env (before ++ .get :: changes), envFile := file }).map
            (Prod.mk n)) ∧
    (∀ before since k k', .ok k' ∈ start.answers before →
      (start.after (before ++ .clear :: since)).answer = .ok k → k.1 ≠ k'.1) := by
  intro start
  have hsound : start.Sound := fun k hk => nomatch hk
  refine ⟨fun before between k hk hclear => ?_, fun before since hbefore hfailed => ?_,
    fun before changes e he hget => ?_, fun before since k k' hk' hk => ?_⟩
  · rw [after_append]
    show (((start.after before).step .get).after between).answer = .ok k
    exact answer_of_kept (kept_after (kept_of_answer hk) hclear)
  · have hempty : (start.after before).cache.kept = none := by
      obtain rfl | hlast := hbefore
      · rfl
      · obtain ⟨earlier, rfl⟩ := List.getLast?_eq_some_iff.1 hlast
        rw [after_append]
        rfl
    have hnone := empty_after hempty hfailed
    rw [← after_append] at hnone
    refine ⟨_, fun k hk => hsound.answers_lt hk, ?_⟩
    rw [answer_of_empty hnone, sources_after]
  · have hempty : (start.after (before ++ [.get])).cache.kept = none := by
      rw [after_append]
      exact kept_of_failed he
    have hnone : (start.after (before ++ .get :: changes)).cache.kept = none := by
      rw [List.append_cons, after_append]
      refine empty_after hempty fun a ha => ?_
      rw [answers_eq_nil hget] at ha
      cases ha
    refine ⟨hempty, (start.after (before ++ .get :: changes)).cache.count, ?_⟩
    rw [answer_of_empty hnone, sources_after]
  · have hlt := hsound.answers_lt hk'
    have hcleared : ((start.after before).step .clear).Above (start.after before).cache.count :=
      ⟨Nat.le_refl _, fun k hk => nomatch hk⟩
    rw [after_append] at hk
    have hle : (start.after before).cache.count ≤ k.1 := (hcleared.after since).answer hk
    omega

/-- A program whose environment has a value that is not allowed gets no settings. Without the value
it gets some, and these stay until the cache is cleared. -/
theorem answer_spec_repaired :
    let start : Configuration := { env := [("WHERR_ENABLED", "maybe")] }
    let repair : List SettingsStep := [.get, .remove "WHERR_ENABLED"]
    let change : List SettingsStep := [.assign "WHERR_PATH_STYLE" "full"]
    (start.after [.get]).cache.kept = none ∧
      (start.after repair).answer = .ok (0, {}) ∧
      (start.after (repair ++ .get :: change)).answer = .ok (0, {}) ∧
      ∃ k, (start.after ((repair ++ .get :: change) ++ [.clear])).answer = .ok k ∧ k.1 ≠ 0 ∧
        k.2.pathStyle = .full := by
  intro start repair change
  obtain ⟨hkept, -, hfailed, hnew⟩ := answer_spec [("WHERR_ENABLED", "maybe")] none
  have hok {x : Except SettingsError (Nat × Settings)} {k : Nat × Settings}
      (h : x.toOption = some k) : x = .ok k := by
    cases x with
    | error e => cases h
    | ok k' => exact congrArg Except.ok (Option.some.inj h)
  obtain ⟨e, he⟩ : ∃ e, start.answer = .error e := by
    have hnone : start.answer.toOption = none := by decide +kernel
    cases h : start.answer with
    | error e => exact ⟨e, rfl⟩
    | ok k =>
      rw [h] at hnone
      cases hnone
  have hrepaired : (start.after repair).answer = .ok (0, {}) := hok (by decide +kernel)
  have hread : (start.after ((repair ++ .get :: change) ++ [.clear])).answer =
      .ok (1, { pathStyle := .full }) := hok (by decide +kernel)
  have hold : .ok (0, {}) ∈ start.answers (repair ++ .get :: change) := by
    show _ ∈ [start.answer, (start.after repair).answer]
    rw [hrepaired]
    simp
  refine ⟨(hfailed [] [] e he (by decide)).1, hrepaired,
    hkept repair change (0, {}) hrepaired (by decide), _, hread, ?_, rfl⟩
  exact hnew (repair ++ .get :: change) [] _ (0, {}) hold hread

end Configuration

end ErrorTrail
