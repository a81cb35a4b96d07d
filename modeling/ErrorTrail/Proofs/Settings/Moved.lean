import Mathlib.Data.List.Nodup
import ErrorTrail.Proofs.Settings.Configuration
import ErrorTrail.Proofs.Settings.EnvFile
import ErrorTrail.Proofs.Settings.Sources

/-!
# Variables moved to the environment file

A variable of the library gives the same settings in the environment and in a plain line of the
environment file (`answer_moved`). The level of messages is the exception: a file that gives it is
read as one that does not, since it is looked for in the environment only (`not_answer_moved`).
-/

namespace ErrorTrail

namespace Settings

/-! ## Names -/

/-- The variables of the library. -/
def variableNames : List String :=
  ["WHERR_ENABLED", "WHERR_PATH_STYLE", "WHERR_PATH_ROOT", "WHERR_LOG_LEVEL"]

theorem lowerText_enabled : lowerText "WHERR_ENABLED" = "wherr_enabled" := by decide +kernel

theorem lowerText_style : lowerText "WHERR_PATH_STYLE" = "wherr_path_style" := by decide +kernel

theorem lowerText_root : lowerText "WHERR_PATH_ROOT" = "wherr_path_root" := by decide +kernel

theorem lowerText_level : lowerText "WHERR_LOG_LEVEL" = "wherr_log_level" := by decide +kernel

theorem lowerText_variableNames :
    variableNames.map lowerText =
      ["wherr_enabled", "wherr_path_style", "wherr_path_root", "wherr_log_level"] := by
  rw [variableNames, List.map_cons, List.map_cons, List.map_cons, List.map_cons, List.map_nil,
    lowerText_enabled, lowerText_style, lowerText_root, lowerText_level]

/-- No variable of the library is of the logging settings. -/
theorem not_logging_of_mem {n : String} (h : n ∈ variableNames) :
    isLoggingName (lowerText n) = false ∧ lowerText n ≠ "wherr_logging" := by
  have hmem : lowerText n ∈ variableNames.map lowerText := List.mem_map_of_mem h
  rw [lowerText_variableNames] at hmem
  simp only [List.mem_cons, List.not_mem_nil, or_false] at hmem
  obtain hn | hn | hn | hn := hmem <;> rw [hn] <;> simp [isLoggingName]

theorem isPlainName_of_mem {n : String} (h : n ∈ variableNames) : EnvFile.IsPlainName n := by
  have hstart : ∀ n ∈ variableNames, n.toList.head? = some 'W' := by decide
  have hcapitals : ∀ n ∈ variableNames,
      (n.toList.all fun c => 'A'.toNat ≤ c.toNat && c.toNat ≤ '_'.toNat) = true := by decide
  obtain ⟨cs, hcs⟩ := List.head?_eq_some_iff.1 (hstart n h)
  refine ⟨⟨'W', cs, hcs, by decide, by decide⟩, fun c hc => ?_⟩
  have hcapital := List.all_eq_true.1 (hcapitals n h) c hc
  rw [Bool.and_eq_true, decide_eq_true_eq, decide_eq_true_eq] at hcapital
  obtain ⟨hlow, hhigh⟩ := hcapital
  refine ⟨?_, ?_, EnvFile.isBlank_of_visible (Nat.le_trans (by decide) hlow)
    (Nat.le_trans hhigh (by decide))⟩
  · rintro rfl
    exact absurd hlow (by decide)
  · rintro rfl
    exact absurd hlow (by decide)

/-- The variables of the library differ in more than their capitals. -/
theorem lowerText_injective {n m : String} (hn : n ∈ variableNames) (hm : m ∈ variableNames)
    (h : lowerText n = lowerText m) : n = m := by
  have hnodup : (variableNames.map lowerText).Nodup := by
    rw [lowerText_variableNames]
    decide
  exact List.inj_on_of_nodup_map hnodup hn hm h

/-! ## The two sources -/

/-- What an environment is: a variable has one value, and those of the library are in capitals. -/
structure IsEnvironment (env : List (String × String)) : Prop where
  names : (env.map Prod.fst).Nodup
  capitals : ∀ b ∈ env, ∀ n ∈ variableNames, lowerText b.1 = lowerText n → b.1 = n

/-- Variables of the library that an environment has and that can be given in plain lines instead.
-/
structure IsMovable (env moved : List (String × String)) : Prop where
  names : (moved.map Prod.fst).Nodup
  subset : moved ⊆ env
  known : ∀ b ∈ moved, b.1 ∈ variableNames
  values : ∀ b ∈ moved, EnvFile.IsPlainValue b.2

/-- Whether a variable is none of those that are moved. -/
def isLeft (moved : List (String × String)) (n : String) : Bool := !(moved.map Prod.fst).contains n

theorem IsEnvironment.of_variables {env : List (String × String)}
    (hnames : (env.map Prod.fst).Nodup) (h : ∀ b ∈ env, b.1 ∈ variableNames) : IsEnvironment env :=
  ⟨hnames, fun b hb _ hn => lowerText_injective (h b hb) hn⟩

variable {env moved : List (String × String)} {n : String}

theorem IsEnvironment.filter (h : IsEnvironment env) (q : String → Bool) :
    IsEnvironment (env.filter fun b => q b.1) where
  names := h.names.sublist (List.filter_sublist.map _)
  capitals b hb := h.capitals b (List.mem_filter.1 hb).1

/-- A variable of the library is seen under its name. -/
theorem IsEnvironment.seen_eq (h : IsEnvironment env) (hn : n ∈ variableNames) :
    seen env (lowerText n) = env.lookup n :=
  lookup_foldNames h.names fun b hb => h.capitals b hb n hn

theorem isLeft_eq_false_iff : isLeft moved n = false ↔ n ∈ moved.map Prod.fst := by
  rw [isLeft, Bool.not_eq_false', List.contains_iff_mem]

/-- What is moved is no logging settings. -/
theorem IsMovable.not_logging (h : IsMovable env moved) (hn : isLeft moved n = false) :
    isLoggingName (lowerText n) = false ∧ lowerText n ≠ "wherr_logging" := by
  obtain ⟨b, hb, rfl⟩ := List.mem_map.1 (isLeft_eq_false_iff.1 hn)
  exact not_logging_of_mem (h.known b hb)

/-- What the environment keeps and the moved variables together are as before. -/
theorem IsMovable.lookup_or (h : IsMovable env moved) (henv : (env.map Prod.fst).Nodup)
    (n : String) :
    ((env.filter fun b => isLeft moved b.1).lookup n).or (moved.lookup n) = env.lookup n := by
  rw [lookup_filter (isLeft moved)]
  rcases hn : isLeft moved n with _ | _
  · obtain ⟨b, hb, rfl⟩ := List.mem_map.1 (isLeft_eq_false_iff.1 hn)
    rw [if_neg Bool.false_ne_true, Option.none_or, lookup_of_mem h.names hb,
      lookup_of_mem henv (h.subset hb)]
  · have hnot : n ∉ moved.map Prod.fst := by
      rw [← isLeft_eq_false_iff, hn]
      exact Bool.noConfusion
    rw [if_pos rfl, lookup_eq_none_of_not_mem hnot]
    exact Option.or_none

theorem IsMovable.isEnvironment (h : IsMovable env moved) : IsEnvironment moved :=
  .of_variables h.names h.known

/-! ## Plain lines as a source -/

theorem assign_map {α β : Type} (f : α → β) (bs : List (String × α)) (n : String) (v : α) :
    EnvFile.assign (bs.map fun b => (b.1, f b.2)) n (f v) =
      (EnvFile.assign bs n v).map fun b => (b.1, f b.2) := by
  have hany : ((bs.map fun b => (b.1, f b.2)).any fun b => b.1 == n) =
      bs.any fun b => b.1 == n := by
    rw [List.any_map]
    rfl
  rw [EnvFile.assign, EnvFile.assign, hany]
  by_cases hn : (bs.any fun b => b.1 == n) = true
  · rw [if_pos hn, if_pos hn, List.map_map, List.map_map]
    refine List.map_congr_left fun b _ => ?_
    exact (apply_ite (fun d : String × α => (d.1, f d.2)) _ (n, v) b).symm
  · rw [if_neg hn, if_neg hn, List.map_append]
    rfl

/-- Names are put in small letters whatever the form of the values. -/
theorem foldNames_map {α β : Type} (f : α → β) (bs : List (String × α)) :
    foldNames (bs.map fun b => (b.1, f b.2)) = (foldNames bs).map fun b => (b.1, f b.2) := by
  induction bs using List.reverseRecOn with
  | nil => rfl
  | append_singleton bs b ih =>
    rw [List.map_append, List.map_cons, List.map_nil, foldNames_append, foldNames_append, ih,
      assign_map]

/-- Plain lines give the fields of their variables. -/
theorem IsMovable.fileFields_eq (h : IsMovable env moved) (env' : List (String × String)) :
    fileFields env' (some (EnvFile.plainText moved)) =
      .ok (fieldList (moved.lookup "WHERR_ENABLED") (moved.lookup "WHERR_PATH_STYLE")
        (moved.lookup "WHERR_PATH_ROOT") none) := by
  have hplain : EnvFile.ArePlain moved := fun b hb =>
    ⟨isPlainName_of_mem (h.known b hb), h.values b hb⟩
  have hvars : foldNames (EnvFile.parse env' (EnvFile.plainText moved)) = variablesOf moved := by
    rw [EnvFile.parse_plainText hplain h.names, foldNames_map]
    rfl
  have hlogging : loggingFrom (variablesOf moved) = .ok none :=
    loggingFrom_none fun b hb => not_logging_of_mem (h.known b hb)
  have henabled := h.isEnvironment.seen_eq (n := "WHERR_ENABLED") (by decide)
  have hstyle := h.isEnvironment.seen_eq (n := "WHERR_PATH_STYLE") (by decide)
  have hroot := h.isEnvironment.seen_eq (n := "WHERR_PATH_ROOT") (by decide)
  rw [lowerText_enabled] at henabled
  rw [lowerText_style] at hstyle
  rw [lowerText_root] at hroot
  rw [fileFields, hvars, fieldsFrom_eq, hlogging, lookup_variablesOf, lookup_variablesOf,
    lookup_variablesOf, henabled, hstyle, hroot]
  rfl

/-! ## Settings -/

/-- The settings of an environment and a file in which each variable of the library has its value in
either of them. -/
theorem load_of_lookup (file : List (String × String)) {full kept : List (String × String)}
    {text : Option String}
    (hkept : IsEnvironment kept)
    (hfile : fileFields kept text = .ok (fieldList (file.lookup "WHERR_ENABLED")
      (file.lookup "WHERR_PATH_STYLE") (file.lookup "WHERR_PATH_ROOT") none))
    (heither : ∀ n ∈ ["WHERR_ENABLED", "WHERR_PATH_STYLE", "WHERR_PATH_ROOT"],
      (kept.lookup n).or (file.lookup n) = full.lookup n) :
    load { env := kept, envFile := text } =
      settle kept (full.lookup "WHERR_ENABLED") (full.lookup "WHERR_PATH_STYLE")
        (full.lookup "WHERR_PATH_ROOT") := by
  have henabled := hkept.seen_eq (n := "WHERR_ENABLED") (by decide)
  have hstyle := hkept.seen_eq (n := "WHERR_PATH_STYLE") (by decide)
  have hroot := hkept.seen_eq (n := "WHERR_PATH_ROOT") (by decide)
  rw [lowerText_enabled] at henabled
  rw [lowerText_style] at hstyle
  rw [lowerText_root] at hroot
  rw [load_eq hfile, henabled, hstyle, hroot, heither _ (by decide), heither _ (by decide),
    heither _ (by decide)]

/-- The settings of an environment without a file. -/
theorem IsEnvironment.load_eq (h : IsEnvironment env) :
    load { env } = settle env (env.lookup "WHERR_ENABLED") (env.lookup "WHERR_PATH_STYLE")
      (env.lookup "WHERR_PATH_ROOT") :=
  load_of_lookup [] h rfl fun _ _ => Option.or_none

theorem IsMovable.load_eq (h : IsMovable env moved) (henv : IsEnvironment env) :
    load
        { env := env.filter fun b => isLeft moved b.1
          envFile := some (EnvFile.plainText moved) } =
      settle (env.filter fun b => isLeft moved b.1) (env.lookup "WHERR_ENABLED")
        (env.lookup "WHERR_PATH_STYLE") (env.lookup "WHERR_PATH_ROOT") :=
  load_of_lookup moved (henv.filter _) (h.fileFields_eq _) fun n _ => h.lookup_or henv.names n

/-- Without the level of messages, what is moved has the effect it had. -/
theorem IsMovable.load_moved (h : IsMovable env moved) (henv : IsEnvironment env)
    (hlevel : "WHERR_LOG_LEVEL" ∉ moved.map Prod.fst) :
    load
        { env := env.filter fun b => isLeft moved b.1
          envFile := some (EnvFile.plainText moved) } =
      load { env } := by
  have hseen : seen (env.filter fun b => isLeft moved b.1) "wherr_log_level" =
      seen env "wherr_log_level" := by
    have hname : "WHERR_LOG_LEVEL" ∈ variableNames := by decide
    have hleft : isLeft moved "WHERR_LOG_LEVEL" = true := by
      rw [← Bool.not_eq_false]
      exact fun h => hlevel (isLeft_eq_false_iff.1 h)
    rw [← lowerText_level, (henv.filter _).seen_eq hname, henv.seen_eq hname,
      lookup_filter (isLeft moved), if_pos hleft]
  rw [h.load_eq henv, henv.load_eq, settle_without (fun b _ => h.not_logging) hseen]

/-- The level of messages that is moved has no effect. -/
theorem IsMovable.load_moved_level (h : IsMovable env moved) (henv : IsEnvironment env)
    (hlevel : "WHERR_LOG_LEVEL" ∈ moved.map Prod.fst) :
    load
        { env := env.filter fun b => isLeft moved b.1
          envFile := some (EnvFile.plainText moved) } =
      load { env := env.filter fun b => b.1 != "WHERR_LOG_LEVEL" } := by
  have hwithout := henv.filter (· != "WHERR_LOG_LEVEL")
  have hname : "WHERR_LOG_LEVEL" ∈ variableNames := by decide
  have hgone : isLeft moved "WHERR_LOG_LEVEL" = false := isLeft_eq_false_iff.2 hlevel
  have hkept : (env.filter fun b => isLeft moved b.1) =
      (env.filter fun b => b.1 != "WHERR_LOG_LEVEL").filter fun b => isLeft moved b.1 := by
    rw [List.filter_filter]
    refine List.filter_congr fun b _ => ?_
    by_cases hb : b.1 = "WHERR_LOG_LEVEL"
    · rw [hb, hgone]
      rfl
    · rw [bne_iff_ne.2 hb, Bool.and_true]
  have hseen : seen ((env.filter fun b => b.1 != "WHERR_LOG_LEVEL").filter
      fun b => isLeft moved b.1) "wherr_log_level" =
        seen (env.filter fun b => b.1 != "WHERR_LOG_LEVEL") "wherr_log_level" := by
    rw [← lowerText_level, (hwithout.filter _).seen_eq hname, hwithout.seen_eq hname,
      lookup_filter (isLeft moved), hgone, if_neg Bool.false_ne_true,
      lookup_filter (· != "WHERR_LOG_LEVEL"), if_neg (by simp)]
  have hrest (n : String) (hn : n ≠ "WHERR_LOG_LEVEL") :
      (env.filter fun b => b.1 != "WHERR_LOG_LEVEL").lookup n = env.lookup n := by
    rw [lookup_filter (· != "WHERR_LOG_LEVEL"), if_pos (by simpa using hn)]
  rw [h.load_eq henv, hwithout.load_eq, hkept, settle_without (fun b _ => h.not_logging) hseen,
    hrest _ (by decide), hrest _ (by decide), hrest _ (by decide)]

/-- Without other variables the environment gives the level only. -/
theorem ofFields_nil (env : List (String × String)) :
    ofFields env [] = ((environmentLevel env).map fun l => { level := l }).mapError
      fun i => .invalid [i] := by
  rw [ofFields]
  rcases environmentLevel env with i | l <;> rfl

theorem IsEnvironment.environmentLevel_eq (h : IsEnvironment env) :
    environmentLevel env = match env.lookup "WHERR_LOG_LEVEL" with
      | none => .ok .warning
      | some s => (readLevel (.string s)).mapError fun c => ⟨[.field "level"], c⟩ := by
  have hlevel : (foldNames env).lookup (variablePrefix ++ "log_level") =
      env.lookup "WHERR_LOG_LEVEL" := by
    have hname : variablePrefix ++ "log_level" = lowerText "WHERR_LOG_LEVEL" := by
      rw [lowerText_level]
      decide
    rw [hname]
    exact h.seen_eq (by decide)
  cases hlookup : env.lookup "WHERR_LOG_LEVEL" with
  | none => simp only [environmentLevel, hlevel, hlookup]
  | some s => simp only [environmentLevel, hlevel, hlookup]

theorem readStyle_text (p : PathStyle) : readStyle (.string p.text) = .ok p := by
  cases p <;> decide +kernel

/-- The settings of an environment that has only a style of paths. -/
theorem load_style (p : PathStyle) :
    load { env := [("WHERR_PATH_STYLE", p.text)] } = .ok { pathStyle := p } := by
  have hknown : ∀ b ∈ [("WHERR_PATH_STYLE", p.text)], b.1 ∈ variableNames := by
    simp [variableNames]
  have henv : IsEnvironment [("WHERR_PATH_STYLE", p.text)] := .of_variables (by simp) hknown
  have hlogging : loggingFrom (variablesOf [("WHERR_PATH_STYLE", p.text)]) = .ok none :=
    loggingFrom_none fun b hb => not_logging_of_mem (hknown b hb)
  have hlevel : environmentLevel [("WHERR_PATH_STYLE", p.text)] = .ok .warning :=
    henv.environmentLevel_eq
  obtain ⟨henabled, hstyle, hroot, hnone⟩ := lookup_fieldList none (some p.text) none none
  rw [henv.load_eq, settle, hlogging, lookup_cons_self, lookup_cons_ne (by decide),
    lookup_cons_ne (by decide)]
  show ofFields _ (fieldList none (some p.text) none none) = _
  simp only [ofFields, fieldOr, hlevel, henabled, hstyle, hroot, hnone, Option.map_some,
    Option.map_none, readStyle_text]
  rfl

end Settings

namespace Configuration

open Settings

/-- Variables of the library in plain lines of the environment file instead of the environment,
where they then are not: the settings, or the faults, are those that the environment gave. But the
level of messages has no effect there. -/
theorem answer_moved {env moved : List (String × String)} (henv : IsEnvironment env)
    (h : IsMovable env moved) :
    let left := env.filter fun b => isLeft moved b.1
    let p : Configuration := { env := left, envFile := some (EnvFile.plainText moved) }
    ("WHERR_LOG_LEVEL" ∉ moved.map Prod.fst → p.answer = ({ env } : Configuration).answer) ∧
      ("WHERR_LOG_LEVEL" ∈ moved.map Prod.fst → p.answer =
        ({ env := env.filter fun b => b.1 != "WHERR_LOG_LEVEL" } : Configuration).answer) := by
  refine ⟨fun hlevel => ?_, fun hlevel => ?_⟩
  · rw [answer_of_empty rfl, answer_of_empty rfl]
    exact congrArg _ (h.load_moved henv hlevel)
  · rw [answer_of_empty rfl, answer_of_empty rfl]
    exact congrArg _ (h.load_moved_level henv hlevel)

/-- A style that is moved, and a level that is. -/
theorem answer_moved_style :
    ({ env := [("WHERR_LOG_LEVEL", "DEBUG")], envFile := some "WHERR_PATH_STYLE=full\n" } :
        Configuration).answer =
      ({ env := [("WHERR_PATH_STYLE", "full"), ("WHERR_LOG_LEVEL", "DEBUG")] } :
        Configuration).answer ∧
    ({ env := [("WHERR_PATH_STYLE", "full")], envFile := some "WHERR_LOG_LEVEL=DEBUG\n" } :
        Configuration).answer =
      ({ env := [("WHERR_PATH_STYLE", "full")] } : Configuration).answer := by
  have henv : IsEnvironment [("WHERR_PATH_STYLE", "full"), ("WHERR_LOG_LEVEL", "DEBUG")] :=
    .of_variables (by decide) (by decide)
  have hstyle : IsMovable [("WHERR_PATH_STYLE", "full"), ("WHERR_LOG_LEVEL", "DEBUG")]
      [("WHERR_PATH_STYLE", "full")] :=
    ⟨by decide, by decide, by decide, by
      simpa using EnvFile.isPlainValue_of_letters (v := "full") (by decide)⟩
  have hlevel : IsMovable [("WHERR_PATH_STYLE", "full"), ("WHERR_LOG_LEVEL", "DEBUG")]
      [("WHERR_LOG_LEVEL", "DEBUG")] :=
    ⟨by decide, by decide, by decide, by
      simpa using EnvFile.isPlainValue_of_letters (v := "DEBUG") (by decide)⟩
  exact ⟨(answer_moved henv hstyle).1 (by decide), (answer_moved henv hlevel).2 (by decide)⟩

/-- Not all that is moved has the effect it had: the level of messages has none in the file. -/
theorem not_answer_moved :
    ¬ ∀ env moved, IsEnvironment env → IsMovable env moved →
      ({ env := env.filter fun b => isLeft moved b.1, envFile := some (EnvFile.plainText moved) } :
        Configuration).answer = ({ env } : Configuration).answer := by
  intro hall
  have henv : IsEnvironment [("WHERR_LOG_LEVEL", "DEBUG")] := .of_variables (by decide) (by decide)
  have hmoved : IsMovable [("WHERR_LOG_LEVEL", "DEBUG")] [("WHERR_LOG_LEVEL", "DEBUG")] :=
    ⟨by decide, List.Subset.refl _, by decide, by
      simpa using EnvFile.isPlainValue_of_letters (v := "DEBUG") (by decide)⟩
  have hsame := hall _ _ henv hmoved
  rw [answer_of_empty rfl, answer_of_empty rfl] at hsame
  have hdebug : load { env := [("WHERR_LOG_LEVEL", "DEBUG")] } = .ok { level := .debug } := by
    have hlogging : loggingFrom (variablesOf [("WHERR_LOG_LEVEL", "DEBUG")]) = .ok none :=
      loggingFrom_none fun b hb => not_logging_of_mem (hmoved.known b hb)
    have hread : readLevel (.string "DEBUG") = .ok .debug := by decide +kernel
    have hfields := ofFields_nil [("WHERR_LOG_LEVEL", "DEBUG")]
    rw [henv.environmentLevel_eq, lookup_cons_self] at hfields
    simp only [hread] at hfields
    rw [henv.load_eq, settle, hlogging]
    exact hfields
  have hwithout : load { env := [("WHERR_LOG_LEVEL", "DEBUG")].filter fun b =>
      b.1 != "WHERR_LOG_LEVEL" } = .ok {} := rfl
  have hmove := (hmoved.load_moved_level henv (by decide)).trans hwithout
  have hlevels := ((congrArg (Except.map (Prod.mk 0)) hmove).symm.trans hsame).trans
    (congrArg (Except.map (Prod.mk 0)) hdebug)
  exact absurd hlevels (by decide)

end Configuration

end ErrorTrail
