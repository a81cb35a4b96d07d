import ErrorTrail.Settings.Basic
import Mathlib.Data.List.Induction

/-!
# Where settings come from

A setting is known by what its name is looked up to: in the environment without regard to capitals
(`lookup_foldNames`), and in one source laid over another (`Json.lookup_overlayFields`). So what the
environment and a file give is what one source with the values of both gives (`load_eq`).
-/

namespace ErrorTrail

/-! ## Lists of names -/

section Lookup

variable {α : Type} {bs : List (String × α)} {b : String × α} {n x : String}

theorem lookup_cons_self (n : String) (v : α) (bs : List (String × α)) :
    ((n, v) :: bs).lookup n = some v := by
  rw [List.lookup_cons, beq_self_eq_true]

theorem lookup_cons_ne (h : x ≠ n) (v : α) (bs : List (String × α)) :
    ((n, v) :: bs).lookup x = bs.lookup x := by
  rw [List.lookup_cons, beq_eq_false_iff_ne.2 h]

theorem lookup_eq_none_of_not_mem (h : x ∉ bs.map Prod.fst) : bs.lookup x = none := by
  rw [List.lookup_eq_none_iff]
  intro b hb
  have hne : x ≠ b.1 := fun heq => h (heq ▸ List.mem_map_of_mem hb)
  simpa using hne

theorem lookup_filter (q : String → Bool) (bs : List (String × α)) (x : String) :
    (bs.filter fun b => q b.1).lookup x = if q x then bs.lookup x else none := by
  induction bs with
  | nil => simp
  | cons b bs ih =>
    obtain ⟨n, v⟩ := b
    rw [List.filter_cons]
    by_cases hx : x = n
    · subst hx
      by_cases hq : q x = true
      · rw [if_pos hq, if_pos hq, lookup_cons_self, lookup_cons_self]
      · rw [if_neg hq, ih, if_neg hq, if_neg hq]
    · rw [lookup_cons_ne hx]
      by_cases hq : q n = true
      · rw [if_pos hq, lookup_cons_ne hx, ih]
      · rw [if_neg hq, ih]

/-- Under different names each value is found. -/
theorem lookup_of_mem (hnames : (bs.map Prod.fst).Nodup) (hb : b ∈ bs) :
    bs.lookup b.1 = some b.2 := by
  induction bs with
  | nil => cases hb
  | cons d bs ih =>
    obtain ⟨hnew, hrest⟩ := List.nodup_cons.1 hnames
    obtain rfl | hb := List.mem_cons.1 hb
    · exact lookup_cons_self _ _ _
    · have hne : b.1 ≠ d.1 := fun heq => hnew (heq ▸ List.mem_map_of_mem hb)
      exact (lookup_cons_ne hne _ _).trans (ih hrest hb)

/-- A value that is put in the place of those under its name is found instead of them. -/
theorem lookup_replace (bs : List (String × α)) (n x : String) (v : α) :
    (bs.map fun b => if b.1 == n then (n, v) else b).lookup x =
      if x = n then (bs.lookup x).map fun _ => v else bs.lookup x := by
  induction bs with
  | nil => simp
  | cons b bs ih =>
    obtain ⟨k, w⟩ := b
    rw [List.map_cons]
    by_cases hk : k = n
    · subst hk
      rw [if_pos (beq_self_eq_true _)]
      by_cases hx : x = k
      · subst hx
        rw [if_pos rfl, lookup_cons_self, lookup_cons_self]
        rfl
      · rw [if_neg hx, lookup_cons_ne hx, lookup_cons_ne hx, ih, if_neg hx]
    · rw [if_neg (by simpa using hk)]
      by_cases hx : x = k
      · subst hx
        rw [if_neg hk, lookup_cons_self, lookup_cons_self]
      · rw [lookup_cons_ne hx, lookup_cons_ne hx, ih]

theorem any_name_eq (bs : List (String × α)) (n : String) :
    (bs.any fun b => b.1 == n) = (bs.lookup n).isSome := by
  induction bs with
  | nil => rfl
  | cons b bs ih =>
    obtain ⟨k, w⟩ := b
    rw [List.any_cons, ih]
    by_cases hk : n = k
    · subst hk
      rw [lookup_cons_self, beq_self_eq_true]
      rfl
    · rw [lookup_cons_ne hk, beq_eq_false_iff_ne.2 (Ne.symm hk), Bool.false_or]

theorem assign_of_none (h : bs.lookup n = none) (v : α) :
    EnvFile.assign bs n v = bs ++ [(n, v)] := by
  rw [EnvFile.assign, any_name_eq, h]
  rfl

theorem assign_of_some {w : α} (h : bs.lookup n = some w) (v : α) :
    EnvFile.assign bs n v = bs.map fun b => if b.1 == n then (n, v) else b := by
  rw [EnvFile.assign, any_name_eq, h]
  rfl

theorem lookup_assign (bs : List (String × α)) (n x : String) (v : α) :
    (EnvFile.assign bs n v).lookup x = if x = n then some v else bs.lookup x := by
  rcases hlookup : bs.lookup n with _ | w
  · rw [assign_of_none hlookup, List.lookup_append]
    by_cases hx : x = n
    · subst hx
      rw [hlookup, Option.none_or, if_pos rfl, lookup_cons_self]
    · rw [if_neg hx, lookup_cons_ne hx]
      exact Option.or_none
  · rw [assign_of_some hlookup, lookup_replace]
    by_cases hx : x = n
    · subst hx
      rw [if_pos rfl, if_pos rfl, hlookup]
      rfl
    · rw [if_neg hx, if_neg hx]

theorem filter_replace (q : String → Bool) (bs : List (String × α)) (n : String) (v : α) :
    (bs.map fun b => if b.1 == n then (n, v) else b).filter (fun b => q b.1) =
      (bs.filter fun b => q b.1).map fun b => if b.1 == n then (n, v) else b := by
  rw [List.filter_map]
  congr 1
  refine List.filter_congr fun b _ => ?_
  show q (if b.1 == n then (n, v) else b).1 = q b.1
  by_cases hb : b.1 = n
  · rw [if_pos (by simpa using hb), hb]
  · rw [if_neg (by simpa using hb)]

/-- Giving a variable a value and leaving variables out by their names. -/
theorem filter_assign (q : String → Bool) (bs : List (String × α)) (n : String) (v : α) :
    (EnvFile.assign bs n v).filter (fun b => q b.1) =
      if q n then EnvFile.assign (bs.filter fun b => q b.1) n v
      else bs.filter fun b => q b.1 := by
  have hkept := lookup_filter q bs n
  rcases hlookup : bs.lookup n with _ | w <;> rw [hlookup] at hkept
  · rw [assign_of_none hlookup, assign_of_none (hkept.trans (by simp)), List.filter_append]
    by_cases hq : q n = true
    · rw [if_pos hq, List.filter_cons, if_pos hq, List.filter_nil]
    · rw [if_neg hq, List.filter_cons, if_neg hq, List.filter_nil, List.append_nil]
  · rw [assign_of_some hlookup, filter_replace]
    by_cases hq : q n = true
    · rw [if_pos hq] at hkept ⊢
      rw [assign_of_some hkept]
    · rw [if_neg hq]
      refine (List.map_congr_left fun b hb => ?_).trans (List.map_id _)
      have hne : b.1 ≠ n := by
        rintro rfl
        exact hq (List.mem_filter.1 hb).2
      rw [if_neg (by simpa using hne)]
      rfl

end Lookup

/-! ## The environment -/

namespace Settings

variable {α : Type} {bs : List (String × α)} {x : String}

theorem foldNames_append (bs : List (String × α)) (b : String × α) :
    foldNames (bs ++ [b]) = EnvFile.assign (foldNames bs) (lowerText b.1) b.2 := by
  rw [foldNames, List.foldl_append]
  rfl

/-- A variable is found under its name in small letters where no other spelling of it is used. -/
theorem lookup_foldNames (hnames : (bs.map Prod.fst).Nodup)
    (hspelling : ∀ b ∈ bs, lowerText b.1 = lowerText x → b.1 = x) :
    (foldNames bs).lookup (lowerText x) = bs.lookup x := by
  induction bs using List.reverseRecOn with
  | nil => rfl
  | append_singleton bs b ih =>
    obtain ⟨n, v⟩ := b
    rw [List.map_append, List.nodup_append] at hnames
    have hbefore := ih hnames.1 fun d hd => hspelling d (List.mem_append_left _ hd)
    rw [foldNames_append, lookup_assign, List.lookup_append, hbefore]
    by_cases hx : lowerText x = lowerText n
    · obtain rfl : n = x := hspelling (n, v) (List.mem_append_right _ List.mem_cons_self) hx.symm
      have hnone : bs.lookup n = none := by
        refine lookup_eq_none_of_not_mem fun hmem => ?_
        exact hnames.2.2 n hmem n List.mem_cons_self rfl
      rw [if_pos rfl, hnone, Option.none_or, lookup_cons_self]
    · have hne : x ≠ n := fun heq => hx (congrArg lowerText heq)
      rw [if_neg hx, lookup_cons_ne hne]
      exact Option.or_none.symm

/-- Variables that are left out by their names are left out of the names in small letters. -/
theorem filter_foldNames (q : String → Bool) (bs : List (String × α)) :
    (foldNames bs).filter (fun b => q b.1) = foldNames (bs.filter fun b => q (lowerText b.1)) := by
  induction bs using List.reverseRecOn with
  | nil => rfl
  | append_singleton bs b ih =>
    rw [foldNames_append, filter_assign, List.filter_append, ih]
    by_cases hq : q (lowerText b.1) = true
    · rw [if_pos hq, List.filter_cons, if_pos hq, List.filter_nil, foldNames_append]
    · rw [if_neg hq, List.filter_cons, if_neg hq, List.filter_nil, List.append_nil]

end Settings

/-! ## One source over another -/

namespace Json

theorem lookup_put (fs : List (String × Json)) (k x : String) (v : Json) :
    (put fs k v).lookup x = if x = k then some v else fs.lookup x := lookup_assign fs k x v

/-- A field is that of the later source, laid over that of the earlier one. -/
theorem lookup_overlayFields (old : List (String × Json)) {new : List (String × Json)}
    (hnew : (new.map Prod.fst).Nodup) (x : String) :
    (overlayFields old new).lookup x =
      match new.lookup x, old.lookup x with
      | some v, some o => some (overlay o v)
      | some v, none => some v
      | none, o => o := by
  induction new generalizing old with
  | nil =>
    rw [overlayFields]
    rcases old.lookup x with _ | o <;> rfl
  | cons f rest ih =>
    obtain ⟨k, v⟩ := f
    obtain ⟨hk, hrest⟩ := List.nodup_cons.1 hnew
    rw [overlayFields, ih _ hrest, lookup_put]
    by_cases hx : x = k
    · subst hx
      rw [lookup_eq_none_of_not_mem hk, lookup_cons_self, if_pos rfl]
      rcases old.lookup x with _ | o <;> rfl
    · rw [if_neg hx, lookup_cons_ne hx]

end Json

namespace Settings

/-- The field that a variable gives. -/
def given (field : String) (value : Option String) : List (String × Json) :=
  value.toList.map fun s => (field, .string s)

/-- The fields that a source gives by its variables. -/
def fieldList (enabled style root : Option String) (logging : Option Json) :
    List (String × Json) :=
  given "enabled" enabled ++ given "path_style" style ++ given "path_root" root
    ++ logging.toList.map fun v => ("logging", v)

theorem fieldsFrom_eq (vars : List (String × Option String)) :
    fieldsFrom vars = (loggingFrom vars).map
      (fieldList (vars.lookup "wherr_enabled").join (vars.lookup "wherr_path_style").join
        (vars.lookup "wherr_path_root").join) := by
  have henabled : variablePrefix ++ "enabled" = "wherr_enabled" := by decide
  have hstyle : variablePrefix ++ "path_style" = "wherr_path_style" := by decide
  have hroot : variablePrefix ++ "path_root" = "wherr_path_root" := by decide
  rw [fieldsFrom]
  simp only [henabled, hstyle, hroot]
  generalize (vars.lookup "wherr_enabled").join = enabled
  generalize (vars.lookup "wherr_path_style").join = style
  generalize (vars.lookup "wherr_path_root").join = root
  rcases loggingFrom vars with e | logging
  · rfl
  · cases enabled <;> cases style <;> cases root <;> rfl

section FieldList

variable (enabled style root : Option String) (logging : Option Json)

theorem lookup_given (field : String) (value : Option String) (x : String) :
    (given field value).lookup x = if x = field then value.map .string else none := by
  cases value with
  | none => simp [given]
  | some v =>
    show [(field, Json.string v)].lookup x = _
    by_cases hx : x = field
    · subst hx
      rw [lookup_cons_self, if_pos rfl]
      rfl
    · rw [lookup_cons_ne hx, if_neg hx]
      rfl

theorem lookup_logging (x : String) :
    (logging.toList.map fun v => ("logging", v)).lookup x =
      if x = "logging" then logging else none := by
  cases logging with
  | none => simp
  | some v =>
    show [("logging", v)].lookup x = _
    by_cases hx : x = "logging"
    · subst hx
      rw [lookup_cons_self, if_pos rfl]
    · rw [lookup_cons_ne hx, if_neg hx]
      rfl

/-- The four settings among the fields of a source. -/
theorem lookup_fieldList :
    (fieldList enabled style root logging).lookup "enabled" = enabled.map .string ∧
      (fieldList enabled style root logging).lookup "path_style" = style.map .string ∧
      (fieldList enabled style root logging).lookup "path_root" = root.map .string ∧
      (fieldList enabled style root logging).lookup "logging" = logging := by
  simp [fieldList, List.lookup_append, lookup_given, lookup_logging]

theorem nodup_fieldList : ((fieldList enabled style root logging).map Prod.fst).Nodup := by
  cases enabled <;> cases style <;> cases root <;> cases logging <;> simp [fieldList, given]

end FieldList

/-- Settings depend on their fields by the four names only. -/
theorem ofFields_congr {env env' : List (String × String)} {fs fs' : List (String × Json)}
    (hlevel : environmentLevel env = environmentLevel env')
    (henabled : fs.lookup "enabled" = fs'.lookup "enabled")
    (hstyle : fs.lookup "path_style" = fs'.lookup "path_style")
    (hroot : fs.lookup "path_root" = fs'.lookup "path_root")
    (hlogging : fs.lookup "logging" = fs'.lookup "logging") :
    ofFields env fs = ofFields env' fs' := by
  have hgiven (j : Json) : loggingLevel env j = loggingLevel env' j := by
    cases j <;> simp only [loggingLevel, hlevel]
  simp only [ofFields, fieldOr, hlevel, henabled, hstyle, hroot, hlogging, hgiven]

/-- What a variable is in the environment, its name being given in small letters. -/
def seen (env : List (String × String)) (name : String) : Option String :=
  (foldNames env).lookup name

/-- The variables of the environment as a source. -/
def variablesOf (env : List (String × String)) : List (String × Option String) :=
  (foldNames env).map fun (n, v) => (n, some v)

theorem lookup_map_some {α : Type} (bs : List (String × α)) (x : String) :
    (bs.map fun (n, v) => (n, some v)).lookup x = (bs.lookup x).map some := by
  induction bs with
  | nil => rfl
  | cons b bs ih =>
    obtain ⟨n, v⟩ := b
    rw [List.map_cons]
    by_cases hx : x = n
    · subst hx
      rw [lookup_cons_self, lookup_cons_self]
      rfl
    · rw [lookup_cons_ne hx, lookup_cons_ne hx, ih]

theorem lookup_variablesOf (env : List (String × String)) (name : String) :
    ((variablesOf env).lookup name).join = seen env name := by
  rw [variablesOf, lookup_map_some, seen]
  rcases (foldNames env).lookup name with _ | v <;> rfl

/-- The settings for given variables, the logging settings being those of an environment. -/
def settle (env : List (String × String)) (enabled style root : Option String) :
    Except SettingsError Settings := do
  let logging ← loggingFrom (variablesOf env)
  ofFields env (fieldList enabled style root logging)

/-- The fields that an environment file gives. -/
def fileFields (env : List (String × String)) (file : Option String) :
    Except SettingsError (List (String × Json)) :=
  match file with
  | some text => fieldsFrom (foldNames (EnvFile.parse env text))
  | none => .ok []

theorem gather_eq (env : List (String × String)) (file : Option String) :
    gather { env, envFile := file } = (do
      let fromEnv ← fieldsFrom (variablesOf env)
      let fromFile ← fileFields env file
      .ok (Json.overlayFields fromFile fromEnv)) := by
  cases file <;> rfl

/-- A value in the environment is taken before one in the file. -/
theorem lookup_overlay_fieldList {field : String} {new old : List (String × Json)}
    {value before : Option String} (hkeys : (new.map Prod.fst).Nodup)
    (hnew : new.lookup field = value.map .string) (hold : old.lookup field = before.map .string) :
    (Json.overlayFields old new).lookup field = (value.or before).map .string := by
  rw [Json.lookup_overlayFields old hkeys, hnew, hold]
  cases value <;> cases before <;> rfl

/-- What the environment and a file without logging settings give is what one source with the values
of both gives. -/
theorem load_eq {env : List (String × String)} {file : Option String}
    {enabled style root : Option String}
    (hfile : fileFields env file = .ok (fieldList enabled style root none)) :
    load { env, envFile := file } =
      settle env ((seen env "wherr_enabled").or enabled) ((seen env "wherr_path_style").or style)
        ((seen env "wherr_path_root").or root) := by
  have henv := fieldsFrom_eq (variablesOf env)
  simp only [lookup_variablesOf] at henv
  rw [load, gather_eq, settle, hfile, henv]
  rcases loggingFrom (variablesOf env) with e | logging
  · rfl
  have hkeys := nodup_fieldList (seen env "wherr_enabled") (seen env "wherr_path_style")
    (seen env "wherr_path_root") logging
  obtain ⟨hnewEnabled, hnewStyle, hnewRoot, hnewLogging⟩ :=
    lookup_fieldList (seen env "wherr_enabled") (seen env "wherr_path_style")
      (seen env "wherr_path_root") logging
  obtain ⟨holdEnabled, holdStyle, holdRoot, holdLogging⟩ :=
    lookup_fieldList enabled style root none
  obtain ⟨hbothEnabled, hbothStyle, hbothRoot, hbothLogging⟩ :=
    lookup_fieldList ((seen env "wherr_enabled").or enabled)
      ((seen env "wherr_path_style").or style) ((seen env "wherr_path_root").or root) logging
  refine ofFields_congr rfl ?_ ?_ ?_ ?_
  · rw [hbothEnabled]
    exact lookup_overlay_fieldList hkeys hnewEnabled holdEnabled
  · rw [hbothStyle]
    exact lookup_overlay_fieldList hkeys hnewStyle holdStyle
  · rw [hbothRoot]
    exact lookup_overlay_fieldList hkeys hnewRoot holdRoot
  · rw [hbothLogging, Json.lookup_overlayFields _ hkeys, hnewLogging, holdLogging]
    cases logging <;> rfl

/-! ## Logging settings -/

/-- Whether a name, in small letters, is that of a field of the logging settings. -/
def isLoggingName (name : String) : Bool := name.startsWith "wherr_logging__"

/-- Logging settings depend on the variables of their own only. -/
theorem loggingFrom_congr {vars vars' : List (String × Option String)}
    (hfields : vars.filter (fun b => isLoggingName b.1) =
      vars'.filter fun b => isLoggingName b.1)
    (hobject : vars.lookup "wherr_logging" = vars'.lookup "wherr_logging") :
    loggingFrom vars = loggingFrom vars' := by
  have hnested (bs : List (String × Option String)) :
      nestedFields (variablePrefix ++ "logging__") bs =
        nestedFields (variablePrefix ++ "logging__") (bs.filter fun b => isLoggingName b.1) := by
    have hprefix : variablePrefix ++ "logging__" = "wherr_logging__" := by decide
    rw [nestedFields, nestedFields, List.foldl_filter, hprefix]
    congr 1
    funext fs b
    by_cases hb : isLoggingName b.1 = true
    · rw [if_pos hb]
    · rw [if_neg hb]
      exact if_neg hb
  have hname : variablePrefix ++ "logging" = "wherr_logging" := by decide
  rw [loggingFrom, loggingFrom, hnested vars, hnested vars', hfields, hname, hobject]

/-- Variables that are left out are missed only by those who look for their names. -/
theorem filter_foldNames_without {α : Type} {bs : List (String × α)} {q r : String → Bool}
    (hq : ∀ b ∈ bs, q b.1 = false → r (lowerText b.1) = false) :
    (foldNames (bs.filter fun b => q b.1)).filter (fun b => r b.1) =
      (foldNames bs).filter fun b => r b.1 := by
  rw [filter_foldNames, filter_foldNames, List.filter_filter]
  congr 1
  refine List.filter_congr fun b hb => ?_
  rcases hkept : q b.1 with _ | _
  · rw [hq b hb hkept]
    rfl
  · exact Bool.and_true _

theorem filter_variablesOf (r : String → Bool) (env : List (String × String)) :
    (variablesOf env).filter (fun b => r b.1) =
      ((foldNames env).filter fun b => r b.1).map fun (n, v) => (n, some v) := by
  rw [variablesOf, List.filter_map]
  rfl

/-- Leaving variables that are of no logging settings out of the environment. -/
theorem loggingFrom_without {env : List (String × String)} {q : String → Bool}
    (hq : ∀ b ∈ env, q b.1 = false →
      isLoggingName (lowerText b.1) = false ∧ lowerText b.1 ≠ "wherr_logging") :
    loggingFrom (variablesOf (env.filter fun b => q b.1)) = loggingFrom (variablesOf env) := by
  have hobject (bs : List (String × String)) : (variablesOf bs).lookup "wherr_logging" =
      ((variablesOf bs).filter fun b => b.1 == "wherr_logging").lookup "wherr_logging" := by
    rw [lookup_filter (· == "wherr_logging"), if_pos (beq_self_eq_true _)]
  refine loggingFrom_congr ?_ ?_
  · rw [filter_variablesOf, filter_variablesOf,
      filter_foldNames_without fun b hb hout => (hq b hb hout).1]
  · have hsame := filter_foldNames_without (r := (· == "wherr_logging")) fun b hb hout =>
      beq_eq_false_iff_ne.2 (hq b hb hout).2
    rw [hobject, hobject env, filter_variablesOf (· == "wherr_logging"),
      filter_variablesOf (· == "wherr_logging"), hsame]

/-- A source in which no variable is of logging settings gives none. -/
theorem loggingFrom_none {bs : List (String × String)}
    (h : ∀ b ∈ bs, isLoggingName (lowerText b.1) = false ∧ lowerText b.1 ≠ "wherr_logging") :
    loggingFrom (variablesOf bs) = .ok none := by
  have hall := loggingFrom_without (q := fun _ => false) fun b hb _ => h b hb
  have hnone : bs.filter (fun _ => false) = [] := List.filter_eq_nil_iff.2 (by simp)
  rw [← hall, hnone]
  rfl

/-- The settings for given variables in an environment from which variables are left out. -/
theorem settle_without {env : List (String × String)} {q : String → Bool}
    (hq : ∀ b ∈ env, q b.1 = false →
      isLoggingName (lowerText b.1) = false ∧ lowerText b.1 ≠ "wherr_logging")
    (hlevel : seen (env.filter fun b => q b.1) "wherr_log_level" = seen env "wherr_log_level")
    (enabled style root : Option String) :
    settle (env.filter fun b => q b.1) enabled style root = settle env enabled style root := by
  have hsame : environmentLevel (env.filter fun b => q b.1) = environmentLevel env := by
    have hname : variablePrefix ++ "log_level" = "wherr_log_level" := by decide
    rw [seen, seen] at hlevel
    rw [environmentLevel, environmentLevel, hname, hlevel]
  rw [settle, settle, loggingFrom_without hq]
  rcases loggingFrom (variablesOf env) with e | logging
  · rfl
  · exact ofFields_congr hsame rfl rfl rfl rfl

end Settings

end ErrorTrail
