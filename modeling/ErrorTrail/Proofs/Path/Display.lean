import ErrorTrail.Proofs.Path.Resolution

/-!
# How files are named

The relative form of a file below the base directory is what is left of its absolute path, whatever the file
is called (`displayPath_canonical`); a file elsewhere keeps the name it has (`displayPath_relative`).

Read from the base directory, the relative form leads to the file again, with one exception
(`displayPath_identifies`): a file elsewhere whose name leads, from there, to another file
(`IsStray`). Such a name is relative to the working directory and may be the form of a file below the base
directory as well.

No form of a file is empty, but for the last name of a path that has no names
(`displayPath_eq_empty_iff`).
-/

namespace ErrorTrail

variable {directory base p q : Resolved} {f g : String}

/-- The relative form of a file. -/
theorem displayPath_relative (root : Option Path)
    (hbase : (root.getD {}).resolve (some directory) = .ok base)
    (hf : f.startsWith "<" = false) (hp : (Path.ofText f).resolve (some directory) = .ok p) :
    displayPath (some directory) .relative root f =
      .ok (((below? base p).map fun names => Path.text ⟨"", names⟩).getD f) := by
  rw [displayPath]
  simp only [hf, hbase, hp, bind, Except.bind]
  cases below? base p <;> rfl

theorem displayPath_below (root : Option Path)
    (hbase : (root.getD {}).resolve (some directory) = .ok base)
    (hf : f.startsWith "<" = false) {names : List String}
    (hp : (Path.ofText f).resolve (some directory) = .ok (base ++ names)) :
    displayPath (some directory) .relative root f = .ok (Path.text ⟨"", names⟩) := by
  rw [displayPath_relative root hbase hf hp, below?_eq_some_iff.2 rfl]
  rfl

theorem displayPath_elsewhere (root : Option Path)
    (hbase : (root.getD {}).resolve (some directory) = .ok base)
    (hf : f.startsWith "<" = false) (hp : (Path.ofText f).resolve (some directory) = .ok p)
    (helsewhere : ¬ base <+: p) : displayPath (some directory) .relative root f = .ok f := by
  rw [displayPath_relative root hbase hf hp, below?_eq_none_iff.2 helsewhere]
  rfl

/-! ## Below the base directory -/

/-- The parts of a relative form are entries, or there is the part `.` alone. -/
theorem splitOn_text {names : List String} (h : IsLexical names) :
    (Path.text ⟨"", names⟩).splitOn "/" = if names = [] then ["."] else names := by
  rw [Path.text_relative]
  by_cases hne : names = []
  · rw [if_pos hne, if_pos hne, Text.splitOn_char '/']
    decide
  · rw [if_neg hne, if_neg hne]
    exact Text.splitOn_intercalate (fun n hn => (h n hn).slash_not_mem) hne

/-- The last name of a directory does not stand for longer names that begin like it. -/
theorem not_prefix_of_longer {around inside : List String} {name suffix : String} (h : suffix ≠ "") :
    ¬ around ++ [name] <+: around ++ (name ++ suffix) :: inside := by
  rw [List.prefix_append_right_inj]
  intro hprefix
  obtain ⟨heq, -⟩ := List.cons_prefix_cons.1 hprefix
  have hchars : name.toList ++ [] = name.toList ++ suffix.toList := by
    rw [List.append_nil, ← String.toList_append, ← heq]
  exact h (String.toList_eq_nil_iff.1 (List.append_cancel_left hchars).symm)

/-- Files below the base directory have one form, whatever they are called: the names that are left of the
absolute path, with slashes between them. It is a relative path without empty names and `..`. A directory
is not below another one because its name begins like the name of that one.

A file that resolves has no null character in its name. -/
theorem displayPath_canonical (root : Option Path) (hdirectory : IsLexical directory)
    (hbase : (root.getD {}).resolve (some directory) = .ok base)
    (hf : f.startsWith "<" = false) (hg : g.startsWith "<" = false)
    (hfp : (Path.ofText f).resolve (some directory) = .ok p)
    (hgp : (Path.ofText g).resolve (some directory) = .ok p) :
    (∀ names, p = base ++ names →
      ∃ shown, displayPath (some directory) .relative root f = .ok shown ∧
        displayPath (some directory) .relative root g = .ok shown ∧
        shown = (if names = [] then "." else "/".intercalate names) ∧
        (Path.ofText shown).isAbsolute = false ∧
        ∀ n ∈ shown.splitOn "/", n ≠ "" ∧ n ≠ "..") ∧
      ∀ around name suffix inside, base = around ++ [name] → suffix ≠ "" →
        p = around ++ (name ++ suffix) :: inside →
        displayPath (some directory) .relative root f = .ok f ∧
          displayPath (some directory) .relative root g = .ok g := by
  have hlexical : IsLexical p := hdirectory.resolve hfp
  refine ⟨fun names hp => ?_, fun around name suffix inside hbase' hsuffix hp => ?_⟩
  · subst hp
    have hnames : IsLexical names := hlexical.of_subset (List.subset_append_right base names)
    refine ⟨_, displayPath_below root hbase hf hfp, displayPath_below root hbase hg hgp,
      Path.text_relative names, ?_, ?_⟩
    · rw [Path.ofText_text fun n hn => (hnames n hn).toIsPathName]
      rfl
    · rw [splitOn_text hnames]
      intro n hn
      split at hn
      · obtain rfl := List.mem_singleton.1 hn
        decide
      · exact ⟨(hnames n hn).ne_empty, (hnames n hn).ne_dots⟩
  · have helsewhere : ¬ base <+: p := by
      rw [hbase', hp]
      exact not_prefix_of_longer hsuffix
    exact ⟨displayPath_elsewhere root hbase hf hfp helsewhere,
      displayPath_elsewhere root hbase hg hgp helsewhere⟩

theorem isLexical_srv : IsLexical ["srv"] := by
  intro n hn
  obtain rfl := List.mem_singleton.1 hn
  exact ⟨⟨by decide, by decide, by decide⟩, by decide, by decide⟩

/-- A file with two names, relative to the working directory and with its root, below a base directory. -/
theorem displayPath_canonical_spellings :
    let root := Path.ofText "app/"
    let f := "app//pkg/../pkg/./mod.py"
    let g := "/../srv/x/../app/pkg/mod.py"
    let shown := "pkg/mod.py"
    IsLexical ["srv"] ∧ root.resolve (some ["srv"]) = .ok ["srv", "app"] ∧
      (Path.ofText f).resolve (some ["srv"]) = .ok ["srv", "app", "pkg", "mod.py"] ∧
      (Path.ofText g).resolve (some ["srv"]) = .ok ["srv", "app", "pkg", "mod.py"] ∧
      displayPath (some ["srv"]) .relative (some root) f = .ok shown ∧
      displayPath (some ["srv"]) .relative (some root) g = .ok shown := by
  intro root f g shown
  have hroot : root = ⟨"", ["app"]⟩ := by
    simp only [root, Path.ofText, pathNames, Text.splitOn_char '/']
    decide
  have hf : Path.ofText f = ⟨"", ["app", "pkg", "..", "pkg", "mod.py"]⟩ := by
    simp only [f, Path.ofText, pathNames, Text.splitOn_char '/']
    decide
  have hg : Path.ofText g = ⟨"/", ["..", "srv", "x", "..", "app", "pkg", "mod.py"]⟩ := by
    simp only [g, Path.ofText, pathNames, Text.splitOn_char '/']
    decide
  have hbase : root.resolve (some ["srv"]) = .ok ["srv", "app"] := by
    rw [hroot, Path.resolve_eq_ok_iff]
    decide
  have hfp : (Path.ofText f).resolve (some ["srv"]) = .ok ["srv", "app", "pkg", "mod.py"] := by
    rw [hf, Path.resolve_eq_ok_iff]
    decide
  have hgp : (Path.ofText g).resolve (some ["srv"]) = .ok ["srv", "app", "pkg", "mod.py"] := by
    rw [hg, Path.resolve_eq_ok_iff]
    decide
  obtain ⟨shown', hfs, hgs, hshown, -⟩ := (displayPath_canonical (some root) isLexical_srv hbase
    (by simp [f]) (by simp [g]) hfp hgp).1 ["pkg", "mod.py"] rfl
  obtain rfl : shown' = shown := hshown.trans (by decide)
  exact ⟨isLexical_srv, hbase, hfp, hgp, hfs, hgs⟩

/-! ## Elsewhere -/

/-- A file that is not below `base`, under a name that leads to another one from there. -/
def IsStray (base p : Resolved) (f : String) : Prop :=
  ¬ base <+: p ∧ (Path.ofText f).resolve (some base) ≠ .ok p

/-- Only names that are relative to another directory are stray. -/
theorem IsStray.isRelative (h : IsStray base p f)
    (hp : (Path.ofText f).resolve (some directory) = .ok p) :
    (Path.ofText f).isAbsolute = false ∧ base ≠ directory := by
  obtain ⟨hnull, rfl⟩ := Path.resolve_eq_ok_iff.1 hp
  refine ⟨?_, fun heq => h.2 (heq ▸ hp)⟩
  by_contra habsolute
  rw [Bool.not_eq_false] at habsolute
  refine h.2 (Path.resolve_eq_ok_iff.2 ⟨hnull, ?_⟩)
  rw [Path.start, Path.start, if_pos habsolute, if_pos habsolute]

/-- The relative form of a file leads to the file from the base directory, unless the name is stray. -/
theorem resolve_shown {root : Option Path} {shown : String} (hdirectory : IsLexical directory)
    (hbase : (root.getD {}).resolve (some directory) = .ok base) (hf : f.startsWith "<" = false)
    (hp : (Path.ofText f).resolve (some directory) = .ok p)
    (hshown : displayPath (some directory) .relative root f = .ok shown) :
    (Path.ofText shown).resolve (some base) = .ok p ↔ ¬ IsStray base p f := by
  by_cases hbelow : base <+: p
  · obtain ⟨names, rfl⟩ := hbelow
    have hnames : IsLexical names :=
      (hdirectory.resolve hp).of_subset (List.subset_append_right base names)
    rw [displayPath_below root hbase hf hp] at hshown
    cases hshown
    refine iff_of_true ?_ fun hstray => hstray.1 (List.prefix_append base names)
    rw [Path.ofText_text fun n hn => (hnames n hn).toIsPathName, Path.resolve_eq_ok_iff]
    refine ⟨fun n hn => (hnames n hn).null_not_mem, ?_⟩
    have hdots : ".." ∉ names := fun hmem => (hnames _ hmem).ne_dots rfl
    exact (Path.follow_eq_append base hdots).symm
  · rw [displayPath_elsewhere root hbase hf hp hbelow] at hshown
    cases hshown
    rw [IsStray, not_and_or, not_not, not_not, or_iff_right hbelow]

/-- A name without null characters leads to a file, which has a relative form. Read from the base directory
the form leads to that file if and only if the name is not stray. A stray name is kept as it is and is
relative to a working directory that is not the base directory.

So files that have the same form are the same, or one of them has a stray name and the other one has not. -/
theorem displayPath_identifies (root : Option Path) (hdirectory : IsLexical directory)
    (hbase : (root.getD {}).resolve (some directory) = .ok base)
    (hnull : f.contains (Char.ofNat 0) = false) (hf : f.startsWith "<" = false) :
    ∃ p shown, (Path.ofText f).resolve (some directory) = .ok p ∧
      displayPath (some directory) .relative root f = .ok shown ∧
      ((Path.ofText shown).resolve (some base) = .ok p ↔ ¬ IsStray base p f) ∧
      (IsStray base p f → shown = f ∧ (Path.ofText f).isAbsolute = false ∧ base ≠ directory) ∧
      ∀ g q, g.startsWith "<" = false → (Path.ofText g).resolve (some directory) = .ok q →
        displayPath (some directory) .relative root g = .ok shown →
        (IsStray base p f ↔ IsStray base q g) → p = q := by
  have hp := Path.resolve_ofText directory hnull
  have hshown := displayPath_relative root hbase hf hp
  have hlead := resolve_shown hdirectory hbase hf hp hshown
  refine ⟨_, _, hp, hshown, hlead, fun hstray => ⟨?_, hstray.isRelative hp⟩, fun g q hg hq hgs hboth => ?_⟩
  · rw [below?_eq_none_iff.2 hstray.1]
    rfl
  · have hleadg := resolve_shown hdirectory hbase hg hq hgs
    by_cases hstray : IsStray base (Path.follow ((Path.ofText f).start directory) (Path.ofText f).parts) f
    · -- both names are kept, so they are the same name
      rw [displayPath_elsewhere root hbase hg hq (hboth.1 hstray).1, below?_eq_none_iff.2 hstray.1] at hgs
      obtain rfl : g = f := Except.ok.inj hgs
      rw [hp] at hq
      exact Except.ok.inj hq
    · have hgp := hleadg.2 (mt hboth.2 hstray)
      rw [hlead.2 hstray] at hgp
      exact Except.ok.inj hgp

/-- A base directory that is not the working directory. -/
def appRoot : Path := ⟨"/", ["app"]⟩

theorem resolve_appRoot : appRoot.resolve (some ["srv"]) = .ok ["app"] := by
  rw [Path.resolve_eq_ok_iff]
  decide

theorem isEntry_mod : IsEntry "mod.py" := ⟨⟨by decide, by decide, by decide⟩, by decide, by decide⟩

/-- The absolute name of a file in a directory whose name begins like that of the base directory is kept
and leads to the file, while a name in the working directory is stray. -/
theorem displayPath_identifies_elsewhere :
    let f := "/data/../application/mod.py"
    IsLexical ["srv"] ∧ appRoot.resolve (some ["srv"]) = .ok ["app"] ∧
      f.contains (Char.ofNat 0) = false ∧ f.startsWith "<" = false ∧
      displayPath (some ["srv"]) .relative (some appRoot) f = .ok f ∧
      (Path.ofText f).resolve (some ["app"]) = .ok ["application", "mod.py"] ∧
      IsStray ["app"] ["srv", "mod.py"] "mod.py" := by
  intro f
  have hnull : f.contains (Char.ofNat 0) = false := by simp [f]
  have hfile : f.startsWith "<" = false := by simp [f]
  have hf : Path.ofText f = ⟨"/", ["data", "..", "application", "mod.py"]⟩ := by
    simp only [f, Path.ofText, pathNames, Text.splitOn_char '/']
    decide
  obtain ⟨p, shown, hp, hshown, hlead, -⟩ :=
    displayPath_identifies (some appRoot) isLexical_srv resolve_appRoot hnull hfile
  have hp' : (Path.ofText f).resolve (some ["srv"]) = .ok ["application", "mod.py"] := by
    rw [hf, Path.resolve_eq_ok_iff]
    decide
  obtain rfl : p = ["application", "mod.py"] := Except.ok.inj (hp.symm.trans hp')
  have helsewhere : ¬ ["app"] <+: ["application", "mod.py"] := by decide
  have hkept : displayPath (some ["srv"]) .relative (some appRoot) f = .ok f :=
    displayPath_elsewhere (some appRoot) resolve_appRoot hfile hp' helsewhere
  obtain rfl : shown = f := Except.ok.inj (hshown.symm.trans hkept)
  have hstray : ¬ IsStray ["app"] ["application", "mod.py"] f := fun hstray =>
    absurd (hstray.isRelative hp').1 (by rw [hf]; decide)
  refine ⟨isLexical_srv, resolve_appRoot, hnull, hfile, hshown, hlead.2 hstray, by decide, ?_⟩
  rw [Path.resolve_name _ isEntry_mod]
  decide

/-- The name of a file in the working directory is kept. Read from the base directory it leads to another
file, of which it is the form as well. -/
theorem not_displayPath_identifies :
    (¬ ∀ (directory base p : Resolved) (root : Option Path) (f shown : String),
      IsLexical directory → (root.getD {}).resolve (some directory) = .ok base →
      f.contains (Char.ofNat 0) = false → f.startsWith "<" = false →
      (Path.ofText f).resolve (some directory) = .ok p →
      displayPath (some directory) .relative root f = .ok shown →
      (Path.ofText shown).resolve (some base) = .ok p) ∧
    ¬ ∀ (directory base p q : Resolved) (root : Option Path) (f g shown : String),
      IsLexical directory → (root.getD {}).resolve (some directory) = .ok base →
      f.contains (Char.ofNat 0) = false → f.startsWith "<" = false →
      g.contains (Char.ofNat 0) = false → g.startsWith "<" = false →
      (Path.ofText f).resolve (some directory) = .ok p →
      (Path.ofText g).resolve (some directory) = .ok q →
      displayPath (some directory) .relative root f = .ok shown →
      displayPath (some directory) .relative root g = .ok shown → p = q := by
  have hg : Path.ofText "/app/mod.py" = ⟨"/", ["app", "mod.py"]⟩ := by
    rw [Path.ofText, pathNames, Text.splitOn_char '/']
    decide
  have hq : (Path.ofText "/app/mod.py").resolve (some ["srv"]) = .ok (["app"] ++ ["mod.py"]) := by
    rw [hg, Path.resolve_eq_ok_iff]
    decide
  have hfs : displayPath (some ["srv"]) .relative (some appRoot) "mod.py" = .ok "mod.py" :=
    displayPath_elsewhere (some appRoot) resolve_appRoot (by simp) (Path.resolve_name _ isEntry_mod) (by decide)
  have hgs : displayPath (some ["srv"]) .relative (some appRoot) "/app/mod.py" = .ok "mod.py" := by
    rw [displayPath_below (some appRoot) resolve_appRoot (by simp) hq]
    rfl
  refine ⟨fun h => ?_, fun h => ?_⟩
  · have hlead := h _ _ _ (some appRoot) _ _ isLexical_srv resolve_appRoot (by simp) (by simp)
      (Path.resolve_name _ isEntry_mod) hfs
    rw [Path.resolve_name _ isEntry_mod] at hlead
    exact absurd (Except.ok.inj hlead) (by decide)
  · exact absurd (h _ _ _ _ (some appRoot) _ _ _ isLexical_srv resolve_appRoot (by simp) (by simp)
      (by simp) (by simp) (Path.resolve_name _ isEntry_mod) hq hfs hgs) (by decide)

/-! ## Empty forms -/

theorem pathName_eq_empty_iff : (Path.ofText f).name = "" ↔ pathNames f = [] := by
  rw [Path.name, Path.ofText]
  rcases hlast : (pathNames f).getLast? with _ | n
  · simpa using List.getLast?_eq_none_iff.1 hlast
  · have hmem : n ∈ pathNames f := List.mem_of_getLast? hlast
    exact iff_of_false (isPathName_of_mem_pathNames hmem).ne_empty (List.ne_nil_of_mem hmem)

theorem text_relative_ne_empty {names : List String} (h : IsLexical names) :
    Path.text ⟨"", names⟩ ≠ "" := by
  intro hempty
  have hread := Path.ofText_text fun n hn => (h n hn).toIsPathName
  have hnothing : Path.ofText "" = ⟨"", []⟩ := by
    rw [Path.ofText, pathNames, Text.splitOn_char '/']
    decide
  rw [hempty, hnothing] at hread
  obtain rfl : [] = names := congrArg Path.parts hread
  exact absurd hempty (by decide)

/-- The form of a file is empty just if it is the last name of a path without names. -/
theorem displayPath_eq_empty_iff {style : PathStyle} {root : Option Path} {shown : String}
    (hdirectory : IsLexical directory) (hf : f ≠ "")
    (hshown : displayPath (some directory) style root f = .ok shown) :
    shown = "" ↔ style = .name ∧ f.startsWith "<" = false ∧ pathNames f = [] := by
  by_cases hpseudo : f.startsWith "<"
  · obtain rfl : f = shown := by simpa [displayPath, hpseudo] using hshown
    simp [hf, hpseudo]
  rw [Bool.not_eq_true] at hpseudo
  cases style with
  | full =>
    obtain rfl : f = shown := by simpa [displayPath] using hshown
    simp [hf]
  | name =>
    obtain rfl : (Path.ofText f).name = shown := by simpa [displayPath, hpseudo] using hshown
    simp [pathName_eq_empty_iff, hpseudo]
  | relative =>
    refine iff_of_false ?_ (by simp)
    rcases hbase : (root.getD {}).resolve (some directory) with e | base
    · simp [displayPath, hpseudo, hbase, bind, Except.bind] at hshown
    · rcases hp : (Path.ofText f).resolve (some directory) with (_ | _) | p
      · obtain rfl : f = shown := by
          simpa [displayPath, hpseudo, hbase, hp, bind, Except.bind] using hshown
        exact hf
      · exact absurd hp (Path.resolve_ne_noDirectory directory _)
      · rw [displayPath_relative root hbase hpseudo hp] at hshown
        obtain rfl := Except.ok.inj hshown
        rcases hbelow : below? base p with _ | names
        · exact hf
        · obtain rfl := below?_eq_some_iff.1 hbelow
          exact text_relative_ne_empty
            ((hdirectory.resolve hp).of_subset (List.subset_append_right base names))

end ErrorTrail
