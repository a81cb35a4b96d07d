import ErrorTrail.Command
import ErrorTrail.Proofs.Path.Resolution
import ErrorTrail.Proofs.Site.Refusing

/-!
# How the build step fails

The ways in which reading and instrumenting a file fail are the cases of `EnclosingFails`
(`encloseSource_eq_error_iff`). Two of them are refusals, the text of no program and an annotated class, and
after them only a built text that does not compile is refused.

Other failures have causes that are no refusals (`build_fails_iff`): null characters, a name that has to be
relative to a directory that is not there, and a built tree that has no text. Everything else returns or is
refused, and a command that does not break off ends with the answer or with a message alone.
-/

namespace ErrorTrail

open Syntax

/-! ## Names of files -/

/-- A file has no relative form if there is no base directory; it has every other form. -/
theorem displayPath_eq_error_iff {directory : Option Resolved} {style : PathStyle} {root : Option Path}
    {file : String} {e : PathError} :
    displayPath directory style root file = .error e ↔
      style = .relative ∧ file.startsWith "<" = false ∧ (root.getD {}).resolve directory = .error e := by
  cases style with
  | full => simp [displayPath]
  | name => by_cases hpseudo : file.startsWith "<" <;> simp [displayPath, hpseudo]
  | relative =>
    by_cases hpseudo : file.startsWith "<"
    · simp [displayPath, hpseudo]
    · rcases hbase : (root.getD {}).resolve directory with e' | base
      · simp [displayPath, hpseudo, hbase, bind, Except.bind]
      · have hok : ∃ shown, displayPath directory .relative root file = .ok shown := by
          simp only [displayPath, hpseudo, hbase, bind, Except.bind]
          rcases (Path.ofText file).resolve directory with (_ | _) | p
          · exact ⟨_, rfl⟩
          · exact ⟨_, rfl⟩
          · rcases hbelow : below? base p <;> simp [hbelow]
        obtain ⟨shown, hshown⟩ := hok
        simp [hshown]

/-! ## Reading and instrumenting -/

/-- How reading and instrumenting a file fails. -/
inductive EnclosingFails (host : Host) (source file : String) : BuildError → Prop
  | nullInName (hname : file.contains (Char.ofNat 0)) : EnclosingFails host source file .nullInName
  | nullCharacter (hname : file.contains (Char.ofNat 0) = false) (hnull : source.contains (Char.ofNat 0)) :
      EnclosingFails host source file .nullCharacter
  | malformed (hname : file.contains (Char.ofNat 0) = false) (hnull : source.contains (Char.ofNat 0) = false)
      {m : Malformed} (hparse : parseFile source = .error m) :
      EnclosingFails host source file (.refused (.because .parseFailed m.kind "" file))
  | settings (hname : file.contains (Char.ofNat 0) = false) (hnull : source.contains (Char.ofNat 0) = false)
      {tree : SyntaxTree Span} (hparse : parseFile source = .ok tree) {e : SettingsError}
      (hsettings : Settings.load host.sources = .error e) : EnclosingFails host source file (.settings e)
  | path (hname : file.contains (Char.ofNat 0) = false) (hnull : source.contains (Char.ofNat 0) = false)
      {tree : SyntaxTree Span} (hparse : parseFile source = .ok tree) {settings : Settings}
      (hsettings : Settings.load host.sources = .ok settings) {e : PathError}
      (hshown : displayPath host.directory settings.pathStyle settings.pathRoot file = .error e) :
      EnclosingFails host source file (.path e)
  | annotatedClass (hname : file.contains (Char.ofNat 0) = false)
      (hnull : source.contains (Char.ofNat 0) = false) {tree : SyntaxTree Span}
      (hparse : parseFile source = .ok tree) {settings : Settings}
      (hsettings : Settings.load host.sources = .ok settings) {shown : String}
      (hshown : displayPath host.directory settings.pathStyle settings.pathRoot file = .ok shown)
      {c : SyntaxTree Span} (hclass : tree.exposedClass? = some c) :
      EnclosingFails host source file (.refused (classRefusal shown c))

section

variable {host : Host} {source file : String} {e : BuildError}

/-- Each way to fail is the failure of its step. -/
theorem EnclosingFails.encloseSource (h : EnclosingFails host source file e) :
    encloseSource host source file = .error e := by
  cases h with
  | nullInName hname => simp [ErrorTrail.encloseSource, hname, bind, Except.bind]
  | nullCharacter hname hnull => simp [ErrorTrail.encloseSource, hname, hnull, bind, Except.bind]
  | malformed hname hnull hparse =>
    simp [ErrorTrail.encloseSource, hname, hnull, hparse, Except.mapError, bind, Except.bind]
  | settings hname hnull hparse hsettings =>
    simp [ErrorTrail.encloseSource, hname, hnull, hparse, hsettings, Except.mapError, bind, Except.bind]
  | path hname hnull hparse hsettings hshown =>
    simp [ErrorTrail.encloseSource, hname, hnull, hparse, hsettings, hshown, Except.mapError, bind, Except.bind]
  | annotatedClass hname hnull hparse hsettings hshown hclass =>
    rw [encloseSource_eq hname hnull hparse hsettings hshown, hclass]

theorem encloseSource_eq_error_iff :
    encloseSource host source file = .error e ↔ EnclosingFails host source file e := by
  refine ⟨fun h => ?_, fun h => h.encloseSource⟩
  have hfails : ∀ {e'}, EnclosingFails host source file e' → EnclosingFails host source file e := by
    intro e' h'
    rw [h'.encloseSource] at h
    exact Except.error.inj h ▸ h'
  by_cases hname : file.contains (Char.ofNat 0)
  · exact hfails (.nullInName hname)
  rw [Bool.not_eq_true] at hname
  by_cases hnull : source.contains (Char.ofNat 0)
  · exact hfails (.nullCharacter hname hnull)
  rw [Bool.not_eq_true] at hnull
  rcases hparse : parseFile source with m | tree
  · exact hfails (.malformed hname hnull hparse)
  rcases hsettings : Settings.load host.sources with es | settings
  · exact hfails (.settings hname hnull hparse hsettings)
  rcases hshown : displayPath host.directory settings.pathStyle settings.pathRoot file with ep | shown
  · exact hfails (.path hname hnull hparse hsettings hshown)
  rcases hclass : tree.exposedClass? with _ | c
  · rw [encloseSource_eq hname hnull hparse hsettings hshown, hclass] at h
    cases h
  · exact hfails (.annotatedClass hname hnull hparse hsettings hshown hclass)

theorem findSites_eq_error_iff :
    findSites host source file = .error e ↔ EnclosingFails host source file e := by
  rw [← encloseSource_eq_error_iff, findSites]
  cases encloseSource host source file <;> simp [Except.map]

/-! ## Writing the built file -/

/-- How building a file fails. -/
inductive BuildFails (host : Host) (source file : String) : BuildError → Prop
  | enclosing {e : BuildError} (h : EnclosingFails host source file e) : BuildFails host source file e
  | unprintable {done : Enclosed} (hdone : encloseSource host source file = .ok done)
      (hfunctions : done.record.functions ≠ []) {u : Unprintable}
      (hprint : (insertImport done.package done.tree).print = .error u) :
      BuildFails host source file (.unprintable u)
  | inadmissible {done : Enclosed} (hdone : encloseSource host source file = .ok done)
      (hfunctions : done.record.functions ≠ []) {text : String}
      (hprint : (insertImport done.package done.tree).print = .ok text) {m : CompileError}
      (hcompile : compileFile (text ++ "\n") = .error m) :
      BuildFails host source file (.refused (.because .compileFailed m.kind "" file))

theorem BuildFails.transformSource (h : BuildFails host source file e) :
    transformSource host source file = .error e := by
  cases h with
  | enclosing h => simp [ErrorTrail.transformSource, h.encloseSource, bind, Except.bind]
  | unprintable hdone hfunctions hprint =>
    simp [ErrorTrail.transformSource, hdone, hfunctions, hprint, Except.mapError, bind, Except.bind]
  | inadmissible hdone hfunctions hprint hcompile =>
    simp [ErrorTrail.transformSource, hdone, hfunctions, hprint, hcompile, Except.mapError, bind, Except.bind]

theorem transformSource_eq_error_iff :
    transformSource host source file = .error e ↔ BuildFails host source file e := by
  refine ⟨fun h => ?_, fun h => h.transformSource⟩
  have hfails : ∀ {e'}, BuildFails host source file e' → BuildFails host source file e := by
    intro e' h'
    rw [h'.transformSource] at h
    exact Except.error.inj h ▸ h'
  rcases hdone : encloseSource host source file with e' | done
  · exact hfails (.enclosing (encloseSource_eq_error_iff.1 hdone))
  by_cases hfunctions : done.record.functions = []
  · simp [transformSource, hdone, hfunctions, bind, Except.bind] at h
  rcases hprint : (insertImport done.package done.tree).print with u | text
  · exact hfails (.unprintable hdone hfunctions hprint)
  rcases hcompile : compileFile (text ++ "\n") with m | t
  · exact hfails (.inadmissible hdone hfunctions hprint hcompile)
  · simp [transformSource, hdone, hfunctions, hprint, hcompile, Except.mapError, bind, Except.bind] at h

/-- The text of a file with instrumented functions is that of the tree, after the import of the package. -/
theorem text_of_transformSource {done : Enclosed} {built : Built}
    (hdone : encloseSource host source file = .ok done) (hfunctions : done.record.functions ≠ [])
    (h : transformSource host source file = .ok built) :
    ∃ text, (insertImport done.package done.tree).print = .ok text ∧ built.text = text ++ "\n" := by
  rcases hprint : (insertImport done.package done.tree).print with u | text
  · rw [(BuildFails.unprintable hdone hfunctions hprint).transformSource] at h
    cases h
  · rcases hcompile : compileFile (text ++ "\n") with m | t
    · rw [(BuildFails.inadmissible hdone hfunctions hprint hcompile).transformSource] at h
      cases h
    · simp only [transformSource, hdone, hfunctions, hprint, hcompile, Except.mapError, bind, Except.bind,
        List.isEmpty_iff, if_false] at h
      cases h
      exact ⟨text, rfl, rfl⟩

end

/-! ## Failures that are no refusals -/

/-- A failure that is told as a refusal. -/
def BuildError.isRefusal : BuildError → Bool
  | .refused _ => true
  | _ => false

/-- Whether a file is named relative to a base directory that is not there. -/
def LacksBase (host : Host) (settings : Settings) (file : String) : Prop :=
  settings.pathStyle = .relative ∧ file.startsWith "<" = false ∧
    ∃ e, (settings.pathRoot.getD {}).resolve host.directory = .error e

/-- Whether a file cannot be read and instrumented for a reason that is told otherwise. -/
def IsUntold (host : Host) (settings : Settings) (source file : String) : Prop :=
  file.contains (Char.ofNat 0) ∨ source.contains (Char.ofNat 0) ∨
    (∃ tree, parseFile source = .ok tree) ∧ LacksBase host settings file

/-- Whether the built tree of a file has no text. -/
def IsUnprintable (host : Host) (source file : String) : Prop :=
  ∃ done u, encloseSource host source file = .ok done ∧ done.record.functions ≠ [] ∧
    (insertImport done.package done.tree).print = .error u

section

variable {host : Host} {settings : Settings} {source file : String} {e : BuildError}

theorem isUntold_iff (hsettings : Settings.load host.sources = .ok settings) :
    IsUntold host settings source file ↔ ∃ e, EnclosingFails host source file e ∧ e.isRefusal = false := by
  constructor
  · intro huntold
    by_cases hname : file.contains (Char.ofNat 0)
    · exact ⟨_, .nullInName hname, rfl⟩
    rw [Bool.not_eq_true] at hname
    by_cases hnull : source.contains (Char.ofNat 0)
    · exact ⟨_, .nullCharacter hname hnull, rfl⟩
    rw [Bool.not_eq_true] at hnull
    obtain ⟨⟨tree, hparse⟩, hstyle, hpseudo, ep, hbase⟩ : (∃ tree, parseFile source = .ok tree) ∧
        LacksBase host settings file := by simpa [IsUntold, hname, hnull] using huntold
    exact ⟨_, .path hname hnull hparse hsettings (displayPath_eq_error_iff.2 ⟨hstyle, hpseudo, hbase⟩), rfl⟩
  · rintro ⟨e, hfails, hrefusal⟩
    cases hfails with
    | nullInName hname => exact .inl hname
    | nullCharacter _ hnull => exact .inr (.inl hnull)
    | malformed => cases hrefusal
    | settings _ _ _ hsettings' =>
      rw [hsettings] at hsettings'
      cases hsettings'
    | path _ _ hparse hsettings' hshown =>
      rw [hsettings] at hsettings'
      cases hsettings'
      obtain ⟨hstyle, hpseudo, hbase⟩ := displayPath_eq_error_iff.1 hshown
      exact .inr (.inr ⟨⟨_, hparse⟩, hstyle, hpseudo, _, hbase⟩)
    | annotatedClass => cases hrefusal

/-- Listing the sites of a file returns or is refused, unless the file is untold. -/
theorem findSites_fails_iff (hsettings : Settings.load host.sources = .ok settings) :
    (∃ e, findSites host source file = .error e ∧ e.isRefusal = false) ↔
      IsUntold host settings source file := by
  rw [isUntold_iff hsettings]
  exact exists_congr fun e => and_congr_left fun _ => findSites_eq_error_iff

/-- Building a file returns or is refused, unless the file is untold or what is built has no text. -/
theorem transformSource_fails_iff (hsettings : Settings.load host.sources = .ok settings) :
    (∃ e, transformSource host source file = .error e ∧ e.isRefusal = false) ↔
      IsUntold host settings source file ∨ IsUnprintable host source file := by
  simp only [transformSource_eq_error_iff, isUntold_iff hsettings]
  constructor
  · rintro ⟨e, hfails, hrefusal⟩
    cases hfails with
    | enclosing h => exact .inl ⟨e, h, hrefusal⟩
    | unprintable hdone hfunctions hprint => exact .inr ⟨_, _, hdone, hfunctions, hprint⟩
    | inadmissible => cases hrefusal
  · rintro (⟨e, hfails, hrefusal⟩ | ⟨done, u, hdone, hfunctions, hprint⟩)
    · exact ⟨e, .enclosing hfails, hrefusal⟩
    · exact ⟨_, .unprintable hdone hfunctions hprint, rfl⟩

/-! ## Commands -/

/-- Whether a command writes what it builds. -/
def Command.builds : Command → Bool
  | .build _ _ => true
  | .sites _ => false

/-- A command has no answer if the build step fails. -/
theorem answer_eq_error_iff {level : LogLevel} {c : Command} (hfile : (Path.ofText c.source).text = file) :
    c.answer host level source = .error e ↔
      (if c.builds then transformSource host source file = .error e else findSites host source file = .error e) := by
  subst hfile
  cases c with
  | build s output =>
    rcases hbuilt : transformSource host source (Path.ofText s).text with e' | built
    · simp [Command.answer, Command.builds, Command.source, hbuilt, bind, Except.bind]
    · cases output <;> simp [Command.answer, Command.builds, Command.source, hbuilt, bind, Except.bind, pure, Except.pure]
  | sites s =>
    rcases hfound : findSites host source (Path.ofText s).text with e' | found <;>
      simp [Command.answer, Command.builds, Command.source, hfound, bind, Except.bind, pure, Except.pure]

/-- An answer is no failure. -/
theorem exit_answer {level : LogLevel} {c : Command} {ending : Ending}
    (h : c.answer host level source = .ok ending) : ending.exit = 0 := by
  cases c with
  | build s output =>
    rcases hbuilt : transformSource host source (Path.ofText s).text with e' | built
    · simp [Command.answer, hbuilt, bind, Except.bind] at h
    · cases output <;>
      · simp only [Command.answer, hbuilt, bind, Except.bind, pure, Except.pure] at h
        cases h
        rfl
  | sites s =>
    rcases hfound : findSites host source (Path.ofText s).text with e' | found
    · simp [Command.answer, hfound, bind, Except.bind] at h
    · simp only [Command.answer, hfound, bind, Except.bind, pure, Except.pure] at h
      cases h
      rfl

section

variable {level : LogLevel} {c : Command} {content : ByteArray} (htext : Command.fileText? content = some source)
include htext

theorem run_of_answer {ending : Ending} (h : c.answer host level source = .ok ending) :
    c.run host level (.file content) = .ok ending := by
  simp [Command.run, htext, h]

theorem run_of_refusal {r : Refusal} (h : c.answer host level source = .error (.refused r)) :
    c.run host level (.file content) = .ok (Command.refused r) := by
  simp [Command.run, htext, h]

theorem run_of_error (h : c.answer host level source = .error e) (hrefusal : e.isRefusal = false) :
    c.run host level (.file content) = .error (.build e) := by
  cases e with
  | refused r => cases hrefusal
  | _ => simp [Command.run, htext, h]

/-- A command breaks off where its answer fails without a refusal. -/
theorem run_fails_iff :
    (∃ err, c.run host level (.file content) = .error err) ↔
      ∃ e, c.answer host level source = .error e ∧ e.isRefusal = false := by
  constructor
  · rintro ⟨err, herr⟩
    rcases hanswer : c.answer host level source with e | ending
    · rcases hrefusal : e.isRefusal with _ | _
      · exact ⟨e, rfl, hrefusal⟩
      · cases e with
        | refused r =>
          rw [run_of_refusal htext hanswer] at herr
          cases herr
        | _ => cases hrefusal
    · rw [run_of_answer htext hanswer] at herr
      cases herr
  · rintro ⟨e, he, hrefusal⟩
    exact ⟨_, run_of_error htext he hrefusal⟩

/-- A command that does not break off ends without failure, or with a message about a refusal. -/
theorem ending_cases {ending : Ending} (h : c.run host level (.file content) = .ok ending) :
    ending.exit = 0 ∨ ∃ r, ending = Command.refused r := by
  rcases hanswer : c.answer host level source with e | ending'
  · rcases hrefusal : e.isRefusal with _ | _
    · rw [run_of_error htext hanswer hrefusal] at h
      cases h
    · cases e with
      | refused r =>
        rw [run_of_refusal htext hanswer] at h
        cases h
        exact .inr ⟨r, rfl⟩
      | _ => cases hrefusal
  · rw [run_of_answer htext hanswer] at h
    cases h
    exact .inl (exit_answer hanswer)

end

/-- The build step returns or refuses, unless the file is untold or, where a text is asked for, what is
built has none. A command on a file that can be decoded ends in the same cases: without failure, or with
exit code 1 and a message about the refusal, and then it shows and writes nothing. -/
theorem build_fails_iff (hsettings : Settings.load host.sources = .ok settings) :
    ((∃ e, findSites host source file = .error e ∧ e.isRefusal = false) ↔
      IsUntold host settings source file) ∧
    ((∃ e, transformSource host source file = .error e ∧ e.isRefusal = false) ↔
      IsUntold host settings source file ∨ IsUnprintable host source file) ∧
    ∀ (c : Command) (level : LogLevel) (content : ByteArray), Command.fileText? content = some source →
      (Path.ofText c.source).text = file →
      ((∃ err, c.run host level (.file content) = .error err) ↔
        IsUntold host settings source file ∨ c.builds ∧ IsUnprintable host source file) ∧
      ∀ ending, c.run host level (.file content) = .ok ending →
        ending.exit = 0 ∨ ∃ r, ending = { exit := 1, said := "error: " ++ Refusal.text r ++ "\n" } := by
  have hfind := @findSites_fails_iff host settings source file hsettings
  have htransform := @transformSource_fails_iff host settings source file hsettings
  refine ⟨hfind, htransform, fun c level content htext hfile => ⟨?_, fun ending hrun => ?_⟩⟩
  · rw [run_fails_iff htext]
    simp only [answer_eq_error_iff hfile]
    cases c.builds
    · simpa using hfind
    · simpa using htransform
  · exact ending_cases htext hrun

end

/-- Without a working directory, a program that is named by its path in it cannot be read. -/
theorem enclosingFails_without_directory {host : Host} {source : String} {tree : SyntaxTree Span}
    {name : String} (hdirectory : host.directory = none) (hname : name.contains (Char.ofNat 0) = false)
    (hpseudo : name.startsWith "<" = false) (hnull : source.contains (Char.ofNat 0) = false)
    (hparse : parseFile source = .ok tree) (hsettings : Settings.load host.sources = .ok {}) :
    EnclosingFails host source name (.path .noDirectory) := by
  refine .path hname hnull hparse hsettings (displayPath_eq_error_iff.2 ⟨rfl, hpseudo, ?_⟩)
  rw [hdirectory]
  rfl

/-- The smallest program that does something can be read, and fails without a working directory. -/
theorem enclosingFails_assignment : EnclosingFails {} "x = 1\n" "prog.py" (.path .noDirectory) := by
  have hread : (parseFile "x = 1\n").map (fun _ => true) = .ok true := by decide +kernel
  obtain ⟨tree, hparse, -⟩ := exists_of_map_parseFile hread
  exact enclosingFails_without_directory rfl (by simp) (by simp) (by simp) hparse rfl

/-- Without a working directory a program cannot be named, and the commands on it break off. -/
theorem build_fails_without_directory :
    let host : Host := {}
    let content : ByteArray := ⟨#[120, 32, 61, 32, 49, 10]⟩
    Settings.load host.sources = .ok {} ∧ Command.fileText? content = some "x = 1\n" ∧
      IsUntold host {} "x = 1\n" "prog.py" ∧
      (∃ e, findSites host "x = 1\n" "prog.py" = .error e ∧ e.isRefusal = false) ∧
      (∃ e, transformSource host "x = 1\n" "prog.py" = .error e ∧ e.isRefusal = false) ∧
      ∃ err, (Command.sites "prog.py").run host .warning (.file content) = .error err := by
  intro host content
  have hsettings : Settings.load host.sources = .ok {} := rfl
  have htext : Command.fileText? content = some "x = 1\n" := by decide +kernel
  have hfile : (Path.ofText "prog.py").text = "prog.py" :=
    Path.text_ofText_name ⟨by decide, by decide, by decide⟩
  have huntold : IsUntold host {} "x = 1\n" "prog.py" :=
    (isUntold_iff hsettings).2 ⟨_, enclosingFails_assignment, rfl⟩
  obtain ⟨hfind, htransform, hcommands⟩ := @build_fails_iff host {} "x = 1\n" "prog.py" hsettings
  exact ⟨hsettings, htext, huntold, hfind.2 huntold, htransform.2 (.inl huntold),
    (hcommands (.sites "prog.py") .warning content htext hfile).1.2 (.inl huntold)⟩

/-- A program is not refused where there is no working directory, but neither the build step nor a command
on it returns. -/
theorem not_build_returns :
    (¬ ∀ (host : Host) (settings : Settings) (source file : String),
      Settings.load host.sources = .ok settings →
      (∃ sites, findSites host source file = .ok sites) ∨
        ∃ r, findSites host source file = .error (.refused r)) ∧
    (¬ ∀ (host : Host) (settings : Settings) (source file : String),
      Settings.load host.sources = .ok settings →
      (∃ built, transformSource host source file = .ok built) ∨
        ∃ r, transformSource host source file = .error (.refused r)) ∧
    ¬ ∀ (host : Host) (settings : Settings) (c : Command) (level : LogLevel) (content : ByteArray),
      Settings.load host.sources = .ok settings → (Command.fileText? content).isSome →
      ∃ ending, c.run host level (.file content) = .ok ending := by
  have hsettings : Settings.load ({} : Host).sources = .ok {} := rfl
  refine ⟨fun h => ?_, fun h => ?_, fun h => ?_⟩
  · have hfind := findSites_eq_error_iff.2 enclosingFails_assignment
    rcases h {} {} _ _ hsettings with ⟨sites, hok⟩ | ⟨r, hr⟩
    · rw [hfind] at hok
      cases hok
    · rw [hfind] at hr
      cases hr
  · have htransform := (BuildFails.enclosing enclosingFails_assignment).transformSource
    rcases h {} {} _ _ hsettings with ⟨built, hok⟩ | ⟨r, hr⟩
    · rw [htransform] at hok
      cases hok
    · rw [htransform] at hr
      cases hr
  · have htext : Command.fileText? ⟨#[120, 32, 61, 32, 49, 10]⟩ = some "x = 1\n" := by decide +kernel
    have hfile : (Path.ofText "prog.py").text = "prog.py" :=
      Path.text_ofText_name ⟨by decide, by decide, by decide⟩
    have hanswer : (Command.sites "prog.py").answer {} .warning "x = 1\n" = .error (.path .noDirectory) :=
      (answer_eq_error_iff (c := .sites "prog.py") hfile).2
        (findSites_eq_error_iff.2 enclosingFails_assignment)
    obtain ⟨ending, hrun⟩ := h {} {} (.sites "prog.py") .warning ⟨#[120, 32, 61, 32, 49, 10]⟩ hsettings
      (by rw [htext]; rfl)
    rw [run_of_error htext hanswer rfl] at hrun
    cases hrun

end ErrorTrail
