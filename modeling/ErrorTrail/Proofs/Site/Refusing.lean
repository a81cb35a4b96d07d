import ErrorTrail.Proofs.Site.Enclosing
import ErrorTrail.Proofs.Syntax.Parsed
import ErrorTrail.Proofs.Text.Splitting
import ErrorTrail.Site.Build

/-!
# What the build step refuses

In a parsed file every site has a line, so of all trees the build step refuses only those with an
annotated class that stands in no annotated function (`encloseSource_eq`). It does not look for classes
inside an annotated function: one that is annotated stays as it is there.
-/

namespace ErrorTrail

open Syntax SyntaxTree Occurrence

variable {file package : String}

/-- The first annotated class that stands in no annotated function. -/
def Syntax.SyntaxTree.exposedClass? {α : Type} (t : SyntaxTree α) : Option (SyntaxTree α) :=
  (t.occurrences.find? fun o => isAnnotatedClass o.tree && o.isExposed).map Occurrence.tree

theorem exposedClass?_eq_none {α : Type} {t : SyntaxTree α} :
    t.exposedClass? = none ↔ ¬ ∃ o ∈ t.occurrences, isAnnotatedClass o.tree ∧ o.isExposed := by
  simp [exposedClass?]

theorem mem_subtrees_of_exposedClass? {α : Type} {t c : SyntaxTree α} (h : t.exposedClass? = some c) :
    c ∈ t.subtrees ∧ isAnnotatedClass c := by
  obtain ⟨o, ho, rfl⟩ := Option.map_eq_some_iff.1 h
  have hclass := List.find?_some ho
  exact ⟨mem_subtrees_of_mem_occurrencesIn (List.mem_of_find?_eq_some ho), (Bool.and_eq_true_iff.1 hclass).1⟩

/-- Where sites have lines, only annotated classes are obstacles. -/
theorem firstObstacle?_of_isLocated {t : SyntaxTree Span} (h : t.isLocated) :
    firstObstacle? file t.occurrences = t.exposedClass?.map fun c => .refused (classRefusal file c) := by
  have hobstacle : ∀ o ∈ t.occurrences, obstacle? file o.tree =
      if isAnnotatedClass o.tree then some (.refused (classRefusal file o.tree)) else none := by
    intro o ho
    have hbody := bodyIsLocated_of_isLocated
      (isLocated_of_mem_subtrees h (mem_subtrees_of_mem_occurrencesIn ho))
    simp [obstacle?, hbody]
  rw [firstObstacle?, exposedClass?, Option.map_map]
  generalize t.occurrences = os at hobstacle
  induction os with
  | nil => rfl
  | cons o os ih =>
    rw [List.forall_mem_cons] at hobstacle
    have ih := ih hobstacle.2
    by_cases hexposed : o.isExposed
    · rw [List.filter_cons_of_pos hexposed, List.findSome?_cons, hobstacle.1]
      by_cases hclass : isAnnotatedClass o.tree
      · simp [hclass, hexposed]
      · simpa [hclass] using ih
    · simpa [hexposed] using ih

/-- The build step refuses a file with lines for its sites only because of an annotated class. -/
theorem encloseFile_of_isLocated {t : SyntaxTree Span} (h : t.isLocated) :
    encloseFile file package t =
      match t.exposedClass? with
      | some c => .error (.refused (classRefusal file c))
      | none => .ok (enclosed file package t, recordOf file (t.occurrences.filter isOutermost)) := by
  rw [encloseFile_eq_firstObstacle, firstObstacle?_of_isLocated h]
  cases t.exposedClass? <;> rfl

/-- Without annotated classes the build step succeeds on every file that is read. -/
theorem encloseFile_of_parseFile {source : String} {t : SyntaxTree Span} (h : parseFile source = .ok t)
    (hclass : t.annotatesNoClass) :
    encloseFile file package t =
      .ok (enclosed file package t, recordOf file (t.occurrences.filter isOutermost)) := by
  rw [encloseFile_eq hclass, if_pos (sitesLocated_of_isLocated (isLocated_parseFile h))]

section

variable {host : Host} {source shown : String} {settings : Settings} {tree : SyntaxTree Span}

/-- What the build step makes of a text that parses. -/
theorem encloseSource_eq (hname : file.contains (Char.ofNat 0) = false)
    (hnull : source.contains (Char.ofNat 0) = false)
    (hparse : parseFile source = .ok tree) (hsettings : Settings.load host.sources = .ok settings)
    (hshown : displayPath host.directory settings.pathStyle settings.pathRoot file = .ok shown) :
    encloseSource host source file =
      match tree.exposedClass? with
      | some c => .error (.refused (classRefusal shown c))
      | none => .ok ⟨enclosed shown (freshName tree aliasBase) tree, freshName tree aliasBase,
          recordOf shown (tree.occurrences.filter isOutermost)⟩ := by
  have hfile := @encloseFile_of_isLocated shown (freshName tree aliasBase) tree (isLocated_parseFile hparse)
  simp only [encloseSource, hname, hnull, hparse, hsettings, Except.mapError, bind, Except.bind,
    Bool.false_eq_true, if_false, hshown, hfile]
  cases tree.exposedClass? <;> rfl

/-- A text that the build step instruments is refused only because what it makes does not compile. -/
theorem code_of_transformSource {done : Enclosed} {r : Refusal} (hdone : encloseSource host source file = .ok done)
    (hr : transformSource host source file = .error (.refused r)) : r.code = .compileFailed := by
  simp only [transformSource, hdone, bind, Except.bind] at hr
  split at hr
  · cases hr
  · rcases hprint : (insertImport done.package done.tree).print with e | printed
    · simp [hprint, Except.mapError] at hr
    · simp only [hprint, Except.mapError] at hr
      split at hr
      · cases hr
        rfl
      · cases hr

/-- The build step refuses a file just if a class that stands in no annotated function is annotated: then
neither a text nor sites are returned, and the refusal names that class. -/
theorem refuses_exposed_class (hname : file.contains (Char.ofNat 0) = false)
    (hnull : source.contains (Char.ofNat 0) = false)
    (hparse : parseFile source = .ok tree) (hsettings : Settings.load host.sources = .ok settings)
    (hshown : displayPath host.directory settings.pathStyle settings.pathRoot file = .ok shown) :
    let exposed := ∃ o ∈ tree.occurrences, isAnnotatedClass o.tree ∧ o.isExposed
    (exposed → ∃ c ∈ tree.subtrees, isAnnotatedClass c ∧
      transformSource host source file = .error (.refused (classRefusal shown c)) ∧
      findSites host source file = .error (.refused (classRefusal shown c))) ∧
    (¬ exposed → (∃ sites, findSites host source file = .ok sites) ∧
      ∀ r, transformSource host source file = .error (.refused r) → r.code ≠ .notAFunction) := by
  intro exposed
  have henclose := encloseSource_eq hname hnull hparse hsettings hshown
  refine ⟨fun hexposed => ?_, fun hexposed => ?_⟩
  · rcases hclass : tree.exposedClass? with _ | c
    · exact absurd hexposed (exposedClass?_eq_none.1 hclass)
    · rw [hclass] at henclose
      obtain ⟨hmem, hann⟩ := mem_subtrees_of_exposedClass? hclass
      refine ⟨c, hmem, hann, ?_, ?_⟩
      · rw [transformSource, henclose]
        rfl
      · rw [findSites, henclose]
        rfl
  · rw [exposedClass?_eq_none.2 hexposed] at henclose
    refine ⟨⟨_, by rw [findSites, henclose]; rfl⟩, fun r hr => ?_⟩
    simp [code_of_transformSource henclose hr]

end

/-! ## Classes inside functions -/

/-- A class that is annotated inside a function. -/
def classInside : String := "def load(x):\n    @wherr\n    class Text:\n        pass\n    return x\n"

/-- A class that is annotated inside an annotated function. -/
def classInsideAnnotated : String :=
  "@wherr\ndef load(x):\n    @wherr\n    class Text:\n        pass\n    return x\n"

/-- A build in a directory, with the settings that are the default. -/
def directoryHost : Host := { directory := some ["w"] }

theorem load_directoryHost : Settings.load directoryHost.sources = .ok {} := rfl

theorem displayPath_directoryHost :
    displayPath directoryHost.directory ({} : Settings).pathStyle ({} : Settings).pathRoot "prog.py" =
      .ok "prog.py" := by
  have hfile : "prog.py".startsWith "<" = false := by simp
  have hpath : Path.ofText "prog.py" = ⟨"", ["prog.py"]⟩ := by
    rw [Path.ofText, pathNames, Text.splitOn_char '/']
    decide
  have hresolve : (⟨"", ["prog.py"]⟩ : Path).resolve (some ["w"]) = .ok ["w", "prog.py"] := by
    simp [Path.resolve, Path.isAbsolute, Path.follow, Path.enter]
  rw [displayPath, hfile, hpath, directoryHost, hresolve]
  rfl

/-- A file with a class that is annotated inside a function is refused. -/
theorem refuses_exposed_class_inside :
    ∃ tree, parseFile classInside = .ok tree ∧
      (∃ o ∈ tree.occurrences, isAnnotatedClass o.tree ∧ o.isExposed) ∧
      ∃ c ∈ tree.subtrees, isAnnotatedClass c ∧
        transformSource directoryHost classInside "prog.py" =
          .error (.refused (classRefusal "prog.py" c)) ∧
        findSites directoryHost classInside "prog.py" = .error (.refused (classRefusal "prog.py" c)) := by
  have hnull : classInside.contains (Char.ofNat 0) = false := by simp [classInside]
  have hread : (parseFile classInside).map (fun t => t.exposedClass?.isSome) = .ok true := by
    decide +kernel
  rcases hparse : parseFile classInside with e | tree
  · rw [hparse] at hread
    cases hread
  · rw [hparse] at hread
    have hsome : tree.exposedClass?.isSome := Except.ok.inj hread
    have hexposed : ∃ o ∈ tree.occurrences, isAnnotatedClass o.tree ∧ o.isExposed := by
      by_contra hnone
      simp [exposedClass?_eq_none.2 hnone] at hsome
    exact ⟨tree, rfl, hexposed,
      (refuses_exposed_class (by simp) hnull hparse load_directoryHost displayPath_directoryHost).1 hexposed⟩

/-- An annotated class inside an annotated function is not refused: the file is built, and the class
keeps its annotation. -/
theorem not_refuses_class_inside :
    ¬ ∀ (host : Host) (source file shown : String) (settings : Settings) (tree : SyntaxTree Span),
      file.contains (Char.ofNat 0) = false → source.contains (Char.ofNat 0) = false →
      parseFile source = .ok tree → Settings.load host.sources = .ok settings →
      displayPath host.directory settings.pathStyle settings.pathRoot file = .ok shown →
      (∃ c ∈ tree.subtrees, isAnnotatedClass c) →
      (∃ r, r.code = .notAFunction ∧ transformSource host source file = .error (.refused r)) ∧
        ∃ r, r.code = .notAFunction ∧ findSites host source file = .error (.refused r) := by
  intro h
  have hnull : classInsideAnnotated.contains (Char.ofNat 0) = false := by simp [classInsideAnnotated]
  have hread : (parseFile classInsideAnnotated).map
      (fun t => (t.exposedClass?.isNone, t.subtrees.any isAnnotatedClass)) = .ok (true, true) := by
    decide +kernel
  rcases hparse : parseFile classInsideAnnotated with e | tree
  · rw [hparse] at hread
    cases hread
  · rw [hparse] at hread
    obtain ⟨hnone, hann⟩ := Prod.mk.inj (Except.ok.inj hread)
    obtain ⟨-, r, -, hr⟩ := h directoryHost _ "prog.py" "prog.py" {} tree (by simp) hnull hparse
      load_directoryHost displayPath_directoryHost (List.any_eq_true.1 hann)
    have henclose := encloseSource_eq (by simp) hnull hparse load_directoryHost displayPath_directoryHost
    rw [Option.isNone_iff_eq_none.1 hnone] at henclose
    rw [findSites, henclose] at hr
    cases hr

end ErrorTrail
