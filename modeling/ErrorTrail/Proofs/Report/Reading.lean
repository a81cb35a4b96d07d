import ErrorTrail.Report
import Mathlib.Tactic.Set

/-!
# Reading reports back

A report that is written as data is read back as the same report, or is refused for its locations
alone: each that names no file or has a negative line is complained of in its place
(`readReport_dump`). The depth and the origin, which are written as well, are left aside.
-/

namespace ErrorTrail

namespace Checked

variable {α β : Type}

/-- What reading a value gives that some things are wrong with, or none. -/
def settled (issues : List Issue) (x : α) : Checked α :=
  if issues.isEmpty then .ok x else .error issues

@[simp] theorem settled_nil (x : α) : settled [] x = .ok x := rfl

theorem settled_eq_ok_iff {issues : List Issue} {x : α} :
    settled issues x = .ok x ↔ issues = [] := by
  cases issues <;> simp [settled]

theorem at_settled (p : Place) (issues : List Issue) (x : α) :
    at_ p (settled issues x) = settled (Issue.under p issues) x := by
  cases issues <;> rfl

theorem map_settled (f : α → β) (issues : List Issue) (x : α) :
    (settled issues x).map f = settled issues (f x) := by
  cases issues <;> rfl

/-- All that is wrong with two values is told. -/
theorem both_settled (issues issues' : List Issue) (x : α) (y : β) :
    both (settled issues x) (settled issues' y) = settled (issues ++ issues') (x, y) := by
  cases issues <;> cases issues' <;> simp [settled, both]

end Checked

open Checked

/-! ## Locations -/

/-- A field that is given is read, and what is wrong with it is told under its name. -/
theorem required_eq_settled {α : Type} {entries : List (Datum × Datum)} {name : String} {d : Datum}
    {read : Datum → Checked α} {issues : List Issue} {x : α}
    (hd : Datum.field? entries name = some d) (hread : read d = settled issues x) :
    required entries name read = settled (Issue.under (.field name) issues) x := by
  rw [required, hd, ← at_settled, ← hread]

theorem readFile_text (file : String) :
    readFile (.text file) = settled (if file.isEmpty then [⟨[], .tooShort⟩] else []) file := by
  by_cases h : file.isEmpty <;> simp [readFile, readText, refuse, settled, bind, Except.bind, h]

theorem readLine_int (line : Int) :
    readLine (.int line) = settled (if line < 0 then [⟨[], .negative⟩] else []) line := by
  by_cases h : line < 0 <;> simp [readLine, readInt, refuse, settled, bind, Except.bind, h]

/-- What is wrong with a location. -/
def Location.issues (l : Location) : List Issue :=
  Issue.under (.field "file") (if l.file.isEmpty then [⟨[], .tooShort⟩] else []) ++
    Issue.under (.field "line") (if l.line < 0 then [⟨[], .negative⟩] else [])

theorem Location.issues_eq_nil {l : Location} : l.issues = [] ↔ l.file ≠ "" ∧ 0 ≤ l.line := by
  simp [Location.issues, Issue.under]

/-- Reading a location that was written complains of what is wrong with it. -/
theorem readLocation_dump (l : Location) : readLocation l.dump = settled l.issues l := by
  set entries : List (Datum × Datum) :=
    [(.text "file", .text l.file), (.text "line", .int l.line)] with hentries
  have hfile : Datum.field? entries "file" = some (.text l.file) := by
    simp [hentries, Datum.field?]
  have hline : Datum.field? entries "line" = some (.int l.line) := by
    simp [hentries, Datum.field?]
  have hextra : extraIssues ["file", "line"] entries = [] := rfl
  rw [Location.dump, readLocation, ← hentries, required_eq_settled hfile (readFile_text l.file),
    required_eq_settled hline (readLine_int l.line), both_settled, hextra, ← Location.issues]
  cases l.issues <;> simp [settled]

/-- What is wrong with the locations of a trail that are numbered from `i` on. -/
def trailIssues (i : Nat) : List Location → List Issue
  | [] => []
  | l :: trail => Issue.under (.index i) l.issues ++ trailIssues (i + 1) trail

theorem trailIssues_eq_nil {i : Nat} {trail : List Location} :
    trailIssues i trail = [] ↔ ∀ l ∈ trail, l.file ≠ "" ∧ 0 ≤ l.line := by
  induction trail generalizing i with
  | nil => simp [trailIssues]
  | cons l trail ih =>
    rw [trailIssues, List.append_eq_nil_iff, List.forall_mem_cons, ih, ← Location.issues_eq_nil]
    simp [Issue.under]

theorem all_readLocationsFrom (i : Nat) (trail : List Location) :
    all (readLocationsFrom i (trail.map Location.dump)) = settled (trailIssues i trail) trail := by
  induction trail generalizing i with
  | nil => rfl
  | cons l trail ih =>
    rw [List.map_cons, readLocationsFrom, all, ih, readLocation_dump, at_settled, both_settled,
      map_settled, trailIssues]

/-! ## Reports -/

/-- Reading a report that was written complains of what is wrong with its locations, and of nothing
else. -/
theorem readReport_dump (p : Report) :
    readReport p.dump = settled (Issue.under (.field "locations") (trailIssues 0 p.locations)) p := by
  set entries : List (Datum × Datum) := [(.text "message", .text p.message),
    (.text "error_type", .text p.errorType),
    (.text "locations", .list (p.locations.map Location.dump)), (.text "depth", .int p.depth),
    (.text "origin", p.origin.elim .none .text)] with hentries
  have hmessage : Datum.field? entries "message" = some (.text p.message) := by
    simp [hentries, Datum.field?]
  have htype : Datum.field? entries "error_type" = some (.text p.errorType) := by
    simp [hentries, Datum.field?]
  have hlocations : Datum.field? entries "locations" =
      some (.list (p.locations.map Location.dump)) := by
    simp [hentries, Datum.field?]
  have htext (t : String) : readText (.text t) = settled [] t := rfl
  rw [Report.dump, readReport, ← hentries, required_eq_settled hmessage (htext p.message),
    required_eq_settled htype (htext p.errorType), hlocations]
  simp only [readLocations, all_readLocationsFrom, at_settled, both_settled, map_settled]
  rfl

/-- A report is read back just if its locations are sound. -/
theorem readReport_dump_eq_ok_iff {p : Report} :
    readReport p.dump = .ok p ↔ ∀ l ∈ p.locations, l.file ≠ "" ∧ 0 ≤ l.line := by
  rw [readReport_dump, settled_eq_ok_iff, ← trailIssues_eq_nil (i := 0)]
  simp [Issue.under]

end ErrorTrail
