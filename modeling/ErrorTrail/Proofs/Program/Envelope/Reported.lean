import ErrorTrail.Proofs.Path.Display
import ErrorTrail.Proofs.Program.Chain
import ErrorTrail.Proofs.Program.Envelope.Views
import ErrorTrail.Proofs.Report.Reading
import ErrorTrail.Proofs.Settings.Moved
import ErrorTrail.Proofs.Site.Located

/-!
# Reports of instrumented files

A failure that is reported the sites of a file, one after the other, ends as an envelope of its error
with these sites (`exec_reportTrail`), and the report of the envelope holds them unchecked
(`makesReports`). Written as data the report is read back if the file has a name at its sites
(`readReport_reported`). There is one way in which it has none: the settings ask for the last name of
a path that has no names, like that of the root or of the working directory
(`not_readReport_reported`).
-/

namespace ErrorTrail

open Act Syntax

variable {world : World} {n : Nat} {s : Store} {b e : Value} {trail : List Location}

/-! ## Trails -/

/-- Calls the site function with sites in turn: on a value, and then on what the call before gave. -/
def Machine.reportTrail (m : Machine) (v : Value) (trail : List Location) : Act Value :=
  trail.foldlM m.reportSite v

/-- A failure of an error is handed on with the sites that it is reported. -/
theorem exec_reportTrail (hb : s.failure? b = some e) (he : s.IsError e) (trail : List Location) :
    ∃ r s', exec ((Machine.ofDepth world (n + 4)).reportTrail b trail) s = (.ok r, s') ∧
      Provenance s b e trail r s' := by
  suffices hfold : ∀ told r₁ s₁, Provenance s b e told r₁ s₁ →
      ∃ r s', exec ((Machine.ofDepth world (n + 4)).reportTrail r₁ trail) s₁ = (.ok r, s') ∧
        Provenance s b e (told ++ trail) r s' from hfold [] b s (.untouched fun _ _ ho => ho)
  induction trail with
  | nil => exact fun told r₁ s₁ h => ⟨r₁, s₁, rfl, by rwa [List.append_nil]⟩
  | cons site trail ih =>
    intro told r₁ s₁ h
    obtain ⟨r₂, s₂, hsite, h₂⟩ := h.report hb he site
    obtain ⟨r, s', hrest, h'⟩ := ih (told ++ [site]) r₂ s₂ h₂
    refine ⟨r, s', ?_, by rwa [List.append_assoc] at h'⟩
    rw [Machine.reportTrail, List.foldlM_cons, exec_bind_ok hsite]
    exact hrest

/-- Sites that are reported to the failure of an error without locations make an envelope of it. -/
theorem Provenance.exists_envelope {sites : List Location} {r : Value} {s' : Store}
    (h : Provenance s b e sites r s') (hplain : s.trailRef? e = none) (hne : sites ≠ []) :
    ∃ k q t cause, r = .ref k ∧ s'.failure? (.ref k) = some (.ref q) ∧
      s'.objects[q]? = some (.envelopeOf (.kind .envelope) cause e t) ∧
      s'.objects[t]? = some (.list (sites.map .location)) := by
  cases h with
  | untouched => exact absurd rfl hne
  | extended _ ht => exact absurd (hplain.symm.trans ht) nofun
  | @wrapped _ k q t cause _ _ _ _ _ hresult henvelope htrail =>
    exact ⟨k, q, t, cause, rfl, Store.failure?_eq_some.2 ⟨k, rfl, hresult⟩, henvelope, htrail⟩

/-- No trail of a store is another one in `s'`. -/
def Store.KeepsTrails (s s' : Store) : Prop :=
  ∀ ⦃v : Value⦄ ⦃t : Ref⦄ ⦃o : Obj⦄, s.trailRef? v = some t → s.objects[t]? = some o →
    s'.objects[t]? = some o

/-- The failure `b` of the error `e` that is reported a trail ends as an envelope, and makes reports:
if the error has a text, and the locations are left while it is made, the envelope has a report. `Q`
holds of the text and the report. -/
def MakesReports (world : World) (n : Nat) (s : Store) (b e : Value) (trail : List Location)
    (Q : String → Report → Prop) : Prop :=
  ∃ k q s', exec ((Machine.ofDepth world (n + 4)).reportTrail b trail) s = (.ok (.ref k), s') ∧
    s'.failure? (.ref k) = some (.ref q) ∧
    ∀ d head s'', exec (Envelope.head (.ofDepth world d) e) s' = (.ok head, s'') →
      s'.KeepsTrails s'' →
      ∃ p, exec ((Machine.ofDepth world (d + 2)).callMember (.ref q) "report" []) s' =
          (.ok (.ref s''.objects.size), s''.extend [.report p]) ∧ Q head p

namespace MakesReports

variable {Q Q' : String → Report → Prop}

theorem mono (h : MakesReports world n s b e trail Q) (himp : ∀ head p, Q head p → Q' head p) :
    MakesReports world n s b e trail Q' := by
  obtain ⟨k, q, s', hexec, hfailure, hreport⟩ := h
  refine ⟨k, q, s', hexec, hfailure, fun d head s'' hhead hkeeps => ?_⟩
  obtain ⟨p, hcall, hp⟩ := hreport d head s'' hhead hkeeps
  exact ⟨p, hcall, himp head p hp⟩

/-- There is one report only. -/
theorem and (h : MakesReports world n s b e trail Q) (h' : MakesReports world n s b e trail Q') :
    MakesReports world n s b e trail fun head p => Q head p ∧ Q' head p := by
  obtain ⟨k, q, s', hexec, hfailure, hreport⟩ := h
  obtain ⟨k', q', s₁, hexec', hfailure', hreport'⟩ := h'
  obtain ⟨hk, rfl⟩ := Prod.mk.inj (hexec.symm.trans hexec')
  obtain rfl : k = k' := Value.ref.inj (Except.ok.inj hk)
  obtain rfl : q = q' := Value.ref.inj (Option.some.inj (hfailure.symm.trans hfailure'))
  refine ⟨k, q, s', hexec, hfailure, fun d head s'' hhead hkeeps => ?_⟩
  obtain ⟨p, hcall, hp⟩ := hreport d head s'' hhead hkeeps
  obtain ⟨p', hcall', hp'⟩ := hreport' d head s'' hhead hkeeps
  have hstores := (Prod.mk.inj (hcall.symm.trans hcall')).2
  have hreports := congrArg (fun s₂ : Store => s₂.objects[s''.objects.size]?) hstores
  simp only [Store.extend_getElem?_size] at hreports
  obtain rfl := Obj.report.inj (Option.some.inj hreports)
  exact ⟨p, hcall, hp, hp'⟩

/-- The failure of a text makes a report. -/
theorem exists_of_str {words : String} (h : MakesReports world n s b (.str words) trail Q) :
    ∃ p, Q words p := by
  obtain ⟨k, q, s', -, -, hreport⟩ := h
  obtain ⟨p, -, hp⟩ := hreport 1 words s' (Machine.exec_text_str words) fun _ _ _ _ ho => ho
  exact ⟨p, hp⟩

end MakesReports

variable (world n) in
/-- The reports of the failure of an error that keeps no locations have its text, and the sites that
it was reported in their order. -/
theorem makesReports (hb : s.failure? b = some e) (he : s.IsError e)
    (hplain : s.trailRef? e = none) (hne : trail ≠ []) :
    MakesReports world n s b e trail fun head p => p.message = head ∧ p.locations = trail := by
  obtain ⟨r, s', hexec, h⟩ := exec_reportTrail hb he trail
  obtain ⟨k, q, t, cause, rfl, hfailure, ho, htrail⟩ := h.exists_envelope hplain hne
  refine ⟨k, q, s', hexec, hfailure, fun d head s'' hhead hkeeps => ?_⟩
  obtain ⟨kind, hcall⟩ := exec_callMember_report ho .own hhead
    (hkeeps (trailRef?_envelopeOf ho) htrail)
  exact ⟨⟨head, kind, trail⟩, hcall, rfl, rfl⟩

/-! ## Sites of a file -/

/-- Whether a file has no name at its sites: only its last name is asked for, and it has none. -/
def Settings.hidesName (settings : Settings) (file : String) : Prop :=
  settings.pathStyle = .name ∧ file.startsWith "<" = false ∧ pathNames file = []

variable {host : Host} {directory : Resolved} {source file : String}
  {sites : List (String × Location)}

/-- The sites that are reported of a file are sound locations, unless the file has no name at them. -/
theorem sound_findSites (hdirectory : host.directory = some directory) (hlexical : IsLexical directory)
    (hfile : file ≠ "") (hfound : findSites host source file = .ok sites) :
    ∃ settings, Settings.load host.sources = .ok settings ∧
      ∀ site ∈ sites, 0 ≤ site.2.line ∧ (site.2.file = "" ↔ settings.hidesName file) := by
  obtain ⟨settings, shown, hsettings, hshown, hsites⟩ := mem_findSites hfound
  rw [hdirectory] at hshown
  refine ⟨settings, hsettings, fun site hsite => ?_⟩
  obtain ⟨hform, hline⟩ := hsites site hsite
  exact ⟨hline, by rw [hform, displayPath_eq_empty_iff hlexical hfile hshown, Settings.hidesName]⟩

variable (world n) in
/-- The failure of an error that is reported sites of a file gets an envelope. Its report is read back
from the data that it is written as, unless the file has no name at its sites: that is the only thing
that can be wrong with the sites. -/
theorem readReport_reported (hdirectory : host.directory = some directory)
    (hlexical : IsLexical directory) (hfile : file ≠ "")
    (hfound : findSites host source file = .ok sites) (hb : s.failure? b = some e)
    (he : s.IsError e) (hplain : s.trailRef? e = none) (hne : trail ≠ [])
    (htrail : ∀ l ∈ trail, l ∈ sites.map Prod.snd) :
    ∃ settings, Settings.load host.sources = .ok settings ∧
      (∀ l ∈ trail, 0 ≤ l.line ∧ (l.file = "" ↔ settings.hidesName file)) ∧
      MakesReports world n s b e trail fun head p => p.message = head ∧ p.locations = trail ∧
        (readReport p.dump = .ok p ↔ ¬ settings.hidesName file) := by
  obtain ⟨settings, hsettings, hsound⟩ := sound_findSites hdirectory hlexical hfile hfound
  have hmember : ∀ l ∈ trail, 0 ≤ l.line ∧ (l.file = "" ↔ settings.hidesName file) := by
    intro l hl
    obtain ⟨site, hsite, rfl⟩ := List.mem_map.1 (htrail l hl)
    exact hsound site hsite
  refine ⟨settings, hsettings, hmember, (makesReports world n hb he hplain hne).mono ?_⟩
  rintro head p ⟨hmessage, rfl⟩
  refine ⟨hmessage, rfl, ?_⟩
  rw [readReport_dump_eq_ok_iff]
  constructor
  · intro hall hhides
    obtain ⟨l, hl⟩ := List.exists_mem_of_ne_nil p.locations hne
    exact (hall l hl).1 ((hmember l hl).2.2 hhides)
  · exact fun hshows l hl => ⟨mt (hmember l hl).2.1 hshows, (hmember l hl).1⟩

/-- A file with one site. -/
def propagating : String := "@wherr\ndef load(x):\n    return parse(x).propagate()\n"

theorem findSites_propagating {settings : Settings} {shown : String}
    (hname : file.contains (Char.ofNat 0) = false)
    (hsettings : Settings.load host.sources = .ok settings)
    (hshown : displayPath host.directory settings.pathStyle settings.pathRoot file = .ok shown) :
    findSites host propagating file = .ok [("load", ⟨shown, 3⟩)] := by
  have hnull : propagating.contains (Char.ofNat 0) = false := by simp [propagating]
  have hread : (parseFile propagating).map (fun t => (t.exposedClass?.isNone,
      (recordOf "" (t.occurrences.filter Occurrence.isOutermost)).sites)) =
        .ok (true, [("load", ⟨"", 3⟩)]) := by
    decide +kernel
  rcases hparse : parseFile propagating with e | tree
  · rw [hparse] at hread
    cases hread
  · rw [hparse] at hread
    obtain ⟨hclass, hsites⟩ := Prod.mk.inj (Except.ok.inj hread)
    rw [findSites_eq_ok hname hnull hparse hsettings hshown (Option.isNone_iff_eq_none.1 hclass),
      sites_recordOf, hsites]
    rfl

theorem isLexical_directoryHost : IsLexical ["w"] := by
  rintro n hn
  obtain rfl := List.mem_singleton.1 hn
  exact ⟨⟨by decide, by decide, by decide⟩, by decide, by decide⟩

/-- The failure of a text that is reported the site of a file twice. -/
theorem readReport_reported_twice :
    let s : Store := { objects := #[.result false (.str "boom")] }
    let trail : List Location := [⟨"prog.py", 3⟩, ⟨"prog.py", 3⟩]
    findSites directoryHost propagating "prog.py" = .ok [("load", ⟨"prog.py", 3⟩)] ∧
      MakesReports {} 0 s (.ref 0) (.str "boom") trail fun head p =>
        p.message = head ∧ p.locations = trail ∧ readReport p.dump = .ok p := by
  intro s trail
  have hfound : findSites directoryHost propagating "prog.py" = .ok [("load", ⟨"prog.py", 3⟩)] :=
    findSites_propagating (by simp) load_directoryHost displayPath_directoryHost
  have hfailure : s.failure? (.ref 0) = some (.str "boom") := rfl
  have hne : trail ≠ [] := List.cons_ne_nil _ _
  obtain ⟨settings, hsettings, -, hreports⟩ :=
    readReport_reported {} 0 rfl isLexical_directoryHost (by decide) hfound hfailure
      (Store.isError_datum rfl) rfl hne (by decide)
  obtain rfl : settings = {} := Except.ok.inj (hsettings.symm.trans load_directoryHost)
  refine ⟨hfound, hreports.mono ?_⟩
  rintro head p ⟨hmessage, hlocations, hread⟩
  exact ⟨hmessage, hlocations, hread.2 fun hhides => nomatch hhides.1⟩

/-- Not every report of an instrumented file is read back: the last name of the working directory is
asked for, and no file has an empty name. -/
theorem not_readReport_reported :
    ¬ ∀ (host : Host) (directory : Resolved) (source file : String)
      (sites : List (String × Location)) (world : World) (n : Nat) (s : Store) (b e : Value)
      (trail : List Location), host.directory = some directory → IsLexical directory → file ≠ "" →
      findSites host source file = .ok sites → s.failure? b = some e → s.IsError e →
      s.trailRef? e = none → trail ≠ [] → (∀ l ∈ trail, l ∈ sites.map Prod.snd) →
      MakesReports world n s b e trail fun _ p => readReport p.dump = .ok p := by
  intro hall
  let host : Host :=
    { directory := some ["w"], sources := { env := [("WHERR_PATH_STYLE", "name")] } }
  let s : Store := { objects := #[.result false (.str "boom")] }
  have hshown : displayPath host.directory .name none "." = .ok "" := by
    have hpseudo : ".".startsWith "<" = false := by simp
    have hnames : pathNames "." = [] := by
      rw [pathNames, Text.splitOn_char '/']
      decide
    rw [displayPath, hpseudo]
    exact congrArg Except.ok (pathName_eq_empty_iff.2 hnames)
  have hfound : findSites host propagating "." = .ok [("load", ⟨"", 3⟩)] :=
    findSites_propagating (by simp) (Settings.load_style .name) hshown
  have hfailure : s.failure? (.ref 0) = some (.str "boom") := rfl
  have hboom : s.IsError (.str "boom") := Store.isError_datum rfl
  have hne : [(⟨"", 3⟩ : Location)] ≠ [] := List.cons_ne_nil _ _
  have hreads := hall host ["w"] propagating "." _ {} 0 s (.ref 0) (.str "boom") [⟨"", 3⟩] rfl
    isLexical_directoryHost (by decide) hfound hfailure hboom rfl hne (by decide)
  obtain ⟨p, hread, -, hlocations⟩ :=
    (hreads.and (makesReports {} 0 hfailure hboom rfl hne)).exists_of_str
  have hlocation : (⟨"", 3⟩ : Location) ∈ p.locations := by simp [hlocations]
  exact (readReport_dump_eq_ok_iff.1 hread _ hlocation).1 rfl

end ErrorTrail
