import ErrorTrail.Proofs.Site.Failing
import ErrorTrail.Proofs.Syntax.Plain

/-!
# The locations that are reported of a file

All sites that are reported of a file name the file in the one form that the settings ask for, and
have lines that are not negative (`mem_findSites`).
-/

namespace ErrorTrail

open Syntax SyntaxTree Occurrence

/-! ## Lines -/

namespace Syntax

/-- The lines of a span, as far as they are known, are not negative. -/
def Span.IsSound (s : Span) : Prop := (∀ n ∈ s.line, 0 ≤ n) ∧ ∀ n ∈ s.stop, 0 ≤ n

theorem Span.isSound_ofExtent (e : Extent) : (Span.ofExtent e).IsSound := by
  cases e <;> simp [Span.ofExtent, Span.IsSound]

theorem nonneg_siteLine? {word call : Span} (hword : word.IsSound) (hcall : call.IsSound) :
    ∀ n ∈ siteLine? word call, 0 ≤ n := by
  unfold siteLine?
  split
  · next n hstop =>
    split
    · exact hcall.1
    · rintro _ ⟨⟩
      exact hword.2 n hstop
  · exact hcall.1

/-- The lines of a parsed file are not negative. -/
theorem isSound_parseFile {source : String} {t : SyntaxTree Span} (h : parseFile source = .ok t) :
    ∀ s ∈ t.subtrees, s.ann.IsSound := by
  obtain ⟨t', -, rfl⟩ := exists_of_parseFile h
  intro s hs
  rw [subtrees_map] at hs
  obtain ⟨u, -, rfl⟩ := List.mem_map.1 hs
  exact ann_map Span.ofExtent u ▸ Span.isSound_ofExtent u.ann

end Syntax

/-- The line of a propagation expression is not negative if no line in it is. -/
theorem nonneg_line_siteOf {file : String} {p : SyntaxTree Span}
    (h : ∀ s ∈ p.subtrees, s.ann.IsSound) : 0 ≤ (siteOf file p).line := by
  have hline : ∀ n ∈ p.propagationLine?, 0 ≤ n := by
    intro n hn
    obtain ⟨⟨word, r⟩, hsite, hn⟩ := Option.bind_eq_some_iff.1 hn
    obtain ⟨call, ctx, args, named, rfl⟩ := eq_site_of_propagation? hsite
    have hcall := h _ (self_mem_subtrees _)
    have hword := h (node (.attribute propagateWord ctx) word [r])
      (mem_subtrees_of_mem List.mem_cons_self (self_mem_subtrees _))
    exact nonneg_siteLine? hword hcall n hn
  rw [siteOf]
  rcases hp : p.propagationLine? with _ | n
  · exact le_rfl
  · exact hline n hp

/-- The propagation expressions in the body of an annotated function are parts of it. -/
theorem mem_subtrees_of_mem_block {t c p : SyntaxTree Span} (ht : isAnnotatedFunction t)
    (hc : c ∈ t.block) (hp : p ∈ c.propagations) : p ∈ t.subtrees := by
  obtain ⟨asynchronous, name, a, args, body, s, decorators, returns, rfl, -⟩ :=
    eq_of_isAnnotatedFunction ht
  exact mem_subtrees_of_mem (List.mem_cons_of_mem _ List.mem_cons_self)
    (mem_subtrees_of_mem_items hc (mem_propagations.1 hp).1)

/-! ## Sites -/

/-- The form in which a file is named is the only thing in its sites that depends on it. -/
theorem sites_recordOf (shown : String) (os : List (Occurrence Span)) :
    (recordOf shown os).sites = (recordOf "" os).sites.map fun s => (s.1, ⟨shown, s.2.line⟩) := by
  simp [recordOf, bodySites, siteOf, List.map_flatMap, Function.comp_def]

variable {host : Host} {source file : String} {sites : List (String × Location)}

/-- What is reported of a file that can be instrumented: the sites of its outermost annotated
functions, under the form in which the settings name the file. -/
theorem findSites_eq_ok {tree : SyntaxTree Span} {settings : Settings} {shown : String}
    (hname : file.contains (Char.ofNat 0) = false) (hnull : source.contains (Char.ofNat 0) = false)
    (hparse : parseFile source = .ok tree) (hsettings : Settings.load host.sources = .ok settings)
    (hshown : displayPath host.directory settings.pathStyle settings.pathRoot file = .ok shown)
    (hclass : tree.exposedClass? = none) :
    findSites host source file =
      .ok (recordOf shown (tree.occurrences.filter isOutermost)).sites := by
  rw [findSites, encloseSource_eq hname hnull hparse hsettings hshown, hclass]
  rfl

/-- Sites are reported of a file that can be instrumented only. -/
theorem exists_of_findSites (h : findSites host source file = .ok sites) :
    ∃ tree settings shown, parseFile source = .ok tree ∧
      Settings.load host.sources = .ok settings ∧
      displayPath host.directory settings.pathStyle settings.pathRoot file = .ok shown ∧
      sites = (recordOf shown (tree.occurrences.filter isOutermost)).sites := by
  have hfails : ∀ e, ¬ EnclosingFails host source file e := by
    intro e hfails
    rw [findSites_eq_error_iff.2 hfails] at h
    cases h
  have hname : file.contains (Char.ofNat 0) = false := by
    by_contra hname
    exact hfails _ (.nullInName (by simpa using hname))
  have hnull : source.contains (Char.ofNat 0) = false := by
    by_contra hnull
    exact hfails _ (.nullCharacter hname (by simpa using hnull))
  rcases hparse : parseFile source with m | tree
  · exact absurd (.malformed hname hnull hparse) (hfails _)
  rcases hsettings : Settings.load host.sources with es | settings
  · exact absurd (.settings hname hnull hparse hsettings) (hfails _)
  rcases hshown : displayPath host.directory settings.pathStyle settings.pathRoot file with ep | shown
  · exact absurd (.path hname hnull hparse hsettings hshown) (hfails _)
  rcases hclass : tree.exposedClass? with _ | c
  · rw [findSites_eq_ok hname hnull hparse hsettings hshown hclass] at h
    exact ⟨tree, settings, shown, rfl, rfl, hshown, (Except.ok.inj h).symm⟩
  · exact absurd (.annotatedClass hname hnull hparse hsettings hshown hclass) (hfails _)

/-- All sites that are reported of a file name it in one form and have lines that are not
negative. -/
theorem mem_findSites (h : findSites host source file = .ok sites) :
    ∃ settings shown, Settings.load host.sources = .ok settings ∧
      displayPath host.directory settings.pathStyle settings.pathRoot file = .ok shown ∧
      ∀ s ∈ sites, s.2.file = shown ∧ 0 ≤ s.2.line := by
  obtain ⟨tree, settings, shown, hparse, hsettings, hshown, rfl⟩ := exists_of_findSites h
  refine ⟨settings, shown, hsettings, hshown, fun s hs => ?_⟩
  obtain ⟨o, ho, hs⟩ := List.mem_flatMap.1 hs
  obtain ⟨l, hl, rfl⟩ := List.mem_map.1 hs
  obtain ⟨p, hp, rfl⟩ := List.mem_map.1 hl
  obtain ⟨c, hc, hp⟩ := List.mem_flatMap.1 hp
  obtain ⟨ho, houtermost⟩ := List.mem_filter.1 ho
  have hann : isAnnotatedFunction o.tree := (Bool.and_eq_true_iff.1 houtermost).1
  have htree := mem_subtrees_trans (mem_subtrees_of_mem_block hann hc hp)
    (mem_subtrees_of_mem_occurrencesIn ho)
  exact ⟨rfl, nonneg_line_siteOf fun s hs =>
    isSound_parseFile hparse s (mem_subtrees_trans hs htree)⟩

end ErrorTrail
