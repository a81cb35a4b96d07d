import Mathlib.Data.List.Infix
import ErrorTrail.Path
import ErrorTrail.Proofs.Text.Splitting

/-!
# Where paths lead

The names of a path that is read off a text are not empty, not `.` and hold no slash
(`isPathName_of_mem_pathNames`). Such names with slashes between them are read back (`ofText_text`).

An absolute path holds entries only: names other than `..` without a null character. Names lead from entries
to entries (`IsLexical.follow`), and entries lead where they are written (`follow_eq_append`). So what a
path resolves to is an absolute path again (`IsLexical.resolve`).
-/

namespace ErrorTrail

/-! ## Names -/

/-- The character that no path of the system holds. -/
abbrev nullChar : Char := Char.ofNat 0

/-- A name that may stand between the slashes of a path. -/
structure IsPathName (n : String) : Prop where
  ne_empty : n ≠ ""
  ne_dot : n ≠ "."
  slash_not_mem : '/' ∉ n.toList

/-- A name that a directory may hold. -/
structure IsEntry (n : String) : Prop extends IsPathName n where
  ne_dots : n ≠ ".."
  null_not_mem : nullChar ∉ n.toList

theorem mem_pathNames {s n : String} : n ∈ pathNames s ↔ n ∈ s.splitOn "/" ∧ n ≠ "" ∧ n ≠ "." := by
  simp [pathNames, List.mem_filter]

theorem isPathName_of_mem_pathNames {s n : String} (h : n ∈ pathNames s) : IsPathName n := by
  obtain ⟨hpart, hempty, hdot⟩ := mem_pathNames.1 h
  exact ⟨hempty, hdot, fun hslash => (Text.mem_of_mem_splitOn hpart hslash).2 rfl⟩

/-- The names of a path hold characters of its text. -/
theorem mem_toList_of_mem_pathNames {s n : String} (h : n ∈ pathNames s) {c : Char} (hc : c ∈ n.toList) :
    c ∈ s.toList :=
  (Text.mem_of_mem_splitOn (c := '/') (mem_pathNames.1 h).1 hc).1

/-- Names with slashes between them are read back. -/
theorem pathNames_intercalate {names : List String} (h : ∀ n ∈ names, IsPathName n) :
    pathNames ("/".intercalate names) = names := by
  by_cases hne : names = []
  · subst hne
    rw [String.intercalate_nil, pathNames, Text.splitOn_char '/']
    decide
  · have hsplit : ("/".intercalate names).splitOn "/" = names :=
      Text.splitOn_intercalate (fun n hn => (h n hn).slash_not_mem) hne
    rw [pathNames, hsplit, List.filter_eq_self]
    intro n hn
    simp [(h n hn).ne_empty, (h n hn).ne_dot]

/-! ## Absolute paths -/

/-- The names of an absolute path are entries. -/
def IsLexical (r : Resolved) : Prop := ∀ n ∈ r, IsEntry n

namespace IsLexical

variable {r s : Resolved}

theorem nil : IsLexical [] := fun _ hn => absurd hn List.not_mem_nil

theorem of_subset (hs : IsLexical s) (h : r ⊆ s) : IsLexical r := fun n hn => hs n (h hn)

theorem enter (hr : IsLexical r) {n : String} (hname : IsPathName n) (hnull : nullChar ∉ n.toList) :
    IsLexical (Path.enter r n) := by
  unfold Path.enter
  split
  · exact hr.of_subset (List.dropLast_subset r)
  · next hdots =>
    intro m hm
    obtain hm | hm := List.mem_append.1 hm
    · exact hr m hm
    · obtain rfl := List.mem_singleton.1 hm
      exact ⟨hname, hdots, hnull⟩

/-- Names lead from an absolute path to an absolute path. -/
theorem follow (hr : IsLexical r) {names : List String}
    (hnames : ∀ n ∈ names, IsPathName n ∧ nullChar ∉ n.toList) : IsLexical (Path.follow r names) := by
  induction names generalizing r with
  | nil => exact hr
  | cons n names ih =>
    rw [List.forall_mem_cons] at hnames
    exact ih (hr.enter hnames.1.1 hnames.1.2) hnames.2

end IsLexical

namespace Path

/-- Entries lead where they are written. -/
theorem follow_eq_append (r : Resolved) {names : List String} (h : ".." ∉ names) :
    follow r names = r ++ names := by
  induction names generalizing r with
  | nil => rw [List.append_nil]; rfl
  | cons n names ih =>
    obtain ⟨hn, hnames⟩ := not_or.1 (mt List.mem_cons.2 h)
    have henter : enter r n = r ++ [n] := if_neg fun heq => hn heq.symm
    calc follow r (n :: names) = follow (enter r n) names := rfl
      _ = r ++ [n] ++ names := by rw [henter, ih _ hnames]
      _ = r ++ n :: names := by rw [List.append_assoc, List.singleton_append]

/-! ## Reading and writing -/

/-- A text that does not begin with a slash has no root. -/
theorem pathRoot_eq_empty {s : String} (h : s.toList.head? ≠ some '/') : pathRoot s = "" := by
  unfold pathRoot
  split
  · next hs => simp [hs] at h
  · next hs => simp [hs] at h
  · next hs => simp [hs] at h
  · rfl

theorem head?_intercalate {names : List String} (h : ∀ n ∈ names, IsPathName n) :
    ("/".intercalate names).toList.head? ≠ some '/' := by
  cases names with
  | nil => simp
  | cons n names =>
    have hn := h n List.mem_cons_self
    obtain ⟨c, cs, hcs⟩ : ∃ c cs, n.toList = c :: cs :=
      List.exists_cons_of_ne_nil fun hnil => hn.ne_empty (String.toList_eq_nil_iff.1 hnil)
    have hhead : ("/".intercalate (n :: names)).toList.head? = some c := by
      cases names <;> simp [String.toList_intercalate, hcs]
    rw [hhead]
    rintro ⟨⟩
    exact hn.slash_not_mem (by simp [hcs])

/-- The text of a relative path. -/
theorem text_relative (names : List String) :
    text ⟨"", names⟩ = if names = [] then "." else "/".intercalate names := by
  cases names <;> simp [text]

/-- A relative path is read back from its text. -/
theorem ofText_text {names : List String} (h : ∀ n ∈ names, IsPathName n) :
    ofText (text ⟨"", names⟩) = ⟨"", names⟩ := by
  rw [text_relative]
  split
  · next hnil =>
    subst hnil
    rw [ofText, pathNames, Text.splitOn_char '/']
    decide
  · rw [ofText, pathRoot_eq_empty (head?_intercalate h), pathNames_intercalate h]

/-- A name alone is a relative path. -/
theorem ofText_name {n : String} (h : IsPathName n) : ofText n = ⟨"", [n]⟩ := by
  have hread : ofText (text ⟨"", [n]⟩) = ⟨"", [n]⟩ := ofText_text (by simpa using h)
  rwa [text_relative, if_neg (List.cons_ne_nil n []), String.intercalate_singleton] at hread

theorem text_ofText_name {n : String} (h : IsPathName n) : (ofText n).text = n := by
  rw [ofText_name h, text_relative, if_neg (List.cons_ne_nil n []), String.intercalate_singleton]

/-! ## Resolving -/

/-- The directory from which the names of a path lead. -/
def start (directory : Resolved) (p : Path) : Resolved := if p.isAbsolute then [] else directory

theorem contains_null {n : String} : n.contains (Char.ofNat 0) = true ↔ nullChar ∈ n.toList := by
  rw [String.contains_char_eq, decide_eq_true_iff]

/-- In a directory a path leads somewhere, unless it holds a null character. -/
theorem resolve_eq_ok_iff {directory r : Resolved} {p : Path} :
    p.resolve (some directory) = .ok r ↔
      (∀ n ∈ p.parts, nullChar ∉ n.toList) ∧ r = follow (p.start directory) p.parts := by
  by_cases hnull : p.parts.any fun n => n.contains (Char.ofNat 0)
  · have hsome : ¬ ∀ n ∈ p.parts, nullChar ∉ n.toList := by
      obtain ⟨n, hn, hmem⟩ := List.any_eq_true.1 hnull
      exact fun hall => hall n hn (contains_null.1 hmem)
    rw [resolve, if_pos hnull]
    simp [hsome]
  · have hall : ∀ n ∈ p.parts, nullChar ∉ n.toList := fun n hn hmem =>
      hnull (List.any_eq_true.2 ⟨n, hn, contains_null.2 hmem⟩)
    rw [resolve, if_neg hnull, start, and_iff_right hall]
    split <;> simp [eq_comm]

/-- In a directory every path has a beginning. -/
theorem resolve_ne_noDirectory (directory : Resolved) (p : Path) :
    p.resolve (some directory) ≠ .error .noDirectory := by
  unfold resolve
  split
  · simp
  · split <;> simp

/-- An entry leads to the place of that name in the directory. -/
theorem resolve_name (directory : Resolved) {n : String} (h : IsEntry n) :
    (ofText n).resolve (some directory) = .ok (directory ++ [n]) := by
  rw [ofText_name h.toIsPathName, resolve_eq_ok_iff]
  refine ⟨fun m hm => ?_, ?_⟩
  · obtain rfl := List.mem_singleton.1 hm
    exact h.null_not_mem
  · exact (follow_eq_append directory (by simpa using h.ne_dots.symm)).symm

/-- A path without null characters resolves in every directory. -/
theorem resolve_ofText (directory : Resolved) {s : String} (h : s.contains (Char.ofNat 0) = false) :
    (ofText s).resolve (some directory) =
      .ok (follow ((ofText s).start directory) (ofText s).parts) := by
  refine resolve_eq_ok_iff.2 ⟨fun n hn hmem => ?_, rfl⟩
  have hs : nullChar ∈ s.toList := mem_toList_of_mem_pathNames hn hmem
  rw [contains_null.2 hs] at h
  cases h

end Path

/-- What a path resolves to is an absolute path. -/
theorem IsLexical.resolve {directory r : Resolved} (hdirectory : IsLexical directory) {s : String}
    (h : (Path.ofText s).resolve (some directory) = .ok r) : IsLexical r := by
  obtain ⟨hnull, rfl⟩ := Path.resolve_eq_ok_iff.1 h
  refine IsLexical.follow ?_ fun n hn => ⟨isPathName_of_mem_pathNames hn, hnull n hn⟩
  unfold Path.start
  split
  · exact IsLexical.nil
  · exact hdirectory

/-- Below a directory an absolute path goes on from it. -/
theorem below?_eq_some_iff {base r : Resolved} {names : List String} :
    below? base r = some names ↔ r = base ++ names := by
  unfold below?
  split
  · next h =>
    obtain ⟨t, rfl⟩ := List.isPrefixOf_iff_prefix.1 h
    simp [eq_comm]
  · next h =>
    simp only [reduceCtorEq, false_iff]
    rintro rfl
    exact h (List.isPrefixOf_iff_prefix.2 (List.prefix_append base names))

theorem below?_eq_none_iff {base r : Resolved} : below? base r = none ↔ ¬ base <+: r := by
  rw [Option.eq_none_iff_forall_ne_some]
  simp [below?_eq_some_iff, List.IsPrefix, eq_comm]

end ErrorTrail
