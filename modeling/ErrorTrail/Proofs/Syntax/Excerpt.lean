import Mathlib.Data.List.Infix
import ErrorTrail.Proofs.Syntax.Token.Places
import ErrorTrail.Syntax.Excerpt

/-!
# Where an excerpt stands

The block that is cut out of a file is made of whole lines of it, and as many lines as are told stand before
it (`standsBehind_of_excerpt`).
-/

namespace ErrorTrail.Syntax

open Token

/-! ## Texts in normal form -/

/-- A text whose last line ends with a line break, and none with a carriage return. -/
structure IsNormal (cs : List Char) : Prop where
  last : ∀ c ∈ cs.getLast?, c = '\n'
  return_not_mem : '\r' ∉ cs

namespace IsNormal

variable {cs : List Char}

theorem exists_body (h : IsNormal cs) (hne : cs ≠ []) : ∃ body, cs = body ++ ['\n'] ∧ '\r' ∉ body := by
  refine ⟨cs.dropLast, ?_, fun hmem => h.return_not_mem (List.mem_of_mem_dropLast hmem)⟩
  rw [← h.last _ (List.getLast?_eq_some_getLast hne), List.dropLast_append_getLast]

theorem normalLines_eq (h : IsNormal cs) : normalLines cs = cs := by
  by_cases hne : cs = []
  · rw [hne]
    rfl
  · obtain ⟨body, rfl, hreturn⟩ := h.exists_body hne
    exact Token.normalLines_eq hreturn

theorem lineBreak (h : IsNormal cs) : IsNormal ('\n' :: cs) where
  last c hc := by
    rw [List.getLast?_cons] at hc
    rcases hlast : cs.getLast? with _ | d
    · simpa [hlast, eq_comm] using hc
    · exact h.last c (by simpa [hlast] using hc)
  return_not_mem := by simpa using h.return_not_mem

theorem cons {c : Char} (h : IsNormal cs) (hne : cs ≠ []) (hc : c ≠ '\r') : IsNormal (c :: cs) where
  last := by simpa [List.getLast?_cons_of_ne_nil hne] using h.last
  return_not_mem := by simpa [hc.symm] using h.return_not_mem

theorem append {ds : List Char} (h : IsNormal cs) (hds : IsNormal ds) : IsNormal (cs ++ ds) where
  last c hc := by
    rw [List.getLast?_append] at hc
    rcases hlast : ds.getLast? with _ | d
    · exact h.last c (by simpa [hlast] using hc)
    · exact hds.last c (by simpa [hlast] using hc)
  return_not_mem := by simp [h.return_not_mem, hds.return_not_mem]

theorem flatten {ls : List (List Char)} (h : ∀ l ∈ ls, IsNormal l) : IsNormal ls.flatten := by
  induction ls with
  | nil => exact ⟨by simp, by simp⟩
  | cons l ls ih => exact (h l List.mem_cons_self).append (ih fun l' hl' => h l' (List.mem_cons_of_mem _ hl'))

end IsNormal

/-- A text that is not empty has a line. -/
theorem normalLines_ne_nil {cs : List Char} (h : cs ≠ []) : normalLines cs ≠ [] := by
  unfold normalLines
  split <;> simp_all

theorem isNormal_normalLines (cs : List Char) : IsNormal (normalLines cs) := by
  fun_induction normalLines cs with
  | case1 => exact ⟨by simp, by simp⟩
  | case2 cs ih | case3 cs _ ih => exact ih.lineBreak
  | case4 => exact ⟨by simp, by simp⟩
  | case5 c hreturn hbreak => exact IsNormal.cons ⟨by simp, by simp⟩ (by simp) hreturn
  | case6 c cs _ hreturn _ hne ih => exact ih.cons (normalLines_ne_nil hne) hreturn

namespace Excerpt

/-! ## Lines -/

theorem flatten_linesOf (cs : List Char) : (linesOf cs).flatten = cs := by
  induction cs with
  | nil => rfl
  | cons c cs ih =>
    rw [linesOf]
    split
    · rw [List.flatten_cons, ih]
      rfl
    · split
      · next hnil =>
        rw [hnil] at ih
        rw [← ih]
        rfl
      · next l ls hcons =>
        rw [hcons] at ih
        rw [← ih]
        rfl

/-- Each line of a text in normal form has one line break, at its end. -/
theorem exists_of_mem_linesOf {cs l : List Char} (h : ∀ c ∈ cs.getLast?, c = '\n') (hl : l ∈ linesOf cs) :
    ∃ body, l = body ++ ['\n'] ∧ '\n' ∉ body := by
  induction cs generalizing l with
  | nil => cases hl
  | cons c cs ih =>
    have hcs : ∀ d ∈ cs.getLast?, d = '\n' := fun d hd => h d (by rw [List.getLast?_cons]; simp_all)
    rw [linesOf] at hl
    split at hl
    · next hc =>
      obtain rfl | hl := List.mem_cons.1 hl
      · exact ⟨[], by simp [hc], by simp⟩
      · exact ih hcs hl
    · next hc =>
      split at hl
      · next hnil =>
        have hempty : cs = [] := by rw [← flatten_linesOf cs, hnil, List.flatten_nil]
        subst hempty
        exact absurd (h c rfl) hc
      · next l' ls hcons =>
        obtain rfl | hl := List.mem_cons.1 hl
        · obtain ⟨body, rfl, hbody⟩ := ih hcs (l := l') (by simp [hcons])
          exact ⟨c :: body, rfl, by simp [Ne.symm hc, hbody]⟩
        · exact ih hcs (by simp [hcons, hl])

theorem countLines_flatten {ls : List (List Char)} (h : ∀ l ∈ ls, countLines l = 1) :
    countLines ls.flatten = ls.length := by
  induction ls with
  | nil => rfl
  | cons l ls ih =>
    rw [List.flatten_cons, countLines_append, h l List.mem_cons_self,
      ih fun l' hl' => h l' (List.mem_cons_of_mem _ hl'), List.length_cons, Nat.add_comm]

/-- A definition begins on a line of the text. -/
theorem definitionStart_le {lines : List (List Char)} {i before : Nat}
    (h : definitionStart lines i = some before) : before ≤ lines.length := by
  induction i with
  | zero =>
    cases h
    exact Nat.zero_le _
  | succ i ih =>
    unfold definitionStart at h
    split at h
    · cases h
    · next line hline =>
      split at h
      · cases h
        exact (List.getElem?_eq_some_iff.1 hline).1.le
      · exact ih h

end Excerpt

open Excerpt

/-- A block of whole lines stands in a text behind a number of others. -/
structure StandsBehind (before : Nat) (block text : List Char) : Prop where
  isNormal : IsNormal block
  exists_eq : ∃ above below, text = above ++ block ++ below ∧ IsNormal above ∧ countLines above = before

/-- The block of a definition stands in its file behind as many lines as are told. -/
theorem standsBehind_of_excerpt {text block : String} {line before : Nat}
    (h : excerpt text line = .ok (block, before)) :
    StandsBehind before block.toList (normalLines text.toList) := by
  unfold excerpt at h
  dsimp only at h
  split at h
  · cases h
  · next start hstart =>
    split at h
    · cases h
    · next count hcount =>
      cases h
      set cs := normalLines text.toList
      have hnormal : IsNormal cs := isNormal_normalLines _
      have hline : ∀ l ∈ linesOf cs, countLines l = 1 ∧ IsNormal l := fun l hl => by
        obtain ⟨body, rfl, hbody⟩ := exists_of_mem_linesOf hnormal.last hl
        refine ⟨by rw [countLines_append, countLines_eq_zero hbody]; rfl, by simp, fun hmem => ?_⟩
        exact hnormal.return_not_mem (flatten_linesOf cs ▸ List.mem_flatten_of_mem hl hmem)
      refine ⟨?_, ((linesOf cs).take before).flatten, (((linesOf cs).drop before).drop count).flatten, ?_, ?_, ?_⟩
      · rw [String.toList_ofList]
        exact .flatten fun l hl => (hline l (List.mem_of_mem_drop (List.mem_of_mem_take hl))).2
      · rw [String.toList_ofList, List.append_assoc, ← List.flatten_append, List.take_append_drop,
          ← List.flatten_append, List.take_append_drop, flatten_linesOf]
      · exact .flatten fun l hl => (hline l (List.mem_of_mem_take hl)).2
      · rw [countLines_flatten fun l hl => (hline l (List.mem_of_mem_take hl)).1, List.length_take,
          Nat.min_eq_left (definitionStart_le hstart)]

end ErrorTrail.Syntax
