import Mathlib.Data.String.Basic

/-!
# Splitting a text at a character

`String.splitOn` walks over byte positions. For a separator of one character it is the split of the
list of characters (`splitOn_char`), which computes.
-/

namespace ErrorTrail.Text

open String

/-- The walk over `r`, when `m` was read since the last separator and `l` before that. -/
theorem splitOnAux_char (c : Char) (l m r : List Char) (acc : List String) :
    splitOnAux (ofList (l ++ m ++ r)) (ofList [c]) ⟨utf8Len l⟩ ⟨utf8Len l + utf8Len m⟩ 0 acc =
      acc.reverse ++ (List.splitOnPPrepend (· == c) r m.reverse).map ofList := by
  have hsep : Pos.Raw.get (ofList [c]) 0 = c := get_of_valid [] [c]
  have hsep' : Pos.Raw.next (ofList [c]) 0 = ⟨c.utf8Size⟩ := by
    simpa using next_of_valid [] c []
  induction r generalizing l m acc with
  | nil =>
    unfold splitOnAux
    have hend : Pos.Raw.atEnd (ofList (l ++ m ++ [])) ⟨utf8Len l + utf8Len m⟩ := by
      simpa using (atEnd_of_valid (l ++ m) []).2 rfl
    rw [if_pos hend, extract_of_valid]
    simp
  | cons d r ih =>
    unfold splitOnAux
    have hend : ¬ Pos.Raw.atEnd (ofList (l ++ m ++ d :: r)) ⟨utf8Len l + utf8Len m⟩ := by
      simpa using (atEnd_of_valid (l ++ m) (d :: r))
    have hget : Pos.Raw.get (ofList (l ++ m ++ d :: r)) ⟨utf8Len l + utf8Len m⟩ = d := by
      simpa using get_of_valid (l ++ m) (d :: r)
    have hnext : Pos.Raw.next (ofList (l ++ m ++ d :: r)) ⟨utf8Len l + utf8Len m⟩ =
        ⟨utf8Len l + utf8Len m + d.utf8Size⟩ := by
      simpa using next_of_valid (l ++ m) d r
    rw [if_neg hend, hget, hsep, hsep', hnext]
    by_cases hd : d = c
    · subst hd
      have hsepEnd : Pos.Raw.atEnd (ofList [d]) ⟨d.utf8Size⟩ := by
        simpa using (atEnd_of_valid [d] []).2 rfl
      have hback : Pos.Raw.unoffsetBy ⟨utf8Len l + utf8Len m + d.utf8Size⟩ ⟨d.utf8Size⟩ =
          ⟨utf8Len l + utf8Len m⟩ := by
        simp [Pos.Raw.unoffsetBy]
      have hs : l ++ m ++ [d] ++ [] ++ r = l ++ m ++ d :: r := by simp
      have hlen : utf8Len (l ++ m ++ [d]) = utf8Len l + utf8Len m + d.utf8Size := by
        simp [Nat.add_assoc]
      have hih := ih (l ++ m ++ [d]) [] (ofList m :: acc)
      rw [hs, hlen, utf8Len_nil, Nat.add_zero] at hih
      simp only [beq_self_eq_true, ↓reduceIte, hsepEnd, hback, extract_of_valid, hih]
      rw [List.splitOnPPrepend_cons_pos (by simp), List.reverse_cons, List.append_assoc,
        List.map_cons, List.reverse_reverse]
      rfl
    · have hback : Pos.Raw.unoffsetBy ⟨utf8Len l + utf8Len m⟩ 0 = ⟨utf8Len l + utf8Len m⟩ := by
        simp [Pos.Raw.unoffsetBy]
      have hs : l ++ (m ++ [d]) ++ r = l ++ m ++ d :: r := by simp
      have hlen : utf8Len l + utf8Len (m ++ [d]) = utf8Len l + utf8Len m + d.utf8Size := by
        simp [Nat.add_assoc]
      have hih := ih l (m ++ [d]) acc
      rw [hs, hlen, List.reverse_append] at hih
      simp only [beq_iff_eq, hd, ↓reduceIte, hback, hnext, hih]
      rw [List.splitOnPPrepend_cons_neg (by simpa using hd)]
      rfl

/-- Splitting at one character splits the list of characters. -/
theorem splitOn_char (c : Char) (s : String) :
    s.splitOn (ofList [c]) = (s.toList.splitOnP (· == c)).map ofList := by
  have h := splitOnAux_char c [] [] s.toList []
  simp only [List.nil_append, ofList_toList, utf8Len_nil, List.reverse_nil] at h
  rw [String.splitOn, if_neg (by simp)]
  exact h

/-- A text without the separator is not split. -/
theorem splitOn_eq_singleton {c : Char} {s : String} (h : c ∉ s.toList) :
    s.splitOn (ofList [c]) = [s] := by
  have hone : s.toList.splitOnP (· == c) = [s.toList] :=
    List.splitOnP_eq_singleton fun d hd => by simpa using fun heq : d = c => h (heq ▸ hd)
  rw [splitOn_char, hone, List.map_singleton, ofList_toList]

/-- The first part of a text is what stands before the separator. -/
theorem splitOn_append {c : Char} {s : String} (h : c ∉ s.toList) (t : String) :
    (s ++ ofList [c] ++ t).splitOn (ofList [c]) = s :: t.splitOn (ofList [c]) := by
  have hone : s.toList.splitOnP (· == c) = [s.toList] :=
    List.splitOnP_eq_singleton fun d hd => by simpa using fun heq : d = c => h (heq ▸ hd)
  have hchars : (s ++ ofList [c] ++ t).toList = s.toList ++ c :: t.toList := by simp
  rw [splitOn_char, splitOn_char, hchars, List.splitOnP_append_cons _ _ (by simp), hone]
  simp

/-- The last part of a text is what stands behind the last separator. -/
theorem splitOn_append_last {c : Char} {t : String} (h : c ∉ t.toList) (s : String) :
    (s ++ ofList [c] ++ t).splitOn (ofList [c]) = s.splitOn (ofList [c]) ++ [t] := by
  have hone : t.toList.splitOnP (· == c) = [t.toList] :=
    List.splitOnP_eq_singleton fun d hd => by simpa using fun heq : d = c => h (heq ▸ hd)
  have hchars : (s ++ ofList [c] ++ t).toList = s.toList ++ c :: t.toList := by simp
  rw [splitOn_char, splitOn_char, hchars, List.splitOnP_append_cons _ _ (by simp), hone]
  simp

/-- The parts of a text hold characters of the text, but not the separator. -/
theorem mem_of_mem_splitOn {c d : Char} {s part : String} (h : part ∈ s.splitOn (ofList [c]))
    (hd : d ∈ part.toList) : d ∈ s.toList ∧ d ≠ c := by
  suffices hparts : ∀ l : List Char, ∀ cs ∈ l.splitOnP (· == c), ∀ d ∈ cs, d ∈ l ∧ d ≠ c by
    rw [splitOn_char] at h
    obtain ⟨cs, hcs, rfl⟩ := List.mem_map.1 h
    rw [toList_ofList] at hd
    exact hparts _ cs hcs d hd
  intro l
  induction l with
  | nil => simp
  | cons e l ih =>
    intro cs hcs d hd
    rw [List.splitOnP_cons_eq_if_modifyHead] at hcs
    split at hcs
    · obtain rfl | hcs := List.mem_cons.1 hcs
      · cases hd
      · exact ⟨List.mem_cons_of_mem e (ih cs hcs d hd).1, (ih cs hcs d hd).2⟩
    · next he =>
      obtain ⟨first, rest, hl⟩ := List.exists_cons_of_ne_nil (List.splitOnP_ne_nil (· == c) l)
      rw [hl, List.forall_mem_cons] at ih
      rw [hl, List.modifyHead_cons] at hcs
      obtain rfl | hcs := List.mem_cons.1 hcs
      · obtain rfl | hd := List.mem_cons.1 hd
        · exact ⟨List.mem_cons_self, fun heq => he (by simp [heq])⟩
        · exact ⟨List.mem_cons_of_mem e (ih.1 d hd).1, (ih.1 d hd).2⟩
      · exact ⟨List.mem_cons_of_mem e (ih.2 cs hcs d hd).1, (ih.2 cs hcs d hd).2⟩

/-- Parts that do not hold the separator are read back from the text in which it stands between them. -/
theorem splitOn_intercalate {c : Char} {parts : List String} (h : ∀ part ∈ parts, c ∉ part.toList)
    (hne : parts ≠ []) : ((ofList [c]).intercalate parts).splitOn (ofList [c]) = parts := by
  have hchars : ((ofList [c]).intercalate parts).toList.splitOn c = parts.map toList := by
    rw [toList_intercalate, toList_ofList]
    exact List.splitOn_intercalate c (by simpa using h) (by simpa using hne)
  rw [splitOn_char, ← List.splitOn_eq_splitOnP, hchars, List.map_map]
  simp

theorem splitOn_ne_nil (c : Char) (s : String) : s.splitOn (ofList [c]) ≠ [] := by
  rw [splitOn_char]
  simp [List.splitOnP_ne_nil]

example : "Result.propagate".splitOn "." = ["Result", "propagate"] := by
  rw [splitOn_char '.']
  decide

end ErrorTrail.Text
