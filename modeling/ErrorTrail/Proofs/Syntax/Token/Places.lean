import ErrorTrail.Proofs.Syntax.ClassHeader
import ErrorTrail.Proofs.Syntax.Token.Taken

/-!
# Where tokens stand

Each step of the lexer takes a piece off the text and counts the line breaks in it (`Steps`). So a name
stands in the text on the line that its token tells, and the body of a literal begins on the line that the
literal tells (`standsIn_scanFrom`).
-/

namespace ErrorTrail.Syntax

/-- A name, or a literal between its quotes, stands in a text that begins on line `start`, on the line that its
token tells. -/
def Token.StandsIn (start : Nat) (text : List Char) (t : Token) : Prop :=
  match t.kind with
  | .name w => ∃ before after, text = before ++ w.toList ++ after ∧ t.first = start + countLines before ∧
      t.last = t.first ∧ w.toList ≠ [] ∧ ∀ c ∈ w.toList, isNamePart c
  | .literal l => ∃ before q after, text = before ++ (q :: l.body ++ [q]) ++ after ∧
      l.line = start + countLines before ∧ isQuote q
  | _ => True

namespace Token

theorem countLines_append (cs ds : List Char) : countLines (cs ++ ds) = countLines cs + countLines ds :=
  List.count_append

theorem countLines_eq_zero {cs : List Char} (h : '\n' ∉ cs) : countLines cs = 0 := List.count_eq_zero_of_not_mem h

/-- What stands in a part of a text stands in the text. -/
theorem StandsIn.behind {start : Nat} {before text : List Char} {t : Token}
    (h : t.StandsIn (start + countLines before) text) : t.StandsIn start (before ++ text) := by
  unfold StandsIn at h ⊢
  split at h
  · obtain ⟨before', after, rfl, hfirst, hlast⟩ := h
    exact ⟨before ++ before', after, by simp, by rw [hfirst, countLines_append, Nat.add_assoc], hlast⟩
  · obtain ⟨before', q, after, rfl, hline, hq⟩ := h
    exact ⟨before ++ before', q, after, by simp, by rw [hline, countLines_append, Nat.add_assoc], hq⟩
  · trivial

/-- A bound on the number of steps that are left. -/
def stepsLeft (st : State) (cs : List Char) : Nat := 2 * cs.length + st.fresh.toNat

/-- What a step of the lexer does that does not end it. -/
structure Steps (st : State) (cs : List Char) (ts : List Token) (st' : State) (rest : List Char) : Prop where
  leadsTo : rest ≠ [] → LeadsTo st.line cs st'.line rest
  stepsLeft : stepsLeft st' rest < stepsLeft st cs
  standsIn : ∀ t ∈ ts, t.StandsIn st.line cs

variable {st st' : State} {cs rest : List Char} {ts : List Token}

theorem LeadsTo.add {line line' : Nat} (h : LeadsTo line cs line' rest) (n : Nat) :
    LeadsTo (n + line) cs (n + line') rest :=
  ⟨h.suffix, by have := h.lines; omega⟩

/-- Only changes of indentation are read before the first character of a line. -/
theorem eq_of_mem_indentation {col alt : Nat} {indents indents' : List (Nat × Nat)} {kinds : List Kind} {k : Kind}
    (h : indentation col alt indents = .ok (kinds, indents')) (hk : k ∈ kinds) : k = .indent ∨ k = .dedent := by
  unfold indentation at h
  dsimp only at h
  split at h
  · split at h <;> cases h
    cases hk
  · split at h
    · split at h
      · cases h
      · split at h <;> cases h
        exact .inl (List.mem_singleton.1 hk)
    · split at h
      · cases h
      · split at h <;> cases h
        exact .inr (List.eq_of_mem_replicate hk)

theorem steps_lineStep (hfresh : st.fresh) (h : lineStep st cs = .more ts st' rest) : Steps st cs ts st' rest := by
  unfold lineStep at h
  extract_lets bad at h
  split at h
  · cases h
  · next col alt lines rest' hblank =>
    have hleads := (leadsTo_blankColumns hblank).add st.line
    have hlength := hleads.suffix.length_le
    dsimp -zeta only at hleads hlength h
    extract_lets line at h
    split at h
    · next comment =>
      cases h
      -- the comment ends at a line break, or with the text
      have hcomment := SameLine.dropWhile (p := fun c => decide (c ≠ '\n')) (by decide) ('#' :: comment)
      have hnot := List.head?_dropWhile_not (fun c => decide (c ≠ '\n')) ('#' :: comment)
      have hlength' := hcomment.length_le
      rcases hbreak : List.dropWhile (fun c => decide (c ≠ '\n')) ('#' :: comment) with _ | ⟨c, after⟩
      · refine ⟨fun hne => absurd rfl hne, ?_, by simp⟩
        simp only [List.length_cons] at hlength
        simp only [Token.stepsLeft, hfresh, List.drop_nil, List.length_nil]
        omega
      · rw [hbreak] at hcomment hnot hlength'
        obtain rfl : c = '\n' := by simpa using hnot
        refine ⟨fun _ => hleads.trans (.trans (.of_sameLine hcomment _) (.lineBreak _ _)), ?_, by simp⟩
        simp only [List.length_cons] at hlength hlength'
        simp only [Token.stepsLeft, hfresh, List.drop_succ_cons, List.drop_zero]
        omega
    · next after =>
      cases h
      refine ⟨fun _ => hleads.trans (.lineBreak _ _), ?_, by simp⟩
      simp only [List.length_cons] at hlength
      simp only [Token.stepsLeft, hfresh]
      omega
    · split at h
      · cases h
        refine ⟨fun _ => hleads, ?_, by simp⟩
        simp only [Token.stepsLeft, hfresh, Bool.toNat_true, Bool.toNat_false]
        omega
      · split at h
        · cases h
        · next kinds indents hkinds =>
          cases h
          refine ⟨fun _ => hleads, ?_, ?_⟩
          · simp only [Token.stepsLeft, hfresh, Bool.toNat_true, Bool.toNat_false]
            omega
          · intro t ht
            obtain ⟨k, hk, rfl⟩ := List.mem_map.1 ht
            obtain rfl | rfl := eq_of_mem_indentation hkinds hk <;> trivial

/-- A literal is taken off with its body. -/
theorem steps_literal (hfresh : st.fresh = false) {marks body quotesOn : List Char}
    (hmarks : literalMarks cs = some (marks, quotesOn)) (hbody : literal quotesOn = some (body, rest)) :
    Steps st cs [⟨.literal ⟨marks, body, st.line⟩, st.line, st.line + countLines body⟩]
      { st with line := st.line + countLines body } rest := by
  obtain ⟨rfl, hbefore, q, after, rfl, hq⟩ := literalMarks_eq hmarks
  obtain ⟨opening, close, hafter, hbreak, hbreak'⟩ := literal_eq hq hbody
  have hquote : '\n' ∉ [q] := by simpa using (ne_of_isQuote hq rfl).symm
  rw [hafter]
  refine ⟨fun _ => ⟨⟨marks ++ opening ++ (q :: body ++ [q]) ++ close, by simp⟩, ?_⟩, ?_, ?_⟩
  · rw [List.cons_append, ← List.singleton_append]
    simp only [countLines_append, countLines_eq_zero hbefore, countLines_eq_zero hbreak,
      countLines_eq_zero hbreak', countLines_eq_zero hquote]
    omega
  · simp only [Token.stepsLeft, hfresh, List.length_append, List.length_cons]
    omega
  · rintro t ht
    obtain rfl := List.mem_singleton.1 ht
    refine ⟨marks ++ opening, q, close ++ rest, by simp, ?_, hq⟩
    rw [countLines_append, countLines_eq_zero hbefore, countLines_eq_zero hbreak]
    rfl

/-- A name is taken off up to the first character that is no part of it. -/
theorem standsIn_word {c : Char} (hc : isNameStart c) (line : Nat) (cs : List Char) :
    StandsIn line (c :: cs)
      ⟨.name (String.ofList ((c :: cs).takeWhile isNamePart)), line, line⟩ := by
  refine ⟨[], (c :: cs).dropWhile isNamePart, ?_, rfl, rfl, ?_, ?_⟩
  · rw [String.toList_ofList, List.nil_append, List.takeWhile_append_dropWhile]
  · rw [String.toList_ofList, List.takeWhile_cons, if_pos (isNamePart_of_isNameStart hc)]
    simp
  · intro d hd
    rw [String.toList_ofList] at hd
    exact List.mem_takeWhile_imp hd

theorem takes_word {c : Char} (hc : isNameStart c) (cs : List Char) :
    Takes (c :: cs) ((c :: cs).dropWhile isNamePart) := by
  have hpart := isNamePart_of_isNameStart hc
  rw [List.dropWhile_cons, if_pos hpart]
  exact .cons (ne_of_isNamePart hpart rfl) (.dropWhile rfl cs)

/-- A step that takes something off within the line. -/
theorem Steps.of_takes (h : Takes cs rest) (hfresh : st.fresh = false) (hline : st'.line = st.line)
    (hfresh' : st'.fresh = false) (hts : ∀ t ∈ ts, t.StandsIn st.line cs) : Steps st cs ts st' rest := by
  refine ⟨fun _ => hline ▸ .of_sameLine h.sameLine _, ?_, hts⟩
  have := h.shorter
  simp only [Token.stepsLeft, hfresh, hfresh', Bool.toNat_false]
  omega

/-- A step that takes a line break off. -/
theorem Steps.of_lineBreak (hfresh : st.fresh = false) (hline : st'.line = st.line + 1)
    (hts : ∀ t ∈ ts, t.StandsIn st.line ('\n' :: cs)) : Steps st ('\n' :: cs) ts st' cs := by
  refine ⟨fun _ => hline ▸ .lineBreak _ _, ?_, hts⟩
  have := Bool.toNat_le st'.fresh
  simp only [Token.stepsLeft, hfresh, List.length_cons, Bool.toNat_false]
  omega

theorem steps_tokenStep (hfresh : st.fresh = false) (h : tokenStep st cs = .more ts st' rest) :
    Steps st cs ts st' rest := by
  unfold tokenStep at h
  dsimp only at h
  split at h
  · split at h <;> cases h
  next c after =>
  split at h
  · next hblank =>
    cases h
    exact .of_takes (.cons (by rintro rfl; simp at hblank) (.refl _)) hfresh rfl hfresh (by simp)
  split at h
  · next hcomment =>
    cases h
    exact .of_takes (.cons (by rintro rfl; simp at hcomment) (.dropWhile (by decide) _)) hfresh rfl hfresh (by simp)
  split at h
  · next hbreak =>
    subst hbreak
    split at h
    · cases h
      exact .of_lineBreak hfresh rfl (by simp [StandsIn])
    · cases h
      exact .of_lineBreak hfresh rfl (by simp)
  split at h
  · next hbackslash =>
    subst hbackslash
    split at h
    · cases h
      refine ⟨fun _ => .trans (.of_sameLine (.cons (by decide) (.refl _)) _) (.lineBreak _ _), ?_, by simp⟩
      simp only [Token.stepsLeft, hfresh, List.length_cons, Bool.toNat_false]
      omega
    · cases h
  split at h
  · next marks quotesOn hmarks =>
    split at h
    · cases h
    · next body rest' hliteral =>
      cases h
      exact steps_literal hfresh hmarks hliteral
  split at h
  · next hstart =>
    split at h
    · cases h
      exact .of_takes (takes_word hstart after) hfresh rfl hfresh (by simpa using standsIn_word hstart st.line after)
    · cases h
  split at h
  · split at h
    · next text rest' hnumber =>
      cases h
      exact .of_takes (takes_number hnumber) hfresh rfl hfresh (by simp [StandsIn])
    · cases h
  split at h
  · cases h
  next op rest' hop =>
  have htakes := takes_operator? hop
  split at h
  · split at h
    · cases h
    · cases h
      exact .of_takes htakes hfresh rfl hfresh (by simp [StandsIn])
  split at h
  · split at h
    · split at h
      · cases h
        exact .of_takes htakes hfresh rfl hfresh (by simp [StandsIn])
      · cases h
    · cases h
  · cases h
    exact .of_takes htakes hfresh rfl hfresh (by simp [StandsIn])

theorem steps_of_more (h : (if st.fresh then lineStep st cs else tokenStep st cs) = .more ts st' rest) :
    Steps st cs ts st' rest := by
  split at h
  · next hfresh => exact steps_lineStep hfresh h
  · next hfresh => exact steps_tokenStep (by simpa using hfresh) h

/-- The step that ends the reading finds neither names nor literals. -/
theorem standsIn_of_done (h : (if st.fresh then lineStep st cs else tokenStep st cs) = .done ts) :
    ∀ t ∈ ts, t.StandsIn st.line cs := by
  split at h
  · unfold lineStep at h
    dsimp only at h
    repeat' split at h
    all_goals cases h <;> simp [StandsIn]
  · unfold tokenStep at h
    dsimp only at h
    repeat' split at h
    all_goals cases h <;> simp [StandsIn]

/-! ## Runs -/

/-- What stands in what is left stands in the text. -/
theorem StandsIn.of_leadsTo {line line' : Nat} {t : Token} (ht : t.StandsIn line' rest)
    (h : rest ≠ [] → LeadsTo line cs line' rest) : t.StandsIn line cs := by
  by_cases hrest : rest = []
  · subst hrest
    unfold StandsIn at ht ⊢
    split at ht
    · obtain ⟨before, after, hnil, -, -, hw, -⟩ := ht
      simp [hw] at hnil
    · obtain ⟨before, q, after, hnil, -⟩ := ht
      simp at hnil
    · trivial
  · obtain ⟨⟨piece, rfl⟩, hlines⟩ := h hrest
    refine StandsIn.behind ?_
    rw [countLines_append] at hlines
    obtain rfl : line' = line + countLines piece := by omega
    exact ht

/-- Names and literals stand in the text on the lines that their tokens tell. -/
theorem standsIn_scanFrom (fuel : Nat) (st : State) (cs : List Char) :
    ∀ t ∈ scanFrom fuel st cs, t.StandsIn st.line cs := by
  induction fuel generalizing st cs with
  | zero => simp [scanFrom, StandsIn]
  | succ fuel ih =>
    intro t ht
    rw [scanFrom_succ] at ht
    split at ht
    · next hdone => exact standsIn_of_done hdone t ht
    · next ts st' rest hmore =>
      have hsteps := steps_of_more hmore
      obtain ht | ht := List.mem_append.1 ht
      · exact hsteps.standsIn t ht
      · exact (ih st' rest t ht).of_leadsTo hsteps.leadsTo

/-- Fuel that suffices does not matter. -/
theorem scanFrom_eq_of_lt {n m : Nat} {st : State} {cs : List Char} (hn : stepsLeft st cs < n)
    (hm : stepsLeft st cs < m) : scanFrom n st cs = scanFrom m st cs := by
  induction n generalizing m st cs with
  | zero => cases hn
  | succ n ih =>
    obtain ⟨m, rfl⟩ := Nat.exists_eq_succ_of_ne_zero (Nat.ne_zero_of_lt hm)
    rw [scanFrom_succ, scanFrom_succ]
    split
    · rfl
    · next ts st' rest hmore =>
      have hsteps := (steps_of_more hmore).stepsLeft
      rw [ih (m := m) (by omega) (by omega)]

end Token

end ErrorTrail.Syntax
