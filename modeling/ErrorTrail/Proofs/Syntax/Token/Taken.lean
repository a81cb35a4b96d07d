import ErrorTrail.Syntax.Token.Lexer
import Mathlib.Data.List.TakeWhile

/-!
# What a token takes off the text

A number, an operator and the marks of a literal are taken off the text within their line (`Takes`); a
literal is taken off with the line breaks of its body, and blanks at the beginning of a line with the line
breaks that backslashes join.
-/

namespace ErrorTrail.Syntax.Token

/-! ## On the same line -/

/-- A text goes on with `rest` on the same line. -/
def SameLine (cs rest : List Char) : Prop := ∃ piece, cs = piece ++ rest ∧ '\n' ∉ piece

namespace SameLine

variable {cs ds rest : List Char} {c : Char}

theorem refl (cs : List Char) : SameLine cs cs := ⟨[], rfl, by simp⟩

theorem trans (h : SameLine cs ds) (h' : SameLine ds rest) : SameLine cs rest := by
  obtain ⟨piece, rfl, hp⟩ := h
  obtain ⟨piece', rfl, hp'⟩ := h'
  exact ⟨piece ++ piece', by simp, by simp [hp, hp']⟩

theorem cons (hc : c ≠ '\n') (h : SameLine cs rest) : SameLine (c :: cs) rest := by
  obtain ⟨piece, rfl, hp⟩ := h
  exact ⟨c :: piece, rfl, by simp [hp, hc.symm]⟩

theorem length_le (h : SameLine cs rest) : rest.length ≤ cs.length := by
  obtain ⟨piece, rfl, -⟩ := h
  simp

theorem suffix (h : SameLine cs rest) : rest <:+ cs := by
  obtain ⟨piece, rfl, -⟩ := h
  exact List.suffix_append _ _

theorem countLines_eq (h : SameLine cs rest) : countLines rest = countLines cs := by
  obtain ⟨piece, rfl, hp⟩ := h
  simp [countLines, List.count_eq_zero_of_not_mem hp]

theorem dropWhile {p : Char → Bool} (hp : p '\n' = false) (cs : List Char) :
    SameLine cs (cs.dropWhile p) := by
  refine ⟨cs.takeWhile p, List.takeWhile_append_dropWhile.symm, fun h => ?_⟩
  have hbreak := List.mem_takeWhile_imp h
  rw [hp] at hbreak
  cases hbreak

end SameLine

/-- A text goes on with `rest` on the same line after at least one character. -/
structure Takes (cs rest : List Char) : Prop where
  sameLine : SameLine cs rest
  shorter : rest.length < cs.length

namespace Takes

variable {cs ds rest : List Char} {c : Char}

theorem cons (hc : c ≠ '\n') (h : SameLine cs rest) : Takes (c :: cs) rest :=
  ⟨h.cons hc, Nat.lt_succ_of_le h.length_le⟩

theorem trans (h : Takes cs ds) (h' : SameLine ds rest) : Takes cs rest :=
  ⟨h.sameLine.trans h', h'.length_le.trans_lt h.shorter⟩

end Takes

/-! ## Numbers -/

variable {cs text rest : List Char}

/-- What is left does not depend on what is made of the text that is taken. -/
theorem exists_of_map {found : Option (List Char × List Char)} {g : List Char × List Char → List Char}
    (h : found.map (fun r => (g r, r.2)) = some (text, rest)) : ∃ text', found = some (text', rest) := by
  obtain ⟨⟨text', rest'⟩, rfl, heq⟩ := Option.map_eq_some_iff.1 h
  cases heq
  exact ⟨text', rfl⟩

theorem takes_digitRun {p : Char → Bool} (hp : p '\n' = false) (h : digitRun p cs = some (text, rest)) :
    Takes cs rest := by
  have hne : ∀ {c}, p c → c ≠ '\n' := by
    rintro c hc rfl
    rw [hp] at hc
    cases hc
  fun_induction digitRun p cs generalizing text rest with
  | case1 c hc d ds hd ih =>
    obtain ⟨text', hmore⟩ := exists_of_map h
    exact .cons (hne hc) ((ih hmore).sameLine.cons (by decide))
  | case3 c hc d ds hother hd ih =>
    obtain ⟨text', hmore⟩ := exists_of_map h
    exact .cons (hne hc) (ih hmore).sameLine
  | case5 c hc | case6 c hc =>
    cases h
    exact .cons (hne hc) (.refl _)
  | case2 | case4 | case7 | case8 => cases h

theorem isDigit_break : Char.isDigit '\n' = false := rfl

theorem sameLine_exponentAndUnit (h : exponentAndUnit cs = some (text, rest)) : SameLine cs rest := by
  unfold exponentAndUnit at h
  extract_lets exponent at h
  have hexponent : ∀ {text rest}, exponent = some (text, rest, true) → SameLine cs rest := by
    intro text rest hsome
    simp only [exponent] at hsome
    split at hsome
    · next e after =>
      split at hsome
      · next hmark =>
        have he : e ≠ '\n' := by rintro rfl; simp at hmark
        split at hsome
        · next s d ds =>
          split at hsome
          · next hsign =>
            have hs : s ≠ '\n' := by rintro rfl; simp at hsign
            obtain ⟨⟨text', rest'⟩, hrun, heq⟩ := Option.map_eq_some_iff.1 hsome
            cases heq
            exact .cons he (.cons hs (takes_digitRun isDigit_break hrun).sameLine)
          · split at hsome
            · obtain ⟨⟨text', rest'⟩, hrun, heq⟩ := Option.map_eq_some_iff.1 hsome
              cases heq
              exact .cons he (takes_digitRun isDigit_break hrun).sameLine
            · split at hsome <;> cases hsome
        · next s =>
          split at hsome
          · next hdigit =>
            cases hsome
            exact .cons he (.cons (by rintro rfl; cases hdigit) (.refl _))
          · split at hsome
            · cases hsome
            · split at hsome <;> cases hsome
        · cases hsome
      · cases hsome
        exact .refl _
    · cases hsome
      exact .refl _
  clear_value exponent
  split at h
  · cases h
  · cases h
    exact .refl _
  · next c after =>
    have hafter := hexponent rfl
    split at h
    · next hunit =>
      split at h
      · cases h
        exact hafter.trans (.cons (by rintro rfl; simp at hunit) (.refl _))
      · cases h
    · split at h
      · cases h
        exact hafter
      · cases h
  · cases h
    exact hexponent rfl

theorem takes_afterWhole_point (h : afterWhole ('.' :: cs) = some (text, rest)) : Takes ('.' :: cs) rest := by
  simp only [afterWhole] at h
  split at h
  · split at h
    · obtain ⟨⟨fraction, after⟩, hrun, h⟩ := Option.bind_eq_some_iff.1 h
      obtain ⟨⟨tail, rest'⟩, htail, h⟩ := Option.bind_eq_some_iff.1 h
      cases h
      exact .cons (by decide) ((takes_digitRun isDigit_break hrun).sameLine.trans (sameLine_exponentAndUnit htail))
    · obtain ⟨text', hmore⟩ := exists_of_map h
      exact .cons (by decide) (sameLine_exponentAndUnit hmore)
  · cases h
    exact .cons (by decide) (.refl _)

theorem sameLine_afterWhole (h : afterWhole cs = some (text, rest)) : SameLine cs rest := by
  by_cases hpoint : ∃ after, cs = '.' :: after
  · obtain ⟨after, rfl⟩ := hpoint
    exact (takes_afterWhole_point h).sameLine
  · unfold afterWhole at h
    split at h
    · exact absurd ⟨_, rfl⟩ hpoint
    · exact sameLine_exponentAndUnit h

theorem takes_basedNumber {mark : Char} {p : Char → Bool} (hp : p '\n' = false)
    (h : basedNumber mark p cs = some (text, rest)) : Takes cs rest := by
  unfold basedNumber at h
  obtain ⟨⟨ds, after⟩, hrun, h⟩ := Option.bind_eq_some_iff.1 h
  dsimp only at h
  have htakes := takes_digitRun hp hrun
  split at h
  · cases h
    split at htakes
    · exact .cons (by decide) htakes.sameLine
    · exact htakes
  · cases h

theorem takes_number (h : number cs = some (text, rest)) : Takes cs rest := by
  have hwhole : ∀ {whole after}, digitRun Char.isDigit cs = some (whole, after) →
      ∀ {tail}, afterWhole after = some (tail, rest) → Takes cs rest := fun hrun _ htail =>
    (takes_digitRun isDigit_break hrun).trans (sameLine_afterWhole htail)
  unfold number at h
  split at h
  · exact takes_afterWhole_point h
  · next c ds =>
    have hbased : ∀ {p : Char → Bool}, p '\n' = false → c ≠ '\n' → basedNumber c p ds = some (text, rest) →
        Takes ('0' :: c :: ds) rest := fun hp hc h =>
      .cons (by decide) (.cons hc (takes_basedNumber hp h).sameLine)
    split at h
    · next hmark => exact hbased rfl (by rintro rfl; simp at hmark) h
    · split at h
      · next hmark => exact hbased rfl (by rintro rfl; simp at hmark) h
      · split at h
        · next hmark => exact hbased rfl (by rintro rfl; simp at hmark) h
        · obtain ⟨⟨whole, after⟩, hrun, h⟩ := Option.bind_eq_some_iff.1 h
          obtain ⟨⟨tail, rest'⟩, htail, h⟩ := Option.bind_eq_some_iff.1 h
          dsimp only at h
          split at h
          · cases h
          · cases h
            exact hwhole hrun htail
  · obtain ⟨⟨whole, after⟩, hrun, h⟩ := Option.bind_eq_some_iff.1 h
    obtain ⟨⟨tail, rest'⟩, htail, h⟩ := Option.bind_eq_some_iff.1 h
    cases h
    exact hwhole hrun htail

/-! ## Operators -/

theorem takes_operator? {op : String} (h : operator? cs = some (op, rest)) : Takes cs rest := by
  have hlong : ∀ n (ops : List String), (∀ op ∈ ops, '\n' ∉ op.toList ∧ op.length = n + 1) →
      String.ofList (cs.take (n + 1)) ∈ ops → Takes cs (cs.drop (n + 1)) := by
    intro n ops hops hmem
    obtain ⟨hbreak, hlength⟩ := hops _ hmem
    rw [String.toList_ofList] at hbreak
    refine ⟨⟨cs.take (n + 1), (List.take_append_drop _ _).symm, hbreak⟩, ?_⟩
    simp only [String.length_ofList, List.length_take] at hlength
    simp only [List.length_drop]
    omega
  unfold operator? at h
  extract_lets text at h
  split at h
  · next hmem =>
    cases h
    exact hlong 2 operators3 (by decide) (by simpa using hmem)
  · split at h
    · next hmem =>
      cases h
      exact hlong 1 operators2 (by decide) (by simpa using hmem)
    · split at h
      · split at h
        · next hmem =>
          cases h
          exact .cons (by rintro rfl; cases hmem) (.refl _)
        · cases h
      · cases h

/-! ## Literals -/

def isQuote (c : Char) : Bool := c == '"' || c == '\''

theorem ne_of_isQuote {c d : Char} (h : isQuote c) (hd : isQuote d = false) : c ≠ d := by
  rintro rfl
  rw [h] at hd
  cases hd

/-- The marks of a literal stand before its quotes. -/
theorem literalMarks_eq {marks : List Char} (h : literalMarks cs = some (marks, rest)) :
    cs = marks ++ rest ∧ '\n' ∉ marks ∧ ∃ q after, rest = q :: after ∧ isQuote q := by
  unfold literalMarks at h
  extract_lets quote single double at h
  have hsingle : ∀ {c}, single c → c ≠ '\n' := by
    rintro c hc rfl
    cases hc
  have hdouble : ∀ {c d}, double c d → c ≠ '\n' ∧ d ≠ '\n' := by
    intro c d hcd
    constructor <;> rintro rfl <;> simp [double] at hcd
  have hquote : ∀ {c}, quote c → isQuote c := id
  clear_value quote single double
  -- no mark, one or two
  have hnone : ∀ {q after}, quote q → q :: after = [] ++ q :: after ∧ '\n' ∉ ([] : List Char) ∧
      ∃ q' after', q :: after = q' :: after' ∧ isQuote q' := fun hq =>
    ⟨rfl, by simp, _, _, rfl, hquote hq⟩
  have hone : ∀ {a q after}, (quote q && single a) = true → a :: q :: after = [a] ++ q :: after ∧ '\n' ∉ [a] ∧
      ∃ q' after', q :: after = q' :: after' ∧ isQuote q' := by
    intro a q after ha
    rw [Bool.and_eq_true] at ha
    exact ⟨rfl, by simpa using (hsingle ha.2).symm, _, _, rfl, hquote ha.1⟩
  split at h
  · split at h
    · next hq =>
      cases h
      exact hnone hq
    · split at h
      · next ha =>
        cases h
        exact hone ha
      · split at h
        · next hab =>
          cases h
          rw [Bool.and_eq_true] at hab
          exact ⟨rfl, by simpa using ⟨(hdouble hab.2).1.symm, (hdouble hab.2).2.symm⟩, _, _, rfl, hquote hab.1⟩
        · cases h
  · split at h
    · next hq =>
      cases h
      exact hnone hq
    · split at h
      · next ha =>
        cases h
        exact hone ha
      · cases h
  · split at h
    · next hq =>
      cases h
      exact hnone hq
    · cases h
  · cases h

/-- The body of a literal stands before a quote that closes it. -/
theorem literalBody_eq {q : Char} (hq : isQuote q) {triple : Bool} {body : List Char}
    (h : literalBody q triple cs = some (body, rest)) :
    ∃ close, cs = body ++ q :: close ++ rest ∧ '\n' ∉ close := by
  have hbreak := ne_of_isQuote hq (d := '\n') rfl
  fun_induction literalBody q triple cs generalizing body rest with
  | case2 c cs ih =>
    obtain ⟨⟨body', rest'⟩, hmore, heq⟩ := Option.map_eq_some_iff.1 h
    cases heq
    obtain ⟨close, rfl, hclose⟩ := ih hmore
    exact ⟨close, rfl, hclose⟩
  | case3 _ a b after hquotes =>
    cases h
    obtain ⟨rfl, rfl⟩ := hquotes
    exact ⟨[b, b], rfl, by simpa using hbreak.symm⟩
  | case4 _ a b after _ _ ih | case8 a after _ _ _ ih =>
    obtain ⟨⟨body', rest'⟩, hmore, heq⟩ := Option.map_eq_some_iff.1 h
    cases heq
    obtain ⟨close, hcs, hclose⟩ := ih hmore
    exact ⟨close, by rw [hcs]; rfl, hclose⟩
  | case6 =>
    cases h
    exact ⟨[], rfl, by simp⟩
  | case1 | case5 | case7 => cases h

/-- The body of a literal stands between its quotes. -/
theorem literal_eq {q : Char} (hq : isQuote q) {body : List Char} (h : literal (q :: cs) = some (body, rest)) :
    ∃ opening close, q :: cs = opening ++ (q :: body ++ [q]) ++ close ++ rest ∧ '\n' ∉ opening ∧ '\n' ∉ close := by
  have hbreak := ne_of_isQuote hq (d := '\n') rfl
  unfold literal at h
  split at h
  · next a b after heq =>
    cases heq
    split at h
    · next hquotes =>
      obtain ⟨rfl, rfl⟩ := hquotes
      obtain ⟨close, rfl, hclose⟩ := literalBody_eq hq h
      exact ⟨[b, b], close, by simp, by simpa using hbreak.symm, hclose⟩
    · split at h
      · next heq =>
        cases h
        exact ⟨[], [], by simp [heq], by simp, by simp⟩
      · obtain ⟨close, hcs, hclose⟩ := literalBody_eq hq h
        exact ⟨[], close, by rw [hcs]; simp, by simp, hclose⟩
  · next a heq =>
    cases heq
    split at h
    · next heq =>
      cases h
      exact ⟨[], [], by simp [heq], by simp, by simp⟩
    · cases h
  · cases h

/-! ## Blanks at the beginning of a line -/

/-- Where `cs` is left on a line, `rest` will be left on another one. -/
structure LeadsTo (line : Nat) (cs : List Char) (line' : Nat) (rest : List Char) : Prop where
  suffix : rest <:+ cs
  lines : line' + countLines rest = line + countLines cs

namespace LeadsTo

variable {line line' line'' : Nat} {ds : List Char} {c : Char}

theorem refl (line : Nat) (cs : List Char) : LeadsTo line cs line cs := ⟨List.suffix_refl cs, rfl⟩

theorem trans (h : LeadsTo line cs line' ds) (h' : LeadsTo line' ds line'' rest) : LeadsTo line cs line'' rest :=
  ⟨h'.suffix.trans h.suffix, h'.lines.trans h.lines⟩

theorem of_sameLine (h : SameLine cs rest) (line : Nat) : LeadsTo line cs line rest :=
  ⟨h.suffix, congrArg (line + ·) h.countLines_eq⟩

theorem lineBreak (line : Nat) (cs : List Char) : LeadsTo line ('\n' :: cs) (line + 1) cs :=
  ⟨List.suffix_cons _ _, by simp [countLines]; omega⟩

end LeadsTo

/-- The lines that backslashes join are those whose line breaks are taken. -/
theorem leadsTo_blankColumns {fuel col alt : Nat} {joined : Option Nat} {lines : Nat}
    {found : Nat × Nat × Nat × List Char} (h : blankColumns fuel cs col alt joined lines = some found) :
    LeadsTo lines cs found.2.2.1 found.2.2.2 := by
  fun_induction blankColumns fuel cs col alt joined lines with
  | case2 _ _ _ _ _ _ ih | case3 _ _ _ _ _ _ ih | case4 _ _ _ _ _ _ ih =>
    exact .trans (.of_sameLine (.cons (by decide) (.refl _)) _) (ih h)
  | case5 _ _ _ _ _ _ _ _ ih =>
    exact .trans (.of_sameLine (.cons (by decide) (.refl _)) _) (.trans (.lineBreak _ _) (ih h))
  | case7 _ _ _ _ joined =>
    obtain rfl := Option.some.inj h
    cases joined <;> exact .refl _ _
  | case1 | case6 => cases h

end ErrorTrail.Syntax.Token
