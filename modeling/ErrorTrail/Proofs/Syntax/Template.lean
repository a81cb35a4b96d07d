import ErrorTrail.Proofs.Syntax.Reading
import ErrorTrail.Proofs.Syntax.Token.Places

/-!
# Where the expressions of templates stand

The reading of a template goes on behind what it has read, on the line that the line breaks up to there lead
to (`Literal.Comes.leftAt`). So the text of an expression in a template is a part of the body of the literal,
and begins on the line that is told (`Literal.HasExpression.body_eq`).
-/

namespace ErrorTrail.Syntax

open Reader

/-- The text `cs` is what is left of the body of a literal on a line. -/
def Literal.LeftAt (l : Literal) (line : Nat) (cs : List Char) : Prop :=
  ∃ before, l.body = before ++ cs ∧ line = l.line + Token.countLines before

namespace Literal.LeftAt

variable {l : Literal} {line : Nat} {cs rest : List Char}

theorem body (l : Literal) : l.LeftAt l.line l.body := ⟨[], rfl, rfl⟩

theorem upTo (h : l.LeftAt line cs) (hrest : rest <:+ cs) : l.LeftAt (line + linesUpTo rest cs) rest := by
  obtain ⟨before, hbody, rfl⟩ := h
  obtain ⟨piece, rfl⟩ := hrest
  refine ⟨before ++ piece, by rw [hbody, List.append_assoc], ?_⟩
  simp [linesUpTo, Token.countLines, Nat.add_assoc]

theorem tail {c : Char} (h : l.LeftAt line (c :: cs)) (hc : c ≠ '\n') : l.LeftAt line cs := by
  have hskip := h.upTo (List.suffix_cons c cs)
  rwa [linesUpTo, List.length_cons, Nat.add_sub_cancel_left, List.take_succ_cons, List.take_zero,
    Token.countLines, List.count_singleton, if_neg (by simpa using hc)] at hskip

end Literal.LeftAt

theorem suffix_textBefore {raw nested : Bool} {fuel : Nat} {cs text rest : List Char} {stop : TextEnd}
    (h : textBefore raw nested fuel cs = some (text, stop, rest)) : rest <:+ cs := by
  induction fuel generalizing cs text with
  | zero => cases h
  | succ fuel ih =>
    cases cs with
    | nil =>
      cases h
      exact List.suffix_refl _
    | cons c cs =>
      unfold textBefore at h
      extract_lets brace at h
      have hbrace : ∀ {d ds before}, brace d ds before = some (text, stop, rest) → rest <:+ d :: ds := by
        intro d ds before hd
        simp only [brace] at hd
        split at hd
        · cases hd
          exact List.suffix_refl _
        · split at hd
          · split at hd
            · cases hd
              exact (List.suffix_cons _ _).trans (List.suffix_cons _ _)
            · split at hd
              · cases hd
              · cases hd
                exact List.suffix_refl _
          · split at hd
            · cases hd
            · cases hd
              exact List.suffix_refl _
      have hmore : ∀ {ds f}, (textBefore raw nested fuel ds).map f = some (text, stop, rest) →
          (∀ r : List Char × TextEnd × List Char, (f r).2 = r.2) → rest <:+ ds := by
        intro ds f hmap hf
        obtain ⟨⟨text', stop', rest'⟩, hds, heq⟩ := Option.map_eq_some_iff.1 hmap
        have hsnd := hf (text', stop', rest')
        rw [heq] at hsnd
        cases hsnd
        exact ih hds
      split at h
      · split at h
        · next ds =>
          have hname : (ds.dropWhile (· ≠ '\x7d')).drop 1 <:+ ds :=
            (List.drop_suffix _ _).trans (List.dropWhile_suffix _)
          refine (hmore h fun _ => rfl).trans (hname.trans ?_)
          exact ⟨[c, 'N', '\x7b'], rfl⟩
        · next d ds _ =>
          split at h
          · exact (hbrace h).trans (List.suffix_cons _ _)
          · exact (hmore h fun _ => rfl).trans ⟨[c, d], rfl⟩
        · cases h
          exact List.nil_suffix
      · split at h
        · exact hbrace h
        · exact (hmore h fun _ => rfl).trans (List.suffix_cons _ _)

theorem append_expressionText {fuel : Nat} {quotes : Quotes} {open_ cs source after : List Char}
    (h : expressionText fuel quotes open_ cs = some (source, after)) : cs = source ++ after := by
  induction fuel generalizing quotes open_ cs source with
  | zero => cases h
  | succ fuel ih =>
    cases cs with
    | nil => cases h
    | cons c cs =>
      unfold expressionText at h
      extract_lets go at h
      have hgo : ∀ {quotes open_ taken rest}, go quotes open_ taken rest = some (source, after) →
          taken ++ rest = source ++ after := by
        intro quotes open_ taken rest hgo
        obtain ⟨⟨source', after'⟩, hrest, heq⟩ := Option.map_eq_some_iff.1 hgo
        cases heq
        rw [ih hrest, List.append_assoc]
      repeat' split at h
      all_goals first
        | cases h; rfl
        | exact hgo h
        | cases h

theorem suffix_shownText (source after : List Char) : (shownText source after).2 <:+ after := by
  unfold shownText
  split
  · exact (List.dropWhile_suffix _).trans (List.suffix_cons _ _)
  · exact List.suffix_refl _

theorem suffix_conversionMark {cs rest : List Char} {conversion : Option Int}
    (h : conversionMark cs = some (conversion, rest)) : rest <:+ cs := by
  unfold conversionMark at h
  split at h
  · split at h
    · cases h
      exact (List.suffix_cons _ _).trans (List.suffix_cons _ _)
    · cases h
  · cases h
  · cases h
    exact List.suffix_refl _

/-! ## Parts of templates -/

namespace Literal

variable {l : Literal} {line : Nat} {cs : List Char}

theorem Comes.leftAt {part : TemplatePart} (h : l.Comes part line cs) : l.LeftAt line cs := by
  induction h with
  | start => exact .body l
  | doubled _ htext ih => exact ih.upTo (suffix_textBefore htext)
  | field _ htext ih => exact (ih.upTo (suffix_textBefore htext)).tail (by decide)
  | formatted _ htext ih => exact (ih.upTo (suffix_textBefore htext)).tail (by decide)
  | format _ hsource hconversion ih | value _ hsource hconversion ih =>
    refine (ih.upTo ?_).tail (by decide)
    rw [append_expressionText hsource]
    exact ((suffix_conversionMark hconversion).trans (suffix_shownText _ _)).trans (List.suffix_append _ _)

/-- The text of an expression is a part of the body. -/
theorem HasExpression.body_eq (h : l.HasExpression line cs) :
    ∃ before after, l.body = before ++ cs ++ after ∧ line = l.line + Token.countLines before := by
  obtain ⟨n, inner, after, hcomes, hsource⟩ := h
  obtain ⟨before, hbody, hline⟩ := hcomes.leftAt
  exact ⟨before, after, by rw [hbody, append_expressionText hsource, List.append_assoc], hline⟩

end Literal

end ErrorTrail.Syntax
