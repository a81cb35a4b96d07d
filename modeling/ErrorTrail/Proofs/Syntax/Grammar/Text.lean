import ErrorTrail.Proofs.Syntax.Reading

/-!
# What is read as a text literal

The expressions in the braces of a template are read with a property that the grammar keeps, and a literal
is made of them and of texts, which take the lines of the literal (`yields_literals`).
-/

namespace ErrorTrail.Syntax

open Carries Reader

variable {S : Cursor → Prop} {P : Parsed → Prop} {self : Rule → Reader Parsed}

/-! ## Pieces -/

instance : Carries Piece := ⟨fun P p => match p with
  | .text _ => True
  | .value t => P t⟩

@[simp] theorem carries_text (cs : List Char) : carries P (Piece.text cs) ↔ True := Iff.rfl

@[simp] theorem carries_value (t : Parsed) : carries P (Piece.value t) ↔ P t := Iff.rfl

theorem carries_mergePieces {ps : List Piece} (h : carries P ps) : carries P (mergePieces ps) := by
  fun_induction mergePieces ps <;> simp_all

/-- Pieces joined to one text. -/
theorem Grammatical.joined (h : Grammatical S P) {place : Extent} (hplace : place.isSome)
    {kind : Option String} {ps : List Piece} (hps : carries P ps) :
    P (.node .joinedStr place [Reader.many ((mergePieces ps).map fun
      | .text cs => SyntaxTree.node (.constant (.str (String.ofList cs)) kind) place []
      | .value t => t)]) := by
  refine h.node rfl (fun _ => hplace) ((carries_cons _ _).2 ⟨h.many fun t ht => ?_, by simp⟩)
  obtain ⟨piece, hpiece, rfl⟩ := List.mem_map.1 ht
  cases piece with
  | text cs => exact h.node rfl (fun _ => hplace) (by simp)
  | value t => exact carries_mergePieces hps _ hpiece

/-! ## Templates -/

/-- An expression in braces is read from a cursor of its own. -/
theorem yields_readEmbedded (h : ReadsExpressions S P self) {line : Nat} {cs : List Char}
    (hwithin : S (.within line cs)) : Yields S P (readEmbedded self line cs) := by
  unfold readEmbedded
  refine .first_if fun _ => Reads.get fun here hhere => Reads.set hwithin ?_
  exact Reads.bind (h.yields .starExpressions rfl) fun t ht => Reads.set hhere (.pure ht)

/-- The pieces of a template are read with a property that the grammar keeps, and what is left is left where
its text stops. -/
theorem reads_template (h : ReadsExpressions S P self) {p : TemplatePlace} (hplace : p.place.isSome)
    {l : Literal} (hraw : p.raw = l.has 'r') (hl : l.has 'f') (hoffers : Offers S l) (n level line : Nat)
    (cs : List Char) (hcs : l.Comes (.text level) line cs) :
    Reads S (fun x => carries P x.1 ∧ l.Stops level x.2.2 x.2.1) (template self p n level line cs) := by
  induction n generalizing level line cs with
  | zero => exact .throw _
  | succ n ih =>
    unfold template
    rw [hraw]
    refine .bind (.lift fun x hx => hx) ?_
    rintro ⟨text, stop, rest⟩ htext
    refine .skip fun decoded => ?_
    dsimp -zeta only
    split
    · refine .bind (ih _ _ _ (.doubled hcs htext)) ?_
      rintro ⟨ps, rest, line⟩ ⟨hps, hstops⟩
      exact .pure ⟨by simpa using hps, hstops⟩
    · next inner =>
      have hfield := hcs.field htext
      refine Reads.first_if fun _ => .bind (.lift fun x hx => hx) ?_
      rintro ⟨source, after⟩ hsource
      have hinner := hoffers hl _ _ ⟨level, inner, after, hfield, hsource⟩
      refine .bind (yields_readEmbedded h hinner) fun value hvalue => ?_
      dsimp -zeta only
      refine .bind (.lift fun x hx => hx) ?_
      rintro ⟨conversion, rest⟩ hconversion
      dsimp -zeta only
      -- `close` goes on behind the format
      extract_lets line'' close
      have hclose : ∀ x, carries P x.1 → (∀ after, x.2.1 = '\x7d' :: after → l.Comes (.text level) x.2.2 after) →
          Reads S (fun x => carries P x.1 ∧ l.Stops level x.2.2 x.2.1) (close x) := by
        rintro ⟨format, after, line⟩ hformat hafter
        simp -zeta only [close]
        split
        · extract_lets c node
          have hnode : P node := h.grammatical.node rfl (fun _ => hplace) (by
            cases format <;> simp_all [h.grammatical.absent])
          refine .bind (ih _ _ _ (hafter _ rfl)) ?_
          rintro ⟨ps, rest, line⟩ ⟨hps, hstops⟩
          exact .pure ⟨by simpa using ⟨hnode, hps⟩, hstops⟩
        · exact .throw _
      split
      · refine Reads.first_if fun _ => .bind (ih _ _ _ (hfield.format hsource hconversion)) ?_
        rintro ⟨ps, rest, line⟩ ⟨hps, line', cs, text, hcs, htext, hline⟩
        dsimp only at hline htext ⊢
        rw [pure_bind]
        refine hclose (some _, rest, line) ((carries_some _).2 (h.grammatical.joined hplace hps)) ?_
        rintro after rfl
        rw [hline]
        exact .formatted hcs htext
      · rw [pure_bind]
        refine hclose (none, rest, line'') (by simp) ?_
        rintro after rfl
        exact hfield.value hsource hconversion
    · exact .pure ⟨by simp, line, cs, text, hcs, htext, rfl⟩

/-! ## Literals -/

theorem yields_literalPieces (h : ReadsExpressions S P self) {place : Extent} (hplace : place.isSome)
    {l : Literal} (hl : Offers S l) : Yields S P (literalPieces self place l) := by
  unfold literalPieces
  split
  · next hf =>
    refine .after (reads_template h hplace rfl hf hl _ _ _ _ .start) ?_
    rintro ⟨ps, rest, line⟩ ⟨hps, -⟩
    exact .ite (.pure hps) (.throw _)
  · exact .skip fun cs => .pure (by simp)

/-- Literals offer what a property of cursors says of them. -/
theorem reads_takeLiterals [Lasting S] : Reads S (fun ls => ∀ l ∈ ls, Offers S l) takeLiterals := by
  refine .skip fun c => .iterate (fun acc hacc => ?_) _ (by simp)
  intro c more? c' hc h
  obtain ⟨k, c₁, hpeek, h⟩ := bind_eq_ok h
  obtain ⟨_ | ⟨⟨kind, first, stop⟩, ts⟩, last⟩ := c
  · cases hpeek
    cases h
    exact ⟨hc, by simp⟩
  · cases hpeek
    cases kind with
    | literal l =>
      cases h
      refine ⟨Lasting.advance hc, ?_⟩
      rintro _ ⟨⟩ l' hl'
      obtain hl' | rfl := List.mem_append.1 hl' |>.imp_right List.mem_singleton.1
      · exact hacc l' hl'
      · exact Lasting.offers hc
    | _ =>
      cases h
      exact ⟨hc, by simp⟩

theorem yields_literals [Lasting S] (h : ReadsExpressions S P self) : Yields S P (literals self) := by
  refine .skip fun first => .after reads_takeLiterals fun ls hls => .skip fun c => ?_
  have hplace : Option.isSome (some (first, c.last)) := rfl
  have hconstant : ∀ value kind, P (.node (.constant value kind) (some (first, c.last)) []) :=
    fun _ _ => h.grammatical.node rfl (fun _ => rfl) (by simp)
  refine .ite (.ite (.skip fun parts => .pure (hconstant _ _)) (.throw _)) ?_
  refine .bind (.mapM fun l hl => yields_literalPieces h hplace (hls l hl)) fun pieces hpieces => ?_
  exact .ite (.pure (h.grammatical.joined hplace (carries_flatten hpieces))) (.pure (hconstant _ _))

end ErrorTrail.Syntax
