import ErrorTrail.Proofs.Syntax.Grammar.Expression
import ErrorTrail.Syntax.Grammar.Pattern

/-!
# What is read as a pattern

Patterns define nothing, so what holds of expressions holds of them (`yields_pattern`, `yields_topPattern`).
-/

namespace ErrorTrail.Syntax

open Carries Reader

variable {S : Cursor → Prop} [Lasting S] {P : Parsed → Prop} {self : Rule → Reader Parsed}

/-! ## Numbers and names -/

theorem yields_signedNumber (h : Grammatical S P) : Yields S P signedNumber := by
  refine .skip fun first => .skip fun minus => .ite (.skip fun inner => .skip fun next => ?_) (.skip fun next => ?_)
  · split
    · refine .skip fun c => .skip fun _ => .bind (h.leaf rfl) fun t ht => ?_
      exact h.yields rfl (by simpa using ht)
    · exact .fault
  · split
    · exact .skip fun c => .skip fun _ => h.leaf rfl
    · exact .fault

theorem yields_numberLiteral (h : Grammatical S P) : Yields S P numberLiteral := by
  refine .skip fun first => .bind (yields_signedNumber h) fun left hleft => ?_
  extract_lets sum
  have hsum : ∀ op, Yields S P (sum op) := by
    intro op
    refine .skip fun _ => .first_if fun _ => .skip fun second => .skip fun next => ?_
    split
    · refine .skip fun c => .skip fun _ => .bind (h.leaf rfl) fun right hright => .ite ?_ (.throw _)
      exact h.yields rfl (by simpa using ⟨hleft, hright⟩)
    · exact .fault
  exact .skip fun plus => .ite (hsum .add) (.skip fun minus => .ite (hsum .sub) (.pure hleft))

theorem yields_dottedName (h : Grammatical S P) : Yields S P dottedName := by
  refine .skip fun first => .skip fun id => .bind (h.leaf rfl) fun head hhead => .loop (fun t ht => ?_) hhead
  exact h.yields_member first ht (.pure (by simp))

/-! ## Patterns -/

instance : Carries ClassPattern := ⟨fun P a => carries P a.patterns ∧ carries P a.attrPatterns⟩

theorem carries_classPattern (a : ClassPattern) :
    carries P a ↔ carries P a.patterns ∧ carries P a.attrPatterns := Iff.rfl

section

variable (h : ReadsExpressions S P self)
include h

omit h in
instance keeps_captureName : Keeps S captureName := by
  refine @Keeps.bind _ _ _ _ _ _ fun anonymous => ?_
  extract_lets finish
  have hfinish : ∀ u, Keeps S (finish u) := fun u => by
    refine @Keeps.bind _ _ _ _ _ _ fun id => @Keeps.bind _ _ _ _ _ _ fun k => ?_
    split <;> infer_instance
  clear_value finish
  infer_instance

theorem yields_starPattern : Yields S P (starPattern self) := by
  refine .skip fun first => .skip fun star => .ite (.skip fun anonymous => ?_) (h.yields .pattern rfl)
  exact .ite (h.grammatical.leaf rfl) (.skip fun id => h.grammatical.leaf rfl)

theorem yields_patternItems (close : String) : Yields S P (patternItems self close) :=
  .skip fun _ => .ite (.pure (by simp)) (.commaList (yields_starPattern h))

theorem yields_patternKey : Yields S P (patternKey self) := by
  refine .skip fun first => .skip fun next => ?_
  split
  · exact .skip fun _ => h.grammatical.leaf rfl
  · exact .skip fun _ => h.grammatical.leaf rfl
  · exact .skip fun _ => h.grammatical.leaf rfl
  · refine .bind (yields_dottedName h.grammatical) fun t ht => ?_
    split
    · exact .throw _
    · exact .pure ht
  · exact yields_literals h
  · exact yields_numberLiteral h.grammatical

theorem yields_mappingPattern (first : Nat) : Yields S P (mappingPattern self first) := by
  refine .bind (.loop (fun acc hacc => ?_) (by simp)) ?_
  · refine .skip fun closed => .ite (.pure (by simp)) (.ite .fault (.skip fun rest => .ite ?_ ?_))
    · exact .skip fun id => .skip fun closed => .first_unless fun _ => .pure (by simpa using hacc)
    · refine .bind (yields_patternKey h) fun k hk => .skip fun _ => ?_
      refine .bind (h.yields .pattern rfl) fun p hp => .skip fun closed => .first_unless fun _ => .pure ?_
      simp_all
  · rintro ⟨pairs, rest⟩ ⟨hpairs, -⟩
    refine .skip fun _ => h.grammatical.yields rfl ?_
    simpa using ⟨h.grammatical.many (carries_map_fst hpairs), h.grammatical.many (carries_map_snd hpairs)⟩

theorem yields_classPattern (first : Nat) {cls : Parsed} (hcls : P cls) :
    Yields S P (classPattern self first cls) := by
  refine .bind (.loop (fun a ha => ?_) (by simp [carries_classPattern])) fun a ha => .skip fun _ => ?_
  · rw [carries_classPattern] at ha
    refine .skip fun closed => .ite (.pure (by simp)) (.skip fun next => .skip fun second => ?_)
    extract_lets finish
    have hfinish : ∀ a, carries P a → Yields S P (finish a) := fun a ha =>
      .skip fun closed => .first_unless fun _ => .pure (by simpa using ha)
    refine .ite (.skip fun id => .skip fun _ => .bind (h.yields .pattern rfl) fun p hp => ?_) (.ite ?_ ?_)
    · exact .bind (.pure (by simpa [carries_classPattern, ha] using hp)) hfinish
    · refine .bind (h.yields .pattern rfl) fun p hp => .bind (.pure ?_) hfinish
      simpa [carries_classPattern, ha] using hp
    · exact .bind .fault hfinish
  · exact h.grammatical.yields rfl
      (by simpa using ⟨hcls, h.grammatical.many ha.1, h.grammatical.many ha.2⟩)

theorem yields_named_closedPattern (first : Nat) : Yields S P (closedPattern.named self first) := by
  refine .bind (yields_dottedName h.grammatical) fun t ht => .skip fun paren => .ite ?_ ?_
  · exact yields_classPattern h first ht
  · split
    · refine .skip fun equals => .first_if fun _ => h.grammatical.yields rfl ?_
      simpa using h.grammatical.absent
    · exact h.grammatical.yields rfl (by simpa using ht)

theorem yields_closedPattern : Yields S P (closedPattern self) := by
  have hsequence : ∀ {first items}, carries P items → Yields S P (Reader.mk .matchSequence first [many items]) :=
    fun hitems => h.grammatical.yields rfl (by simpa using h.grammatical.many hitems)
  have hvalue : ∀ {first t}, P t → Yields S P (Reader.mk .matchValue first [t]) :=
    fun ht => h.grammatical.yields rfl (by simpa using ht)
  refine .skip fun first => .skip fun next => ?_
  split
  · exact .skip fun _ => h.grammatical.leaf rfl
  · exact .skip fun _ => h.grammatical.leaf rfl
  · exact .skip fun _ => h.grammatical.leaf rfl
  · refine .skip fun second => ?_
    split
    · exact yields_named_closedPattern h first
    · exact yields_named_closedPattern h first
    · exact .skip fun _ => h.grammatical.yields rfl (by simpa using h.grammatical.absent)
  · exact yields_named_closedPattern h first
  · exact .bind (yields_literals h) fun t ht => hvalue ht
  · refine .skip fun _ => .bind (yields_patternItems h _) ?_
    rintro ⟨items, comma⟩ ⟨hitems, -⟩
    refine .skip fun _ => ?_
    split
    · exact .ite (.throw _) (.pure (hitems _ List.mem_cons_self))
    · exact hsequence hitems
  · refine .skip fun _ => .bind (yields_patternItems h _) ?_
    rintro ⟨items, comma⟩ ⟨hitems, -⟩
    exact .skip fun _ => hsequence hitems
  · exact .skip fun _ => yields_mappingPattern h first
  · exact .bind (yields_numberLiteral h.grammatical) fun t ht => hvalue ht

theorem yields_pattern : Yields S P (pattern self) := by
  refine .skip fun first => .bind (yields_closedPattern h) fun head hhead => ?_
  refine .bind (.collect (yields_closedPattern h) (by simpa using hhead)) fun items hitems => ?_
  refine .joined (.pure hhead) (h.grammatical.yields rfl ?_) fun whole hwhole => ?_
  · simpa using h.grammatical.many hitems
  · refine .skip fun named => .ite (.skip fun id => ?_) (.pure hwhole)
    exact h.grammatical.yields rfl (by simpa using hwhole)

theorem yields_topPattern : Yields S P (topPattern self) := by
  refine .skip fun first => .bind (.commaList (yields_starPattern h)) ?_
  rintro ⟨items, comma⟩ ⟨hitems, -⟩
  dsimp only
  split
  · exact .ite .fault (.pure (hitems _ List.mem_cons_self))
  · exact h.grammatical.yields rfl (by simpa using h.grammatical.many hitems)

end

end ErrorTrail.Syntax
