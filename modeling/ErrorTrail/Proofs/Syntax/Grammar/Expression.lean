import ErrorTrail.Proofs.Syntax.Grammar.Text

/-!
# What is read as an expression

If the rules inside are read with a property that the grammar keeps, so are targets and expressions. There
is one lemma for each reader of the grammar, which is named for it and follows it step by step.
-/

namespace ErrorTrail.Syntax

open Carries Reader

variable {S : Cursor → Prop} {P : Parsed → Prop} {self : Rule → Reader Parsed}

/-! ## Targets -/

/-- The items of a target come of the items of an expression. -/
theorem exists_of_mem_retargetItems {ctx : Context} {ts ts' : List Parsed}
    (h : SyntaxTree.retargetItems ctx ts = some ts') {t' : Parsed} (ht' : t' ∈ ts') :
    ∃ t ∈ ts, t.retarget ctx = some t' := by
  induction ts generalizing ts' with
  | nil =>
    cases h
    cases ht'
  | cons t ts ih =>
    rw [SyntaxTree.retargetItems] at h
    obtain ⟨t₁, ht₁, h⟩ := Option.bind_eq_some_iff.1 h
    obtain ⟨ts₁, hts₁, h⟩ := Option.bind_eq_some_iff.1 h
    cases h
    rcases List.mem_cons.1 ht' with rfl | hmem
    · exact ⟨t, List.mem_cons_self, ht₁⟩
    · obtain ⟨u, hu, htarget⟩ := ih hts₁ hmem
      exact ⟨u, List.mem_cons_of_mem _ hu, htarget⟩

/-- An expression that becomes a target changes only in the context of its nodes. -/
theorem Grammatical.retarget (h : Grammatical S P) (ctx : Context) {t t' : SyntaxTree Extent} (ht : P t)
    (htarget : t.retarget ctx = some t') : P t' := by
  induction t generalizing t' with
  | node f a cs ih =>
    have hsame : ∀ {g : Form} {cs'}, g.isCommon → g.hasPlace = f.hasPlace →
        carries P cs' → P (.node g a cs') := fun hg hplace hcs' =>
      h.node hg (fun hgplace => h.place ht (hplace ▸ hgplace)) hcs'
    have hmap : ∀ {g : Form}, g.isCommon → g.hasPlace = f.hasPlace →
        (SyntaxTree.retargetItems ctx cs).map (SyntaxTree.node g a) = some t' → P t' := by
      intro g hg hplace hitems
      obtain ⟨cs', hcs', rfl⟩ := Option.map_eq_some_iff.1 hitems
      refine hsame hg hplace fun c' hc' => ?_
      obtain ⟨c, hc, hctarget⟩ := exists_of_mem_retargetItems hcs' hc'
      exact ih c hc (h.children ht c hc) hctarget
    unfold SyntaxTree.retarget at htarget
    split at htarget
    case h_8 => cases htarget
    all_goals cases ‹SyntaxTree.node f a cs = _›
    case h_1 | h_3 => cases htarget; exact hsame rfl rfl (h.children ht)
    case h_2 => cases htarget; exact h.context ht
    case h_4 =>
      split at htarget
      · exact hmap (g := .starred ctx) rfl rfl htarget
      · cases htarget
    case h_5 => exact hmap (g := .list ctx) rfl rfl htarget
    case h_6 => exact hmap (g := .tuple ctx) rfl rfl htarget
    case h_7 => exact hmap rfl rfl htarget

theorem yields_asTarget (h : Grammatical S P) (ctx : Context) {t : Parsed} (ht : P t) :
    Yields S P (asTarget ctx t) := by
  unfold asTarget
  split
  · next t' htarget => exact .pure (h.retarget ctx ht htarget)
  · exact .throw _

variable [Lasting S]

section

variable (h : ReadsExpressions S P self)
include h

theorem yields_targets : Yields S P (targets self) := by
  refine .skip fun first => .bind (.commaList (h.yields .target rfl)) ?_
  rintro ⟨items, comma⟩ ⟨hitems, -⟩
  dsimp only
  split
  · exact .pure (hitems _ List.mem_cons_self)
  · exact h.grammatical.yields rfl (by simpa using h.grammatical.many hitems)

theorem yields_target {primary : Reader Parsed} (hprimary : Yields S P primary) :
    Yields S P (target self primary) := by
  refine .skip fun first => .skip fun star => .ite ?_ (.bind hprimary fun t ht => ?_)
  · exact .skip fun twice => .first_if fun _ => .bind (h.yields .target rfl) fun t ht =>
      h.grammatical.yields rfl (by simpa using ht)
  · exact yields_asTarget h.grammatical .store ht

end

/-! ## Operators -/

theorem yields_leftAssoc (h : Grammatical S P) (ops : List (String × BinaryOp)) {operand : Reader Parsed}
    (hoperand : Yields S P operand) : Yields S P (leftAssoc ops operand) := by
  refine .skip fun first => .bind hoperand fun left hleft => .loop (fun t ht => .skip fun next => ?_) hleft
  split
  · split
    · exact .skip fun _ => .bind hoperand fun right hright => .map (h.yields rfl (by simp [ht, hright])) (by simp)
    · exact .pure (by simp)
  · exact .pure (by simp)

theorem yields_wordJoined (h : Grammatical S P) (word : String) (op : BoolOp) {operand : Reader Parsed}
    (hoperand : Yields S P operand) : Yields S P (wordJoined word op operand) := by
  refine .skip fun first => .bind hoperand fun head hhead =>
    .bind (.collect hoperand (by simpa using hhead)) fun items hitems => .ite (.pure hhead) ?_
  exact h.yields rfl (by simpa using h.many hitems)

section

variable (h : ReadsExpressions S P self)
include h

theorem yields_term : Yields S P (term self) := yields_leftAssoc h.grammatical _ (h.yields .factor rfl)

theorem yields_bitOr : Yields S P (bitOr self) :=
  have hleft := yields_leftAssoc h.grammatical
  hleft _ (hleft _ (hleft _ (hleft _ (hleft _ (yields_term h)))))

omit h in
instance keeps_compareOp? : Keeps S compareOp? := by
  refine @Keeps.bind _ _ _ _ _ _ fun k => ?_
  split
  · split <;> infer_instance
  all_goals infer_instance

theorem yields_comparison : Yields S P (comparison self) := by
  refine .skip fun first => .bind (h.yields .bitOr rfl) fun left hleft => .bind (.loop ?_ (by simp)) ?_
  · refine fun acc hacc => .skip fun op? => ?_
    split
    · exact .bind (h.yields .bitOr rfl) fun right hright => .pure (by simp [hacc, hright])
    · exact .pure (by simp)
  · intro pairs hpairs
    exact .ite (.pure hleft) (h.grammatical.yields rfl (by
      simpa using ⟨hleft, h.grammatical.many (carries_map_snd hpairs)⟩))

theorem yields_inversion : Yields S P (inversion self) := by
  refine .skip fun first => .skip fun negated => .ite ?_ (yields_comparison h)
  exact .bind (h.yields .inversion rfl) fun t ht => h.grammatical.yields rfl (by simpa using ht)

theorem yields_disjunction : Yields S P (disjunction self) :=
  yields_wordJoined h.grammatical _ _ (yields_wordJoined h.grammatical _ _ (h.yields .inversion rfl))

end

/-! ## Parameters -/

instance : Carries Parameters := ⟨fun P p =>
  (carries P p.positionalOnly ∧ carries P p.positional ∧ P p.vararg) ∧
    (carries P p.keywordOnly ∧ carries P p.keywordDefaults ∧ P p.kwarg) ∧ carries P p.defaults⟩

theorem carries_parameters (p : Parameters) : carries P p ↔
    (carries P p.positionalOnly ∧ carries P p.positional ∧ P p.vararg) ∧
      (carries P p.keywordOnly ∧ carries P p.keywordDefaults ∧ P p.kwarg) ∧ carries P p.defaults :=
  Iff.rfl

omit [Lasting S] in
theorem Grammatical.toTree (h : Grammatical S P) {p : Parameters} (hp : carries P p) : P p.toTree := by
  obtain ⟨⟨hpositionalOnly, hpositional, hvararg⟩, ⟨hkeywordOnly, hkeywordDefaults, hkwarg⟩, hdefaults⟩ := hp
  refine h.unplaced rfl rfl ?_
  simp only [carries_cons, carries_tree, carries_nil, and_true]
  exact ⟨h.many hpositionalOnly, h.many hpositional, hvararg, h.many hkeywordOnly,
    h.many hkeywordDefaults, hkwarg, h.many hdefaults⟩

section

variable (h : ReadsExpressions S P self)
include h

theorem yields_parameter (annotated starHint : Bool) : Yields S P (parameter self annotated starHint) := by
  refine .skip fun first => .skip fun id => .skip fun colon => .ite (.skip fun star => ?_) ?_
  · exact .joined (h.yields .starNamed rfl) (h.yields .expression rfl) fun t ht =>
      h.grammatical.yields rfl (by simpa using ht)
  · exact h.grammatical.yields rfl (by simpa using h.grammatical.absent)

theorem yields_parameterStep (annotated : Bool) {p : Parameters} (hp : carries P p) :
    Yields S P (parameterStep self annotated p) := by
  have hparameter := yields_parameter h annotated
  rw [carries_parameters] at hp
  unfold parameterStep
  refine .first_if fun _ => .skip fun slash => .ite (.first_if fun _ => ?_) ?_
  · exact .pure (by simp [carries_parameters, hp])
  refine .skip fun doubleStar => .ite (.first_if fun _ => .bind (hparameter false) fun a ha => ?_) ?_
  · exact .pure (by simpa [carries_parameters, hp] using ha)
  refine .skip fun star => .ite (.first_if fun _ => .skip fun comma => .ite ?_ ?_) ?_
  · exact .pure (by simp [carries_parameters, hp])
  · exact .bind (hparameter annotated) fun a ha => .pure (by simpa [carries_parameters, hp] using ha)
  refine .bind (hparameter false) fun a ha => .skip fun hasDefault => ?_
  have habsent := h.grammatical.absent
  have hsome : Yields S P (some <$> self .expression) := .map (h.yields .expression rfl) (by simp)
  refine .joined hsome (.pure (by simp)) fun default? hdefault => ?_
  refine .ite (.pure ?_) ?_
  · cases default? <;> simp_all [carries_parameters]
  · cases default? with
    | some d => exact .pure (by simp_all [carries_parameters])
    | none => exact .ite (.pure (by simp_all [carries_parameters])) (.throw _)

theorem yields_parameters (annotated : Bool) (close : Token.Kind) :
    Yields S P (parameters self annotated close) := by
  have habsent := h.grammatical.absent
  refine .bind (.loop (fun p hp => .skip fun next => .ite (.pure (by simp)) ?_) ?_) fun p hp => ?_
  · refine .bind (yields_parameterStep h annotated hp) fun p' hp' => .skip fun next => ?_
    exact .first_unless fun _ => .pure (by simpa using hp')
  · simp [carries_parameters, habsent]
  · exact .first_if fun _ => .pure (h.grammatical.toTree hp)

/-! ## Conditions, functions without name, assignment expressions -/

theorem yields_expression : Yields S P (expression self) := by
  refine .skip fun first => .skip fun lambda => .ite ?_ ?_
  · refine .bind (yields_parameters h false _) fun ps hps => .skip fun _ => ?_
    exact .bind (h.yields .expression rfl) fun body hbody => h.grammatical.yields rfl (by simp_all)
  · refine .bind (h.yields .disjunction rfl) fun body hbody => .skip fun condition => .ite ?_ (.pure hbody)
    refine .bind (h.yields .disjunction rfl) fun test htest => .skip fun _ => ?_
    exact .bind (h.yields .expression rfl) fun other hother => h.grammatical.yields rfl (by simp_all)

theorem yields_named : Yields S P (named self) := by
  refine .skip fun first => .skip fun next => .skip fun second => .ite (.skip fun id => ?_) ?_
  · refine .bind (h.grammatical.yields rfl (by simp)) fun target htarget => .skip fun _ => ?_
    exact .bind (h.yields .expression rfl) fun value hvalue => h.grammatical.yields rfl (by simp_all)
  · exact .bind (h.yields .expression rfl) fun t ht => .skip fun again => .first_if fun _ => .pure ht

/-- A star and what it unpacks, or what stands without a star. -/
theorem yields_starred {operand other : Reader Parsed} (hoperand : Yields S P operand)
    (hother : Yields S P other) :
    Yields S P (do
      let first ← line
      if ← acceptOp "*" then
        let t ← operand
        mk (.starred .load) first [t]
      else other) := by
  refine .skip fun first => .skip fun star => .ite ?_ hother
  exact .bind hoperand fun t ht => h.grammatical.yields rfl (by simpa using ht)

theorem yields_starNamed : Yields S P (starNamed self) := yields_starred h (h.yields .bitOr rfl) (h.yields .named rfl)

omit [Lasting S] in
theorem yields_tupleOr (first : Nat) {items : List Parsed × Bool} (hitems : carries P items) :
    Yields S P (tupleOr first items) := by
  have hitems : carries P items.1 := hitems.1
  unfold tupleOr
  split
  · exact .pure (hitems _ List.mem_cons_self)
  · exact h.grammatical.yields rfl (by simpa using h.grammatical.many hitems)

theorem yields_starExpressions : Yields S P (starExpressions self) :=
  .skip fun first => .bind (.commaList (yields_starred h (h.yields .bitOr rfl) (h.yields .expression rfl)))
    fun _ hitems => yields_tupleOr h first hitems

theorem yields_yieldOrStar : Yields S P (yieldOrStar self) := by
  refine .skip fun first => .skip fun yield => .ite (.skip fun from_ => .ite ?_ ?_) (h.yields .starExpressions rfl)
  · exact .bind (h.yields .expression rfl) fun t ht => h.grammatical.yields rfl (by simpa using ht)
  · refine .skip fun next => .ite ?_ (h.grammatical.yields rfl (by simpa using h.grammatical.absent))
    exact .bind (h.yields .starExpressions rfl) fun t ht => h.grammatical.yields rfl (by simpa using ht)

/-! ## Comprehensions -/

omit h [Lasting S] in
instance keeps_startsClause : Keeps S startsClause := by
  unfold Reader.startsClause
  infer_instance

theorem yields_clause : Yields S P (clause self) := by
  refine .skip fun asynchronous => .skip fun _ => .bind (yields_targets h) fun target htarget => ?_
  refine .skip fun _ => .bind (h.yields .disjunction rfl) fun iter hiter => ?_
  refine .bind (.collect (h.yields .disjunction rfl) (by simp)) fun ifs hifs => .pure ?_
  exact h.grammatical.unplaced rfl rfl (by simp [htarget, hiter, h.grammatical.many hifs])

theorem yields_clauses : Yields S P (clauses self) :=
  .bind (yields_clause h) fun _ hhead =>
    .bind (.collect (yields_clause h) (by simpa using hhead)) fun _ hall => .pure (h.grammatical.many hall)

/-! ## Displays -/

/-- The clauses of a comprehension and its closing token after what the comprehension makes. -/
theorem yields_comprehension {f : Form} {first : Nat} {close : String} {parts : Parsed → List Parsed}
    (hf : f.isCommon) (hparts : ∀ gens, P gens → carries P (parts gens)) :
    Yields S P (do
      let gens ← clauses self
      expectOp close
      mk f first (parts gens)) :=
  .bind (yields_clauses h) fun gens hgens => .skip fun _ => h.grammatical.yields hf (hparts gens hgens)

theorem yields_parenthesised (first : Nat) : Yields S P (parenthesised self first) := by
  refine .skip fun closed => .ite (h.grammatical.yields rfl (by simpa using h.grammatical.many_nil)) ?_
  refine .skip fun yield => .ite (.bind (h.yields .yieldOrStar rfl) fun t ht => .skip fun _ => .pure ht) ?_
  refine .bind (h.yields .starNamed rfl) fun head hhead => .skip fun isFor => .ite (.first_if fun _ => ?_) ?_
  · exact yields_comprehension h rfl fun gens hgens => by simpa using ⟨hhead, hgens⟩
  refine .skip fun comma => .ite (.skip fun _ => .skip fun closed => ?_) ?_
  · refine .joined (.pure (by simp)) (.map (.commaList (h.yields .starNamed rfl)) fun _ hitems => hitems.1) ?_
    intro rest hrest
    exact .skip fun _ => h.grammatical.yields rfl (by simpa using h.grammatical.many (by simp_all))
  · exact .first_if fun _ => .skip fun _ => .pure hhead

theorem yields_bracketed (first : Nat) : Yields S P (bracketed self first) := by
  refine .skip fun closed => .ite (h.grammatical.yields rfl (by simpa using h.grammatical.many_nil)) ?_
  refine .bind (h.yields .starNamed rfl) fun head hhead => .skip fun isFor => .ite (.first_if fun _ => ?_) ?_
  · exact yields_comprehension h rfl fun gens hgens => by simpa using ⟨hhead, hgens⟩
  · refine .bind (.collectItems (h.yields .starNamed rfl) (by simpa using hhead)) fun rest hrest => ?_
    exact .skip fun _ => .skip fun _ => h.grammatical.yields rfl (by simpa using h.grammatical.many hrest)

theorem yields_keyValue : Yields S P (keyValue self) := by
  refine .skip fun unpacked => .ite (.bind (h.yields .bitOr rfl) fun t ht => .pure ⟨h.grammatical.absent, ht⟩) ?_
  refine .bind (h.yields .expression rfl) fun k hk => .skip fun _ => ?_
  exact .bind (h.yields .expression rfl) fun v hv => .pure ⟨hk, hv⟩

theorem yields_mapping (first : Nat) {head : Parsed × Parsed} (hhead : carries P head) :
    Yields S P (mapping self first head) := by
  refine .skip fun isFor => .ite (.first_if fun _ => ?_) ?_
  · exact yields_comprehension h rfl fun gens hgens => by simpa using ⟨hhead.1, hhead.2, hgens⟩
  refine .bind (.loop (fun acc hacc => ?_) (by simpa using hhead)) fun pairs hpairs => ?_
  · refine .skip fun comma => .ite (.skip fun k => .ite (.skip fun _ => ?_) ?_) (.pure (by simp))
    · exact .bind (yields_keyValue h) fun kv hkv => .pure (by simp_all)
    · exact .pure (by simp)
  · refine .skip fun _ => .skip fun _ => h.grammatical.yields rfl ?_
    simpa using ⟨h.grammatical.many (carries_map_fst hpairs), h.grammatical.many (carries_map_snd hpairs)⟩

theorem yields_braced (first : Nat) : Yields S P (braced self first) := by
  have hempty := h.grammatical.many_nil
  refine .skip fun closed => .ite (h.grammatical.yields rfl (by simpa using hempty)) ?_
  refine .skip fun unpacked => .ite (.bind (yields_keyValue h) fun kv hkv => yields_mapping h first hkv) ?_
  refine .skip fun next => .skip fun second => .bind (h.yields .starNamed rfl) fun head hhead => ?_
  refine .skip fun colon => .ite (.bind (h.yields .expression rfl) fun v hv => ?_) ?_
  · exact yields_mapping h first (by simpa using ⟨hhead, hv⟩)
  refine .skip fun isFor => .ite (.first_if fun _ => ?_) ?_
  · exact yields_comprehension h rfl fun gens hgens => by simpa using ⟨hhead, hgens⟩
  · refine .bind (.collectItems (h.yields .starNamed rfl) (by simpa using hhead)) fun rest hrest => ?_
    exact .skip fun _ => .skip fun _ => h.grammatical.yields rfl (by simpa using h.grammatical.many hrest)

theorem yields_atom : Yields S P (atom self) := by
  have hleaf : ∀ {f first}, f.isCommon → Yields S P (Reader.mk f first []) :=
    fun hf => h.grammatical.leaf hf
  refine .skip fun first => .skip fun next => ?_
  split
  · exact .skip fun _ => hleaf rfl
  · exact .skip fun _ => hleaf rfl
  · exact .skip fun _ => hleaf rfl
  · exact .skip fun id => hleaf rfl
  · split
    · exact .skip fun _ => hleaf rfl
    · exact .throw _
  · exact yields_literals h
  · exact .skip fun _ => yields_parenthesised h first
  · exact .skip fun _ => yields_bracketed h first
  · exact .skip fun _ => yields_braced h first
  · exact .skip fun _ => hleaf rfl
  · exact .fault

/-! ## Calls, subscripts, attributes -/

instance : Carries Arguments := ⟨fun P a => carries P a.args ∧ carries P a.keywords⟩

omit h in
theorem carries_arguments (a : Arguments) :
    carries P a ↔ carries P a.args ∧ carries P a.keywords := Iff.rfl

theorem yields_argument {a : Arguments} (ha : carries P a) : Yields S P (argument self a) := by
  obtain ⟨hargs, hkeywords⟩ := ha
  have hkeyword : ∀ {name first t}, P t → Yields S P (Reader.mk (.keyword name) first [t]) :=
    fun ht => h.grammatical.yields rfl (by simpa using ht)
  refine .skip fun first => .skip fun doubleStar => .ite (.bind (h.yields .expression rfl) fun t ht => ?_) ?_
  · exact .bind (hkeyword ht) fun k hk => .pure (by simpa [carries_arguments, hargs, hkeywords] using hk)
  refine .skip fun star => .ite (.first_if fun _ => .bind (h.yields .expression rfl) fun t ht => ?_) ?_
  · refine .bind (h.grammatical.yields rfl (by simpa using ht)) fun s hs => .pure ?_
    simpa [carries_arguments, hargs, hkeywords] using hs
  refine .skip fun next => .skip fun second => .ite (.skip fun id => .skip fun _ => ?_) ?_
  · refine .bind (h.yields .expression rfl) fun t ht => .bind (hkeyword ht) fun k hk => .pure ?_
    simpa [carries_arguments, hargs, hkeywords] using hk
  · refine .bind (h.yields .named rfl) fun t ht => .first_if fun _ => .pure ?_
    simpa [carries_arguments, hargs, hkeywords] using ht

theorem yields_callArguments {a : Arguments} (ha : carries P a) : Yields S P (callArguments self a) := by
  refine .bind (.loop (fun a ha => .skip fun closed => .ite (.pure (by simp)) ?_) ha) fun a ha => ?_
  · refine .bind (yields_argument h ha) fun a ha => .skip fun closed => ?_
    exact .first_unless fun _ => .pure (by simpa using ha)
  · exact .skip fun _ => .pure ha

theorem yields_callOf (first : Nat) {f : Parsed} (hf : P f) : Yields S P (callOf self first f) := by
  have hcall : ∀ {args keywords}, carries P args → carries P keywords →
      Yields S P (Reader.mk .call first [f, many args, many keywords]) := fun hargs hkeywords =>
    h.grammatical.yields rfl (by simpa using ⟨hf, h.grammatical.many hargs, h.grammatical.many hkeywords⟩)
  refine .skip fun c => .skip fun next => .skip fun second => .skip fun third => .ite ?_ ?_
  · refine .bind (h.yields .named rfl) fun head hhead => .skip fun isFor => .ite ?_ ?_
    · refine .bind (yields_clauses h) fun gens hgens => .skip fun _ => ?_
      refine .bind (h.grammatical.yields rfl (by simpa using ⟨hhead, hgens⟩)) fun g hg => ?_
      exact hcall (by simpa using hg) (by simp)
    · refine .skip fun closed => .first_unless fun _ => ?_
      refine .bind (yields_callArguments h (by simpa [carries_arguments] using hhead)) fun a ha => ?_
      exact hcall ha.1 ha.2
  · refine .bind (yields_callArguments h (by simp [carries_arguments])) fun a ha => ?_
    exact hcall ha.1 ha.2

omit [Lasting S] in
theorem yields_bound : Yields S P (bound self) :=
  .skip fun _ => .ite (h.yields .expression rfl) (.pure h.grammatical.absent)

theorem yields_sliceItem : Yields S P (sliceItem self) := by
  have habsent := h.grammatical.absent
  refine .skip fun first => .skip fun star => .ite (.bind (h.yields .expression rfl) fun t ht => ?_) ?_
  · exact h.grammatical.yields rfl (by simpa using ht)
  refine .skip fun next => .skip fun second => .skip fun colon => ?_
  refine .joined (.pure habsent) (h.yields .named rfl) fun lower hlower => .skip fun slice => ?_
  refine .ite (.bind (yields_bound h) fun upper hupper => .skip fun stepped => ?_) (.pure hlower)
  refine .joined (yields_bound h) (.pure habsent) fun step hstep => ?_
  exact h.grammatical.yields rfl (by simpa using ⟨hlower, hupper, hstep⟩)

theorem yields_subscriptOf (first : Nat) {t : Parsed} (ht : P t) : Yields S P (subscriptOf self first t) := by
  refine .skip fun inner => .bind (.commaList (yields_sliceItem h)) ?_
  rintro ⟨items, comma⟩ ⟨hitems, -⟩
  have htuple : Yields S P (Reader.mk (.tuple .load) inner [many items]) :=
    h.grammatical.yields rfl (by simpa using h.grammatical.many hitems)
  have hfinish : ∀ index, P index → Yields S P (do
      expectOp "]"
      Reader.mk (.subscript .load) first [t, index]) := fun index hindex =>
    .skip fun _ => h.grammatical.yields rfl (by simpa using ⟨ht, hindex⟩)
  dsimp only
  split
  · exact .joined htuple (.pure (hitems _ List.mem_cons_self)) hfinish
  · exact .bind htuple hfinish

theorem yields_primary : Yields S P (primary self) := by
  refine .skip fun first => .bind (yields_atom h) fun head hhead => .loop (fun t ht => ?_) hhead
  refine h.grammatical.yields_member first ht (.skip fun paren => .ite ?_ ?_)
  · exact .map (yields_callOf h first ht) (by simp)
  exact .skip fun bracket => .ite (.map (yields_subscriptOf h first ht) (by simp)) (.pure (by simp))

theorem yields_awaited : Yields S P (awaited self) := by
  refine .skip fun first => .skip fun awaits => .ite (.bind (yields_primary h) fun t ht => ?_) (yields_primary h)
  exact h.grammatical.yields rfl (by simpa using ht)

theorem yields_factor : Yields S P (factor self) := by
  have hsigned : ∀ (op : UnaryOp) (first : Nat), Yields S P (do
      advance
      let t ← self .factor
      Reader.mk (.unaryOp op) first [t]) := fun op first =>
    .skip fun _ => .bind (h.yields .factor rfl) fun t ht => h.grammatical.yields rfl (by simpa using ht)
  refine .skip fun first => .skip fun next => ?_
  split
  · exact hsigned .plus first
  · exact hsigned .minus first
  · exact hsigned .invert first
  · refine .bind (yields_awaited h) fun base hbase => .skip fun power => .ite ?_ (.pure hbase)
    exact .bind (h.yields .factor rfl) fun e he => h.grammatical.yields rfl (by simpa using ⟨hbase, he⟩)

end

end ErrorTrail.Syntax
