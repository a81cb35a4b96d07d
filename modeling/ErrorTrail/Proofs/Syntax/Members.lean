import ErrorTrail.Proofs.Syntax.Parsed
import ErrorTrail.Proofs.Syntax.Template
import ErrorTrail.Proofs.Syntax.Token.Lines

/-!
# Names after points

In a text, tokens are read of the text itself and of the expressions in its templates (`ReadsAs`). Where a
name stands after a point among them, it stands there in the text (`HasMember.standsOn`), one line further
down if a line is put above the text (`hasMember_header`). In a parsed tree every attribute ends on a line on
which its word stands after a point (`hasMember_parseFile`).
-/

namespace ErrorTrail.Syntax

open Carries Reader SyntaxTree

/-! ## Tokens of a text -/

/-- The lists of tokens that are read in a text: its own, and those of each expression in a template. -/
inductive ReadsAs (source : String) : List Token → Prop
  | whole : ReadsAs source (Token.scan source)
  | within {ts l first last line cs} : ReadsAs source ts → ⟨.literal l, first, last⟩ ∈ ts → l.has 'f' →
      l.HasExpression line cs → ReadsAs source (Token.scanWithin line ('(' :: cs ++ [')', '\n']))

/-- A name stands after a point on a line of a text. -/
def HasMember (source name : String) (line : Nat) : Prop :=
  ∃ before point word after w, ReadsAs source (before ++ point :: word :: after) ∧
    point.kind = .op "." ∧ word.kind = .name w ∧ Text.composed w = name ∧ word.last = line

/-! ## Where they stand -/

/-- A spelling of a name stands on a line of a text, which are counted from one. -/
def StandsOn (text : List Char) (name : String) (line : Nat) : Prop :=
  ∃ before w after, text = before ++ w.toList ++ after ∧ Text.composed w = name ∧
    line = 1 + Token.countLines before

namespace Token

variable {start : Nat} {t : Token} {text cs : List Char}

theorem StandsIn.before (h : t.StandsIn start text) (after : List Char) : t.StandsIn start (text ++ after) := by
  unfold StandsIn at h ⊢
  split at h
  · obtain ⟨before, rest, rfl, hname⟩ := h
    exact ⟨before, rest ++ after, by simp, hname⟩
  · obtain ⟨before, q, rest, rfl, hliteral⟩ := h
    exact ⟨before, q, rest ++ after, by simp, hliteral⟩
  · trivial

/-- A piece that neither begins nor ends like the brackets around a text is a piece of the text. -/
theorem piece_of_brackets {piece before after : List Char} (h : '(' :: cs ++ [')', '\n'] = before ++ piece ++ after)
    (hpiece : piece ≠ []) (hhead : piece.head? ≠ some '(') (hparen : piece.getLast? ≠ some ')')
    (hbreak : piece.getLast? ≠ some '\n') :
    ∃ before' after', cs = before' ++ piece ++ after' ∧ countLines before = countLines before' := by
  obtain _ | ⟨c, before'⟩ := before
  · obtain ⟨c, rest, rfl⟩ := List.exists_cons_of_ne_nil hpiece
    obtain rfl : '(' = c := by simpa using congrArg List.head? h
    exact absurd rfl hhead
  · have hcs : cs ++ [')', '\n'] = (before' ++ piece) ++ after := by simpa using congrArg List.tail h
    obtain rfl : '(' = c := by simpa using congrArg List.head? h
    have hlines : countLines ('(' :: before') = countLines before' := List.count_cons_of_ne (by decide)
    obtain ⟨close, hfront, hclose⟩ | ⟨after', hfront, -⟩ := List.append_eq_append_iff.1 hcs
    · -- what of the brackets is in the piece would be its end
      have hlast : piece.getLast? = close.getLast?.or cs.getLast? := by
        have := congrArg List.getLast? hfront
        rwa [List.getLast?_append_of_ne_nil _ hpiece, List.getLast?_append] at this
      obtain _ | ⟨c, _ | ⟨d, rest⟩⟩ := close
      · exact ⟨before', [], by simpa using hfront.symm, hlines⟩
      · obtain rfl : ')' = c := by simpa using congrArg List.head? hclose
        exact absurd hlast hparen
      · obtain ⟨rfl, rfl, rfl, rfl⟩ : ')' = c ∧ '\n' = d ∧ rest = [] ∧ after = [] := by simpa using hclose
        exact absurd hlast hbreak
    · exact ⟨before', after', hfront, hlines⟩

/-- What stands in brackets around a text stands in the text. -/
theorem StandsIn.of_brackets (h : t.StandsIn start ('(' :: cs ++ [')', '\n'])) : t.StandsIn start cs := by
  unfold StandsIn at h ⊢
  split at h
  · next w _ =>
    obtain ⟨before, after, heq, hfirst, hlast, hne, hparts⟩ := h
    have hpart : ∀ {c}, isNamePart c = false → w.toList.head? ≠ some c ∧ w.toList.getLast? ≠ some c := fun hc =>
      ⟨fun hhead => ne_of_isNamePart (hparts _ (List.mem_of_mem_head? hhead)) hc rfl,
        fun hlast => ne_of_isNamePart (hparts _ (List.mem_of_getLast? hlast)) hc rfl⟩
    obtain ⟨before', after', hcs, hlines⟩ :=
      piece_of_brackets heq hne (hpart rfl).1 (hpart rfl).2 (hpart rfl).2
    exact ⟨before', after', hcs, hlines ▸ hfirst, hlast, hne, hparts⟩
  · next l _ =>
    obtain ⟨before, q, after, heq, hline, hq⟩ := h
    have hquote : ∀ {c}, isQuote c = false → (q :: l.body ++ [q]).head? ≠ some c ∧
        (q :: l.body ++ [q]).getLast? ≠ some c := fun hc => by
      have hne := ne_of_isQuote hq hc
      simp [hne, List.getLast?_cons]
    obtain ⟨before', after', hcs, hlines⟩ :=
      piece_of_brackets heq (by simp) (hquote rfl).1 (hquote rfl).2 (hquote rfl).2
    exact ⟨before', q, after', hcs, hlines ▸ hline, hq⟩
  · trivial

end Token

/-- Names and literals that are read in a text stand in it, on the lines that their tokens tell. -/
theorem ReadsAs.standsIn {source : String} {ts : List Token} (h : ReadsAs source ts) :
    ∀ t ∈ ts, t.StandsIn 1 (Token.normalLines source.toList) := by
  induction h with
  | whole => exact Token.standsIn_scanFrom _ _ _
  | @within ts l first last line cs _ hl _ hexpression ih =>
    intro t ht
    have hcs : t.StandsIn line cs := (Token.standsIn_scanFrom _ _ _ t ht).of_brackets
    obtain ⟨before, after, hbody, hline⟩ := hexpression.body_eq
    obtain ⟨outside, q, rest, htext, hfirst, hq⟩ := ih _ hl
    have hpiece : Token.normalLines source.toList = (outside ++ q :: before) ++ cs ++ (after ++ q :: rest) := by
      rw [htext, hbody]
      simp
    have hquote : Token.countLines (outside ++ q :: before) = Token.countLines outside + Token.countLines before := by
      rw [Token.countLines_append]
      exact congrArg _ (List.count_cons_of_ne (Token.ne_of_isQuote hq rfl))
    rw [hpiece]
    refine (Token.StandsIn.behind ?_).before _
    rw [hquote, ← Nat.add_assoc, ← hfirst, ← hline]
    exact hcs

variable {source name : String} {line : Nat}

/-- A name after a point stands in the text. -/
theorem HasMember.standsOn (h : HasMember source name line) :
    StandsOn (Token.normalLines source.toList) name line := by
  obtain ⟨_, _, word, _, w, hread, _, hword, rfl, rfl⟩ := h
  have hstands := hread.standsIn word (by simp)
  rw [Token.StandsIn, hword] at hstands
  obtain ⟨before, after, htext, hfirst, hlast, -⟩ := hstands
  exact ⟨before, w, after, htext, rfl, hlast.trans hfirst⟩

/-- The line of a name after a point is positive. -/
theorem HasMember.pos (h : HasMember source name line) : 0 < line := by
  obtain ⟨before, w, after, -, -, rfl⟩ := h.standsOn
  omega

/-! ## Under a line -/

namespace Literal

variable {l : Literal} {k : Nat} {cs : List Char}

theorem Comes.of_down {part : TemplatePart} (h : (l.down k).Comes part line cs) :
    ∃ line', line = line' + k ∧ l.Comes part line' cs := by
  induction h with
  | start => exact ⟨l.line, rfl, .start⟩
  | doubled _ htext ih =>
    obtain ⟨line', rfl, hcomes⟩ := ih
    exact ⟨_, Nat.add_right_comm _ _ _, hcomes.doubled htext⟩
  | field _ htext ih =>
    obtain ⟨line', rfl, hcomes⟩ := ih
    exact ⟨_, Nat.add_right_comm _ _ _, hcomes.field htext⟩
  | format _ hsource hconversion ih =>
    obtain ⟨line', rfl, hcomes⟩ := ih
    exact ⟨_, Nat.add_right_comm _ _ _, hcomes.format hsource hconversion⟩
  | value _ hsource hconversion ih =>
    obtain ⟨line', rfl, hcomes⟩ := ih
    exact ⟨_, Nat.add_right_comm _ _ _, hcomes.value hsource hconversion⟩
  | formatted _ htext ih =>
    obtain ⟨line', rfl, hcomes⟩ := ih
    exact ⟨_, Nat.add_right_comm _ _ _, hcomes.formatted htext⟩

theorem HasExpression.of_down (h : (l.down k).HasExpression line cs) :
    ∃ line', line = line' + k ∧ l.HasExpression line' cs := by
  obtain ⟨n, inner, after, hcomes, hsource⟩ := h
  obtain ⟨line', rfl, hcomes'⟩ := hcomes.of_down
  exact ⟨line', rfl, n, inner, after, hcomes', hsource⟩

end Literal

/-- Under a line that opens a block, a block is read as it is alone, one line further down. -/
theorem ReadsAs.of_header {block : String} {body : List Char} (hblock : block.toList = body ++ ['\n'])
    (hreturn : '\r' ∉ body) {ts : List Token} (h : ReadsAs ("if True:\n" ++ block) ts) :
    ∃ front ts', ts = front ++ ts'.map (Token.down 1) ∧ ReadsAs block ts' ∧ front ⊆ Token.headerTokens := by
  induction h with
  | whole => exact ⟨Token.headerTokens, _, Token.scan_header hblock hreturn, .whole, List.Subset.refl _⟩
  | @within ts l first last line cs _ hl hf hexpression ih =>
    obtain ⟨front, ts', rfl, hread, hfront⟩ := ih
    have hl' : ⟨.literal l, first, last⟩ ∈ ts'.map (Token.down 1) := by
      refine (List.mem_append.1 hl).resolve_left fun hmem => ?_
      simpa [Token.headerTokens] using hfront hmem
    obtain ⟨⟨kind, first', last'⟩, hmem, heq⟩ := List.mem_map.1 hl'
    obtain ⟨l', rfl, rfl⟩ := Token.Kind.down_eq_literal (congrArg Token.kind heq)
    obtain ⟨line', rfl, hexpression'⟩ := hexpression.of_down
    exact ⟨[], _, Token.scanWithin_down line' _, .within hread hmem hf hexpression', List.nil_subset _⟩

/-- A name after a point under a line that opens a block stands after a point of the block, one line further
up. -/
theorem hasMember_header {block : String} {body : List Char} (hblock : block.toList = body ++ ['\n'])
    (hreturn : '\r' ∉ body) (h : HasMember ("if True:\n" ++ block) name line) :
    ∃ n, line = n + 1 ∧ HasMember block name n := by
  obtain ⟨before, point, word, after, w, hread, hpoint, hword, hname, rfl⟩ := h
  obtain ⟨front, ts, heq, hread', hfront⟩ := hread.of_header hblock hreturn
  have hnot : point ∉ front := fun hmem => by
    have := hfront hmem
    simp only [Token.headerTokens, List.mem_cons, List.not_mem_nil, or_false] at this
    obtain rfl | rfl | rfl | rfl := this <;> simp at hpoint
  have hsplit : ∃ before', ts.map (Token.down 1) = before' ++ point :: word :: after := by
    obtain ⟨_ | ⟨t, rest⟩, hbefore, hafter⟩ | ⟨before', -, hbefore⟩ := List.append_eq_append_iff.1 heq
    · exact ⟨[], hafter.symm⟩
    · obtain rfl : point = t := (List.cons.inj hafter).1
      exact absurd (by simp [hbefore]) hnot
    · exact ⟨before', hbefore⟩
  obtain ⟨before', hmap⟩ := hsplit
  obtain ⟨ts₁, ts₂, rfl, -, hmap⟩ := List.map_eq_append_iff.1 hmap
  obtain ⟨point', ts₃, rfl, hpoint', hmap⟩ := List.map_eq_cons_iff.1 hmap
  obtain ⟨word', ts₄, rfl, rfl, -⟩ := List.map_eq_cons_iff.1 hmap
  subst hpoint'
  refine ⟨word'.last, rfl, ts₁, point', word', ts₄, w, hread', ?_, ?_, hname, rfl⟩
  · exact Token.Kind.down_eq_op.1 hpoint
  · exact Token.Kind.down_eq_name.1 hword

/-! ## Attributes -/

/-- The tokens to come are the last of those that are read in a text. -/
def IsWithin (source : String) (c : Cursor) : Prop := ∃ before, ReadsAs source (before ++ c.rest)

instance lasting_isWithin (source : String) : Lasting (IsWithin source) where
  advance := by
    rintro t ts last ⟨before, hread⟩
    exact ⟨before ++ [t], by simpa using hread⟩
  offers := by
    rintro l first stop ts last ⟨before, hread⟩ hf line cs hexpression
    exact ⟨[], .within hread (List.mem_append_right _ List.mem_cons_self) hf hexpression⟩

/-- Every node that has a place of its own knows its lines, and every attribute ends on a line on which its
word stands after a point. -/
structure IsMemberTree (source : String) (t : Parsed) : Prop where
  isPlaced : t.isPlaced
  hasMember : ∀ s ∈ t.subtrees, ∀ attr ctx, s.form = .attribute attr ctx →
    ∃ first last, s.ann = some (first, last) ∧ HasMember source attr last

theorem isMemberTree_node {f : Form} {a : Extent} {cs : List Parsed} (hplace : f.hasPlace → a.isSome)
    (hattr : ∀ attr ctx, f = .attribute attr ctx → ∃ first last, a = some (first, last) ∧ HasMember source attr last)
    (hcs : carries (IsMemberTree source) cs) : IsMemberTree source (.node f a cs) where
  isPlaced := isPlaced_node.2 ⟨hplace, fun c hc => (hcs c hc).isPlaced⟩
  hasMember s hs := by
    rw [subtrees_node, List.mem_cons, List.mem_flatMap] at hs
    obtain rfl | ⟨c, hc, hs⟩ := hs
    · exact hattr
    · exact (hcs c hc).hasMember s hs

theorem grammatical_isMemberTree (source : String) : Grammatical (IsWithin source) (IsMemberTree source) where
  node hf hplace hcs := isMemberTree_node hplace (by rintro attr ctx rfl; cases hf) hcs
  member := by
    rintro first point word ts last w t ⟨before, hread⟩ hpoint hword ht
    refine isMemberTree_node (fun _ => rfl) ?_ (by simpa using ht)
    rintro _ _ ⟨⟩
    exact ⟨first, word.last, rfl, before, point, word, ts, w, hread, hpoint, hword, rfl, rfl⟩
  context h := isMemberTree_node (isPlaced_node.1 h.isPlaced).1
    (by rintro _ _ ⟨⟩; exact h.hasMember _ (self_mem_subtrees _) _ _ rfl)
    fun c hc => ⟨(isPlaced_node.1 h.isPlaced).2 c hc,
      fun s hs => h.hasMember s (mem_subtrees_of_mem hc hs)⟩
  children h c hc := ⟨(isPlaced_node.1 h.isPlaced).2 c hc, fun s hs => h.hasMember s (mem_subtrees_of_mem hc hs)⟩
  place h := (isPlaced_node.1 h.isPlaced).1

/-- The rules of the grammar read such trees, however deep they may nest. -/
theorem readsMembers_read (source : String) (n : Nat) :
    ReadsRules (IsWithin source) (IsMemberTree source) (Rule.read n) := by
  refine ⟨grammatical_isMemberTree source, ?_⟩
  induction n with
  | zero => exact fun _ => .throw _
  | succ n ih =>
    have h : ReadsRules (IsWithin source) (IsMemberTree source) (Rule.read n) := ⟨grammatical_isMemberTree source, ih⟩
    have hdefinition : ∀ {f a cs}, isDefinitionForm f → Option.isSome a → carries (IsMemberTree source) cs →
        IsMemberTree source (.node f a cs) := fun hf ha hcs =>
      isMemberTree_node (fun _ => ha) (by rintro _ _ rfl; cases hf) hcs
    have hdecorated : Yields (IsWithin source) (IsMemberTree source) (decorated (Rule.read n)) := by
      refine yields_decorated h.expressions (fun first decorators hdecorators => ?_)
        fun first asynchronous decorators hdecorators => ?_
      · exact yields_classRest h first hdecorators fun ha hcs => hdefinition rfl ha hcs
      · refine yields_functionRest h.expressions (ih .block) first asynchronous fun ha hargs hbody hreturns => ?_
        exact hdefinition rfl ha (by simpa using ⟨hargs, hbody, h.grammatical.many hdecorators, hreturns⟩)
    intro r
    by_cases hr : r.isExpression
    · exact yields_step h.expressions r hr
    · cases r with
      | statement => exact yields_statement h hdecorated
      | block => exact yields_block h
      | _ => exact absurd rfl hr

/-- In a parsed text every attribute ends on a line on which its word stands after a point. -/
theorem isMemberTree_parseLines {t : Parsed} (h : parseLines source = .ok t) : IsMemberTree source t :=
  of_parseLines (readsMembers_read source _) ⟨[], .whole⟩ h

/-- In a parsed file the word of every propagation expression is on a line where it stands after a point. -/
theorem hasMember_parseFile {t p : SyntaxTree Span} (h : parseFile source = .ok t) (hp : p ∈ t.subtrees)
    {word : Span} {r : SyntaxTree Span} (hsite : p.propagation? = some (word, r)) :
    ∃ n : Nat, word.stop = some ↑n ∧ HasMember source propagateWord n := by
  obtain ⟨t', hlines, rfl⟩ := exists_parseLines h
  obtain ⟨call, ctx, args, named, rfl⟩ := eq_site_of_propagation? hsite
  have hattr : node (.attribute propagateWord ctx) word [r] ∈ (t'.map Span.ofExtent).subtrees :=
    mem_subtrees_trans (mem_subtrees_of_mem List.mem_cons_self (self_mem_subtrees _)) hp
  rw [subtrees_map] at hattr
  obtain ⟨s, hs, heq⟩ := List.mem_map.1 hattr
  have hform : s.form = .attribute propagateWord ctx := by
    rw [← form_map Span.ofExtent s, heq, form_node]
  obtain ⟨first, last, hann, hmember⟩ := (isMemberTree_parseLines hlines).hasMember s hs _ _ hform
  obtain rfl : Span.ofExtent s.ann = word := by
    rw [← ann_map Span.ofExtent s, heq, ann_node]
  exact ⟨last, by rw [hann]; rfl, hmember⟩

end ErrorTrail.Syntax
