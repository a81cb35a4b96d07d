import ErrorTrail.Proofs.Site.Visit
import ErrorTrail.Proofs.Syntax.Grammar.Statement

/-!
# Parsed trees

Every node of a parsed tree that has a place knows its lines (`isPlaced`), and functions stand only in the
bodies of files, statements and definitions (`definesInBodies`). This is proved of all rules of the grammar
at once, by induction on how deep they nest (`readsKinds_read`): an expression, a target or a pattern
defines nothing at all, a block is a sequence, and so a function has the parts of one.

So in a parsed file every propagation expression has a line (`isLocated_parseFile`).
-/

namespace ErrorTrail.Syntax

open Carries Reader SyntaxTree

namespace SyntaxTree

/-- Whether every node that has a place of its own knows its lines. -/
def isPlaced (t : Parsed) : Bool := t.subtrees.all fun s => !s.form.hasPlace || s.ann.isSome

theorem isPlaced_node {f : Form} {a : Extent} {cs : List Parsed} :
    isPlaced (node f a cs) ↔ (f.hasPlace → a.isSome) ∧ ∀ c ∈ cs, c.isPlaced := by
  simp only [isPlaced, subtrees_node, List.all_cons, List.all_flatMap, Bool.and_eq_true,
    List.all_eq_true, form_node, ann_node]
  cases f.hasPlace <;> simp

end SyntaxTree

/-- Trees of expressions, targets and patterns. -/
structure IsExpressionTree (t : Parsed) : Prop where
  definesNothing : t.definesNothing
  isPlaced : t.isPlaced

/-- Trees of files and statements, and of their parts. -/
structure IsProgramTree (t : Parsed) : Prop where
  definesInBodies : t.definesInBodies
  isPlaced : t.isPlaced

theorem grammatical_isExpressionTree : Grammatical anywhere IsExpressionTree :=
  .of_node
    (fun hf hplace hcs => ⟨definesNothing_node.2 ⟨hf, fun c hc => (hcs c hc).definesNothing⟩,
      isPlaced_node.2 ⟨hplace, fun c hc => (hcs c hc).isPlaced⟩⟩)
    (fun h c hc => ⟨(definesNothing_node.1 h.definesNothing).2 c hc, (isPlaced_node.1 h.isPlaced).2 c hc⟩)
    fun h => (isPlaced_node.1 h.isPlaced).1

theorem grammatical_isProgramTree : Grammatical anywhere IsProgramTree :=
  .of_node
    (fun hf hplace hcs => ⟨definesInBodies_node.2 ⟨hasParts_other (Bool.or_eq_false_iff.1 hf).1,
      fun c hc => (hcs c hc).definesInBodies⟩, isPlaced_node.2 ⟨hplace, fun c hc => (hcs c hc).isPlaced⟩⟩)
    (fun h c hc => ⟨(definesInBodies_node.1 h.definesInBodies).2 c hc, (isPlaced_node.1 h.isPlaced).2 c hc⟩)
    fun h => (isPlaced_node.1 h.isPlaced).1

theorem IsExpressionTree.isProgramTree {t : Parsed} (h : IsExpressionTree t) : IsProgramTree t :=
  ⟨definesInBodies_of_definesNothing h.definesNothing, h.isPlaced⟩

/-- The rules of expressions, targets and patterns. -/
theorem yields_step {S : Cursor → Prop} [Lasting S] {P : Parsed → Prop} {self : Rule → Reader Parsed}
    (h : ReadsExpressions S P self) (r : Rule) (hr : r.isExpression) : Yields S P (Rule.step self r) := by
  cases r with
  | expression => exact yields_expression h
  | disjunction => exact yields_disjunction h
  | inversion => exact yields_inversion h
  | bitOr => exact yields_bitOr h
  | factor => exact yields_factor h
  | named => exact yields_named h
  | starNamed => exact yields_starNamed h
  | starExpressions => exact yields_starExpressions h
  | yieldOrStar => exact yields_yieldOrStar h
  | target => exact yields_target h (yields_awaited h)
  | pattern => exact yields_pattern h
  | statement => cases hr
  | block => cases hr

/-! ## Definitions -/

/-- A block is a sequence of statements. -/
structure IsBlock (t : Parsed) : Prop extends IsProgramTree t where
  form : t.form = .sequence

theorem isProgramTree_function {asynchronous : Bool} {name : String} {a : Extent} {args body returns : Parsed}
    {decorators : List Parsed} (ha : a.isSome) (hargs : IsExpressionTree args) (hbody : IsBlock body)
    (hdecorators : carries IsExpressionTree decorators) (hreturns : IsExpressionTree returns) :
    IsProgramTree (node (.functionDef asynchronous name) a [args, body, many decorators, returns]) := by
  obtain ⟨f, b, cs⟩ := body
  obtain rfl : f = .sequence := hbody.form
  have hchildren : ∀ c ∈ [args, node .sequence b cs, many decorators, returns], IsProgramTree c := by
    have hmany := grammatical_isExpressionTree.many hdecorators
    simp [hargs.isProgramTree, hbody.toIsProgramTree, hmany.isProgramTree, hreturns.isProgramTree]
  refine ⟨definesInBodies_node.2 ⟨?_, fun c hc => (hchildren c hc).definesInBodies⟩,
    isPlaced_node.2 ⟨fun _ => ha, fun c hc => (hchildren c hc).isPlaced⟩⟩
  simp only [many, hasParts, Bool.and_eq_true, List.all_eq_true]
  exact ⟨⟨hargs.definesNothing, fun d hd => (hdecorators d hd).definesNothing⟩, hreturns.definesNothing⟩

theorem isProgramTree_class {name : String} {a : Extent} {cs : List Parsed} (ha : a.isSome)
    (hcs : carries IsProgramTree cs) : IsProgramTree (node (.classDef name) a cs) :=
  ⟨definesInBodies_node.2 ⟨hasParts_other rfl, fun c hc => (hcs c hc).definesInBodies⟩,
    isPlaced_node.2 ⟨fun _ => ha, fun c hc => (hcs c hc).isPlaced⟩⟩

/-- Each rule is read as trees of its kind. -/
structure ReadsKinds (read : Rule → Reader Parsed) : Prop where
  expressions : ∀ r, r.isExpression → Yields anywhere IsExpressionTree (read r)
  statement : Yields anywhere IsProgramTree (read .statement)
  block : Yields anywhere IsBlock (read .block)

variable {self : Rule → Reader Parsed}

section

variable (h : ReadsKinds self)
include h

theorem ReadsKinds.readsExpressions : ReadsExpressions anywhere IsExpressionTree self :=
  ⟨grammatical_isExpressionTree, h.expressions⟩

theorem ReadsKinds.readsRules : ReadsRules anywhere IsProgramTree self := by
  refine ⟨grammatical_isProgramTree, fun r => ?_⟩
  by_cases hr : r.isExpression
  · exact (h.expressions r hr).mono fun t ht => ht.isProgramTree
  · cases r with
    | statement => exact h.statement
    | block => exact h.block.mono fun t ht => ht.toIsProgramTree
    | _ => exact absurd rfl hr

/-- Definitions have the parts of one. -/
theorem isProgramTree_decorated : Yields anywhere IsProgramTree (decorated self) := by
  refine yields_decorated h.readsExpressions (fun first decorators hdecorators => ?_)
    fun first asynchronous decorators hdecorators => ?_
  · exact yields_classRest h.readsRules first (fun d hd => (hdecorators d hd).isProgramTree) isProgramTree_class
  · exact yields_functionRest h.readsExpressions h.block first asynchronous fun ha hargs hbody hreturns =>
      isProgramTree_function ha hargs hbody hdecorators hreturns

/-! ## Rules -/

theorem isBlock_block : Yields anywhere IsBlock (block self) := by
  have hline : Yields anywhere (fun t => t.form = .sequence) (simpleStatements self) :=
    .skip fun _ => .skip fun _ => .skip fun _ => .pure rfl
  have hsequence : Yields anywhere (fun t => t.form = .sequence) (block self) := by
    refine .skip fun newline => .ite (.skip fun next => ?_) hline
    split
    · exact .throw _
    · exact .skip fun _ => .skip fun _ => .skip fun _ => .pure rfl
    · exact .throw _
  exact fun c t c' hc hr => ⟨hc, (yields_block h.readsRules c t c' hc hr).2, (hsequence c t c' hc hr).2⟩

theorem readsKinds_step : ReadsKinds (Rule.step self) where
  expressions := yields_step h.readsExpressions
  statement := yields_statement h.readsRules (isProgramTree_decorated h)
  block := isBlock_block h

end

/-- The kinds of the trees that are read, however deep rules may nest. -/
theorem readsKinds_read (n : Nat) : ReadsKinds (Rule.read n) := by
  induction n with
  | zero => exact ⟨fun _ _ => .throw _, .throw _, .throw _⟩
  | succ n ih => exact readsKinds_step ih

/-! ## Files -/

/-- A parsed file has a property that its rules read trees with. -/
theorem of_parseLines {S : Cursor → Prop} [Lasting S] {P : Parsed → Prop} {source : String} {t : Parsed}
    (hrules : ReadsRules S P (Rule.read (depthBound source))) (hstart : S ⟨Token.scan source, 1⟩)
    (h : parseLines source = .ok t) : P t := by
  have hreader : Yields S P (fileReader (depthBound source)) := by
    refine .bind (yields_statements hrules) fun body hbody => .skip fun _ => .pure ?_
    exact hrules.grammatical.unplaced rfl rfl (by simpa using hrules.grammatical.many hbody)
  rw [parseLines, readWith] at h
  rcases hread : fileReader (depthBound source) ⟨Token.scan source, 1⟩ with e | ⟨t', c⟩
  · rw [hread] at h
    cases h
  · rw [hread] at h
    cases h
    exact (hreader _ _ _ hstart hread).2

theorem isProgramTree_parseLines {source : String} {t : Parsed} (h : parseLines source = .ok t) :
    IsProgramTree t :=
  of_parseLines (readsKinds_read (depthBound source)).readsRules trivial h

/-- A parsed file is a tree that was read, with spans in the place of extents. -/
theorem exists_parseLines {source : String} {t : SyntaxTree Span} (h : parseFile source = .ok t) :
    ∃ t', parseLines source = .ok t' ∧ t = t'.map Span.ofExtent := by
  rw [parseFile] at h
  rcases hlines : parseLines source with e | t'
  · rw [hlines] at h
    cases h
  · rw [hlines] at h
    cases h
    exact ⟨t', rfl, rfl⟩

theorem exists_of_parseFile {source : String} {t : SyntaxTree Span} (h : parseFile source = .ok t) :
    ∃ t', IsProgramTree t' ∧ t = t'.map Span.ofExtent := by
  obtain ⟨t', hlines, rfl⟩ := exists_parseLines h
  exact ⟨t', isProgramTree_parseLines hlines, rfl⟩

/-- A file is read where a check of its tree succeeds. -/
theorem exists_of_map_parseFile {source : String} {holds : SyntaxTree Span → Bool}
    (h : (parseFile source).map holds = .ok true) : ∃ t, parseFile source = .ok t ∧ holds t := by
  rcases hparse : parseFile source with e | t
  · rw [hparse] at h
    cases h
  · rw [hparse] at h
    exact ⟨t, rfl, Except.ok.inj h⟩

/-- In a parsed file functions and classes stand only in bodies. -/
theorem definesInBodies_parseFile {source : String} {t : SyntaxTree Span} (h : parseFile source = .ok t) :
    t.definesInBodies := by
  obtain ⟨t', ht', rfl⟩ := exists_of_parseFile h
  exact definesInBodies_map _ ht'.definesInBodies

/-- In a parsed file every propagation expression has a line. -/
theorem isLocated_parseFile {source : String} {t : SyntaxTree Span} (h : parseFile source = .ok t) :
    t.isLocated := by
  obtain ⟨t', ht', rfl⟩ := exists_of_parseFile h
  refine List.all_eq_true.2 fun s hs => ?_
  rw [subtrees_map] at hs
  obtain ⟨p, hp, rfl⟩ := List.mem_map.1 hs
  split
  · next word r hsite =>
    obtain ⟨call, ctx, args, named, heq⟩ := eq_site_of_propagation? hsite
    have hform : p.form = .call := by
      rw [← form_map Span.ofExtent p, heq, site, form_node]
    have hplace : p.ann.isSome := by
      simpa [hform, Form.hasPlace] using List.all_eq_true.1 ht'.isPlaced p hp
    obtain ⟨⟨first, last⟩, hann⟩ := Option.isSome_iff_exists.1 hplace
    rw [ann_map, hann]
    simp only [siteLine?, Span.ofExtent]
    split
    · split <;> rfl
    · rfl
  · rfl

end ErrorTrail.Syntax
