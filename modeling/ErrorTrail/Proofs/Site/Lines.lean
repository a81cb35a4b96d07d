import ErrorTrail.Proofs.Site.Resolution
import ErrorTrail.Proofs.Site.Shift
import ErrorTrail.Proofs.Syntax.Excerpt
import ErrorTrail.Proofs.Syntax.Members
import ErrorTrail.Proofs.Syntax.Plain
import ErrorTrail.Site.Recompilation

/-!
# Lines of a live function

The definition of a live function is read in the block that is cut out of its file, under another line if
the block is indented, and then moved to the place where the block stands (`LiveFunction.definition_eq_ok`).
Either way every line that is reported is one of the file, on which the word that is reported stands after a
point (`instrument_shift_lands`). What is reported when the function is recompiled are such lines
(`LiveFunction.line_of_recompile`).
-/

namespace ErrorTrail

open Syntax SyntaxTree

variable {f : LiveFunction} {text block : String} {before : Nat} {d : SyntaxTree Span}

namespace Syntax

/-! ## Blocks -/

/-- Whether the first line of a block is indented. -/
def isIndented (block : String) : Bool := block.toList.head?.any Text.isBlank

/-- The text in which a block is parsed. -/
def parsedText (block : String) : String := if isIndented block then "if True:\n" ++ block else block

/-- The statements of a block in the tree of the text in which it is parsed. -/
def blockStatements (block : String) (file : SyntaxTree Span) : List (SyntaxTree Span) :=
  let statements := (file.child 0).items
  match isIndented block, statements with
  | true, .node .ifStmt _ [_, inner, _] :: _ => inner.items
  | _, _ => statements

/-- How far a tree of that text has to be moved down for a block that stands behind a number of lines. -/
def lineOffset (block : String) (before : Nat) : Int := if isIndented block then (before : Int) - 1 else before

theorem mem_subtrees_of_mem_blockStatements {file t : SyntaxTree Span} (h : t ∈ blockStatements block file) :
    t ∈ file.subtrees := by
  have hstatement : ∀ s ∈ (file.child 0).items, s ∈ file.subtrees := fun s hs => by
    obtain ⟨f, a, _ | ⟨c, cs⟩⟩ := file
    · cases hs
    · exact mem_subtrees_of_mem List.mem_cons_self (mem_subtrees_of_mem_items hs (self_mem_subtrees s))
  unfold blockStatements at h
  dsimp only at h
  split at h
  · next heq =>
    have hinner := mem_subtrees_of_mem_items h (self_mem_subtrees t)
    exact mem_subtrees_trans (mem_subtrees_of_mem (List.mem_cons_of_mem _ List.mem_cons_self) hinner)
      (hstatement _ (heq ▸ List.mem_cons_self))
  · exact hstatement t h

/-- A word after a point in the text in which a block is parsed stands after a point in the block, and moves
to the line behind as many lines as the block is. -/
theorem exists_hasMember_block {name : String} {line : Nat} (hblock : IsNormal block.toList)
    (h : HasMember (parsedText block) name line) :
    ∃ n : Nat, HasMember block name n ∧ ∀ before, line + lineOffset block before = (before + n : Int) := by
  unfold parsedText at h
  unfold lineOffset
  rcases hindented : isIndented block
  · rw [hindented] at h
    exact ⟨line, h, fun before => Int.add_comm _ _⟩
  · rw [hindented, if_pos rfl] at h
    have hne : block.toList ≠ [] := fun hempty => by simp [isIndented, hempty] at hindented
    obtain ⟨body, hbody, hreturn⟩ := hblock.exists_body hne
    obtain ⟨n, rfl, hmember⟩ := hasMember_header hbody hreturn h
    exact ⟨n, hmember, fun before => by rw [if_pos rfl]; omega⟩

/-- What stands on a line of a block stands on a line of the text around it. -/
theorem StandsBehind.standsOn {block text : List Char} {name : String} {line : Nat}
    (h : StandsBehind before block text) (hname : StandsOn block name line) :
    StandsOn text name (before + line) := by
  obtain ⟨above, below, rfl, -, rfl⟩ := h.exists_eq
  obtain ⟨front, w, after, rfl, hw, rfl⟩ := hname
  refine ⟨above ++ front, w, after ++ below, by simp, hw, ?_⟩
  rw [Token.countLines_append]
  omega

/-- A propagation expression in a parsed file that is moved down reports the line on which its word then
stands, unless that is zero. -/
theorem exists_propagationLine?_shift {source : String} {file p : SyntaxTree Span} (h : parseFile source = .ok file)
    (hp : p ∈ file.propagations) :
    ∃ line : Nat, HasMember source propagateWord line ∧
      ∀ k : Int, line + k ≠ 0 → (p.shift k).propagationLine? = some (line + k) := by
  obtain ⟨hmem, hsite⟩ := mem_propagations.1 hp
  obtain ⟨⟨word, r⟩, hsite⟩ := Option.isSome_iff_exists.1 hsite
  obtain ⟨line, hstop, hmember⟩ := hasMember_parseFile h hmem hsite
  refine ⟨line, hmember, fun k hk => ?_⟩
  obtain ⟨call, ctx, args, named, rfl⟩ := eq_site_of_propagation? hsite
  rw [shift_site, propagationLine?_site]
  simp [siteLine?, Span.shift, hstop, hk]

/-- The lines that are reported of a block are those of the words after points in it, and stay so when it is
moved behind a number of lines. -/
theorem exists_line_block {file p : SyntaxTree Span} (hblock : IsNormal block.toList)
    (h : parseFile (parsedText block) = .ok file) (hp : p ∈ file.propagations) (before : Nat) :
    ∃ line n : Nat, p.propagationLine? = some (line : Int) ∧
      (p.shift (lineOffset block before)).propagationLine? = some (line + lineOffset block before) ∧
      HasMember block propagateWord n ∧ line + lineOffset block before = (before + n : Int) := by
  obtain ⟨line, hmember, hline⟩ := exists_propagationLine?_shift h hp
  obtain ⟨n, hn, hmoved⟩ := exists_hasMember_block hblock hmember
  have hpos := hmember.pos
  have hpos' := hn.pos
  refine ⟨line, n, ?_, hline _ (by rw [hmoved]; omega), hn, hmoved before⟩
  have hzero := hline 0 (by omega)
  rwa [shift_zero, Int.add_zero] at hzero

end Syntax

/-! ## The definition in a block -/

namespace LiveFunction

/-- The definition in the block of a function, with the lines counted in the file in which the block stands
behind a number of lines. -/
def definitionIn (f : LiveFunction) (block : String) (before : Nat) : Except RecompileError (SyntaxTree Span) := do
  if (parsedText block).contains (Char.ofNat 0) then .error .nullCharacter
  let file ← (parseFile (parsedText block)).mapError fun m =>
    .refused (.because .parseFailed m.kind "" f.path)
  match f.find? (blockStatements block file) with
  | some t => .ok (t.shift (lineOffset block before))
  | none =>
    .error (.refused
      { code := .notAFunction
        message := "no definition of " ++ Text.quoted f.name ++ " at its source position"
        target := f.path })

theorem definition_of_excerpt (hempty : text.isEmpty = false) (h : excerpt text f.line = .ok (block, before)) :
    f.definition (some text) = f.definitionIn block before := by
  unfold definition
  simp only [hempty, h, Bool.false_eq_true, if_false, bind, Except.bind, Except.mapError]
  rfl

theorem definitionIn_eq_ok : f.definitionIn block before = .ok d ↔
    (parsedText block).contains (Char.ofNat 0) = false ∧ ∃ file t, parseFile (parsedText block) = .ok file ∧
      f.find? (blockStatements block file) = some t ∧ d = t.shift (lineOffset block before) := by
  unfold definitionIn
  rcases (parsedText block).contains (Char.ofNat 0)
  · rcases parseFile (parsedText block) with e | file
    · simp [bind, Except.bind, Except.mapError]
    · rcases hfind : f.find? (blockStatements block file) with _ | t
      · simp [bind, Except.bind, Except.mapError, hfind]
      · simp [bind, Except.bind, Except.mapError, hfind, eq_comm]
  · simp [bind, Except.bind]

theorem definition_eq_ok : f.definition (some text) = .ok d ↔
    text.isEmpty = false ∧ ∃ block before, excerpt text f.line = .ok (block, before) ∧
      f.definitionIn block before = .ok d := by
  rcases hempty : text.isEmpty
  · rcases hblock : excerpt text f.line with e | ⟨block, before⟩
    · rcases e <;> simp [definition, hempty, hblock, bind, Except.bind, Except.mapError]
    · simp [definition_of_excerpt hempty hblock]
  · simp [definition, hempty, bind, Except.bind]

end LiveFunction

/-! ## Sites -/

variable {m : Marking} {l : Location}

/-- What is reported of a definition are the lines of the propagation expressions in its body. -/
theorem exists_of_mem_instrumentBody (h : l ∈ (instrumentBody m d).2) :
    ∃ body ∈ d.children[1]?, ∃ p ∈ body.propagations, l = ⟨m.file, p.propagationLine?.getD 0⟩ := by
  obtain heq | ⟨f, a, args, s, body, decorators, returns, rfl, heq⟩ := instrumentBody_cases m d
  · rw [heq] at h
    cases h
  · rw [heq, sites_visit] at h
    obtain ⟨p, hp, rfl⟩ := List.mem_map.1 h
    exact ⟨_, rfl, p, hp, rfl⟩

theorem isFunctionForm_stripDefinition (d : SyntaxTree Span) :
    isFunctionForm (stripDefinition d).form = isFunctionForm d.form := by
  unfold stripDefinition
  split <;> rfl

/-- The propagation expressions in the body of a stripped definition are parts of the definition. -/
theorem mem_propagations_of_stripDefinition {body p : SyntaxTree Span}
    (hbody : body ∈ (stripDefinition d).children[1]?) (hp : p ∈ body.propagations) : p ∈ d.propagations := by
  rw [body_stripDefinition] at hbody
  obtain ⟨f, a, cs⟩ := d
  exact mem_propagations_of_mem_subtrees hp
    (mem_subtrees_of_mem (List.mem_of_getElem? hbody) (self_mem_subtrees body))

namespace LiveFunction

theorem find?_mem {body : List (SyntaxTree Span)} {t : SyntaxTree Span} (h : f.find? body = some t) :
    t ∈ body ∧ isFunctionForm t.form := by
  refine ⟨List.mem_of_find?_eq_some h, ?_⟩
  have := List.find?_some h
  cases hform : t.form <;> simp_all [isFunctionForm]

/-- The definition of a live function is that of its block, moved to the place of the block. -/
theorem exists_of_definition (h : f.definition (some text) = .ok d) :
    ∃ block before file t, excerpt text f.line = .ok (block, before) ∧ parseFile (parsedText block) = .ok file ∧
      f.find? (blockStatements block file) = some t ∧ d = t.shift (lineOffset block before) := by
  obtain ⟨-, block, before, hexcerpt, hdefinition⟩ := definition_eq_ok.1 h
  obtain ⟨-, file, t, hparse, hfind, rfl⟩ := definitionIn_eq_ok.1 hdefinition
  exact ⟨block, before, file, t, hexcerpt, hparse, hfind, rfl⟩

/-- The propagation expressions in the definition of a live function. -/
theorem mem_propagations_of_find? {file t p : SyntaxTree Span} (h : f.find? (blockStatements block file) = some t)
    (hp : p ∈ t.propagations) : p ∈ file.propagations :=
  mem_propagations_of_mem_subtrees hp (mem_subtrees_of_mem_blockStatements (find?_mem h).1)

theorem bodyKeepsLines {file t : SyntaxTree Span} (before : Nat) (hblock : IsNormal block.toList)
    (hparse : parseFile (parsedText block) = .ok file) (hfind : f.find? (blockStatements block file) = some t) :
    BodyKeepsLines (lineOffset block before) (stripDefinition t) := by
  intro body hbody p hp
  have hp' := mem_propagations_of_find? hfind (mem_propagations_of_stripDefinition hbody hp)
  obtain ⟨line, n, hline, hmoved, -, -⟩ := exists_line_block hblock hparse hp' before
  exact ⟨line, hline, hmoved⟩

/-- The definition in a block that is moved to its place is instrumented as before, and each line that it reports
is that of a word after a point in the block, behind as many lines as the block is. -/
theorem exists_reported {file t : SyntaxTree Span} (m : Marking) (before : Nat) (hblock : IsNormal block.toList)
    (hparse : parseFile (parsedText block) = .ok file) (hfind : f.find? (blockStatements block file) = some t) :
    ∃ i sites reported, instrument m (stripDefinition t) = .ok (i, sites) ∧
      instrument m (stripDefinition (t.shift (lineOffset block before))) =
        .ok (shiftInstrumented (lineOffset block before) i, reported) ∧
      reported = sites.map (Location.shift (lineOffset block before)) ∧
      ∀ l ∈ reported, ∃ n : Nat, l.line = before + n ∧ HasMember block propagateWord n := by
  have hform : isFunctionForm (stripDefinition t).form :=
    (isFunctionForm_stripDefinition t).trans (find?_mem hfind).2
  obtain ⟨i, sites, hsites, hreported⟩ :=
    instrument_shift (m := m) hform (bodyKeepsLines before hblock hparse hfind)
  rw [← stripDefinition_shift] at hreported
  refine ⟨i, sites, _, hsites, hreported, rfl, fun l hl => ?_⟩
  obtain ⟨l', hl', rfl⟩ := List.mem_map.1 hl
  rw [← (instrument_ok hsites).2.2] at hl'
  obtain ⟨body, hbody, p, hp, rfl⟩ := exists_of_mem_instrumentBody hl'
  have hp' := mem_propagations_of_find? hfind (mem_propagations_of_stripDefinition hbody hp)
  obtain ⟨line, n, hline, -, hmember, hmoved⟩ := exists_line_block hblock hparse hp' before
  refine ⟨n, ?_, hmember⟩
  rw [Location.shift, hline, Option.getD_some, hmoved]

/-- What is recompiled is the stripped definition, instrumented with the hook. -/
theorem exists_of_recompile {text? : Option String} {shown : Except PathError String} {r : Recompiled}
    (h : f.recompile text? shown = .ok r) :
    ∃ d file, f.definition text? = .ok d ∧ shown = .ok file ∧
      instrument ⟨file, r.hook⟩ (stripDefinition d) = .ok (r.definition, r.sites) := by
  unfold recompile at h
  rcases hd : f.definition text? with e | d
  · simp [hd, bind, Except.bind] at h
  rcases shown with e | file
  · simp [hd, bind, Except.bind, Except.mapError] at h
  rcases hinstrument : instrument ⟨file, freshName (stripDefinition d) hookBase⟩ (stripDefinition d) with e | x
  · rcases e <;> simp [hd, hinstrument, bind, Except.bind, Except.mapError] at h
  · refine ⟨d, file, rfl, rfl, ?_⟩
    simp only [hd, hinstrument, bind, Except.bind, Except.mapError] at h
    -- what is compiled afterwards can only fail
    repeat' split at h
    all_goals cases h
    exact hinstrument

/-- The lines that are reported of a recompiled function are those of words after points in its block. -/
theorem line_of_recompile {shown : Except PathError String} {r : Recompiled}
    (h : f.recompile (some text) shown = .ok r) (hl : l ∈ r.sites) :
    ∃ block before, excerpt text f.line = .ok (block, before) ∧
      ∃ n : Nat, l.line = before + n ∧ HasMember block propagateWord n := by
  obtain ⟨d, file, hd, -, hinstrument⟩ := exists_of_recompile h
  obtain ⟨block, before, tree, t, hexcerpt, hparse, hfind, rfl⟩ := exists_of_definition hd
  obtain ⟨i, sites, reported, -, hreported, -, hlines⟩ := exists_reported ⟨file, r.hook⟩ before
    (standsBehind_of_excerpt hexcerpt).isNormal hparse hfind
  obtain ⟨-, rfl⟩ := Prod.mk.inj (Except.ok.inj (hinstrument.symm.trans hreported))
  exact ⟨block, before, hexcerpt, hlines l hl⟩

end LiveFunction

/-- A definition that is moved down is instrumented as before, with all lines of its nodes and its sites and all
lines that it reports further down. Of a live function whose block begins on line `before + 1` of its file, the
lines that are reported are thus those of the words after points in the block, behind `before` others: whether the
block is parsed as it is or under another line. -/
theorem instrument_shift_lands :
    (∀ (m : Marking) (k : Int) (d : SyntaxTree Span), isFunctionForm d.form → d.isOnLines → (d.shift k).isOnLines →
      ∃ t sites, instrument m d = .ok (t, sites) ∧
        instrument m (d.shift k) = .ok (shiftInstrumented k t, sites.map (Location.shift k))) ∧
    ∀ (f : LiveFunction) (text : String) (d : SyntaxTree Span), f.definition (some text) = .ok d →
      ∃ block before file t, excerpt text f.line = .ok (block, before) ∧
        StandsBehind before block.toList (Token.normalLines text.toList) ∧
        parseFile (parsedText block) = .ok file ∧ f.find? (blockStatements block file) = some t ∧
        d = t.shift (lineOffset block before) ∧
        ∀ m : Marking, ∃ i sites reported, instrument m (stripDefinition t) = .ok (i, sites) ∧
          instrument m (stripDefinition d) = .ok (shiftInstrumented (lineOffset block before) i, reported) ∧
          reported = sites.map (Location.shift (lineOffset block before)) ∧
          ∀ l ∈ reported, ∃ n : Nat, l.line = before + n ∧ HasMember block propagateWord n ∧
            StandsOn (Token.normalLines text.toList) propagateWord (before + n) := by
  refine ⟨fun m k d hform hlines hmoved => ?_, fun f text d hd => ?_⟩
  · refine instrument_shift hform fun body hbody => ?_
    obtain ⟨f, a, cs⟩ := d
    have hmem : body ∈ (node f a cs).subtrees :=
      mem_subtrees_of_mem (List.mem_of_getElem? hbody) (self_mem_subtrees body)
    exact (keepsLines_of_isOnLines hlines hmoved).of_mem_subtrees hmem
  · obtain ⟨block, before, file, t, hexcerpt, hparse, hfind, rfl⟩ := LiveFunction.exists_of_definition hd
    have hstands := standsBehind_of_excerpt hexcerpt
    refine ⟨block, before, file, t, hexcerpt, hstands, hparse, hfind, rfl, fun m => ?_⟩
    obtain ⟨i, sites, reported, hsites, hreported, hmap, hlines⟩ :=
      LiveFunction.exists_reported m before hstands.isNormal hparse hfind
    refine ⟨i, sites, reported, hsites, hreported, hmap, fun l hl => ?_⟩
    obtain ⟨n, hline, hmember⟩ := hlines l hl
    exact ⟨n, hline, hmember, hstands.standsOn (hstands.isNormal.normalLines_eq ▸ hmember.standsOn)⟩

/-- A file with the function `load`, in a class in a function. -/
def readerText : String :=
  "def outer(parse):\n    class Reader:\n" ++
  "        def load(self, text):\n            return Ok(parse(text)\n                .propagate())\n" ++
  "    return Reader\n"

def readerBlock : String :=
  "        def load(self, text):\n            return Ok(parse(text)\n                .propagate())\n"

theorem excerpt_readerText : excerpt readerText readerLoad.line = .ok (readerBlock, 2) := by decide +kernel

/-- The method is read in its block, where it reports the fourth line of the text that is parsed. -/
theorem exists_readerBlock : ∃ file t, parseFile (parsedText readerBlock) = .ok file ∧
    readerLoad.find? (blockStatements readerBlock file) = some t ∧
    (instrumentBody ⟨"prog.py", hookBase⟩ (stripDefinition t)).2 = [⟨"prog.py", 4⟩] := by
  have hread : (parseFile (parsedText readerBlock)).map (fun file =>
      (readerLoad.find? (blockStatements readerBlock file)).any fun t =>
        (instrumentBody ⟨"prog.py", hookBase⟩ (stripDefinition t)).2 = [⟨"prog.py", 4⟩]) = .ok true := by
    decide +kernel
  obtain ⟨file, hparse, hall⟩ := exists_of_map_parseFile hread
  obtain ⟨t, hfind, hsites⟩ := (Option.any_eq_true _ _).1 hall
  exact ⟨file, t, hparse, hfind, of_decide_eq_true hsites⟩

theorem null_not_readerBlock : (parsedText readerBlock).contains (Char.ofNat 0) = false := by
  have hindented : isIndented readerBlock := by decide +kernel
  rw [parsedText, if_pos hindented]
  simp [readerBlock]

/-- The word is on the third line of the block, behind two others. -/
theorem instrument_shift_lands_reader :
    let m : Marking := ⟨"prog.py", hookBase⟩
    (isFunctionForm (loadDefinition []).form ∧ (loadDefinition []).isOnLines ∧
      ((loadDefinition []).shift 2).isOnLines ∧ ∃ t, instrument m (loadDefinition []) = .ok (t, [⟨"prog.py", 4⟩]) ∧
        instrument m ((loadDefinition []).shift 2) = .ok (shiftInstrumented 2 t, [⟨"prog.py", 6⟩])) ∧
    ∃ d t, readerLoad.definition (some readerText) = .ok d ∧
      instrument m (stripDefinition d) = .ok (t, [⟨"prog.py", 5⟩]) ∧
      excerpt readerText readerLoad.line = .ok (readerBlock, 2) ∧ HasMember readerBlock propagateWord 3 := by
  intro m
  have hform : isFunctionForm (loadDefinition []).form := rfl
  have hlines : (loadDefinition []).isOnLines := by decide
  have hmoved : ((loadDefinition []).shift 2).isOnLines := by decide
  refine ⟨⟨hform, hlines, hmoved, ?_⟩, ?_⟩
  · have hload : (instrumentBody m (loadDefinition [])).2 = [⟨"prog.py", 4⟩] := by decide +kernel
    obtain ⟨t, sites, ht, hshift⟩ := instrument_shift_lands.1 m 2 (loadDefinition []) hform hlines hmoved
    obtain rfl : sites = [⟨"prog.py", 4⟩] := (instrument_ok ht).2.2.symm.trans hload
    exact ⟨t, ht, hshift⟩
  · have hempty : readerText.isEmpty = false := by decide +kernel
    obtain ⟨file, t, hparse, hfind, hsites⟩ := exists_readerBlock
    have hdefinition : readerLoad.definition (some readerText) = .ok (t.shift (lineOffset readerBlock 2)) :=
      LiveFunction.definition_eq_ok.2 ⟨hempty, readerBlock, 2, excerpt_readerText,
        LiveFunction.definitionIn_eq_ok.2 ⟨null_not_readerBlock, file, t, hparse, hfind, rfl⟩⟩
    obtain ⟨block, before, file', t', hexcerpt, -, hparse', hfind', -, h⟩ :=
      instrument_shift_lands.2 readerLoad readerText _ hdefinition
    obtain ⟨rfl, rfl⟩ := Prod.mk.inj (Except.ok.inj (hexcerpt.symm.trans excerpt_readerText))
    obtain rfl : file' = file := Except.ok.inj (hparse'.symm.trans hparse)
    obtain rfl : t' = t := Option.some.inj (hfind'.symm.trans hfind)
    obtain ⟨i, sites, reported, hi, hreported, rfl, hall⟩ := h m
    obtain rfl : sites = [⟨"prog.py", 4⟩] := (instrument_ok hi).2.2.symm.trans hsites
    obtain ⟨n, hn, hmember, -⟩ := hall _ List.mem_cons_self
    have hoffset : lineOffset readerBlock 2 = 1 := by decide +kernel
    rw [hoffset] at hn hreported
    obtain rfl : n = 3 := by
      simp only [Location.shift] at hn
      omega
    exact ⟨_, _, hdefinition, hreported, excerpt_readerText, hmember⟩

end ErrorTrail
