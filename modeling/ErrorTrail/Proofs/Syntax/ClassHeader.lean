import ErrorTrail.Syntax.Parse
import ErrorTrail.Text.Compatibility

/-!
# Reading a class of a given name

The text of a class that has a name and an empty body reads as that class (`parseFile_class`), for every
name that a tree can hold (`IsName`). The name is the only part of the text that is not fixed, so the
lexer takes one step for it (`tokenStep_name`) and the rest computes.
-/

namespace ErrorTrail.Syntax

/-- A name as it stands in a tree: no reserved word, in its composed spelling. -/
structure IsName (s : String) : Prop where
  spelled : Text.isIdentifier s
  free : s ∉ reserved
  composed : Text.composed s = s

namespace Token

theorem isNameStart_of_isIdentifierStart {c : Char} (h : Text.isIdentifierStart c) :
    isNameStart c := by
  unfold Text.isIdentifierStart at h
  unfold isNameStart
  split at h
  · rw [h, Bool.true_or]
  · simp; omega

theorem isNamePart_of_isIdentifierPart {c : Char} (h : Text.isIdentifierPart c) : isNamePart c := by
  unfold Text.isIdentifierPart at h
  unfold isNamePart
  split at h
  · rw [h, Bool.true_or]
  · simp; omega

/-- The characters that have a meaning of their own between tokens are no part of names. -/
theorem ne_of_isNamePart {c d : Char} (h : isNamePart c) (hd : isNamePart d = false) : c ≠ d := by
  rintro rfl
  rw [h] at hd
  cases hd

theorem isNamePart_of_isNameStart {c : Char} (h : isNameStart c) : isNamePart c := by
  simp only [isNameStart, isNamePart, Char.isAlphanum, Bool.or_eq_true] at h ⊢
  exact h.imp_left (Or.imp_left .inl)

end Token

theorem IsName.toList_eq {s : String} (h : IsName s) :
    ∃ c cs, s.toList = c :: cs ∧ Token.isNameStart c ∧ ∀ d ∈ c :: cs, Token.isNamePart d := by
  have hspelled := h.spelled
  unfold Text.isIdentifier at hspelled
  split at hspelled
  · cases hspelled
  · next c cs heq =>
    simp only [Bool.and_eq_true, List.all_eq_true] at hspelled
    have hstart := Token.isNameStart_of_isIdentifierStart hspelled.1
    refine ⟨c, cs, heq, hstart, List.forall_mem_cons.2 ⟨?_, fun d hd => ?_⟩⟩
    · exact Token.isNamePart_of_isNameStart hstart
    · exact Token.isNamePart_of_isIdentifierPart (hspelled.2 d hd)

namespace Token

/-- A text without carriage returns that ends with a line break has its lines in normal form. -/
theorem normalLines_eq {cs : List Char} (h : '\r' ∉ cs) : normalLines (cs ++ ['\n']) = cs ++ ['\n'] := by
  induction cs with
  | nil => rfl
  | cons c cs ih =>
    rw [List.mem_cons, not_or] at h
    have hne : cs ++ ['\n'] ≠ [] := by simp
    rw [List.cons_append, normalLines, ih h.2]
    · exact fun _ hc => absurd hc.symm h.1
    · exact fun hc => absurd hc.symm h.1
    · exact fun _ hnil => absurd hnil hne
    · exact fun hnil => absurd hnil hne

/-- No literal begins where there is no quote among the next characters. -/
theorem literalMarks_eq_none {cs : List Char} (h : ∀ c ∈ cs.take 3, c ≠ '"' ∧ c ≠ '\'') :
    literalMarks cs = none := by
  match cs, h with
  | [], _ => rfl
  | [a], h => simp_all [literalMarks]
  | [a, b], h => simp_all [literalMarks]
  | a :: b :: c :: cs, h => simp_all [literalMarks]

/-- The step that takes a name before a character that ends it. -/
theorem tokenStep_name {s : String} (h : IsName s) (st : State) {d : Char} {rest : List Char}
    (hd : isNamePart d = false) (hquotes : ∀ c ∈ (d :: rest).take 2, c ≠ '"' ∧ c ≠ '\'') :
    tokenStep st (s.toList ++ d :: rest) = .more [⟨.name s, st.line, st.line⟩] st (d :: rest) := by
  obtain ⟨c, cs, hs, hstart, hparts⟩ := h.toList_eq
  have hword : (s.toList ++ d :: rest).takeWhile isNamePart = s.toList := by
    rw [List.takeWhile_append_of_pos fun x hx => hparts x (hs ▸ hx), List.takeWhile_cons, hd]
    simp
  have hrest : (s.toList ++ d :: rest).dropWhile isNamePart = d :: rest := by
    rw [List.dropWhile_append_of_pos fun x hx => hparts x (hs ▸ hx), List.dropWhile_cons, hd]
    simp
  have hmarks : literalMarks (s.toList ++ d :: rest) = none := by
    refine literalMarks_eq_none fun x hx => ?_
    rw [List.take_append, List.mem_append] at hx
    obtain hx | hx := hx
    · have hpart := hparts x (hs ▸ List.mem_of_mem_take hx)
      exact ⟨ne_of_isNamePart hpart rfl, ne_of_isNamePart hpart rfl⟩
    · refine hquotes x (List.take_subset_take_left _ ?_ hx)
      rw [hs, List.length_cons]
      omega
  have hne : ∀ e, isNamePart e = false → c ≠ e := fun e => ne_of_isNamePart (hparts c List.mem_cons_self)
  rw [hs, List.cons_append] at hword hrest hmarks ⊢
  unfold tokenStep
  have hspelled : (s.toList.all (·.toNat < 128) || Text.isIdentifier s) = true := by
    rw [h.spelled, Bool.or_true]
  rw [← hs] at hword
  simp only [hne ' ' rfl, hne '\t' rfl, hne '\x0c' rfl, hne '#' rfl, hne '\n' rfl, hne '\\' rfl,
    hmarks, hstart, hword, hrest, String.ofList_toList, hspelled, or_self, if_false, if_true]

theorem scanFrom_succ (fuel : Nat) (st : State) (cs : List Char) :
    scanFrom (fuel + 1) st cs =
      match if st.fresh then lineStep st cs else tokenStep st cs with
      | .done ts => ts
      | .more ts st' rest => ts ++ scanFrom fuel st' rest := rfl

theorem scanFrom_class (fuel : Nat) (cs : List Char) :
    scanFrom (fuel + 3) {} ("class ".toList ++ cs) =
      ⟨.name "class", 1, 1⟩ :: scanFrom fuel { fresh := false } cs := by
  rfl

theorem scanFrom_name {name : String} (h : IsName name) (fuel : Nat) :
    scanFrom (fuel + 1) { fresh := false } (name.toList ++ ":\n    pass\n".toList) =
      ⟨.name name, 1, 1⟩ :: scanFrom fuel { fresh := false } ":\n    pass\n".toList := by
  have hquotes : ∀ c ∈ [':', '\n'], c ≠ '"' ∧ c ≠ '\'' := by simp
  have hstep : tokenStep { fresh := false } (name.toList ++ ":\n    pass\n".toList) = _ :=
    tokenStep_name h { fresh := false } (by decide) hquotes
  rw [scanFrom_succ, if_neg (by simp), hstep]
  rfl

theorem scanFrom_body (fuel : Nat) :
    scanFrom (fuel + 12) { fresh := false } ":\n    pass\n".toList =
      [⟨.op ":", 1, 1⟩, ⟨.newline, 1, 1⟩, ⟨.indent, 2, 2⟩, ⟨.name "pass", 2, 2⟩, ⟨.newline, 2, 2⟩,
        ⟨.dedent, 3, 3⟩, ⟨.stop, 3, 3⟩] := by
  rfl

/-- The tokens of a class with an empty body. -/
theorem scan_class {name : String} (h : IsName name) :
    scan ("class " ++ name ++ ":\n    pass\n") =
      [⟨.name "class", 1, 1⟩, ⟨.name name, 1, 1⟩, ⟨.op ":", 1, 1⟩, ⟨.newline, 1, 1⟩, ⟨.indent, 2, 2⟩,
        ⟨.name "pass", 2, 2⟩, ⟨.newline, 2, 2⟩, ⟨.dedent, 3, 3⟩, ⟨.stop, 3, 3⟩] := by
  obtain ⟨c, cs, hs, hstart, hparts⟩ := h.toList_eq
  have hlines : normalLines ("class " ++ name ++ ":\n    pass\n").toList =
      "class ".toList ++ (name.toList ++ ":\n    pass\n".toList) := by
    have hreturn : '\r' ∉ "class ".toList ++ (name.toList ++ ":\n    pass".toList) := by
      simp only [List.mem_append, not_or]
      refine ⟨by decide, fun hmem => ?_, by decide⟩
      exact ne_of_isNamePart (hparts _ (hs ▸ hmem)) rfl rfl
    have hnormal := normalLines_eq hreturn
    simpa using hnormal
  have hlength : 17 ≤ ("class ".toList ++ (name.toList ++ ":\n    pass\n".toList)).length := by
    simp [hs]
  obtain ⟨k, hk⟩ := Nat.exists_eq_add_of_le hlength
  rw [scan, hlines, hk, show 2 * (17 + k) + 2 = (2 * k + 20 + 12) + 1 + 3 by omega, scanFrom_class,
    scanFrom_name h, scanFrom_body]

end Token

namespace Reader

theorem bind_ok {α β : Type} {p : Reader α} {k : α → Reader β} {c c' : Cursor} {a : α}
    (h : p c = .ok (a, c')) : (p >>= k) c = k a c' := by
  show (p c >>= fun r => k r.1 r.2) = k a c'
  rw [h]
  rfl

theorem identifier_name {name : String} (h : IsName name) (ts : List Token) (first last before : Nat) :
    identifier ⟨⟨.name name, first, last⟩ :: ts, before⟩ = .ok (name, ⟨ts, last⟩) := by
  have hfree : reserved.contains name = false := by simpa using h.free
  have hpeek : peek ⟨⟨.name name, first, last⟩ :: ts, before⟩ =
      .ok (.name name, ⟨⟨.name name, first, last⟩ :: ts, before⟩) := rfl
  have hadvance : advance ⟨⟨.name name, first, last⟩ :: ts, before⟩ = .ok ((), ⟨ts, last⟩) := rfl
  rw [identifier, bind_ok hpeek]
  simp only [hfree, Bool.false_eq_true, if_false]
  rw [bind_ok hadvance, h.composed]
  rfl

/-- What stands after the name of a class with an empty body. -/
def emptyBody : List Token :=
  [⟨.op ":", 1, 1⟩, ⟨.newline, 1, 1⟩, ⟨.indent, 2, 2⟩, ⟨.name "pass", 2, 2⟩, ⟨.newline, 2, 2⟩,
    ⟨.dedent, 3, 3⟩, ⟨.stop, 3, 3⟩]

theorem suite_emptyBody (fuel : Nat) :
    suite (Rule.read (fuel + 2)) ⟨emptyBody, 1⟩ =
      .ok (many [.node .passStmt (some (2, 2)) []], ⟨[⟨.stop, 3, 3⟩], 3⟩) := by
  rfl

theorem classRest_name {name : String} (h : IsName name) (fuel : Nat) :
    classRest (Rule.read (fuel + 2)) 1 []
        ⟨⟨.name "class", 1, 1⟩ :: ⟨.name name, 1, 1⟩ :: emptyBody, 1⟩ =
      .ok (.node (.classDef name) (some (1, 3))
        [many [], many [], many [.node .passStmt (some (2, 2)) []], many []], ⟨[⟨.stop, 3, 3⟩], 3⟩) := by
  have hword : expectWord "class" ⟨⟨.name "class", 1, 1⟩ :: ⟨.name name, 1, 1⟩ :: emptyBody, 1⟩ =
      .ok ((), ⟨⟨.name name, 1, 1⟩ :: emptyBody, 1⟩) := rfl
  have hbases : acceptOp "(" ⟨emptyBody, 1⟩ = .ok (false, ⟨emptyBody, 1⟩) := rfl
  rw [classRest, bind_ok hword, bind_ok (identifier_name h _ _ _ _), bind_ok hbases,
    if_neg Bool.false_ne_true]
  exact (bind_ok rfl).trans (bind_ok (suite_emptyBody fuel))

theorem statement_class {name : String} (h : IsName name) (fuel : Nat) :
    Rule.read (fuel + 3) .statement
        ⟨⟨.name "class", 1, 1⟩ :: ⟨.name name, 1, 1⟩ :: emptyBody, 1⟩ =
      .ok (many [.node (.classDef name) (some (1, 3))
        [many [], many [], many [.node .passStmt (some (2, 2)) []], many []]],
        ⟨[⟨.stop, 3, 3⟩], 3⟩) := by
  have hrule : Rule.read (fuel + 3) .statement
      ⟨⟨.name "class", 1, 1⟩ :: ⟨.name name, 1, 1⟩ :: emptyBody, 1⟩ =
        (classRest (Rule.read (fuel + 2)) 1 [] >>= fun t => pure (many [t]))
          ⟨⟨.name "class", 1, 1⟩ :: ⟨.name name, 1, 1⟩ :: emptyBody, 1⟩ := rfl
  rw [hrule, bind_ok (classRest_name h fuel)]
  rfl

theorem iterate_some {α : Type} {step : α → Reader (Option α)} {a b : α} {c c' : Cursor} {n : Nat}
    (h : step a c = .ok (some b, c')) : iterate step (n + 1) a c = iterate step n b c' := by
  rw [iterate, bind_ok h]

theorem iterate_none {α : Type} {step : α → Reader (Option α)} {a : α} {c c' : Cursor} {n : Nat}
    (h : step a c = .ok (none, c')) : iterate step (n + 1) a c = .ok (a, c') := by
  rw [iterate, bind_ok h]
  rfl

theorem loop_eq {α : Type} (step : α → Reader (Option α)) (a : α) (c : Cursor) :
    loop step a c = iterate step (c.rest.length + 1) a c := rfl

theorem statements_class {name : String} (h : IsName name) (fuel : Nat) :
    statements (Rule.read (fuel + 3)) ⟨⟨.name "class", 1, 1⟩ :: ⟨.name name, 1, 1⟩ :: emptyBody, 1⟩ =
      .ok ([.node (.classDef name) (some (1, 3))
        [many [], many [], many [.node .passStmt (some (2, 2)) []], many []]],
        ⟨[⟨.stop, 3, 3⟩], 3⟩) := by
  -- the loop reads one statement and then meets the end of the text
  have hfirst := bind_ok (k := fun s : Parsed => pure (some ([] ++ s.items))) (statement_class h fuel)
  unfold statements
  rw [loop_eq, iterate_some hfirst]
  exact iterate_none rfl

end Reader

/-- The text of a class of a given name with an empty body reads as that class. -/
theorem parseFile_class {name : String} (h : IsName name) :
    (parseFile ("class " ++ name ++ ":\n    pass\n")).map SyntaxTree.bare =
      .ok (.node .file () [.node .sequence () [.node (.classDef name) ()
        [.node .sequence () [], .node .sequence () [], .node .sequence () [.node .passStmt () []],
          .node .sequence () []]]]) := by
  obtain ⟨fuel, hdepth⟩ : ∃ fuel, depthBound ("class " ++ name ++ ":\n    pass\n") = fuel + 3 :=
    ⟨_, rfl⟩
  have hfile : fileReader (fuel + 3)
      ⟨⟨.name "class", 1, 1⟩ :: ⟨.name name, 1, 1⟩ :: Reader.emptyBody, 1⟩ =
      _ := Reader.bind_ok (Reader.statements_class h fuel)
  rw [parseFile, parseLines, readWith, hdepth, Token.scan_class h]
  show (((fileReader (fuel + 3)
    ⟨⟨.name "class", 1, 1⟩ :: ⟨.name name, 1, 1⟩ :: Reader.emptyBody, 1⟩).map (·.1)).map
      (SyntaxTree.map Span.ofExtent)).map SyntaxTree.bare = _
  rw [hfile]
  rfl

end ErrorTrail.Syntax
