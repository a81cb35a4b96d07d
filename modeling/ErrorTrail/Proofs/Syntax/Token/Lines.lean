import ErrorTrail.Proofs.Syntax.Token.Places

/-!
# Tokens further down

A text that begins on a later line has the same tokens on later lines (`scanFrom_down`). In particular the
tokens of a block stay as they are when a line is put before it, one line further down (`scan_header`).
-/

namespace ErrorTrail.Syntax

variable {k : Nat}

/-! ## Moving lines -/

def Literal.down (k : Nat) (l : Literal) : Literal := { l with line := l.line + k }

/-- A literal knows the line on which its body begins. -/
def Token.Kind.down (k : Nat) : Token.Kind → Token.Kind
  | .literal l => .literal (l.down k)
  | kind => kind

/-- The token `k` lines further down. -/
def Token.down (k : Nat) (t : Token) : Token := ⟨t.kind.down k, t.first + k, t.last + k⟩

namespace Token

@[simp] theorem Kind.down_eq_op {kind : Kind} {op : String} : kind.down k = .op op ↔ kind = .op op := by
  cases kind <;> simp [Kind.down]

@[simp] theorem Kind.down_eq_name {kind : Kind} {w : String} : kind.down k = .name w ↔ kind = .name w := by
  cases kind <;> simp [Kind.down]

theorem Kind.down_eq_literal {kind : Kind} {l : Literal} (h : kind.down k = .literal l) :
    ∃ l', kind = .literal l' ∧ l = l'.down k := by
  cases kind with
  | literal l' =>
    cases h
    exact ⟨l', rfl, rfl⟩
  | _ => cases h

def State.down (k : Nat) (st : State) : State := { st with line := st.line + k }

def Step.down (k : Nat) : Step → Step
  | .more ts st rest => .more (ts.map (Token.down k)) (st.down k) rest
  | .done ts => .done (ts.map (Token.down k))

theorem lineStep_down (st : State) (cs : List Char) : lineStep (st.down k) cs = (lineStep st cs).down k := by
  obtain ⟨line, indents, brackets, fresh⟩ := st
  show lineStep ⟨line + k, indents, brackets, fresh⟩ cs = _
  unfold lineStep
  dsimp only
  rcases blankColumns (cs.length + 1) cs 0 0 none 0 with _ | ⟨col, alt, lines, rest⟩
  · rfl
  dsimp only
  rw [Nat.add_right_comm line k lines]
  split
  · rw [Nat.add_right_comm _ k 1]
    rfl
  · rw [Nat.add_right_comm _ k 1]
    rfl
  · by_cases hbrackets : (!brackets.isEmpty) = true
    · simp only [if_pos hbrackets]
      rfl
    simp only [if_neg hbrackets]
    rcases hkinds : indentation col alt indents with why | ⟨kinds, indents'⟩
    · rfl
    · have hdown : ∀ kind ∈ kinds, Kind.down k kind = kind := by
        intro kind hkind
        obtain rfl | rfl := eq_of_mem_indentation hkinds hkind <;> rfl
      have hmap : (kinds.map fun kind => Token.mk kind (line + lines + k) (line + lines + k)) =
          (kinds.map fun kind => Token.mk kind (line + lines) (line + lines)).map (Token.down k) := by
        rw [List.map_map]
        refine List.map_congr_left fun kind hkind => ?_
        simp [Token.down, hdown kind hkind]
      dsimp only
      rw [hmap]
      rfl

theorem tokenStep_down (st : State) (cs : List Char) : tokenStep (st.down k) cs = (tokenStep st cs).down k := by
  obtain ⟨line, indents, brackets, fresh⟩ := st
  show tokenStep ⟨line + k, indents, brackets, fresh⟩ cs = _
  unfold tokenStep
  dsimp only
  rcases cs with _ | ⟨c, rest⟩
  · by_cases hbrackets : brackets.isEmpty
    · simp only [if_pos hbrackets]
      rfl
    · simp only [if_neg hbrackets]
      rfl
  dsimp only
  by_cases hblank : c = ' ' ∨ c = '\t' ∨ c = '\x0c'
  · simp only [if_pos hblank]
    rfl
  simp only [if_neg hblank]
  by_cases hcomment : c = '#'
  · simp only [if_pos hcomment]
    rfl
  simp only [if_neg hcomment]
  by_cases hbreak : c = '\n'
  · simp only [if_pos hbreak, Nat.add_right_comm line k 1]
    by_cases hbrackets : brackets.isEmpty
    · simp only [if_pos hbrackets]
      rfl
    · simp only [if_neg hbrackets]
      rfl
  simp only [if_neg hbreak]
  by_cases hbackslash : c = '\\'
  · simp only [if_pos hbackslash, Nat.add_right_comm line k 1]
    split <;> rfl
  simp only [if_neg hbackslash]
  rcases literalMarks (c :: rest) with _ | ⟨marks, quotesOn⟩
  · dsimp only
    by_cases hname : isNameStart c
    · simp only [if_pos hname]
      split <;> rfl
    simp only [if_neg hname]
    by_cases hdigit : (c.isDigit || (c == '.' && rest.head?.any Char.isDigit)) = true
    · simp only [if_pos hdigit]
      rcases number (c :: rest) with _ | ⟨text, after⟩ <;> rfl
    simp only [if_neg hdigit]
    rcases operator? (c :: rest) with _ | ⟨op, after⟩
    · rfl
    dsimp only
    by_cases hopening : (op == "(" || op == "[" || op == "\x7b") = true
    · simp only [if_pos hopening]
      by_cases hdeep : 200 ≤ brackets.length
      · simp only [ge_iff_le, if_pos hdeep]
        rfl
      · simp only [ge_iff_le, if_neg hdeep]
        rfl
    simp only [if_neg hopening]
    by_cases hclosing : (op == ")" || op == "]" || op == "\x7d") = true
    · simp only [if_pos hclosing]
      rcases brackets with _ | ⟨opening, outer⟩
      · rfl
      · by_cases hcloses : closes opening op
        · simp only [if_pos hcloses]
          rfl
        · simp only [if_neg hcloses]
          rfl
    · simp only [if_neg hclosing]
      rfl
  · dsimp only
    rcases literal quotesOn with _ | ⟨body, after⟩
    · rfl
    · dsimp only
      rw [Nat.add_right_comm line k]
      rfl

/-- A text that begins further down has the same tokens further down. -/
theorem scanFrom_down (fuel : Nat) (st : State) (cs : List Char) :
    scanFrom fuel (st.down k) cs = (scanFrom fuel st cs).map (Token.down k) := by
  induction fuel generalizing st cs with
  | zero => rfl
  | succ fuel ih =>
    have hstep : (if (st.down k).fresh then lineStep (st.down k) cs else tokenStep (st.down k) cs) =
        (if st.fresh then lineStep st cs else tokenStep st cs).down k := by
      rw [lineStep_down, tokenStep_down, apply_ite (Step.down k)]
      rfl
    rw [scanFrom_succ, scanFrom_succ, hstep]
    rcases (if st.fresh then lineStep st cs else tokenStep st cs) with ⟨ts, st', rest⟩ | ts
    · simp only [Step.down, ih, List.map_append]
    · rfl

theorem scanWithin_down (line : Nat) (cs : List Char) :
    scanWithin (line + k) cs = (scanWithin line cs).map (Token.down k) :=
  scanFrom_down _ { line, fresh := false } cs

/-! ## A line above -/

/-- The tokens of a line that opens a block. -/
def headerTokens : List Token := [⟨.name "if", 1, 1⟩, ⟨.name "True", 1, 1⟩, ⟨.op ":", 1, 1⟩, ⟨.newline, 1, 1⟩]

theorem literalMarks_colon (cs : List Char) : literalMarks (':' :: '\n' :: cs) = none := by
  rcases cs with _ | ⟨d, ds⟩
  · rfl
  · have hdouble : [['b', 'r'], ['r', 'b'], ['f', 'r'], ['r', 'f']].contains [':'.toLower, '\n'.toLower] = false :=
      rfl
    simp only [literalMarks, hdouble, Bool.and_false]
    rfl

theorem operator?_colon (cs : List Char) : operator? (':' :: '\n' :: cs) = some (":", '\n' :: cs) := by
  have h3 : String.ofList ((':' :: '\n' :: cs).take 3) ∉ operators3 := by
    intro h
    have hall : ∀ op ∈ operators3, op.toList[1]? ≠ some '\n' := by decide
    refine hall _ h ?_
    rw [String.toList_ofList]
    rfl
  unfold operator?
  dsimp only
  rw [if_neg (by simpa using h3)]
  rfl

theorem tokenStep_colon (st : State) (cs : List Char) :
    tokenStep st (':' :: '\n' :: cs) = .more [⟨.op ":", st.line, st.line⟩] st ('\n' :: cs) := by
  unfold tokenStep
  dsimp only
  rw [literalMarks_colon, operator?_colon]
  rfl

theorem scanFrom_header (fuel : Nat) (cs : List Char) :
    scanFrom (fuel + 6) {} ("if True:\n".toList ++ cs) =
      headerTokens ++ scanFrom fuel { line := 2 } cs := by
  have hif : scanFrom (fuel + 6) {} ("if True:\n".toList ++ cs) =
      ⟨.name "if", 1, 1⟩ :: scanFrom (fuel + 3) { fresh := false } ("True:\n".toList ++ cs) := rfl
  have htrue : scanFrom (fuel + 3) { fresh := false } ("True:\n".toList ++ cs) =
      ⟨.name "True", 1, 1⟩ :: scanFrom (fuel + 2) { fresh := false } (":\n".toList ++ cs) := rfl
  have hcolon : scanFrom (fuel + 2) { fresh := false } (":\n".toList ++ cs) =
      ⟨.op ":", 1, 1⟩ :: scanFrom (fuel + 1) { fresh := false } ('\n' :: cs) := by
    have hstep : tokenStep { fresh := false } (":\n".toList ++ cs) = _ := tokenStep_colon { fresh := false } cs
    rw [scanFrom_succ, if_neg (by simp), hstep]
    rfl
  rw [hif, htrue, hcolon]
  rfl

/-- A text in normal form has the tokens that it has under a line that opens a block, one line further up. -/
theorem scan_header {block : String} {body : List Char} (hblock : block.toList = body ++ ['\n'])
    (hreturn : '\r' ∉ body) : scan ("if True:\n" ++ block) = headerTokens ++ (scan block).map (Token.down 1) := by
  have hlines : normalLines ("if True:\n" ++ block).toList = "if True:\n".toList ++ block.toList := by
    have hbody : '\r' ∉ "if True:\n".toList ++ body := by simp [hreturn]
    simpa [hblock] using normalLines_eq hbody
  have hlines' : normalLines block.toList = block.toList := by rw [hblock, normalLines_eq hreturn]
  have hlength : ("if True:\n".toList ++ block.toList).length = 9 + block.toList.length := by simp; omega
  have hfuel : stepsLeft {} block.toList = 2 * block.toList.length + 1 := rfl
  rw [scan, hlines, hlength, scan, hlines',
    show 2 * (9 + block.toList.length) + 2 = 2 * block.toList.length + 14 + 6 by omega, scanFrom_header]
  have hdown := scanFrom_down (k := 1) (2 * block.toList.length + 14) {} block.toList
  rw [← scanFrom_eq_of_lt (n := 2 * block.toList.length + 14) (m := 2 * block.toList.length + 2) (by omega)
    (by omega), ← hdown]
  rfl

end Token

end ErrorTrail.Syntax
