import Mathlib.Data.List.TakeWhile
import ErrorTrail.Settings.EnvFile
import ErrorTrail.Proofs.Settings.Sources
import ErrorTrail.Proofs.Syntax.ClassHeader

/-!
# Plain lines of environment files

A plain line is `NAME=value` with nothing in it that an environment file gives a meaning to. A file
of such lines is read as the assignments it is written from (`parse_plainText`).
-/

namespace ErrorTrail.EnvFile

open Text

/-- A name that a plain line can begin with. -/
structure IsPlainName (n : String) : Prop where
  start : ∃ c cs, n.toList = c :: cs ∧ c ≠ '\'' ∧ c ≠ 'e'
  chars : ∀ c ∈ n.toList, c ≠ '=' ∧ c ≠ '#' ∧ isBlank c = false

/-- A value that stands in a plain line as it is: without line ends, blanks at its ends, a quote at
its beginning, comments and references. -/
structure IsPlainValue (v : String) : Prop where
  lines : ∀ c ∈ v.toList, isLineEnd c = false
  head : ∀ c ∈ v.toList.head?, isBlank c = false ∧ c ≠ '\'' ∧ c ≠ '"'
  last : ∀ c ∈ v.toList.getLast?, isBlank c = false
  comments : ∀ c, isBlank c = true → ¬ [c, '#'] <:+: v.toList
  references : ¬ ['$', '\x7b'] <:+: v.toList

/-- The visible characters of ASCII are no blanks. -/
theorem isBlank_of_visible {c : Char} (hlow : '!'.toNat ≤ c.toNat) (hhigh : c.toNat ≤ '~'.toNat) :
    isBlank c = false := by
  simp only [Char.reduceToNat] at hlow hhigh
  simp only [isBlank, Bool.or_eq_false_iff, Bool.and_eq_false_iff, decide_eq_false_iff_not,
    beq_eq_false_iff_ne]
  omega

/-- Digits, letters and what stands between them in ASCII have no meaning of their own. -/
theorem isPlainValue_of_letters {v : String}
    (h : (v.toList.all fun c => '0'.toNat ≤ c.toNat && c.toNat ≤ 'z'.toNat) = true) :
    IsPlainValue v := by
  simp only [List.all_eq_true, Bool.and_eq_true, decide_eq_true_eq] at h
  have hblank (c : Char) (hc : c ∈ v.toList) : isBlank c = false :=
    isBlank_of_visible (Nat.le_trans (by decide) (h c hc).1) (Nat.le_trans (h c hc).2 (by decide))
  have hmark (c : Char) (hc : c ∈ v.toList) {d : Char} (hd : d.toNat < '0'.toNat) : c ≠ d := by
    rintro rfl
    exact absurd (h c hc).1 (Nat.not_le_of_lt hd)
  refine ⟨fun c hc => ?_, fun c hc => ?_, fun c hc => hblank c (List.mem_of_mem_getLast? hc),
    fun c hc hpart => ?_, fun hpart => ?_⟩
  · have hreturn : c ≠ '\r' := hmark c hc (by decide)
    have hnewline : c ≠ '\n' := hmark c hc (by decide)
    simp [isLineEnd, hreturn, hnewline]
  · have hmem := List.mem_of_mem_head? hc
    exact ⟨hblank c hmem, hmark c hmem (by decide), hmark c hmem (by decide)⟩
  · have hmem : '#' ∈ v.toList := hpart.subset (by simp)
    exact hmark '#' hmem (by decide) rfl
  · have hmem : '$' ∈ v.toList := hpart.subset List.mem_cons_self
    exact hmark '$' hmem (by decide) rfl

/-- The plain lines of assignments. -/
def plainText : List (String × String) → String
  | [] => ""
  | b :: bs => b.1 ++ "=" ++ b.2 ++ "\n" ++ plainText bs

/-! ## Values -/

theorem beforeComment_eq_self {cs : List Char}
    (h : ∀ c, isBlank c = true → ¬ [c, '#'] <:+: cs) : beforeComment cs = cs := by
  induction cs with
  | nil => rfl
  | cons c cs ih =>
    have hrest := ih fun d hd hpart => h d hd (hpart.trans (List.suffix_cons c cs).isInfix)
    have hkeep : ¬ (isBlank c && ((cs.dropWhile isBlank).head? == some '#')) = true := by
      intro hcomment
      rw [Bool.and_eq_true, beq_iff_eq] at hcomment
      obtain ⟨hc, hhead⟩ := hcomment
      obtain ⟨after, hafter⟩ : ∃ after, cs.dropWhile isBlank = '#' :: after := by
        rcases hdrop : cs.dropWhile isBlank with _ | ⟨d, after⟩
        · rw [hdrop] at hhead
          cases hhead
        · rw [hdrop] at hhead
          cases hhead
          exact ⟨after, rfl⟩
      -- the last of the blanks stands directly before the mark
      obtain ⟨init, b, hinit⟩ := List.eq_nil_or_concat (c :: cs.takeWhile isBlank) |>.resolve_left
        (List.cons_ne_nil _ _)
      have hb : isBlank b = true := by
        have hmem : b ∈ c :: cs.takeWhile isBlank := by rw [hinit]; simp
        obtain rfl | hmem := List.mem_cons.1 hmem
        · exact hc
        · exact List.mem_takeWhile_imp hmem
      refine h b hb ⟨init, after, ?_⟩
      have hsplit : c :: cs = (c :: cs.takeWhile isBlank) ++ cs.dropWhile isBlank := by
        rw [List.cons_append, List.takeWhile_append_dropWhile]
      rw [hsplit, hinit, hafter]
      simp
    rw [beforeComment, if_neg hkeep, hrest]

theorem interpolate_eq_self {cs : List Char} (h : ¬ ['$', '\x7b'] <:+: cs)
    (known : String → Option String) (fuel : Nat) : interpolate known fuel cs = cs := by
  induction fuel generalizing cs with
  | zero => rw [interpolate]
  | succ fuel ih =>
    cases cs with
    | nil => rw [interpolate]
    | cons c cs =>
      have hrest := ih fun hpart => h (hpart.trans (List.suffix_cons c cs).isInfix)
      rw [interpolate, hrest]
      rintro cs' rfl rfl
      exact h ⟨[], cs', rfl⟩

/-- What begins with a character that is no blank begins with no blank. -/
theorem dropWhile_isInnerBlank_cons {c : Char} (h : isBlank c = false) (cs : List Char) :
    (c :: cs).dropWhile isInnerBlank = c :: cs := by
  rw [List.dropWhile_cons_of_neg]
  simp [isInnerBlank, h]

section Line

variable {n v : String} {rest : List Char}

theorem dropWhile_value (hv : IsPlainValue v) :
    (v.toList ++ '\n' :: rest).dropWhile isInnerBlank = v.toList ++ '\n' :: rest := by
  rcases hlist : v.toList with _ | ⟨c, cs⟩
  · rw [List.nil_append, List.dropWhile_cons_of_neg]
    decide
  · have hc : isBlank c = false := (hv.head c (by rw [hlist]; rfl)).1
    exact dropWhile_isInnerBlank_cons hc _

/-- A plain value begins with no quote. -/
theorem value_ne_quote (hv : IsPlainValue v) {q : Char} (hq : q = '\'' ∨ q = '"')
    (more : List Char) : v.toList ++ '\n' :: rest ≠ q :: more := by
  intro h
  rcases hlist : v.toList with _ | ⟨c, cs⟩ <;> rw [hlist] at h
  · obtain ⟨rfl, -⟩ := List.cons.inj h
    revert hq
    decide
  · obtain ⟨rfl, -⟩ := List.cons.inj h
    obtain ⟨-, hsingle, hdouble⟩ := hv.head c (by rw [hlist]; rfl)
    exact hq.elim hsingle hdouble

/-- An unquoted value runs to the end of its line. -/
theorem readValue_plain (hv : IsPlainValue v) :
    readValue (v.toList ++ '\n' :: rest) = some (v.toList, '\n' :: rest) := by
  have hline : (v.toList ++ '\n' :: rest).takeWhile (fun c => !isLineEnd c) = v.toList := by
    rw [List.takeWhile_append_of_pos (by simpa using hv.lines),
      List.takeWhile_cons_of_neg (by decide), List.append_nil]
  have hlast : v.toList.reverse.dropWhile isBlank = v.toList.reverse := by
    rcases hlist : v.toList.reverse with _ | ⟨c, cs⟩
    · rfl
    · have hc : isBlank c = false := by
        refine hv.last c ?_
        rw [← List.head?_reverse, hlist]
        rfl
      rw [List.dropWhile_cons_of_neg (by simp [hc])]
  have hplain : plainValue (v.toList ++ '\n' :: rest) = (v.toList, '\n' :: rest) := by
    rw [plainValue, hline, beforeComment_eq_self hv.comments, hlast, List.reverse_reverse,
      List.drop_left]
  rw [readValue, hplain]
  · exact fun more => value_ne_quote hv (.inl rfl) more
  · exact fun more => value_ne_quote hv (.inr rfl) more

/-- A name runs to the sign after it. -/
theorem readName_plain (hn : IsPlainName n) (more : List Char) :
    readName (n.toList ++ '=' :: more) = some (some n.toList, '=' :: more) := by
  obtain ⟨c, cs, hlist, hquote, -⟩ := hn.start
  have hname : (n.toList ++ '=' :: more).takeWhile
      (fun c => c ≠ '=' && c ≠ '#' && !isBlank c) = n.toList := by
    rw [List.takeWhile_append_of_pos, List.takeWhile_cons_of_neg (by decide), List.append_nil]
    intro d hd
    obtain ⟨hsign, hmark, hblank⟩ := hn.chars d hd
    simp [hsign, hmark, hblank]
  have hne : n.toList.isEmpty = false := by rw [hlist]; rfl
  have hmark : c ≠ '#' := (hn.chars c (by rw [hlist]; exact List.mem_cons_self)).2.1
  rw [readName, hname, hne, List.drop_left]
  · rfl
  · intro rest hrest
    rw [hlist] at hrest
    exact hmark (List.cons.inj hrest).1
  · intro rest hrest
    rw [hlist] at hrest
    exact hquote (List.cons.inj hrest).1

/-- Nothing stands before a plain name. -/
theorem skipExport_plain (hn : IsPlainName n) (more : List Char) :
    skipExport ((n.toList ++ more).dropWhile isBlank) = n.toList ++ more := by
  obtain ⟨c, cs, hlist, -, he⟩ := hn.start
  have hc : isBlank c = false := (hn.chars c (by rw [hlist]; exact List.mem_cons_self)).2.2
  rw [hlist, List.cons_append, List.dropWhile_cons_of_neg (by simp [hc]), skipExport, if_neg]
  have hword : "export".toList = 'e' :: ['x', 'p', 'o', 'r', 't'] := by decide
  rw [hword, List.isPrefixOf_cons_cons]
  simp [Ne.symm he]

/-- A plain line is read as its assignment. -/
theorem readLine_plain (hn : IsPlainName n) (hv : IsPlainValue v) :
    readLine (n.toList ++ '=' :: (v.toList ++ '\n' :: rest)) = (some (n, some v), rest) := by
  have hsign : ('=' :: (v.toList ++ '\n' :: rest)).dropWhile isInnerBlank =
      '=' :: (v.toList ++ '\n' :: rest) := dropWhile_isInnerBlank_cons (by decide) _
  have hend : skipComment ('\n' :: rest) = '\n' :: rest := by
    rw [skipComment, List.dropWhile_cons_of_neg (by decide)]
    rfl
  have hline : endLine? ('\n' :: rest) = some rest := by
    rw [endLine?, List.dropWhile_cons_of_neg (by decide)]
    rfl
  rw [readLine, skipExport_plain hn, readName_plain hn]
  simp only [hsign, dropWhile_value hv, readValue_plain hv, Option.map_some, hend, hline,
    String.ofList_toList]

end Line

/-! ## Files -/

/-- Assignments that plain lines can be written from. -/
def ArePlain (bs : List (String × String)) : Prop :=
  ∀ b ∈ bs, IsPlainName b.1 ∧ IsPlainValue b.2

variable {bs : List (String × String)}

theorem toList_plainText_cons (b : String × String) (bs : List (String × String)) :
    (plainText (b :: bs)).toList =
      b.1.toList ++ '=' :: (b.2.toList ++ '\n' :: (plainText bs).toList) := by
  simp [plainText]

theorem readLines_plainText (h : ArePlain bs) {fuel : Nat} (hfuel : bs.length < fuel) :
    readLines fuel (plainText bs).toList = bs.map fun b => (b.1, some b.2) := by
  induction bs generalizing fuel with
  | nil =>
    obtain ⟨fuel, rfl⟩ : ∃ n, fuel = n + 1 := ⟨fuel - 1, by omega⟩
    rfl
  | cons b bs ih =>
    obtain ⟨fuel, rfl⟩ : ∃ n, fuel = n + 1 := ⟨fuel - 1, by omega⟩
    obtain ⟨hn, hv⟩ := h b List.mem_cons_self
    have hrest := ih (fun d hd => h d (List.mem_cons_of_mem _ hd)) (Nat.lt_of_succ_lt_succ hfuel)
    have hsome : ((plainText (b :: bs)).toList.dropWhile isBlank).isEmpty = false := by
      obtain ⟨c, cs, hlist, -, -⟩ := hn.start
      have hc : isBlank c = false := (hn.chars c (by rw [hlist]; exact List.mem_cons_self)).2.2
      rw [toList_plainText_cons, hlist, List.cons_append,
        List.dropWhile_cons_of_neg (by simp [hc])]
      rfl
    rw [readLines, hsome, toList_plainText_cons, readLine_plain hn hv]
    simp only [Bool.false_eq_true, ↓reduceIte, hrest]
    rfl

theorem length_le_plainText (bs : List (String × String)) :
    bs.length ≤ (plainText bs).toList.length := by
  induction bs with
  | nil => exact Nat.zero_le _
  | cons b bs ih =>
    rw [toList_plainText_cons]
    simp only [List.length_cons, List.length_append]
    omega

/-- Plain lines have no carriage returns, and the last has an end. -/
theorem exists_toList_plainText {b : String × String} (h : ArePlain (b :: bs)) :
    ∃ cs, (plainText (b :: bs)).toList = cs ++ ['\n'] ∧ '\r' ∉ cs := by
  induction bs generalizing b with
  | nil =>
    obtain ⟨hn, hv⟩ := h b List.mem_cons_self
    refine ⟨b.1.toList ++ '=' :: b.2.toList, by simp [plainText], fun hmem => ?_⟩
    rw [List.mem_append, List.mem_cons] at hmem
    obtain hname | hsign | hvalue := hmem
    · exact absurd (hn.chars _ hname).2.2 (by decide)
    · revert hsign
      decide
    · exact absurd (hv.lines _ hvalue) (by decide)
  | cons d bs ih =>
    obtain ⟨hn, hv⟩ := h b List.mem_cons_self
    obtain ⟨cs, hcs, hreturn⟩ := ih fun e he => h e (List.mem_cons_of_mem _ he)
    refine ⟨b.1.toList ++ '=' :: (b.2.toList ++ '\n' :: cs), ?_, fun hmem => ?_⟩
    · rw [toList_plainText_cons, hcs]
      simp
    · rw [List.mem_append, List.mem_cons, List.mem_append, List.mem_cons] at hmem
      obtain hname | hsign | hvalue | hend | hrest := hmem
      · exact absurd (hn.chars _ hname).2.2 (by decide)
      · revert hsign
        decide
      · exact absurd (hv.lines _ hvalue) (by decide)
      · revert hend
        decide
      · exact hreturn hrest

theorem normalLines_plainText (h : ArePlain bs) :
    Syntax.Token.normalLines (plainText bs).toList = (plainText bs).toList := by
  cases bs with
  | nil => rfl
  | cons b bs =>
    obtain ⟨cs, hcs, hreturn⟩ := exists_toList_plainText h
    rw [hcs, Syntax.Token.normalLines_eq hreturn]

/-- What the next assignment of a file makes of those before. -/
def parseStep (env : List (String × String)) (acc : List (String × Option String))
    (b : String × Option String) : List (String × Option String) :=
  let known (n : String) : Option String :=
    match acc.lookup n with
    | some v => some (v.getD "")
    | none => env.lookup n
  assign acc b.1 (b.2.map fun v => String.ofList (interpolate known (v.length + 1) v.toList))

theorem parse_eq (env : List (String × String)) (text : String) :
    parse env text =
      let cs := Syntax.Token.normalLines text.toList
      (readLines (cs.length + 1) cs).foldl (parseStep env) [] := rfl

/-- A file of plain lines with different names is read as the assignments. -/
theorem parse_plainText (h : ArePlain bs) (hnames : (bs.map Prod.fst).Nodup)
    (env : List (String × String)) :
    parse env (plainText bs) = bs.map fun b => (b.1, some b.2) := by
  have hlines := readLines_plainText h (Nat.lt_succ_of_le (length_le_plainText bs))
  have hsteps (acc : List (String × Option String))
      (hacc : (acc.map Prod.fst ++ bs.map Prod.fst).Nodup) :
      (bs.map fun b => (b.1, some b.2)).foldl (parseStep env) acc =
        acc ++ bs.map fun b => (b.1, some b.2) := by
    clear hlines hnames
    induction bs generalizing acc with
    | nil => exact (List.append_nil acc).symm
    | cons b bs ih =>
      have hnew : b.1 ∉ acc.map Prod.fst := by
        intro hmem
        exact (List.nodup_append.1 hacc).2.2 _ hmem _ List.mem_cons_self rfl
      have hstep : parseStep env acc (b.1, some b.2) = acc ++ [(b.1, some b.2)] := by
        rw [parseStep, Option.map_some, interpolate_eq_self (h b List.mem_cons_self).2.references,
          String.ofList_toList, assign_of_none (lookup_eq_none_of_not_mem hnew)]
      rw [List.map_cons, List.foldl_cons, hstep, ih (fun d hd => h d (List.mem_cons_of_mem _ hd)),
        List.append_assoc, List.singleton_append]
      rw [List.map_append, List.map_cons, List.map_nil, List.append_assoc, List.singleton_append]
      exact hacc
  rw [parse_eq, normalLines_plainText h]
  simp only [hlines]
  exact hsteps [] hnames

end ErrorTrail.EnvFile
