import Mathlib.Data.Finset.Card
import Mathlib.Data.List.Chain
import Mathlib.Data.Nat.Find
import ErrorTrail.Syntax.Scope

/-!
# Fresh names and private names

`freshName` gives a name that its tree does not read, bind or declare (`freshName_not_mem`): the
candidates are tried one after another (`Search`), and there are more of them than names that can be
taken (`exists_search`). A name in which no two underscores stand side by side (`Sparse`) is not
private, and no private name is spelled like it in any class (`Sparse.privateName_eq_iff`). The
candidates for a fresh name are sparse when their base is (`sparse_freshName`), so that a fresh name
is fresh in every class.
-/

namespace ErrorTrail.Syntax

/-! ## Fresh names -/

theorem candidate_injective (base : String) : Function.Injective (candidate base) := by
  intro i j h
  have hlist := congrArg String.toList h
  match i, j with
  | 0, 0 => rfl
  | 0, j + 1 => simp [candidate] at hlist
  | i + 1, 0 => simp [candidate] at hlist
  | i + 1, j + 1 =>
    simp only [candidate, String.toList_append, List.append_cancel_left_eq] at hlist
    have hdigits := congrArg (Nat.ofDigitChars 10 · 0) hlist
    simpa [Nat.toString_eq_ofList_toDigits] using hdigits

/-- The search for a free candidate, one test after another: from the candidate numbered `n` on it
takes `tests` of them and ends with the one numbered `r`. -/
inductive Search (base : String) (taken : List String) : (n tests r : Nat) → Prop
  | stop {n : Nat} (free : candidate base n ∉ taken) : Search base taken n 1 n
  | step {n tests r : Nat} (used : candidate base n ∈ taken)
      (rest : Search base taken (n + 1) tests r) : Search base taken n (tests + 1) r

namespace Search

variable {base : String} {taken : List String} {n tests r fuel : Nat}

/-- Each test but the last is of a candidate that is taken. -/
theorem spec (h : Search base taken n tests r) :
    candidate base r ∉ taken ∧ (n ≤ r ∧ n + tests = r + 1) ∧
      ∀ k, n ≤ k → k < r → candidate base k ∈ taken := by
  induction h with
  | stop free => exact ⟨free, ⟨le_rfl, rfl⟩, fun k hk hlt => by omega⟩
  | @step n tests r used rest ih =>
    obtain ⟨hfree, htests, hused⟩ := ih
    refine ⟨hfree, by omega, fun k hk hlt => ?_⟩
    obtain rfl | hk := hk.eq_or_lt
    · exact used
    · exact hused k hk hlt

/-- A search takes one path: past the candidates that are taken, to the first that is free. -/
theorem of_spec (hn : n ≤ r) (hfree : candidate base r ∉ taken)
    (hused : ∀ k, n ≤ k → k < r → candidate base k ∈ taken) :
    Search base taken n (r - n + 1) r := by
  induction hn using Nat.decreasingInduction with
  | self => simpa using stop hfree
  | of_succ n hlt ih =>
    rw [show r - n = r - (n + 1) + 1 by omega]
    exact step (hused n le_rfl hlt) (ih fun k hk hkr => hused k (by omega) hkr)

/-- With enough fuel `firstFree` ends where the search does. -/
theorem firstFree_eq (h : Search base taken n tests r) (hfuel : tests ≤ fuel + 1) :
    firstFree base taken fuel n = r := by
  induction h generalizing fuel with
  | stop free => cases fuel <;> simp [firstFree, free]
  | @step n tests r used rest ih =>
    rcases fuel with _ | fuel
    · have := rest.spec.2.1
      omega
    · simpa [firstFree, used] using ih (Nat.le_of_succ_le_succ hfuel)

end Search

/-- There are more candidates than taken names, so the search ends: after one test more than there are
taken names, if not before. -/
theorem exists_search (base : String) (taken : List String) :
    ∃ n ≤ taken.toFinset.card, Search base taken 0 (n + 1) n := by
  have hfree : ∃ n ≤ taken.toFinset.card, candidate base n ∉ taken := by
    by_contra! hall
    have hsub : (Finset.range (taken.toFinset.card + 1)).image (candidate base) ⊆ taken.toFinset := by
      intro c hc
      obtain ⟨n, hn, rfl⟩ := Finset.mem_image.1 hc
      exact List.mem_toFinset.2 (hall n (Nat.lt_succ_iff.1 (Finset.mem_range.1 hn)))
    have hcard := Finset.card_le_card hsub
    rw [Finset.card_image_of_injective _ (candidate_injective base), Finset.card_range] at hcard
    omega
  -- The least number of a free candidate is where the search ends.
  classical
  obtain ⟨hbound, hfirst⟩ := Nat.find_spec hfree
  refine ⟨Nat.find hfree, hbound, Search.of_spec (Nat.zero_le _) hfirst fun k _ hk => ?_⟩
  by_contra hk'
  exact Nat.find_min hfree hk ⟨hk.le.trans hbound, hk'⟩

/-- The fresh name is the one that the search ends with. -/
theorem exists_search_freshNameAmong (taken : List String) (base : String) :
    ∃ n ≤ taken.toFinset.card,
      Search base taken 0 (n + 1) n ∧ freshNameAmong taken base = candidate base n := by
  obtain ⟨n, hn, hsearch⟩ := exists_search base taken
  have hfuel : n + 1 ≤ taken.length + 1 := Nat.succ_le_succ (hn.trans taken.toFinset_card_le)
  exact ⟨n, hn, hsearch, congrArg (candidate base) (hsearch.firstFree_eq hfuel)⟩

theorem freshNameAmong_not_mem (taken : List String) (base : String) :
    freshNameAmong taken base ∉ taken := by
  obtain ⟨n, -, hsearch, heq⟩ := exists_search_freshNameAmong taken base
  exact heq ▸ hsearch.spec.1

/-- A fresh name is none that the tree reads, binds or declares. -/
theorem freshName_not_mem {α : Type} (t : SyntaxTree α) (base : String) :
    freshName t base ∉ t.identifiers := freshNameAmong_not_mem _ _

/-- A candidate is made of the characters of its base, underscores and digits. -/
theorem mem_toList_candidate {base : String} {n : Nat} {c : Char}
    (h : c ∈ (candidate base n).toList) : c ∈ base.toList ∨ c = '_' ∨ c.isDigit := by
  cases n with
  | zero => exact .inl h
  | succ n =>
    rw [candidate, String.toList_append, String.toList_append, List.mem_append, List.mem_append] at h
    obtain (h | h) | h := h
    · exact .inl h
    · exact .inr (.inl (List.mem_singleton.1 h))
    · exact .inr (.inr (Nat.isDigit_of_mem_toDigits (by omega) (by omega) (Nat.toList_repr ▸ h)))

/-! ## Private names -/

/-- A private name begins with two underscores, and stands under another name in a class. -/
theorem privateName_cases (owner : Option String) (name : String) :
    privateName owner name = name ∨
      "__".toList <+: name.toList ∧ ∃ stem, privateName owner name = "_" ++ stem ++ name := by
  unfold privateName
  split
  · exact .inl rfl
  · dsimp only
    split
    · next h =>
      simp only [Bool.and_eq_true, String.startsWith_string_iff] at h
      exact .inr ⟨h.1.1.1, _, rfl⟩
    · exact .inl rfl

/-- No two underscores stand side by side. -/
def Sparse (name : String) : Prop := name.toList.IsChain fun a b => a ≠ '_' ∨ b ≠ '_'

instance (name : String) : Decidable (Sparse name) :=
  inferInstanceAs (Decidable (List.IsChain _ name.toList))

namespace Sparse

variable {name fresh : String} {owner : Option String}

theorem not_infix (h : Sparse name) : ¬ "__".toList <:+: name.toList := by
  intro hinfix
  have := List.IsChain.infix h hinfix
  simp at this

/-- A sparse name is not private. -/
theorem privateName_eq (h : Sparse name) : privateName owner name = name :=
  (privateName_cases owner name).resolve_right fun hprivate => h.not_infix hprivate.1.isInfix

/-- No other name stands under a sparse name in any class. -/
theorem privateName_eq_iff (h : Sparse fresh) : privateName owner name = fresh ↔ name = fresh := by
  refine ⟨fun heq => ?_, fun heq => heq ▸ (heq ▸ h : Sparse name).privateName_eq⟩
  obtain hsame | ⟨hstart, stem, hspelled⟩ := privateName_cases owner name
  · exact hsame.symm.trans heq
  · refine absurd (hstart.isInfix.trans ?_) h.not_infix
    rw [← heq, hspelled, String.toList_append]
    exact (List.suffix_append _ _).isInfix

theorem candidate {base : String} (h : Sparse base) (hlast : base.toList.getLast? ≠ some '_')
    (n : Nat) : Sparse (Syntax.candidate base n) := by
  cases n with
  | zero => exact h
  | succ n =>
    have hdigit : ∀ c ∈ (toString (n + 1)).toList, c ≠ '_' := by
      intro c hc hne
      have := Nat.isDigit_of_mem_toDigits (by omega) (by omega) (Nat.toList_repr ▸ hc)
      simp [hne] at this
    unfold Sparse Syntax.candidate
    rw [String.toList_append, String.toList_append]
    have hmark : "_".toList.IsChain fun a b => a ≠ '_' ∨ b ≠ '_' := .singleton _
    refine (h.append hmark ?_).append ?_ ?_
    · intro a ha b _
      exact .inl fun hne => hlast (hne ▸ ha)
    · exact (List.pairwise_of_forall_mem_list fun a ha _ _ => .inl (hdigit a ha)).isChain
    · exact fun _ _ b hb => .inr (hdigit b (List.mem_of_mem_head? hb))

end Sparse

/-- A fresh name is sparse if what it begins with is. -/
theorem sparse_freshName {α : Type} {base : String} (h : Sparse base)
    (hlast : base.toList.getLast? ≠ some '_') (t : SyntaxTree α) : Sparse (freshName t base) :=
  h.candidate hlast _

/-- A fresh name begins with its base, so it is neither empty nor of another beginning. -/
theorem prefix_freshName {α : Type} (t : SyntaxTree α) (base : String) :
    base.toList <+: (freshName t base).toList := by
  unfold freshName freshNameAmong
  generalize firstFree base t.identifiers t.identifiers.length 0 = n
  cases n with
  | zero => exact List.prefix_rfl
  | succ n =>
    rw [candidate, String.toList_append, String.toList_append, List.append_assoc]
    exact List.prefix_append _ _

end ErrorTrail.Syntax
