import ErrorTrail.Syntax.Scope

/-!
# Blocks inside blocks

`Scope.blockAt?` leads into the blocks of a scope and says what the blocks around each offer it. Where a
name lives in a block comes down to whether it is declared there, bound there and offered
(`home_eq`, `home_eq_own_iff`), and what a block takes from outside to what lives there of its names and
to what the blocks inside take (`mem_captures`).

`Scope.ReadsOnly n` says that a block and those inside do nothing with the name `n` but read it; then it
lives in the nearest block around that offers it, else in the file (`ReadsOnly.home_blockAt?`).
-/

namespace ErrorTrail.Syntax

/-- The names that blocks around a block offer it. -/
def Surroundings.names (around : Surroundings) : List String := around.offered.getD []

namespace Scope

/-- A property of blocks follows from the property of the blocks inside. -/
@[elab_as_elim, induction_eliminator]
theorem induction {motive : Scope → Prop}
    (node : ∀ b ms allowed ss, (∀ s ∈ ss, motive s) → motive (.node b ms allowed ss)) : ∀ s, motive s
  | .node b ms allowed ss => node b ms allowed ss fun s _ => induction node s

/-- The block that numbers of blocks inside blocks lead to, with what the blocks around offer it. -/
def blockAt? (around : Surroundings) (s : Scope) : List Nat → Option (Surroundings × Scope)
  | [] => some (around, s)
  | i :: is => s.inner[i]?.bind fun t => t.blockAt? (s.offers around) is

variable {around around' : Surroundings} {s t : Scope} {n : String} {is : List Nat}

@[simp] theorem blockAt?_nil : s.blockAt? around [] = some (around, s) := rfl

theorem blockAt?_cons {i : Nat} :
    s.blockAt? around (i :: is) = s.inner[i]?.bind fun t => t.blockAt? (s.offers around) is := rfl

theorem blockAt?_append {js : List Nat} (h : s.blockAt? around is = some (around', t)) :
    s.blockAt? around (is ++ js) = t.blockAt? around' js := by
  induction is generalizing s around with
  | nil =>
    cases h
    rfl
  | cons i is ih =>
    obtain ⟨u, hu, hat⟩ := Option.bind_eq_some_iff.1 (blockAt?_cons ▸ h)
    rw [List.cons_append, blockAt?_cons, hu]
    exact ih hat

/-- A block inside the one that is led to is led to. -/
theorem exists_blockAt?_of_mem {u : Scope} (h : s.blockAt? around is = some (around', t))
    (hu : u ∈ t.inner) : ∃ js, s.blockAt? around js = some (t.offers around', u) := by
  obtain ⟨i, hi, hget⟩ := List.getElem_of_mem hu
  refine ⟨is ++ [i], ?_⟩
  rw [blockAt?_append h, blockAt?_cons, List.getElem?_eq_getElem hi, hget]
  rfl

/-! ## Deeds of a block -/

theorem does_iff {f : Deed → Bool} : s.does f n ↔ ∃ m ∈ s.mentions, m.name = n ∧ f m.deed := by
  simp [does]

theorem mem_names : n ∈ s.names ↔ ∃ m ∈ s.mentions, m.name = n := by
  simp [names]

theorem mem_own : n ∈ s.own around ↔ n ∈ s.names ∧ s.home around n = .own := by
  simp [own]

theorem mem_names_of_does {f : Deed → Bool} (h : s.does f n) : n ∈ s.names := by
  obtain ⟨m, hm, hname, -⟩ := does_iff.1 h
  exact mem_names.2 ⟨m, hm, hname⟩

theorem mem_declaredGlobal : n ∈ s.declaredGlobal ↔ s.does (· == .declareGlobal) n := by
  rw [declaredGlobal, List.mem_filter, and_iff_right_iff_imp]
  exact mem_names_of_does

/-- The declaration that takes a name out of its block into one around it. -/
def outward (d : Deed) : Bool := d == .declareOuter || d == .lift

theorem home_eq : s.home around n =
    if s.does (· == .declareGlobal) n then .file
    else if !s.does outward n && s.does Deed.binds n then .own
    else if n ∈ around.names then .outer
    else .file := by
  unfold home Surroundings.names
  rw [show (fun d => d == Deed.declareOuter || d == Deed.lift) = outward from rfl]
  cases s.does (· == .declareGlobal) n <;> cases s.does outward n <;> cases s.does Deed.binds n <;>
    simp

/-- A name lives in a block that binds it and does not declare it to live elsewhere. -/
theorem home_eq_own_iff : s.home around n = .own ↔
    s.does (· == .declareGlobal) n = false ∧ s.does outward n = false ∧ s.does Deed.binds n = true := by
  rw [home_eq]
  cases s.does (· == .declareGlobal) n <;> cases s.does outward n <;> cases s.does Deed.binds n <;>
    simp [apply_ite (· = Home.own)]

/-- What a block offers to the blocks inside. -/
theorem mem_names_offers {b : Block} (hb : s.block = b) (hfile : b ≠ .file) :
    n ∈ (s.offers around).names ↔
      if b = .classBody then n = classVariable ∨ n ∈ around.names
      else b ≠ .annotations ∧ n ∈ s.own around ∨
        n ∈ around.names ∧ ¬ s.does (· == .declareGlobal) n := by
  subst hb
  unfold offers Surroundings.names
  rcases s with ⟨b, ms, allowed, ss⟩
  cases b <;> simp [block, mem_declaredGlobal] at hfile ⊢

/-- A file offers nothing of its own, since every block reaches its names anyway. -/
theorem names_offers_subset_of_file (h : s.block = .file) :
    (s.offers around).names ⊆ around.names := by
  unfold offers Surroundings.names
  rw [h]
  exact List.filter_sublist.subset

/-! ## What a block takes from outside -/

theorem mem_capturesList {ss : List Scope} :
    n ∈ capturesList around ss ↔ ∃ s ∈ ss, n ∈ s.captures around := by
  induction ss with
  | nil => simp [capturesList]
  | cons s ss ih => simp [capturesList, ih]

/-- A block takes from outside what lives there of its own names, and what the blocks inside take and
neither lives in the block nor is the class that the block makes. -/
theorem mem_captures : n ∈ s.captures around ↔
    n ∈ s.names ∧ s.home around n = .outer ∨
      (∃ t ∈ s.inner, n ∈ t.captures (s.offers around)) ∧
        match s.block with
        | .classBody => n ≠ classVariable
        | .file => False
        | .annotations => True
        | _ => n ∉ s.own around := by
  rcases s with ⟨b, ms, allowed, ss⟩
  conv => lhs; unfold captures
  cases b <;> simp [block, inner, mem_capturesList, mem_own, Decidable.imp_iff_not_or, or_comm]

/-! ## Names that are only read -/

/-- A block inside a file that does nothing with a name but read it, and neither do the blocks
inside. -/
inductive ReadsOnly (n : String) : Scope → Prop
  | node {b : Block} {ms : List Mention} {allowed : Bool} {ss : List Scope} (hb : b ≠ .file)
      (hms : ∀ m ∈ ms, m.name = n → m.deed = .read) (hss : ∀ s ∈ ss, ReadsOnly n s) :
      ReadsOnly n (.node b ms allowed ss)

namespace ReadsOnly

theorem block_ne_file (h : s.ReadsOnly n) : s.block ≠ .file := by
  cases h with
  | node hb _ _ => exact hb

theorem of_mem_inner (h : s.ReadsOnly n) (ht : t ∈ s.inner) : t.ReadsOnly n := by
  cases h with
  | node _ _ hss => exact hss t ht

theorem does_eq_false (h : s.ReadsOnly n) {f : Deed → Bool} (hf : f .read = false) :
    s.does f n = false := by
  cases h with
  | node _ hms _ =>
    refine Bool.eq_false_iff.2 fun hdoes => ?_
    obtain ⟨m, hm, hname, hdeed⟩ := does_iff.1 hdoes
    rw [hms m hm hname, hf] at hdeed
    cases hdeed

/-- Such a name lives outside the block. -/
theorem home_eq (h : s.ReadsOnly n) :
    s.home around n = if n ∈ around.names then .outer else .file := by
  rw [Scope.home_eq, h.does_eq_false rfl, h.does_eq_false rfl, h.does_eq_false rfl]
  rfl

/-- Such a name is offered on as it is offered to the block. -/
theorem mem_names_offers (h : s.ReadsOnly n) (hn : n ≠ classVariable) :
    n ∈ (s.offers around).names ↔ n ∈ around.names := by
  have hown : n ∉ s.own around := by
    rw [mem_own, home_eq_own_iff, h.does_eq_false (f := Deed.binds) rfl]
    simp
  rw [Scope.mem_names_offers rfl h.block_ne_file, h.does_eq_false rfl]
  split <;> simp [hn, hown]

theorem blockAt? (h : s.ReadsOnly n) (hn : n ≠ classVariable)
    (hat : s.blockAt? around is = some (around', t)) :
    t.ReadsOnly n ∧ (n ∈ around'.names ↔ n ∈ around.names) := by
  induction is generalizing s around with
  | nil =>
    cases hat
    exact ⟨h, Iff.rfl⟩
  | cons i is ih =>
    obtain ⟨u, hu, hat⟩ := Option.bind_eq_some_iff.1 (blockAt?_cons ▸ hat)
    obtain ⟨ht, hoffered⟩ := ih (h.of_mem_inner (List.mem_of_getElem? hu)) hat
    exact ⟨ht, hoffered.trans (h.mem_names_offers hn)⟩

/-- In every block inside, such a name lives in the nearest block around that offers it, else in the
file. -/
theorem home_blockAt? (h : s.ReadsOnly n) (hn : n ≠ classVariable)
    (hat : s.blockAt? around is = some (around', t)) :
    t.home around' n = if n ∈ around.names then .outer else .file := by
  obtain ⟨ht, hoffered⟩ := h.blockAt? hn hat
  simp only [ht.home_eq, hoffered]

end ReadsOnly

end Scope

end ErrorTrail.Syntax
