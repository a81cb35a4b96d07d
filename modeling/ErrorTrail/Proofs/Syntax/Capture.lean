import ErrorTrail.Proofs.Syntax.Blocks

/-!
# Names wanted from outside

A block wants a name if the name occurs free in it, whatever the blocks around offer
(`Scope.Wants`). What it takes from outside is what it wants and is offered (`mem_captures_iff`), so two
surroundings that agree on the names that a block wants resolve every name in it alike.

`Scope.without n` is a block in which a name `n` is not mentioned any more. For a name that is only read
in a block, the block and the one without it resolve all other names alike, at every depth
(`ReadsOnly.blockAt?_without`, `Agree.home_without`), and take the same ones from outside
(`Agree.captures_without`).
-/

namespace ErrorTrail.Syntax.Scope

variable {s t : Scope} {n x : String} {around around' a a' : Surroundings} {is : List Nat}

/-! ## Open names -/

/-- A name lives in a block, whatever stands around it. -/
def Owns (s : Scope) (x : String) : Prop :=
  s.does (· == .declareGlobal) x = false ∧ s.does outward x = false ∧ s.does Deed.binds x = true

/-- A name of a block is to be found outside, if it is offered there. -/
def Open (s : Scope) (x : String) : Prop := s.does (· == .declareGlobal) x = false ∧ ¬ s.Owns x

theorem mem_own_iff : x ∈ s.own around ↔ s.Owns x := by
  rw [mem_own, home_eq_own_iff]
  exact ⟨And.right, fun h => ⟨mem_names_of_does h.2.2, h⟩⟩

theorem home_eq_outer_iff : s.home around x = .outer ↔ s.Open x ∧ x ∈ around.names := by
  unfold Open Owns
  rw [home_eq]
  cases s.does (· == .declareGlobal) x <;> cases s.does outward x <;> cases s.does Deed.binds x <;>
    simp [apply_ite (· = Home.outer)]

/-- The names that a block hands on from the blocks around it to those inside. -/
def Passes (s : Scope) (x : String) : Prop :=
  match s.block with
  | .classBody => x ≠ classVariable
  | .file => False
  | .annotations => s.does (· == .declareGlobal) x = false
  | _ => s.Open x

/-- A name is offered to the blocks inside because the block has it, or because the block passes it
on. -/
theorem mem_names_offers_iff (hfile : s.block ≠ .file) :
    x ∈ (s.offers around).names ↔
      (match s.block with
        | .classBody => x = classVariable
        | .annotations => False
        | _ => s.Owns x) ∨ x ∈ around.names ∧ s.Passes x := by
  rw [mem_names_offers rfl hfile, mem_own_iff, Bool.not_eq_true]
  unfold Passes Open
  cases hb : s.block with
  | file => exact absurd hb hfile
  | classBody => by_cases hx : x = classVariable <;> simp [hx]
  | annotations => simp
  | function | comprehension => by_cases hx : s.Owns x <;> simp [hx]

/-- What the blocks inside may take through a block is what the block passes on. -/
theorem offers_passing_iff : (x ∈ (s.offers around).names ∧
      match s.block with
      | .classBody => x ≠ classVariable
      | .file => False
      | .annotations => True
      | _ => x ∉ s.own around) ↔ x ∈ around.names ∧ s.Passes x := by
  by_cases hfile : s.block = .file
  · simp [Passes, hfile]
  · rw [mem_names_offers_iff hfile, mem_own_iff]
    unfold Passes Open
    cases hb : s.block with
    | file => exact absurd hb hfile
    | classBody => by_cases hx : x = classVariable <;> simp [hx]
    | annotations => simp
    | function | comprehension => by_cases hx : s.Owns x <;> simp [hx]

/-- A block wants a name: it occurs open there, or in a block inside to which it is passed on. -/
inductive Wants (x : String) : Scope → Prop
  | here {s : Scope} (hname : x ∈ s.names) (hopen : s.Open x) : Wants x s
  | inside {s t : Scope} (ht : t ∈ s.inner) (h : Wants x t) (hpasses : s.Passes x) : Wants x s

/-- What a block takes from outside is what it wants and is offered. -/
theorem mem_captures_iff : x ∈ s.captures around ↔ x ∈ around.names ∧ s.Wants x := by
  induction s generalizing around with
  | node b ms allowed ss ih =>
    rw [mem_captures, home_eq_outer_iff]
    constructor
    · rintro (⟨hname, hopen, hoffered⟩ | ⟨⟨t, ht, hx⟩, hpass⟩)
      · exact ⟨hoffered, .here hname hopen⟩
      · obtain ⟨hinside, hwants⟩ := (ih t ht).1 hx
        obtain ⟨hoffered, hpasses⟩ := offers_passing_iff.1 ⟨hinside, hpass⟩
        exact ⟨hoffered, .inside ht hwants hpasses⟩
    · rintro ⟨hoffered, hwants⟩
      cases hwants with
      | here hname hopen => exact .inl ⟨hname, hopen, hoffered⟩
      | inside ht h hpasses =>
        obtain ⟨hinside, hpass⟩ := offers_passing_iff.2 ⟨hoffered, hpasses⟩
        exact .inr ⟨⟨_, ht, (ih _ ht).2 ⟨hinside, h⟩⟩, hpass⟩

theorem mem_captured : x ∈ s.captured around ↔ x ∈ s.captures around := by
  simp [captured, sortedNames]

/-! ## Without a name -/

mutual
/-- A block in which a name is not mentioned any more, here or in a block inside. -/
def without (n : String) : Scope → Scope
  | node b ms allowed ss => node b (ms.filter (·.name ≠ n)) allowed (withoutList n ss)

def withoutList (n : String) : List Scope → List Scope
  | [] => []
  | s :: ss => without n s :: withoutList n ss
end

theorem withoutList_eq (ss : List Scope) : withoutList n ss = ss.map (without n) := by
  induction ss with
  | nil => rfl
  | cons s ss ih => simp [withoutList, ih]

@[simp] theorem block_without (s : Scope) : (s.without n).block = s.block := by
  cases s
  rfl

@[simp] theorem mentions_without (s : Scope) :
    (s.without n).mentions = s.mentions.filter (·.name ≠ n) := by
  cases s
  rfl

@[simp] theorem inner_without (s : Scope) : (s.without n).inner = s.inner.map (without n) := by
  cases s
  exact withoutList_eq _

theorem mem_names_without : x ∈ (s.without n).names ↔ x ∈ s.names ∧ x ≠ n := by
  simp only [mem_names, mentions_without, List.mem_filter, decide_eq_true_eq]
  constructor
  · rintro ⟨m, ⟨hm, hne⟩, rfl⟩
    exact ⟨⟨m, hm, rfl⟩, hne⟩
  · rintro ⟨⟨m, hm, rfl⟩, hne⟩
    exact ⟨m, ⟨hm, hne⟩, rfl⟩

theorem does_without (hx : x ≠ n) (f : Deed → Bool) : (s.without n).does f x = s.does f x := by
  rw [Bool.eq_iff_iff, does_iff, does_iff, mentions_without]
  refine exists_congr fun m => ⟨fun ⟨hm, h⟩ => ⟨(List.mem_filter.1 hm).1, h⟩, fun ⟨hm, hname, h⟩ => ?_⟩
  exact ⟨List.mem_filter.2 ⟨hm, by simpa [hname] using hx⟩, hname, h⟩

theorem owns_without (hx : x ≠ n) : (s.without n).Owns x ↔ s.Owns x := by
  unfold Owns
  simp only [does_without hx]

theorem open_without (hx : x ≠ n) : (s.without n).Open x ↔ s.Open x := by
  unfold Open
  simp only [does_without hx, owns_without hx]

theorem passes_without (hx : x ≠ n) : (s.without n).Passes x ↔ s.Passes x := by
  unfold Passes
  simp only [block_without, does_without hx, open_without hx]

theorem wants_without (hx : x ≠ n) : (s.without n).Wants x ↔ s.Wants x := by
  induction s with
  | node b ms allowed ss ih =>
    constructor
    · intro h
      cases h with
      | here hname hopen => exact .here (mem_names_without.1 hname).1 ((open_without hx).1 hopen)
      | inside ht h hpasses =>
        obtain ⟨u, hu, rfl⟩ := List.mem_map.1 (inner_without _ ▸ ht)
        exact .inside hu ((ih u hu).1 h) ((passes_without hx).1 hpasses)
    · intro h
      cases h with
      | here hname hopen => exact .here (mem_names_without.2 ⟨hname, hx⟩) ((open_without hx).2 hopen)
      | inside ht h hpasses =>
        refine .inside (inner_without _ ▸ List.mem_map_of_mem ht) ((ih _ ht).2 h) ?_
        exact (passes_without hx).2 hpasses

/-- Two surroundings agree on the names besides `n` that a block wants. -/
def Agree (n : String) (s : Scope) (around a : Surroundings) : Prop :=
  ∀ x ≠ n, s.Wants x → (x ∈ around.names ↔ x ∈ a.names)

theorem Agree.inside (h : s.Agree n around a) (hfile : s.block ≠ .file) (ht : t ∈ s.inner) :
    t.Agree n ((s.without n).offers around) (s.offers a) := by
  intro x hx hwants
  rw [mem_names_offers_iff hfile, mem_names_offers_iff (by simpa using hfile), passes_without hx,
    block_without, owns_without hx]
  refine or_congr Iff.rfl ?_
  exact and_congr_left fun hpasses => h x hx (.inside ht hwants hpasses)

/-- A name besides `n` lives in a block where it lives in the block without `n`, if the surroundings
agree. -/
theorem Agree.home_without (h : s.Agree n around a) (hx : x ≠ n) (hname : x ∈ s.names) :
    (s.without n).home around x = s.home a x := by
  rw [home_eq, home_eq, does_without hx, does_without hx, does_without hx]
  by_cases hopen : s.Open x
  · simp only [h x hx (.here hname hopen)]
  · unfold Open Owns at hopen
    cases hglobal : s.does (· == .declareGlobal) x <;> cases houtward : s.does outward x <;>
      cases hbinds : s.does Deed.binds x <;> simp_all

theorem Agree.captures_without (h : s.Agree n around a) (hx : x ≠ n) :
    x ∈ (s.without n).captures around ↔ x ∈ s.captures a := by
  rw [mem_captures_iff, mem_captures_iff, wants_without hx]
  exact and_congr_left fun hwants => h x hx hwants

/-! ## Names that are only read -/

/-- A name occurs in a block or in one inside. -/
inductive Occurs (x : String) : Scope → Prop
  | here {s : Scope} (hname : x ∈ s.names) : Occurs x s
  | inside {s t : Scope} (ht : t ∈ s.inner) (h : Occurs x t) : Occurs x s

theorem Wants.occurs (h : s.Wants x) : s.Occurs x := by
  induction h with
  | here hname _ => exact .here hname
  | inside ht _ _ ih => exact .inside ht ih

theorem not_occurs_without (s : Scope) : ¬ (s.without n).Occurs n := by
  induction s with
  | node b ms allowed ss ih =>
    intro h
    cases h with
    | here hname => exact (mem_names_without.1 hname).2 rfl
    | inside ht h =>
      obtain ⟨u, hu, rfl⟩ := List.mem_map.1 (inner_without _ ▸ ht)
      exact ih u hu h

namespace ReadsOnly

theorem isOpen (h : s.ReadsOnly n) : s.Open n :=
  ⟨h.does_eq_false rfl, fun howns => by simpa [h.does_eq_false (f := Deed.binds) rfl] using howns.2.2⟩

theorem passes (h : s.ReadsOnly n) (hn : n ≠ classVariable) : s.Passes n := by
  unfold Passes
  have hfile := h.block_ne_file
  cases hb : s.block with
  | file => exact hfile hb
  | classBody => exact hn
  | annotations => exact h.does_eq_false rfl
  | function | comprehension => exact h.isOpen

/-- A name that is only read is wanted where it occurs. -/
theorem wants_iff (h : s.ReadsOnly n) (hn : n ≠ classVariable) : s.Wants n ↔ s.Occurs n := by
  induction s with
  | node b ms allowed ss ih =>
    refine ⟨Wants.occurs, fun hoccurs => ?_⟩
    cases hoccurs with
    | here hname => exact .here hname h.isOpen
    | inside ht hoccurs =>
      exact .inside ht ((ih _ ht (h.of_mem_inner ht)).2 hoccurs) (h.passes hn)

/-- At every depth, a block and the one without the name correspond, in surroundings that agree. -/
theorem blockAt?_without (h : s.ReadsOnly n) (hagree : s.Agree n around a)
    (hat : s.blockAt? a is = some (a', t)) :
    ∃ around', (s.without n).blockAt? around is = some (around', t.without n) ∧
      t.Agree n around' a' := by
  induction is generalizing s around a with
  | nil =>
    cases hat
    exact ⟨around, rfl, hagree⟩
  | cons i is ih =>
    obtain ⟨u, hu, hat⟩ := Option.bind_eq_some_iff.1 (blockAt?_cons ▸ hat)
    have hmem := List.mem_of_getElem? hu
    obtain ⟨around', hat', hagree'⟩ := ih (h.of_mem_inner hmem) (hagree.inside h.block_ne_file hmem) hat
    refine ⟨around', ?_, hagree'⟩
    rw [blockAt?_cons, inner_without, List.getElem?_map, hu]
    exact hat'

end ReadsOnly

end ErrorTrail.Syntax.Scope
