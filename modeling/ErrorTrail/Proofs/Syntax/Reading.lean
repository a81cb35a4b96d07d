import ErrorTrail.Proofs.Syntax.Definitions
import ErrorTrail.Syntax.Parse

/-!
# What readers read

`Yields S P r` says of a reader `r` that the trees in every value it reads from a cursor with the property `S`
have the property `P`, and that it leaves a cursor with `S`; `Carries` says which trees there are in a value.
Combined readers yield what their parts yield, so that a proof about a reader of the grammar has the shape of
the reader: `bind` goes past a part that reads trees, `skip` past any other, which only has to keep `S`
(`Keeps`). The readers of single tokens keep every `S` that is `Lasting`: it stays when a token is taken, and
holds where the expressions in a template begin (`Literal.HasExpression`).

The grammar makes nodes of trees that it has read. A property is `Grammatical` if it holds of a node other
than a definition whenever it holds of the node's children and the node knows its lines where it has a
place; of an attribute it has to hold only if its word is read after a point, at a cursor with `S`. What the
rules of expressions read has every such property (`ReadsExpressions`).
-/

namespace ErrorTrail.Syntax

/-- Whether nodes of a form have a place of their own. -/
def Form.hasPlace : Form → Bool
  | .file | .sequence | .absent | .arguments | .comprehension _ | .withItem | .matchCase => false
  | _ => true

/-! ## Trees in values -/

/-- Which trees there are in the values of a type: `carries P a` if all those in `a` have the property. -/
class Carries (α : Type) where
  carries : (Parsed → Prop) → α → Prop

open Carries Reader

variable {P : Parsed → Prop} {α β : Type}

instance : Carries Parsed := ⟨fun P t => P t⟩

instance [Carries α] : Carries (List α) := ⟨fun P as => ∀ a ∈ as, carries P a⟩

instance [Carries α] : Carries (Option α) := ⟨fun P a? => ∀ a, a? = some a → carries P a⟩

instance [Carries α] [Carries β] : Carries (α × β) := ⟨fun P x => carries P x.1 ∧ carries P x.2⟩

/-- Any other value holds no trees. -/
instance (priority := low) Carries.other : Carries α := ⟨fun _ _ => True⟩

/-- The values of a type hold no trees. -/
class Treeless (α : Type) [Carries α] : Prop where
  carries : ∀ (P : Parsed → Prop) (a : α), carries P a

instance : @Treeless α other := @Treeless.mk α other fun _ _ => trivial

instance [Carries α] [Treeless α] : Treeless (List α) := ⟨fun P _ a _ => Treeless.carries P a⟩

instance [Carries α] [Treeless α] : Treeless (Option α) := ⟨fun P _ a _ => Treeless.carries P a⟩

@[simp] theorem carries_treeless [Carries α] [Treeless α] (a : α) : carries P a :=
  Treeless.carries P a

@[simp] theorem carries_tree (t : Parsed) : carries P t ↔ P t := Iff.rfl

@[simp] theorem carries_pair [Carries α] [Carries β] (x : α × β) :
    carries P x ↔ carries P x.1 ∧ carries P x.2 := Iff.rfl

@[simp] theorem carries_none [Carries α] : carries P (none : Option α) ↔ True := by
  simp [carries]

@[simp] theorem carries_some [Carries α] (a : α) :
    carries P (some a) ↔ carries P a := by
  simp [carries]

@[simp] theorem carries_nil [Carries α] : carries P ([] : List α) ↔ True := by
  simp [carries]

@[simp] theorem carries_cons [Carries α] (a : α) (as : List α) :
    carries P (a :: as) ↔ carries P a ∧ carries P as := by
  simp [carries]

@[simp] theorem carries_append [Carries α] (as bs : List α) :
    carries P (as ++ bs) ↔ carries P as ∧ carries P bs := by
  simp [carries, or_imp, forall_and]

theorem carries_map_fst [Carries α] [Carries β] {xs : List (α × β)} (h : carries P xs) :
    carries P (xs.map Prod.fst) := by
  simpa [carries] using fun a b hab => (h (a, b) hab).1

theorem carries_map_snd [Carries α] [Carries β] {xs : List (α × β)} (h : carries P xs) :
    carries P (xs.map Prod.snd) := by
  simpa [carries] using fun b a hab => (h (a, b) hab).2

theorem carries_flatten [Carries α] {xss : List (List α)} (h : carries P xss) :
    carries P xss.flatten := by
  intro x hx
  obtain ⟨xs, hxs, hx⟩ := List.mem_flatten.1 hx
  exact h xs hxs x hx

/-! ## Templates -/

/-- A part of a template that is read: the text up to a field, inside a number of formats, or a field. -/
inductive TemplatePart where
  | text (level : Nat)
  | field (level : Nat)

/-- The reading of a template comes to a part, with a text left on a line. -/
inductive Literal.Comes (l : Literal) : TemplatePart → Nat → List Char → Prop
  | start : l.Comes (.text 0) l.line l.body
  | doubled {n line cs text rest} : l.Comes (.text n) line cs →
      textBefore (l.has 'r') (n > 0) (cs.length + 1) cs = some (text, .doubled, rest) →
      l.Comes (.text n) (line + linesUpTo rest cs) rest
  | field {n line cs text inner} : l.Comes (.text n) line cs →
      textBefore (l.has 'r') (n > 0) (cs.length + 1) cs = some (text, .here, '\x7b' :: inner) →
      l.Comes (.field n) (line + linesUpTo ('\x7b' :: inner) cs) inner
  | format {n line inner source after conversion more} : l.Comes (.field n) line inner →
      expressionText (inner.length + 1) .none [] inner = some (source, after) →
      conversionMark (shownText source after).2 = some (conversion, ':' :: more) →
      l.Comes (.text (n + 1)) (line + linesUpTo (':' :: more) inner) more
  | value {n line inner source after conversion rest} : l.Comes (.field n) line inner →
      expressionText (inner.length + 1) .none [] inner = some (source, after) →
      conversionMark (shownText source after).2 = some (conversion, '\x7d' :: rest) →
      l.Comes (.text n) (line + linesUpTo ('\x7d' :: rest) inner) rest
  | formatted {n line cs text rest} : l.Comes (.text (n + 1)) line cs →
      textBefore (l.has 'r') (n + 1 > 0) (cs.length + 1) cs = some (text, .here, '\x7d' :: rest) →
      l.Comes (.text n) (line + linesUpTo ('\x7d' :: rest) cs) rest

/-- The text of a template stops inside a number of formats, with a rest left on a line. -/
def Literal.Stops (l : Literal) (n line : Nat) (rest : List Char) : Prop :=
  ∃ line' cs text, l.Comes (.text n) line' cs ∧
    textBefore (l.has 'r') (n > 0) (cs.length + 1) cs = some (text, .here, rest) ∧ line = line' + linesUpTo rest cs

/-- In a field of a template an expression of the text `cs` begins on a line. -/
def Literal.HasExpression (l : Literal) (line : Nat) (cs : List Char) : Prop :=
  ∃ n inner after, l.Comes (.field n) line inner ∧
    expressionText (inner.length + 1) .none [] inner = some (cs, after)

/-! ## Cursors -/

/-- Where the reading of an expression in the braces of a template begins. -/
def Cursor.within (line : Nat) (cs : List Char) : Cursor :=
  ⟨Token.scanWithin line ('(' :: cs ++ [')', '\n']), line⟩

/-- A property holds where the reading of each expression in a template begins. -/
def Offers (S : Cursor → Prop) (l : Literal) : Prop :=
  l.has 'f' → ∀ line cs, l.HasExpression line cs → S (.within line cs)

/-- A property of cursors that stays when a token is taken, and that a literal offers. -/
class Lasting (S : Cursor → Prop) : Prop where
  advance : ∀ {t ts last}, S ⟨t :: ts, last⟩ → S ⟨ts, t.last⟩
  offers : ∀ {l first stop ts last}, S ⟨⟨.literal l, first, stop⟩ :: ts, last⟩ → Offers S l

/-- Where nothing is known of cursors. -/
def anywhere (_ : Cursor) : Prop := True

instance : Lasting anywhere := ⟨fun _ => trivial, fun _ _ _ _ _ => trivial⟩

/-! ## Readers -/

/-- From a cursor with the property `S` a reader leaves one with `S`, and what it reads has the property
`Q`. -/
def Reads (S : Cursor → Prop) (Q : α → Prop) (r : Reader α) : Prop :=
  ∀ c a c', S c → r c = .ok (a, c') → S c' ∧ Q a

/-- A reader reads only trees with a property, from cursors with one that it leaves. -/
def Yields [Carries α] (S : Cursor → Prop) (P : Parsed → Prop) (r : Reader α) : Prop :=
  Reads S (carries P) r

/-- A reader leaves a cursor with a property where it found one. -/
class Keeps (S : Cursor → Prop) (r : Reader α) : Prop where
  reads : Reads S (fun _ => True) r

variable {S : Cursor → Prop}

theorem bind_eq_ok {r : Reader α} {k : α → Reader β} {c c' : Cursor} {b : β}
    (h : (r >>= k) c = .ok (b, c')) : ∃ a c₁, r c = .ok (a, c₁) ∧ k a c₁ = .ok (b, c') := by
  have hbind : (r >>= k) c = (r c >>= fun x => k x.1 x.2) := rfl
  rcases hrc : r c with e | ⟨a, c₁⟩
  · rw [hbind, hrc] at h
    cases h
  · rw [hbind, hrc] at h
    exact ⟨a, c₁, rfl, h⟩

namespace Reads

variable {Q : α → Prop} {Q' : β → Prop}

theorem pure {a : α} (h : Q a) : Reads S Q (pure a : Reader α) := by
  rintro c a c' hc ⟨⟩
  exact ⟨hc, h⟩

theorem throw (e : Malformed) : Reads S Q (throw e : Reader α) := by
  rintro c a c' hc ⟨⟩

theorem bind {r : Reader α} {k : α → Reader β} (hr : Reads S Q r) (hk : ∀ a, Q a → Reads S Q' (k a)) :
    Reads S Q' (r >>= k) := by
  intro c b c' hc h
  obtain ⟨a, c₁, hra, hkb⟩ := bind_eq_ok h
  obtain ⟨hc₁, ha⟩ := hr c a c₁ hc hra
  exact hk a ha c₁ b c' hc₁ hkb

theorem ite {c : Prop} [Decidable c] {p q : Reader α} (hp : Reads S Q p) (hq : Reads S Q q) :
    Reads S Q (if c then p else q) := by
  split
  · exact hp
  · exact hq

theorem iterate {step : α → Reader (Option α)}
    (hstep : ∀ a, Q a → Reads S (fun b? => ∀ b, b? = some b → Q b) (step a)) (n : Nat) {a : α} (ha : Q a) : Reads S Q (Reader.iterate step n a) := by
  induction n generalizing a with
  | zero => exact .pure ha
  | succ n ih =>
    refine .bind (hstep a ha) fun b? hb => ?_
    cases b? with
    | none => exact .pure ha
    | some b => exact ih (hb b rfl)

theorem fault : Reads S Q (Reader.fault : Reader α) := by
  intro c a c' hc h
  obtain ⟨k, c₁, -, h⟩ := bind_eq_ok h
  split at h <;> cases h

/-- What was known of the values of an option that a reader lifts. -/
theorem lift {a? : Option α} (h : ∀ a, a? = some a → Q a) : Reads S Q (Reader.lift a?) := by
  cases a? with
  | none => exact .throw _
  | some a => exact .pure (h a rfl)

/-- What comes first need not matter for what follows. -/
theorem skip {r : Reader α} [hr : Keeps S r] {k : α → Reader β} (hk : ∀ a, Reads S Q' (k a)) :
    Reads S Q' (r >>= k) := hr.reads.bind fun a _ => hk a

/-- Something to do first if a condition holds. -/
theorem first_if {c : Prop} [Decidable c] {r : Reader Unit} [Keeps S r] {k : Unit → Reader α}
    (hk : ∀ u, Reads S Q (k u)) : Reads S Q (if c then r >>= k else k ()) :=
  .ite (.skip hk) (hk ())

/-- A reader that starts with the cursor itself. -/
theorem get {k : Cursor → Reader α} (hk : ∀ c, S c → Reads S Q (k c)) :
    Reads S Q ((MonadState.get : Reader Cursor) >>= k) := fun c a c' hc h => hk c hc c a c' hc h

/-- A reader that goes on elsewhere. -/
theorem set {c : Cursor} {k : Unit → Reader α} (hc : S c) (hk : Reads S Q (k ())) :
    Reads S Q ((MonadState.set c : Reader Unit) >>= k) := fun _ a c' _ h => hk c a c' hc h

end Reads

namespace Keeps

/-- Where nothing is known before, nothing need be known after. -/
instance (priority := low) anywhere (r : Reader α) : Keeps anywhere r := ⟨fun _ _ _ _ _ => ⟨trivial, trivial⟩⟩

instance pure (a : α) : Keeps S (pure a : Reader α) := ⟨.pure trivial⟩

instance throw (e : Malformed) : Keeps S (throw e : Reader α) := ⟨.throw e⟩

instance bind {r : Reader α} {k : α → Reader β} [hr : Keeps S r] [hk : ∀ a, Keeps S (k a)] :
    Keeps S (r >>= k) := ⟨hr.reads.bind fun a _ => (hk a).reads⟩

instance map {r : Reader α} {f : α → β} [hr : Keeps S r] : Keeps S (f <$> r) :=
  ⟨by rw [← bind_pure_comp]; exact hr.reads.bind fun _ _ => .pure trivial⟩

instance ite {c : Prop} [Decidable c] {p q : Reader α} [hp : Keeps S p] [hq : Keeps S q] :
    Keeps S (if c then p else q) := ⟨.ite hp.reads hq.reads⟩

instance iterate {step : α → Reader (Option α)} [h : ∀ a, Keeps S (step a)] (n : Nat) (a : α) :
    Keeps S (Reader.iterate step n a) :=
  ⟨.iterate (fun a _ c b? c' hc hr => ⟨((h a).reads c b? c' hc hr).1, fun _ _ => trivial⟩) n trivial⟩

instance mapM {γ : Type} {f : γ → Reader α} [h : ∀ x, Keeps S (f x)] (xs : List γ) :
    Keeps S (xs.mapM f) := by
  induction xs with
  | nil => exact .pure _
  | cons x xs ih =>
    rw [List.mapM_cons]
    infer_instance

open Reader

instance lift (a? : Option α) : Keeps S (lift a?) := ⟨.lift fun _ _ => trivial⟩

instance get : Keeps S (MonadState.get : Reader Cursor) := ⟨by rintro c a c' hc ⟨⟩; exact ⟨hc, trivial⟩⟩

instance peek : Keeps S peek := by
  unfold Reader.peek
  refine @bind _ _ _ _ _ _ fun c => ?_
  split <;> infer_instance

instance peekSecond : Keeps S peekSecond := by
  unfold Reader.peekSecond
  refine @bind _ _ _ _ _ _ fun c => ?_
  split <;> infer_instance

instance line : Keeps S line := by
  unfold Reader.line
  refine @bind _ _ _ _ _ _ fun c => ?_
  split <;> infer_instance

instance fault : Keeps S (fault : Reader α) := ⟨.fault⟩

instance loop {step : α → Reader (Option α)} [∀ a, Keeps S (step a)] (a : α) : Keeps S (loop step a) := by
  unfold Reader.loop
  infer_instance

instance isOp (op : String) : Keeps S (isOp op) := by unfold Reader.isOp; infer_instance

instance isWord (w : String) : Keeps S (isWord w) := by unfold Reader.isWord; infer_instance

section

variable [Lasting S]

instance advance : Keeps S advance := by
  refine ⟨fun c a c' hc h => ?_⟩
  obtain ⟨_ | ⟨t, ts⟩, last⟩ := c
  · cases h
    exact ⟨hc, trivial⟩
  · cases h
    exact ⟨Lasting.advance hc, trivial⟩

instance accept (k : Token.Kind) : Keeps S (accept k) := by unfold Reader.accept; infer_instance

instance acceptOp (op : String) : Keeps S (acceptOp op) := by unfold Reader.acceptOp; infer_instance

instance acceptOpIf (allowed : Bool) (op : String) : Keeps S (acceptOpIf allowed op) := by
  unfold Reader.acceptOpIf
  infer_instance

instance acceptWord (w : String) : Keeps S (acceptWord w) := by unfold Reader.acceptWord; infer_instance

instance expect (k : Token.Kind) : Keeps S (expect k) := by unfold Reader.expect; infer_instance

instance expectOp (op : String) : Keeps S (expectOp op) := by unfold Reader.expectOp; infer_instance

instance expectWord (w : String) : Keeps S (expectWord w) := by unfold Reader.expectWord; infer_instance

instance identifier : Keeps S identifier := by
  unfold Reader.identifier
  refine @bind _ _ _ _ _ _ fun k => ?_
  split <;> infer_instance

end

end Keeps

namespace Yields

variable [Carries α] [Carries β]

theorem pure {a : α} (h : carries P a) : Yields S P (pure a : Reader α) := Reads.pure h

theorem throw (e : Malformed) : Yields S P (throw e : Reader α) := Reads.throw e

/-- What is known of the first of two readers may be anything. -/
theorem after {γ : Type} {Q : γ → Prop} {r : Reader γ} {k : γ → Reader β} (hr : Reads S Q r)
    (hk : ∀ a, Q a → Yields S P (k a)) : Yields S P (r >>= k) := hr.bind hk

/-- The first of two readers may yield trees of another kind. -/
theorem bind_of {Q : Parsed → Prop} {r : Reader α} {k : α → Reader β} (hr : Yields S Q r)
    (hk : ∀ a, carries Q a → Yields S P (k a)) : Yields S P (r >>= k) := .after hr hk

theorem bind {r : Reader α} {k : α → Reader β} (hr : Yields S P r)
    (hk : ∀ a, carries P a → Yields S P (k a)) : Yields S P (r >>= k) :=
  hr.bind_of hk

theorem mono {P Q : Parsed → Prop} {r : Reader Parsed} (h : Yields S P r) (hPQ : ∀ t, P t → Q t) :
    Yields S Q r := fun c t c' hc hr => (h c t c' hc hr).imp_right (hPQ t)

/-- What comes first need not matter for what follows. -/
theorem skip {γ : Type} {r : Reader γ} [hr : Keeps S r] {k : γ → Reader β} (hk : ∀ a, Yields S P (k a)) :
    Yields S P (r >>= k) :=
  .after hr.reads fun a _ => hk a

theorem map {r : Reader α} {f : α → β} (hr : Yields S P r)
    (hf : ∀ a, carries P a → carries P (f a)) : Yields S P (f <$> r) := by
  rw [← bind_pure_comp]
  exact hr.bind fun a ha => .pure (hf a ha)

section

variable {c : Prop} [Decidable c]

theorem ite {p q : Reader α} (hp : Yields S P p) (hq : Yields S P q) :
    Yields S P (if c then p else q) := Reads.ite hp hq

/-- Two ways that join again. -/
theorem joined {p q : Reader α} {k : α → Reader β} (hp : Yields S P p) (hq : Yields S P q)
    (hk : ∀ a, carries P a → Yields S P (k a)) : Yields S P (if c then p >>= k else q >>= k) :=
  .ite (.bind hp hk) (.bind hq hk)

/-- Something to do first if a condition holds. -/
theorem first_if {r : Reader Unit} [Keeps S r] {k : Unit → Reader β} (hk : ∀ u, Yields S P (k u)) :
    Yields S P (if c then r >>= k else k ()) :=
  .ite (.skip hk) (hk ())

/-- Something to do first unless a condition holds. -/
theorem first_unless {r : Reader Unit} [Keeps S r] {k : Unit → Reader β} (hk : ∀ u, Yields S P (k u)) :
    Yields S P (if c then k () else r >>= k) :=
  .ite (hk ()) (.skip hk)

end

open Reader

theorem fault : Yields S P (fault : Reader α) := Reads.fault

theorem iterate {step : α → Reader (Option α)} (hstep : ∀ a, carries P a → Yields S P (step a))
    (n : Nat) {a : α} (ha : carries P a) : Yields S P (iterate step n a) :=
  Reads.iterate hstep n ha

theorem loop {step : α → Reader (Option α)} (hstep : ∀ a, carries P a → Yields S P (step a))
    {a : α} (ha : carries P a) : Yields S P (loop step a) :=
  .skip fun _ => .iterate hstep _ ha

theorem mapM {γ : Type} {f : γ → Reader α} {xs : List γ} (hf : ∀ x ∈ xs, Yields S P (f x)) :
    Yields S P (xs.mapM f) := by
  induction xs with
  | nil => exact .pure (by simp)
  | cons x xs ih =>
    rw [List.mapM_cons]
    refine .bind (hf x List.mem_cons_self) fun a ha => ?_
    refine .bind (ih fun y hy => hf y (List.mem_cons_of_mem x hy)) fun as has => ?_
    exact .pure (by simpa using ⟨ha, has⟩)

theorem orElse {p q : Reader α} (hp : Yields S P p) (hq : Yields S P q) :
    Yields S P (orElse p q) := by
  intro c a c' hc h
  unfold Reader.orElse at h
  split at h
  · next r hpc =>
    cases h
    exact hp c a c' hc hpc
  · exact hq c a c' hc h

/-- Trees read one after the other, each after a token that announces it. -/
theorem collect {more : Reader Bool} [Keeps S more] {item : Reader Parsed} (hitem : Yields S P item)
    {ts : List Parsed} (hts : carries P ts) :
    Yields S P (Reader.loop (fun (acc : List Parsed) => do
      if ← more then
        let t ← item
        Pure.pure (some (acc ++ [t]))
      else Pure.pure none) ts) := by
  refine .loop (fun acc hacc => .skip fun goesOn => .ite ?_ (.pure (by simp))) hts
  exact .bind hitem fun t ht => .pure (by simp_all)

variable [Lasting S]

/-- Trees read one after the other, each after a comma that another one follows. -/
theorem collectItems {starts : Token.Kind → Bool} {item : Reader Parsed} (hitem : Yields S P item)
    {ts : List Parsed} (hts : carries P ts) :
    Yields S P (Reader.loop (fun (acc : List Parsed) => do
      if (← isOp ",") && starts (← peekSecond) then
        advance
        let t ← item
        Pure.pure (some (acc ++ [t]))
      else Pure.pure none) ts) := by
  refine .loop (fun acc hacc => .skip fun comma => .skip fun next => .ite ?_ (.pure (by simp))) hts
  exact .skip fun _ => .bind hitem fun t ht => .pure (by simp_all)

theorem commaList {starts : Token.Kind → Bool} {item : Reader Parsed} (h : Yields S P item) :
    Yields S P (commaList starts item) :=
  .bind h fun first hfirst => .bind (.collectItems h (by simpa using hfirst)) fun items hitems =>
    .skip fun trailing => .pure (by simpa using hitems)

end Yields

/-! ## Tokens that are taken -/

namespace Reader

theorem eq_of_accept {k : Token.Kind} {c c' : Cursor} (hk : k ≠ .stop) (h : accept k c = .ok (true, c')) :
    ∃ t ts last, c = ⟨t :: ts, last⟩ ∧ t.kind = k ∧ c' = ⟨ts, t.last⟩ := by
  obtain ⟨k', c₁, hpeek, h⟩ := bind_eq_ok h
  obtain ⟨_ | ⟨t, ts⟩, last⟩ := c
  · cases hpeek
    rw [if_neg hk.symm] at h
    cases h
  · cases hpeek
    split at h
    · next hkind =>
      cases h
      exact ⟨t, ts, last, rfl, hkind, rfl⟩
    · cases h

theorem eq_of_identifier {id : String} {c c' : Cursor} (h : identifier c = .ok (id, c')) :
    ∃ t ts last w, c = ⟨t :: ts, last⟩ ∧ t.kind = .name w ∧ id = Text.composed w ∧ c' = ⟨ts, t.last⟩ := by
  obtain ⟨k, c₁, hpeek, h⟩ := bind_eq_ok h
  have hfault : ∀ {c₁ : Cursor}, fault c₁ = .ok (id, c') → False := fun {c₁} hf =>
    ((Reads.fault (S := anywhere) (Q := fun _ => False)) c₁ id c' trivial hf).2
  split at h
  · next w =>
    split at h
    · exact (hfault h).elim
    · obtain ⟨_ | ⟨t, ts⟩, last⟩ := c
      · cases hpeek
      · injection hpeek with hpeek
        injection hpeek with hkind hcursor
        subst hcursor
        cases h
        exact ⟨t, ts, last, w, rfl, hkind, rfl, rfl⟩
  · exact (hfault h).elim

end Reader

/-! ## Trees that the grammar makes -/

/-- Whether nodes of a form are made alike wherever they are made: they are neither definitions nor
attributes. -/
def Form.isCommon (f : Form) : Bool :=
  !isDefinitionForm f && match f with
    | .attribute _ _ => false
    | _ => true

/-- A property that grammar keeps: a common node has it if its children do, an attribute if its object has
it and its word is read after a point, whatever it is used for. A node with the property has children with
it. -/
structure Grammatical (S : Cursor → Prop) (P : Parsed → Prop) : Prop where
  node : ∀ {f a cs}, f.isCommon → (f.hasPlace → a.isSome) → carries P cs → P (.node f a cs)
  member : ∀ {first point word ts last w t}, S ⟨point :: word :: ts, last⟩ → point.kind = .op "." →
    word.kind = .name w → P t → P (.node (.attribute (Text.composed w) .load) (some (first, word.last)) [t])
  context : ∀ {w ctx ctx' a cs}, P (.node (.attribute w ctx) a cs) → P (.node (.attribute w ctx') a cs)
  children : ∀ {f a cs}, P (.node f a cs) → carries P cs
  place : ∀ {f a cs}, P (.node f a cs) → f.hasPlace → a.isSome

/-- A property that does not tell attributes from other nodes. -/
theorem Grammatical.of_node {S : Cursor → Prop} {P : Parsed → Prop}
    (node : ∀ {f a cs}, isDefinitionForm f = false → (f.hasPlace → a.isSome) → carries P cs → P (.node f a cs))
    (children : ∀ {f a cs}, P (.node f a cs) → carries P cs)
    (place : ∀ {f a cs}, P (.node f a cs) → f.hasPlace → a.isSome) : Grammatical S P where
  node hf := node (by simp_all [Form.isCommon])
  member _ _ _ ht := node rfl (fun _ => rfl) (by simpa using ht)
  context h := node rfl (fun hplace => place h hplace) (children h)
  children := children
  place := place

namespace Grammatical

open Reader

variable {P : Parsed → Prop} {S : Cursor → Prop} (h : Grammatical S P)
include h

theorem many {ts : List Parsed} (hts : carries P ts) : P (Reader.many ts) :=
  h.node rfl (by simp [Form.hasPlace]) hts

theorem many_nil : P (Reader.many []) := h.many (by simp)

theorem items {t : Parsed} (ht : P t) : carries P t.items := by
  unfold SyntaxTree.items
  split
  · exact h.children ht
  · simp

theorem absent : P Reader.absent := h.node rfl (by simp [Form.hasPlace]) (by simp)

theorem unplaced {f : Form} {cs : List Parsed} (hf : f.isCommon)
    (hplace : f.hasPlace = false) (hcs : carries P cs) : P (Reader.unplaced f cs) :=
  h.node hf (by simp [hplace]) hcs

/-- What a reader makes of trees with the property has it. -/
theorem yields {f : Form} {first : Nat} {cs : List Parsed} (hf : f.isCommon)
    (hcs : carries P cs) : Yields S P (Reader.mk f first cs) := by
  rintro c t c' hc ⟨⟩
  exact ⟨hc, h.node hf (fun _ => rfl) hcs⟩

theorem leaf {f : Form} {first : Nat} (hf : f.isCommon) : Yields S P (Reader.mk f first []) :=
  h.yields hf (by simp)

/-- An attribute after a point, or what stands there else. -/
theorem yields_member [Lasting S] (first : Nat) {t : Parsed} (ht : P t) {other : Reader (Option Parsed)}
    (hother : Yields S P other) :
    Yields S P (do
      if ← acceptOp "." then
        let attr ← identifier
        some <$> Reader.mk (.attribute attr .load) first [t]
      else other) := by
  intro c t? c' hc hread
  obtain ⟨isPoint, c₁, hpoint, hread⟩ := bind_eq_ok hread
  have hc₁ : S c₁ := ((Keeps.acceptOp ".").reads c isPoint c₁ hc hpoint).1
  cases isPoint with
  | false => exact hother c₁ t? c' hc₁ hread
  | true =>
    obtain ⟨id, c₂, hword, hmake⟩ := bind_eq_ok hread
    have hc₂ : S c₂ := (Keeps.identifier.reads c₁ id c₂ hc₁ hword).1
    obtain ⟨point, ts, last, rfl, hkind, rfl⟩ := eq_of_accept (by simp) hpoint
    obtain ⟨word, ts', last', w, hcursor, hname, rfl, rfl⟩ := eq_of_identifier hword
    cases hcursor
    cases hmake
    exact ⟨hc₂, (carries_some _).2 (h.member hc hkind hname ht)⟩

end Grammatical

/-- Whether a rule describes expressions, targets or patterns. -/
def Rule.isExpression : Rule → Bool
  | .statement | .block => false
  | _ => true

/-- The trees of expressions, targets and patterns are read with a property that the grammar keeps. -/
structure ReadsExpressions (S : Cursor → Prop) (P : Parsed → Prop) (read : Rule → Reader Parsed) : Prop where
  grammatical : Grammatical S P
  yields : ∀ r, r.isExpression → Yields S P (read r)

end ErrorTrail.Syntax
