import ErrorTrail.Proofs.Program.Parts

/-!
# Machines that evaluate expressions to the end

A machine is closed (`Machine.Closed`) if its evaluation of expressions is the evaluator's, to any
depth; then a plain expression runs its plan (`Closed.run_plan`). The operations of a machine do not
evaluate expressions, so exchanging its evaluation of expressions changes none of them
(`withEvaluate_*`), and closing any machine gives a closed one (`closed_closed`).
-/

namespace ErrorTrail

open Syntax Act

namespace Machine

variable (m : Machine) (e : Env → SyntaxTree Span → Act Value)

section Operations

@[simp] theorem withEvaluate_call : (m.withEvaluate e).call = m.call := rfl
@[simp] theorem withEvaluate_text : (m.withEvaluate e).text = m.text := rfl
@[simp] theorem withEvaluate_repr : (m.withEvaluate e).repr = m.repr := rfl
@[simp] theorem withEvaluate_hash : (m.withEvaluate e).hash = m.hash := rfl
@[simp] theorem withEvaluate_equal : (m.withEvaluate e).equal = m.equal := rfl
@[simp] theorem withEvaluate_order : (m.withEvaluate e).order = m.order := rfl
@[simp] theorem withEvaluate_patience : (m.withEvaluate e).patience = m.patience := rfl
@[simp] theorem withEvaluate_getMember : (m.withEvaluate e).getMember = m.getMember := rfl
@[simp] theorem withEvaluate_member? : (m.withEvaluate e).member? = m.member? := rfl
@[simp] theorem withEvaluate_truth : (m.withEvaluate e).truth = m.truth := rfl
@[simp] theorem withEvaluate_items : (m.withEvaluate e).items = m.items := rfl
@[simp] theorem withEvaluate_sameItem : (m.withEvaluate e).sameItem = m.sameItem := rfl
@[simp] theorem withEvaluate_matchesKey : (m.withEvaluate e).matchesKey = m.matchesKey := rfl
@[simp] theorem withEvaluate_operateUnary : (m.withEvaluate e).operateUnary = m.operateUnary := rfl
@[simp] theorem withEvaluate_askOperand : (m.withEvaluate e).askOperand = m.askOperand := rfl
@[simp] theorem withEvaluate_indexOf : (m.withEvaluate e).indexOf = m.indexOf := rfl
@[simp] theorem withEvaluate_placesOf : (m.withEvaluate e).placesOf = m.placesOf := rfl
@[simp] theorem withEvaluate_bindToClass : (m.withEvaluate e).bindToClass = m.bindToClass := rfl
@[simp] theorem withEvaluate_percentValue : (m.withEvaluate e).percentValue = m.percentValue := rfl
@[simp] theorem withEvaluate_iterator : (m.withEvaluate e).iterator = m.iterator := rfl
@[simp] theorem withEvaluate_advance : (m.withEvaluate e).advance = m.advance := rfl

@[simp] theorem withEvaluate_itemAt {α : Type} (xs : List α) (key : Value) :
    (m.withEvaluate e).itemAt xs key = m.itemAt xs key := rfl

@[simp] theorem withEvaluate_sameItems (vs ws : List Value) :
    (m.withEvaluate e).sameItems vs ws = m.sameItems vs ws := by
  induction vs generalizing ws <;> cases ws <;> simp [sameItems, *]

@[simp] theorem withEvaluate_contained (v : Value) (vs : List Value) :
    (m.withEvaluate e).contained v vs = m.contained v vs := by
  induction vs <;> simp [contained, *]

@[simp] theorem withEvaluate_entryFrom (k : HashKey) (v : Value) (vs : List Value) (i : Nat) :
    (m.withEvaluate e).entryFrom k v vs i = m.entryFrom k v vs i := by
  induction vs generalizing i <;> simp [entryFrom, *]

@[simp] theorem withEvaluate_position? (vs : List Value) (v : Value) :
    (m.withEvaluate e).position? vs v = m.position? vs v := by simp [position?]

@[simp] theorem withEvaluate_lookup? (es : List (Value × Value)) (v : Value) :
    (m.withEvaluate e).lookup? es v = m.lookup? es v := by simp [lookup?]

@[simp] theorem withEvaluate_put (es : List (Value × Value)) (v w : Value) :
    (m.withEvaluate e).put es v w = m.put es v w := by simp [put]

@[simp] theorem withEvaluate_putAll (es fs : List (Value × Value)) :
    (m.withEvaluate e).putAll es fs = m.putAll es fs := by
  induction fs generalizing es <;> simp [putAll, *]

@[simp] theorem withEvaluate_insertAll (vs ws : List Value) :
    (m.withEvaluate e).insertAll vs ws = m.insertAll vs ws := by
  induction ws generalizing vs <;> simp [insertAll, Machine.insert, *]

@[simp] theorem withEvaluate_sameEntries (es fs : List (Value × Value)) :
    (m.withEvaluate e).sameEntries es fs = m.sameEntries es fs := by
  induction fs <;> simp [sameEntries, *]

@[simp] theorem withEvaluate_included (vs ws : List Value) :
    (m.withEvaluate e).included vs ws = m.included vs ws := by
  induction ws <;> simp [included, *]

@[simp] theorem withEvaluate_equalObjects (o o' : Obj) :
    (m.withEvaluate e).equalObjects o o' = m.equalObjects o o' := by
  simp [equalObjects]

@[simp] theorem withEvaluate_compareEqual (v w : Value) :
    (m.withEvaluate e).compareEqual v w = m.compareEqual v w := by
  simp [compareEqual, equalHalf]

@[simp] theorem withEvaluate_compareUnequal (v w : Value) :
    (m.withEvaluate e).compareUnequal v w = m.compareUnequal v w := by
  simp [compareUnequal, isEqual]

@[simp] theorem withEvaluate_compareItems (op : CompareOp) (vs ws : List Value) :
    (m.withEvaluate e).compareItems op vs ws = m.compareItems op vs ws := by
  induction vs generalizing ws <;> cases ws <;> simp [compareItems, *]

@[simp] theorem withEvaluate_compareOrder (op : CompareOp) (v w : Value) :
    (m.withEvaluate e).compareOrder op v w = m.compareOrder op v w := by
  simp [compareOrder, orderHalf]

@[simp] theorem withEvaluate_contains (v w : Value) :
    (m.withEvaluate e).contains v w = m.contains v w := by
  simp [contains]

@[simp] theorem withEvaluate_compareValues (op : CompareOp) (v w : Value) :
    (m.withEvaluate e).compareValues op v w = m.compareValues op v w := by
  simp [compareValues]

@[simp] theorem withEvaluate_getItem (v key : Value) :
    (m.withEvaluate e).getItem v key = m.getItem v key := by
  simp [getItem]

@[simp] theorem withEvaluate_mappingEntries (v : Value) :
    (m.withEvaluate e).mappingEntries v = m.mappingEntries v := by
  simp [mappingEntries]

@[simp] theorem withEvaluate_percentFrom (size fuel : Nat) (state : Marked) (cs : List Char) :
    (m.withEvaluate e).percentFrom size fuel state cs = m.percentFrom size fuel state cs := by
  induction fuel generalizing state cs with
  | zero => rfl
  | succ n ih =>
    unfold percentFrom
    split
    · rfl
    · rfl
    all_goals
      next hfuel =>
        cases hfuel
        simp only [ih, withEvaluate_getItem, withEvaluate_percentValue]

@[simp] theorem withEvaluate_operateObjects (op : BinaryOp) (o o' : Obj) :
    (m.withEvaluate e).operateObjects op o o' = m.operateObjects op o o' := by
  simp [operateObjects, operateSets]

@[simp] theorem withEvaluate_operate (op : BinaryOp) (v w : Value) :
    (m.withEvaluate e).operate op v w = m.operate op v w := by
  simp [operate, operateNative, percent]

end Operations

section Plans

@[simp] theorem withEvaluate_planAll (ts : List (SyntaxTree Span)) :
    (m.withEvaluate e).planAll ts = m.planAll ts := by
  induction ts <;> simp [planAll, *]

@[simp] theorem withEvaluate_planKeywords (ts : List (SyntaxTree Span)) (done : Fields) :
    (m.withEvaluate e).planKeywords ts done = m.planKeywords ts done := by
  induction ts generalizing done <;> simp [planKeywords, addKeyword, *]

@[simp] theorem withEvaluate_planEntries (es : List (SyntaxTree Span × SyntaxTree Span))
    (done : List (Value × Value)) :
    (m.withEvaluate e).planEntries es done = m.planEntries es done := by
  induction es generalizing done <;> simp [planEntries, *]

@[simp] theorem withEvaluate_planUntil (stop : Bool) (ts : List (SyntaxTree Span)) :
    (m.withEvaluate e).planUntil stop ts = m.planUntil stop ts := by
  fun_induction m.planUntil stop ts <;> simp [planUntil, *]

@[simp] theorem withEvaluate_planCompare (left : Value) (ops : List CompareOp)
    (ts : List (SyntaxTree Span)) :
    (m.withEvaluate e).planCompare left ops ts = m.planCompare left ops ts := by
  fun_induction m.planCompare left ops ts <;> simp [planCompare, *]

@[simp] theorem withEvaluate_planCall (env : Env) (function args keywords : SyntaxTree Span) :
    (m.withEvaluate e).planCall env function args keywords =
      m.planCall env function args keywords := by
  simp [planCall]

/-- The plan of a plain expression leaves the evaluation of its parts open. -/
theorem withEvaluate_plan {f : Form} {cs : List (SyntaxTree Span)} (h : SyntaxTree.PlainNode f cs)
    (env : Env) (a : Span) :
    (m.withEvaluate e).plan env (.node f a cs) = m.plan env (.node f a cs) := by
  cases h <;> simp [plan, evaluateExpression]

end Plans

/-! ## Closing a machine -/

@[simp] theorem closed_call : m.closed.call = m.call := rfl
@[simp] theorem closed_getMember : m.closed.getMember = m.getMember := rfl

/-- The evaluation of expressions by a machine is the evaluator, on expressions that bind no names.
-/
def Closed (m : Machine) : Prop :=
  ∀ env t, t.IsPlain → m.evaluate env t = m.evaluateExpression env t

variable {m} {env : Env}

theorem nested_eq (n : Nat) : m.nested n = m.withEvaluate (m.nested n).evaluate := by
  cases n <;> rfl

/-- Going as deep as an expression is enough for it. -/
theorem nested_evaluateExpression {t : SyntaxTree Span} (ht : t.IsPlain) {n : Nat}
    (hn : t.subtrees.length ≤ n) :
    (m.nested n).evaluateExpression env t = m.closed.evaluateExpression env t := by
  induction n using Nat.strongRecOn generalizing t with
  | ind n ih =>
    cases t with
    | node f a cs =>
      obtain ⟨hnode, hcs⟩ := SyntaxTree.isPlain_node.1 ht
      have hparts : (m.plan env (.node f a cs)).Within fun c =>
          (m.nested n).evaluate env c = m.closed.evaluate env c := by
        refine within_plan hnode fun c hc s hs => ?_
        have hlt := Nat.lt_of_le_of_lt (SyntaxTree.length_subtrees_le hs)
          (SyntaxTree.length_subtrees_lt (f := f) (a := a) hc)
        have hplain := (hcs c hc).of_mem_subtrees hs
        -- what evaluates `s` is one level nearer to the end
        cases n with
        | zero => omega
        | succ k => exact (ih k (by omega) hplain (by omega)).trans (ih _ (by omega) hplain (by omega)).symm
      rw [← run_plan, ← run_plan, nested_eq, closed, withEvaluate_plan m _ hnode,
        withEvaluate_plan m _ hnode]
      exact hparts.run_congr

/-- Closing a machine gives a closed one. -/
theorem closed_closed (m : Machine) : m.closed.Closed := fun _ _ ht =>
  nested_evaluateExpression ht (Nat.le_refl _)

theorem Closed.run_plan (hm : m.Closed) (env : Env) {t : SyntaxTree Span} (ht : t.IsPlain) :
    m.evaluate env t = (m.plan env t).run (m.evaluate env) := by
  rw [hm env t ht, Machine.run_plan]

end Machine

end ErrorTrail
