import ErrorTrail.Proofs.Program.Plan
import ErrorTrail.Proofs.Syntax.Plain

/-!
# The parts of an expression

`Machine.plan` is the plan of an expression: the evaluator runs it (`run_plan`). The plan of a plain
expression

* asks for subexpressions only (`within_plan`);
* changes with its children when these keep their forms (`mapParts_plan`).
-/

namespace ErrorTrail

open Syntax Act
open Plan (perform part)

namespace Machine

variable (m : Machine)

/-- The values of expressions that may be starred. -/
def planAll : List (SyntaxTree Span) → Plan (List Value)
  | [] => return []
  | t :: ts => do
    match t.starred? with
    | some x =>
      let xs ← perform (m.items (← part x))
      return xs ++ (← planAll ts)
    | none =>
      let v ← part t
      return v :: (← planAll ts)

/-- The arguments by name after one more, or after those of a mapping. -/
def addKeyword (name : Option String) (v : Value) (done : Fields) : Act Fields := do
  let more ← match name with
    | some n => pure [(n, v)]
    | none => (← m.mappingEntries v).mapM fun (k, x) => do
      match k with
      | .str s => return (s, x)
      | _ => typeError "keywords must be strings"
  if more.any fun f => done.any (·.1 == f.1) then
    typeError "got multiple values for keyword argument"
  return done ++ more

def planKeywords : List (SyntaxTree Span) → Fields → Plan Fields
  | [], done => return done
  | t :: ts, done => do
    match t.keyword? with
    | some (name, x) => planKeywords ts (← perform (m.addKeyword name (← part x) done))
    | none => planKeywords ts done

def planEntries : List (SyntaxTree Span × SyntaxTree Span) → List (Value × Value) →
    Plan (List (Value × Value))
  | [], done => return done
  | (key, value) :: rest, done => do
    if key.isAbsent then
      let v ← part value
      planEntries rest (← perform (do m.putAll done (← m.mappingEntries v)))
    else
      let k ← part key
      let v ← part value
      planEntries rest (← perform (m.put done k v))

def planUntil (stop : Bool) : List (SyntaxTree Span) → Plan Value
  | [] => return .none
  | [t] => part t
  | t :: ts => do
    let v ← part t
    if (← perform (m.truth v)) == stop then return v else planUntil stop ts

def planCompare (left : Value) : List CompareOp → List (SyntaxTree Span) → Plan Value
  | [op], [t] => do perform (m.compareValues op left (← part t))
  | op :: ops, t :: ts => do
    let right ← part t
    let r ← perform (m.compareValues op left right)
    if ← perform (m.truth r) then planCompare right ops ts else return r
  | _, _ => return .bool true

def planCall (env : Env) (function args keywords : SyntaxTree Span) : Plan Value := do
  let f ← part function
  match f, args.items.length, keywords.items.length with
  | .kind .superType, 0, 0 => perform (implicitSuper env)
  | .native "globals", 0, 0 => return .ref env.globals
  | _, _, _ =>
    let values ← m.planAll args.items
    let named ← m.planKeywords keywords.items []
    perform (m.call f values named)

/-- The plan of an expression. One that binds names has no parts here. -/
def plan (env : Env) : SyntaxTree Span → Plan Value
  | .node (.constant c _) _ _ => perform (constantValue c)
  | .node (.name id _) _ _ => perform (env.read id)
  | .node (.attribute word _) _ [object] => do
    perform (m.getMember (← part object) (env.spell word))
  | .node (.subscript _) _ [object, key] => do
    let v ← part object
    perform (m.getItem v (← part key))
  | .node .call _ [function, args, keywords] => m.planCall env function args keywords
  | .node (.boolOp op) _ [values] => m.planUntil (op == .or) values.items
  | .node (.binOp op) _ [left, right] => do
    let a ← part left
    perform (m.operate op a (← part right))
  | .node (.unaryOp op) _ [operand] => do perform (m.operateUnary op (← part operand))
  | .node .ifExp _ [test, body, orelse] => do
    if ← perform (m.truth (← part test)) then part body else part orelse
  | .node .dict _ [keys, values] => do
    perform (allocValue (.dict (← m.planEntries (keys.items.zip values.items) [])))
  | .node .set _ [elements] => do
    let vs ← m.planAll elements.items
    perform (do allocValue (.set (← m.insertAll [] vs) false))
  | .node (.list _) _ [elements] => do
    perform (allocValue (.list (← m.planAll elements.items)))
  | .node (.tuple _) _ [elements] => do
    perform (allocValue (.tuple (← m.planAll elements.items)))
  | .node (.compare ops) _ [left, comparators] => do
    m.planCompare (← part left) ops comparators.items
  | t => perform (m.evaluateExpression env t)

variable {m} {env : Env}

/-! ### Running -/

theorem run_planAll (ts : List (SyntaxTree Span)) :
    (m.planAll ts).run (m.evaluate env) = m.evaluateAll env ts := by
  fun_induction m.evaluateAll env ts with
  | case1 => rfl
  | case2 ctx a t ts ih => simp [planAll, SyntaxTree.starred?, starredItems, ih]
  | case3 t ts h ih =>
    have hnone : t.starred? = none := by
      unfold SyntaxTree.starred?
      split
      · exact (h _ _ _ rfl).elim
      · rfl
    simp [planAll, hnone, ih]

theorem run_planKeywords (ts : List (SyntaxTree Span)) (done : Fields) :
    (m.planKeywords ts done).run (m.evaluate env) = m.evaluateKeywords env ts done := by
  fun_induction m.evaluateKeywords env ts done with
  | case1 => rfl
  | case2 name a t ts done ih =>
    simp only [planKeywords, SyntaxTree.keyword?, addKeyword, Plan.run_bind, Plan.run_part,
      Plan.run_perform]
    refine congrArg (m.evaluate env t >>= ·) (funext fun v => ?_)
    cases name with
    | some n =>
      simp only [pure_bind]
      split <;> simp [ih]
    | none =>
      simp only [bind_assoc]
      refine congrArg (m.mappingEntries v >>= ·) (funext fun es => ?_)
      refine congrArg (_ >>= ·) (funext fun more => ?_)
      split <;> simp [ih]
  | case3 t ts done h ih =>
    have hnone : t.keyword? = none := by
      unfold SyntaxTree.keyword?
      split
      · exact (h _ _ _ rfl).elim
      · rfl
    simp [planKeywords, hnone, ih]

theorem run_planEntries (es : List (SyntaxTree Span × SyntaxTree Span))
    (done : List (Value × Value)) :
    (m.planEntries es done).run (m.evaluate env) = m.evaluateEntries env es done := by
  induction es generalizing done with
  | nil => rfl
  | cons e es ih =>
    obtain ⟨key, value⟩ := e
    rw [planEntries, evaluateEntries]
    split <;> simp [ih]

theorem run_planUntil (stop : Bool) (ts : List (SyntaxTree Span)) :
    (m.planUntil stop ts).run (m.evaluate env) = m.evaluateUntil env stop ts := by
  fun_induction m.evaluateUntil env stop ts with
  | case1 => rfl
  | case2 t => simp [planUntil]
  | case3 t ts h ih =>
    simp only [planUntil, Plan.run_bind, Plan.run_part, Plan.run_perform]
    refine congrArg (m.evaluate env t >>= ·) (funext fun v => ?_)
    refine congrArg (m.truth v >>= ·) (funext fun b => ?_)
    split <;> simp [ih]

theorem run_planCompare (left : Value) (ops : List CompareOp) (ts : List (SyntaxTree Span)) :
    (m.planCompare left ops ts).run (m.evaluate env) = m.evaluateCompare env left ops ts := by
  fun_induction m.evaluateCompare env left ops ts with
  | case1 left op t => simp [planCompare]
  | case2 left op ops t ts h ih =>
    simp only [planCompare, Plan.run_bind, Plan.run_part, Plan.run_perform]
    refine congrArg (m.evaluate env t >>= ·) (funext fun right => ?_)
    refine congrArg (m.compareValues op left right >>= ·) (funext fun r => ?_)
    refine congrArg (m.truth r >>= ·) (funext fun b => ?_)
    split <;> simp [ih]
  | case3 => simp [planCompare]

theorem run_planCall (function args keywords : SyntaxTree Span) :
    (m.planCall env function args keywords).run (m.evaluate env) =
      m.evaluateCall env function args keywords := by
  simp only [planCall, evaluateCall, Plan.run_bind, Plan.run_part]
  refine congrArg (m.evaluate env function >>= ·) (funext fun f => ?_)
  generalize args.items = ts
  generalize keywords.items = us
  match ts, us with
  | [], [] =>
    split
    · simp
    · simp
    · next hsuper hglobals =>
      simp only [planAll, planKeywords, evaluateAll, evaluateKeywords, pure_bind, Plan.run_bind,
        Plan.run_pure, Plan.run_perform]
      split
      · exact (hsuper rfl rfl rfl).elim
      · exact (hglobals rfl rfl rfl).elim
      · rfl
  | t :: ts, us => simp [run_planAll, run_planKeywords]
  | [], u :: us => simp [run_planAll, run_planKeywords]

/-- The evaluator runs the plan of an expression. -/
theorem run_plan (t : SyntaxTree Span) :
    (m.plan env t).run (m.evaluate env) = m.evaluateExpression env t := by
  unfold plan
  split
  all_goals simp only [evaluateExpression, Plan.run_bind, Plan.run_part, Plan.run_perform,
    Plan.run_ite, run_planAll, run_planEntries, run_planUntil, run_planCompare, run_planCall]

/-! ### Changing the parts -/

variable {g : SyntaxTree Span → SyntaxTree Span} (hg : SyntaxTree.KeepsForms g)
include hg

theorem mapParts_planAll (ts : List (SyntaxTree Span)) :
    m.planAll (ts.map g) = (m.planAll ts).mapParts g := by
  induction ts with
  | nil => rfl
  | cons t ts ih =>
    simp only [List.map_cons, planAll, hg.starred?]
    cases t.starred? <;> simp [ih]

theorem mapParts_planKeywords (ts : List (SyntaxTree Span)) (done : Fields) :
    m.planKeywords (ts.map g) done = (m.planKeywords ts done).mapParts g := by
  induction ts generalizing done with
  | nil => rfl
  | cons t ts ih =>
    simp only [List.map_cons, planKeywords, hg.keyword?]
    cases t.keyword? <;> simp [ih]

theorem mapParts_planEntries (es : List (SyntaxTree Span × SyntaxTree Span))
    (done : List (Value × Value)) :
    m.planEntries (es.map (Prod.map g g)) done = (m.planEntries es done).mapParts g := by
  induction es generalizing done with
  | nil => rfl
  | cons e es ih =>
    obtain ⟨key, value⟩ := e
    simp [planEntries, hg.isAbsent, ih]

omit hg in
theorem mapParts_planUntil (stop : Bool) (ts : List (SyntaxTree Span)) :
    m.planUntil stop (ts.map g) = (m.planUntil stop ts).mapParts g := by
  fun_induction m.planUntil stop ts with
  | case1 => rfl
  | case2 t => rfl
  | case3 t ts h ih =>
    cases ts with
    | nil => exact (h rfl).elim
    | cons u us =>
      simp only [List.map_cons, planUntil] at ih ⊢
      simp [ih]

omit hg in
theorem mapParts_planCompare (left : Value) (ops : List CompareOp) (ts : List (SyntaxTree Span)) :
    m.planCompare left ops (ts.map g) = (m.planCompare left ops ts).mapParts g := by
  fun_induction m.planCompare left ops ts with
  | case1 => rfl
  | case2 left op ops t ts h ih =>
    have h' : ops = [] → ts.map g = [] → False := fun ho ht => h ho (List.map_eq_nil_iff.1 ht)
    rw [List.map_cons, planCompare.eq_2 _ _ _ _ _ _ h']
    simp [ih]
  | case3 ops left ts h h' =>
    match ops, ts, h, h' with
    | [], ts, _, _ => cases ts <;> rfl
    | op :: ops, [], _, _ => cases ops <;> rfl
    | op :: ops, t :: ts, _, h' => exact (h' op ops t ts rfl rfl).elim

theorem mapParts_planCall (function args keywords : SyntaxTree Span) :
    m.planCall env (g function) (g args) (g keywords) =
      (m.planCall env function args keywords).mapParts g := by
  simp only [planCall, hg.items, List.length_map, Plan.mapParts_bind, Plan.mapParts_part]
  refine congrArg (part (g function) >>= ·) (funext fun f => ?_)
  split
  · rfl
  · rfl
  · simp [mapParts_planAll hg, mapParts_planKeywords hg]

/-- The plan of a plain expression changes with its children. -/
theorem mapParts_plan {f : Form} {a : Span} {cs : List (SyntaxTree Span)}
    (h : SyntaxTree.PlainNode f cs) :
    m.plan env (.node f a (cs.map g)) = (m.plan env (.node f a cs)).mapParts g := by
  cases h with
  | call function args keywords => exact mapParts_planCall hg function args keywords
  | boolOp op values =>
    simp only [List.map_cons, List.map_nil, plan, hg.items]
    exact mapParts_planUntil _ _
  | compare ops left comparators =>
    simp [plan, hg.items, mapParts_planCompare]
  | dict keys values =>
    simp [plan, hg.items, List.zip_map, mapParts_planEntries hg]
  | set elements => simp [plan, hg.items, mapParts_planAll hg]
  | list ctx elements => simp [plan, hg.items, mapParts_planAll hg]
  | tuple ctx elements => simp [plan, hg.items, mapParts_planAll hg]
  | _ => simp [plan, evaluateExpression]

/-! ### Subexpressions -/

section Within

variable {P : SyntaxTree Span → Prop}
omit hg

@[grind ←] theorem within_planAll {ts : List (SyntaxTree Span)}
    (h : ∀ t ∈ ts, ∀ s ∈ t.subtrees, P s) : (m.planAll ts).Within P := by
  induction ts with
  | nil => exact Plan.within_pure _
  | cons t ts ih =>
    have ht := h t List.mem_cons_self
    have hts := ih fun u hu => h u (List.mem_cons_of_mem t hu)
    have hself := ht t t.self_mem_subtrees
    have hstarred : ∀ x, t.starred? = some x → P x := fun x hx =>
      ht x (SyntaxTree.mem_subtrees_of_starred? hx)
    rw [planAll]
    grind

@[grind ←] theorem within_planKeywords {ts : List (SyntaxTree Span)}
    (h : ∀ t ∈ ts, ∀ s ∈ t.subtrees, P s) (done : Fields) :
    (m.planKeywords ts done).Within P := by
  induction ts generalizing done with
  | nil => exact Plan.within_pure _
  | cons t ts ih =>
    have hts := ih fun u hu => h u (List.mem_cons_of_mem t hu)
    have hkeyword : ∀ name x, t.keyword? = some (name, x) → P x := fun name x hx =>
      h t List.mem_cons_self x (SyntaxTree.mem_subtrees_of_keyword? hx)
    rw [planKeywords]
    grind

@[grind ←] theorem within_planEntries {es : List (SyntaxTree Span × SyntaxTree Span)}
    (h : ∀ e ∈ es, P e.1 ∧ P e.2) (done : List (Value × Value)) :
    (m.planEntries es done).Within P := by
  induction es generalizing done with
  | nil => exact Plan.within_pure _
  | cons e es ih =>
    obtain ⟨key, value⟩ := e
    have hes := ih fun u hu => h u (List.mem_cons_of_mem _ hu)
    obtain ⟨hkey, hvalue⟩ := h _ List.mem_cons_self
    rw [planEntries]
    grind

@[grind ←] theorem within_planUntil {ts : List (SyntaxTree Span)} (h : ∀ t ∈ ts, P t)
    (stop : Bool) : (m.planUntil stop ts).Within P := by
  fun_induction m.planUntil stop ts <;> grind

@[grind ←] theorem within_planCompare {ts : List (SyntaxTree Span)} (h : ∀ t ∈ ts, P t)
    (left : Value) (ops : List CompareOp) : (m.planCompare left ops ts).Within P := by
  fun_induction m.planCompare left ops ts <;> grind

@[grind ←] theorem within_planCall {function args keywords : SyntaxTree Span} (hf : P function)
    (hargs : ∀ s ∈ args.subtrees, P s) (hkeywords : ∀ s ∈ keywords.subtrees, P s) :
    (m.planCall env function args keywords).Within P := by
  have hts := within_planAll (m := m) (P := P) fun t ht s hs =>
    hargs s (SyntaxTree.mem_subtrees_of_mem_items ht hs)
  have hus := within_planKeywords (m := m) (P := P) (fun t ht s hs =>
    hkeywords s (SyntaxTree.mem_subtrees_of_mem_items ht hs)) []
  unfold planCall
  refine Plan.within_bind (Plan.within_part hf) fun f => ?_
  split
  · grind
  · grind
  · grind

/-- The parts of a plain expression are subexpressions. -/
theorem within_plan {f : Form} {a : Span} {cs : List (SyntaxTree Span)}
    (h : SyntaxTree.PlainNode f cs) (hP : ∀ c ∈ cs, ∀ s ∈ c.subtrees, P s) :
    (m.plan env (.node f a cs)).Within P := by
  have hself : ∀ c ∈ cs, P c := fun c hc => hP c hc c c.self_mem_subtrees
  have hitems : ∀ c ∈ cs, ∀ t ∈ c.items, ∀ s ∈ t.subtrees, P s := fun c hc t ht s hs =>
    hP c hc s (SyntaxTree.mem_subtrees_of_mem_items ht hs)
  have hitem : ∀ c ∈ cs, ∀ t ∈ c.items, P t := fun c hc t ht => hitems c hc t ht t t.self_mem_subtrees
  cases h with
  | call function args keywords =>
    exact within_planCall (hself _ (by simp)) (hP args (by simp)) (hP keywords (by simp))
  | boolOp op values => exact within_planUntil (hitem values (by simp)) _
  | compare ops left comparators =>
    exact Plan.within_bind (Plan.within_part (hself left (by simp))) fun v =>
      within_planCompare (hitem comparators (by simp)) v ops
  | dict keys values =>
    refine Plan.within_bind (within_planEntries (fun e he => ?_) []) fun es => by grind
    obtain ⟨hkey, hvalue⟩ := List.of_mem_zip he
    exact ⟨hitem keys (by simp) _ hkey, hitem values (by simp) _ hvalue⟩
  | set elements =>
    exact Plan.within_bind (within_planAll (hitems elements (by simp))) fun vs => by grind
  | list ctx elements =>
    exact Plan.within_bind (within_planAll (hitems elements (by simp))) fun vs => by grind
  | tuple ctx elements =>
    exact Plan.within_bind (within_planAll (hitems elements (by simp))) fun vs => by grind
  | ifExp test body orelse =>
    have htest := hself test (by simp)
    have hbody := hself body (by simp)
    have horelse := hself orelse (by simp)
    unfold plan
    grind
  | attr word ctx object =>
    have hobject := hself object (by simp)
    unfold plan
    grind
  | subscript ctx object key =>
    have hobject := hself object (by simp)
    have hkey := hself key (by simp)
    unfold plan
    grind
  | binOp op left right =>
    have hleft := hself left (by simp)
    have hright := hself right (by simp)
    unfold plan
    grind
  | unaryOp op operand =>
    have hoperand := hself operand (by simp)
    unfold plan
    grind
  | _ => exact Plan.within_perform _

end Within

end Machine

end ErrorTrail
