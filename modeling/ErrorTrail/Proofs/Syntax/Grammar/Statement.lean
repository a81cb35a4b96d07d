import ErrorTrail.Proofs.Syntax.Grammar.Pattern
import ErrorTrail.Syntax.Grammar.Statement

/-!
# What is read as a statement

Statements have a property that the grammar keeps if expressions, blocks and definitions have it
(`yields_statement`). Definitions are left to whoever knows the property: what it asks of a function may
differ from what it asks of other nodes.
-/

namespace ErrorTrail.Syntax

open Carries Reader

variable {S : Cursor → Prop} [Lasting S] {P : Parsed → Prop} {self : Rule → Reader Parsed}

/-- The trees of all rules are read with a property that the grammar keeps. -/
structure ReadsRules (S : Cursor → Prop) (P : Parsed → Prop) (read : Rule → Reader Parsed) : Prop where
  grammatical : Grammatical S P
  yields : ∀ r, Yields S P (read r)

omit [Lasting S] in
theorem ReadsRules.expressions (h : ReadsRules S P self) : ReadsExpressions S P self :=
  ⟨h.grammatical, fun r _ => h.yields r⟩

/-! ## Simple statements -/

instance keeps_nameList : Keeps S nameList := by unfold Reader.nameList; infer_instance

instance keeps_dottedText : Keeps S dottedText := by unfold Reader.dottedText; infer_instance

instance keeps_asName : Keeps S asName := by unfold Reader.asName; infer_instance

instance keeps_importLevel : Keeps S importLevel := by unfold Reader.importLevel; infer_instance

theorem yields_importNames (h : Grammatical S P) (name : Reader String) [Keeps S name] :
    Yields S P (importNames name) := by
  have hone : Yields S P (do
      let first ← line
      let id ← name
      let asname ← asName
      Reader.mk (.alias id asname) first []) :=
    .skip fun first => .skip fun id => .skip fun asname => h.leaf rfl
  exact .bind hone fun head hhead => .collectItems hone (by simpa using hhead)

theorem yields_importFrom (h : Grammatical S P) (first : Nat) : Yields S P (importFrom first) := by
  refine .skip fun level => .skip fun next => ?_
  extract_lets finish
  have hfinish : ∀ source, Yields S P (finish source) := by
    refine fun source => .skip fun _ => .skip fun starLine => .skip fun star => .skip fun paren => ?_
    extract_lets finishNames
    have hnames : ∀ names, carries P names → Yields S P (finishNames names) := fun names hnames =>
      h.yields rfl (by simpa using h.many hnames)
    refine .ite (.bind (h.leaf rfl) fun a ha => .bind (.pure (by simpa using ha)) hnames) (.ite ?_ ?_)
    · refine .bind (yields_importNames h _) fun names hnames' => .skip fun _ => .skip fun _ => ?_
      exact .bind (.pure hnames') hnames
    · exact .bind (yields_importNames h _) hnames
  exact .ite (.skip hfinish) (.ite (.skip hfinish) (.skip hfinish))

section

variable (h : ReadsRules S P self)
include h

theorem yields_assignment : Yields S P (assignment self) := by
  have habsent := h.grammatical.absent
  refine .skip fun first => .skip fun next => .skip fun second => .skip fun yields => ?_
  refine .bind (h.yields .yieldOrStar) fun head hhead => ?_
  have hexpression : Yields S P (Reader.mk .exprStmt first [head]) :=
    h.grammatical.yields rfl (by simpa using hhead)
  refine .ite hexpression (.skip fun next => ?_)
  split
  · refine .first_if fun _ => .skip fun _ => .bind (yields_asTarget h.grammatical _ hhead) fun target htarget => ?_
    refine .bind (h.yields .expression) fun hint hhint => .skip fun assigned => ?_
    refine .joined (h.yields .yieldOrStar) (.pure habsent) fun value hvalue => ?_
    exact h.grammatical.yields rfl (by simpa using ⟨htarget, hhint, hvalue⟩)
  · refine .bind (.loop (fun acc hacc => .skip fun again => .ite ?_ (.pure (by simp))) (by simpa using hhead)) ?_
    · refine .bind (yields_asTarget h.grammatical _ hacc.2) fun target htarget => .skip fun yields => ?_
      refine .bind (h.yields .yieldOrStar) fun value hvalue => .skip fun again => .first_if fun _ => .pure ?_
      simpa using ⟨⟨hacc.1, htarget⟩, hvalue⟩
    · rintro ⟨targets, value⟩ ⟨htargets, hvalue⟩
      exact h.grammatical.yields rfl (by simpa using ⟨h.grammatical.many htargets, hvalue⟩)
  · split
    · refine .first_if fun _ => .skip fun _ => .bind (yields_asTarget h.grammatical _ hhead) fun target htarget => ?_
      refine .bind (h.yields .yieldOrStar) fun value hvalue => ?_
      exact h.grammatical.yields rfl (by simpa using ⟨htarget, hvalue⟩)
    · exact hexpression
  · exact hexpression

theorem yields_deletion (first : Nat) : Yields S P (deletion self first) := by
  refine .bind (.commaList (yields_awaited h.expressions)) ?_
  rintro ⟨items, comma⟩ ⟨hitems, -⟩
  refine .bind (.mapM fun t ht => yields_asTarget h.grammatical .del (hitems t ht)) fun targets htargets => ?_
  refine .skip fun next => ?_
  have hdelete : Yields S P (Reader.mk .deleteStmt first [many targets]) :=
    h.grammatical.yields rfl (by simpa using h.grammatical.many htargets)
  dsimp only
  split
  · exact hdelete
  · exact hdelete
  · exact .skip fun _ => hdelete

theorem yields_simpleStatement : Yields S P (simpleStatement self) := by
  have habsent := h.grammatical.absent
  refine .skip fun first => .skip fun next => ?_
  split
  · refine .skip fun _ => .skip fun next => .joined (h.yields .starExpressions) (.pure habsent) ?_
    exact fun v hv => h.grammatical.yields rfl (by simpa using hv)
  · refine .skip fun _ => .bind (yields_importNames h.grammatical _) fun names hnames => ?_
    exact h.grammatical.yields rfl (by simpa using h.grammatical.many hnames)
  · exact .skip fun _ => yields_importFrom h.grammatical first
  · refine .skip fun _ => .skip fun next => .ite ?_ (h.grammatical.yields rfl (by simpa using habsent))
    refine .bind (h.yields .expression) fun e he => .skip fun caused => ?_
    refine .joined (h.yields .expression) (.pure habsent) fun cause hcause => ?_
    exact h.grammatical.yields rfl (by simpa using ⟨he, hcause⟩)
  · exact .skip fun _ => h.grammatical.leaf rfl
  · exact .skip fun _ => yields_deletion h first
  · refine .skip fun _ => .bind (h.yields .expression) fun test htest => .skip fun comma => ?_
    refine .joined (h.yields .expression) (.pure habsent) fun msg hmsg => ?_
    exact h.grammatical.yields rfl (by simpa using ⟨htest, hmsg⟩)
  · exact .skip fun _ => h.grammatical.leaf rfl
  · exact .skip fun _ => h.grammatical.leaf rfl
  · exact .skip fun _ => .skip fun names => h.grammatical.leaf rfl
  · exact .skip fun _ => .skip fun names => h.grammatical.leaf rfl
  · exact yields_assignment h

theorem yields_simpleStatements : Yields S P (simpleStatements self) := by
  refine .bind (yields_simpleStatement h) fun head hhead => .bind (.loop ?_ ?_) fun all hall => ?_
  · refine fun acc hacc => .skip fun more => .ite (.skip fun next => .ite (.pure (by simp)) ?_) (.pure (by simp))
    exact .bind (yields_simpleStatement h) fun s hs => .pure (by simpa using ⟨hacc, hs⟩)
  · simpa using hhead
  · exact .skip fun _ => .pure (h.grammatical.many hall)

/-! ## Blocks -/

omit [Lasting S] in
theorem yields_statements : Yields S P (statements self) := by
  refine .loop (fun acc hacc => .skip fun next => ?_) (by simp)
  split
  · exact .pure (by simp)
  · exact .pure (by simp)
  · refine .bind (h.yields .statement) fun s hs => .pure ?_
    simpa using ⟨hacc, h.grammatical.items hs⟩

theorem yields_block : Yields S P (block self) := by
  refine .skip fun newline => .ite (.skip fun next => ?_) (yields_simpleStatements h)
  split
  · exact .throw _
  · refine .skip fun _ => .bind (yields_statements h) fun body hbody => ?_
    exact .skip fun _ => .pure (h.grammatical.many hbody)
  · exact .throw _

theorem yields_suite : Yields S P (suite self) := .skip fun _ => h.yields .block

theorem yields_optionalSuite (word : String) : Yields S P (optionalSuite self word) :=
  .skip fun _ => .ite (yields_suite h) (.pure h.grammatical.many_nil)

/-! ## Compound statements -/

theorem yields_ifRest (first n : Nat) : Yields S P (ifRest self first n) := by
  induction n generalizing first with
  | zero => exact .throw _
  | succ n ih =>
    refine .bind (h.yields .named) fun test htest => .bind (yields_suite h) fun body hbody => ?_
    refine .skip fun next => .skip fun chained => ?_
    extract_lets finish
    have hfinish : ∀ orelse, P orelse → Yields S P (finish orelse) := fun orelse horelse =>
      h.grammatical.yields rfl (by simpa using ⟨htest, hbody, horelse⟩)
    refine .ite (.bind (ih next) fun inner hinner => .bind (.pure ?_) hfinish) ?_
    · exact h.grammatical.many (by simpa using hinner)
    · exact .bind (yields_optionalSuite h _) hfinish

theorem yields_forRest (first : Nat) (asynchronous : Bool) : Yields S P (forRest self first asynchronous) := by
  refine .bind (yields_targets h.expressions) fun target htarget => .skip fun _ => ?_
  refine .bind (h.yields .starExpressions) fun iter hiter => .bind (yields_suite h) fun body hbody => ?_
  refine .bind (yields_optionalSuite h _) fun orelse horelse => ?_
  exact h.grammatical.yields rfl (by simpa using ⟨htarget, hiter, hbody, horelse⟩)

theorem yields_withItem : Yields S P (withItem self) := by
  have hitem : ∀ {context target}, P context → P target → P (unplaced .withItem [context, target]) :=
    fun hcontext htarget => h.grammatical.unplaced rfl rfl (by simpa using ⟨hcontext, htarget⟩)
  refine .bind (h.yields .expression) fun context hcontext => .skip fun named => .ite ?_ ?_
  · refine .bind (h.yields .target) fun t ht => .skip fun next => ?_
    have hpure : Yields S P (pure (unplaced .withItem [context, t])) := .pure (hitem hcontext ht)
    dsimp only
    split
    · exact hpure
    · exact hpure
    · exact hpure
    · exact .skip fun _ => hpure
  · exact .pure (hitem hcontext h.grammatical.absent)

theorem yields_withItems : Yields S P (withItems self) := by
  refine .skip fun paren => .ite (.orElse (.skip fun _ => .bind (.commaList (yields_withItem h)) ?_) ?_) ?_
  · rintro ⟨items, comma⟩ ⟨hitems, -⟩
    exact .skip fun _ => .skip fun colon => .first_unless fun _ => .pure hitems
  all_goals exact .bind (yields_withItem h) fun head hhead => .collect (yields_withItem h) (by simpa using hhead)

theorem yields_withRest (first : Nat) (asynchronous : Bool) : Yields S P (withRest self first asynchronous) := by
  refine .bind (yields_withItems h) fun items hitems => .bind (yields_suite h) fun body hbody => ?_
  exact h.grammatical.yields rfl (by simpa using ⟨h.grammatical.many hitems, hbody⟩)

theorem yields_handler : Yields S P (handler self) := by
  have hhandler : ∀ {name first type body star}, P type → P body → Yields S P (do
      let h ← Reader.mk (.exceptHandler name) first [type, body]
      pure (h, star) : Reader (Parsed × Bool)) := fun htype hbody =>
    .bind (h.grammatical.yields rfl (by simpa using ⟨htype, hbody⟩)) fun t ht => .pure (by simpa using ht)
  refine .skip fun first => .skip fun _ => .skip fun star => .skip fun colon => .ite ?_ ?_
  · exact .bind (yields_suite h) fun body hbody => hhandler h.grammatical.absent hbody
  · refine .bind (h.yields .expression) fun type htype => .skip fun name => ?_
    exact .bind (yields_suite h) fun body hbody => hhandler htype hbody

theorem yields_tryRest (first : Nat) : Yields S P (tryRest self first) := by
  have hnone := h.grammatical.many_nil
  refine .bind (yields_suite h) fun body hbody => .skip fun final => .ite ?_ (.skip fun handled => .ite ?_ ?_)
  · refine .bind (yields_suite h) fun last hlast => ?_
    exact h.grammatical.yields rfl (by simpa using ⟨hbody, hnone, hlast⟩)
  · refine .bind (yields_handler h) ?_
    rintro ⟨head, star⟩ ⟨hhead, -⟩
    refine .bind (.loop (fun acc hacc => .skip fun more => .ite ?_ (.pure (by simp))) ?_) fun handlers hhandlers => ?_
    · refine .bind (yields_handler h) ?_
      rintro ⟨t, s⟩ ⟨ht, -⟩
      exact .first_if fun _ => .pure (by simpa using ⟨hacc, ht⟩)
    · simpa using hhead
    · refine .bind (yields_optionalSuite h _) fun orelse horelse => ?_
      refine .bind (yields_optionalSuite h _) fun last hlast => h.grammatical.yields rfl ?_
      simpa using ⟨hbody, h.grammatical.many hhandlers, horelse, hlast⟩
  · refine .skip fun next => ?_
    split <;> exact .throw _

theorem yields_caseBlock : Yields S P (caseBlock self) := by
  refine .skip fun _ => .bind (yields_topPattern h.expressions) fun p hp => .skip fun guarded => ?_
  refine .joined (h.yields .named) (.pure h.grammatical.absent) fun guard hguard => ?_
  refine .bind (yields_suite h) fun body hbody => .pure (h.grammatical.unplaced rfl rfl ?_)
  simpa using ⟨hp, hguard, hbody⟩

theorem yields_matchHeader : Yields S P (matchHeader self) := by
  refine .skip fun _ => .skip fun first => .bind (.commaList (h.yields .starNamed)) fun items hitems => ?_
  refine .bind (yields_tupleOr h.expressions first hitems) fun subject hsubject => ?_
  exact .first_if fun _ => .skip fun _ => .skip fun _ => .pure hsubject

theorem yields_matchRest (first : Nat) {subject : Parsed} (hsubject : P subject) :
    Yields S P (matchRest self first subject) := by
  refine .skip fun next => ?_
  extract_lets finish
  have hfinish : ∀ u, Yields S P (finish u) := by
    refine fun _ => .bind (yields_caseBlock h) fun head hhead => .bind (.loop ?_ ?_) fun cases hcases => ?_
    · refine fun acc hacc => .skip fun next => .ite (.pure (by simp)) ?_
      exact .bind (yields_caseBlock h) fun c hc => .pure (by simpa using ⟨hacc, hc⟩)
    · simpa using hhead
    · refine .skip fun _ => h.grammatical.yields rfl ?_
      simpa using ⟨hsubject, h.grammatical.many hcases⟩
  split
  · exact .skip hfinish
  · exact .skip hfinish
  · exact .skip hfinish

/-- A class of what is read inside of it. -/
theorem yields_classRest (first : Nat) {decorators : List Parsed} (hdecorators : carries P decorators)
    (hclass : ∀ {name a cs}, Option.isSome a → carries P cs → P (.node (.classDef name) a cs)) :
    Yields S P (classRest self first decorators) := by
  refine .skip fun _ => .skip fun id => .skip fun paren => ?_
  extract_lets finish
  have hfinish : ∀ a, carries P a → Yields S P (finish a) := by
    refine fun a ha => .bind (yields_suite h) fun body hbody => ?_
    rintro c t c' hc ⟨⟩
    have hmany : ∀ {ts}, carries P ts → P (many ts) := fun hts => h.grammatical.many hts
    exact ⟨hc, hclass rfl (by simpa using ⟨hmany ha.1, hmany ha.2, hbody, hmany hdecorators⟩)⟩
  have hnone : carries P ({} : Arguments) := by simp [carries_arguments]
  exact .joined (yields_callArguments h.expressions hnone) (.pure hnone) hfinish

/-- Statements, if definitions are read as they should be. -/
theorem yields_statement (hdecorated : Yields S P (decorated self)) : Yields S P (statement self) := by
  refine .skip fun first => ?_
  extract_lets one
  have hone : ∀ {p}, Yields S P p → Yields S P (one p) := fun hp =>
    .bind hp fun t ht => .pure (h.grammatical.many (by simpa using ht))
  refine .skip fun next => ?_
  split
  · exact hone hdecorated
  · exact hone hdecorated
  · exact hone hdecorated
  · exact .skip fun _ => .skip fun c => hone (yields_ifRest h first _)
  · refine .skip fun _ => .bind (h.yields .named) fun test htest => .bind (yields_suite h) fun body hbody => ?_
    refine .bind (yields_optionalSuite h _) fun orelse horelse => hone (h.grammatical.yields rfl ?_)
    simpa using ⟨htest, hbody, horelse⟩
  · exact .skip fun _ => hone (yields_forRest h first _)
  · exact .skip fun _ => hone (yields_withRest h first _)
  · exact .skip fun _ => hone (yields_tryRest h first)
  · refine .skip fun second => ?_
    split
    · exact hone hdecorated
    · exact .skip fun _ => .skip fun _ => hone (yields_forRest h first _)
    · exact .skip fun _ => .skip fun _ => hone (yields_withRest h first _)
    · exact .skip fun _ => .fault
  · refine Reads.get fun c hc => ?_
    split
    · next subject c' hheader =>
      obtain ⟨hc', hsubject⟩ := yields_matchHeader h c subject c' hc hheader
      exact Reads.set hc' (hone (yields_matchRest h first hsubject))
    · exact yields_simpleStatements h
  · exact yields_simpleStatements h

end

/-! ## Definitions -/

section

/- What is known of expressions and of blocks may be more than what is known of the definition. -/
variable {E B : Parsed → Prop} (hexpressions : ReadsExpressions S E self)
include hexpressions

/-- A function of parameters, a block and an annotation. -/
theorem yields_functionRest (hblock : Yields S B (self .block)) (first : Nat) (asynchronous : Bool)
    {decorators : List Parsed}
    (hfunction : ∀ {name a args body returns}, Option.isSome a → E args → B body → E returns →
      P (.node (.functionDef asynchronous name) a [args, body, many decorators, returns])) :
    Yields S P (functionRest self first asynchronous decorators) := by
  refine .skip fun _ => .skip fun id => .skip fun _ => ?_
  refine (yields_parameters hexpressions true _).bind_of fun ps hps => .skip fun _ => .skip fun arrow => ?_
  extract_lets finish
  have hsuite : Yields S B (suite self) := .skip fun _ => hblock
  have hfinish : ∀ returns, E returns → Yields S P (finish returns) := by
    refine fun returns hreturns => hsuite.bind_of fun body hbody => ?_
    rintro c t c' hc ⟨⟩
    exact ⟨hc, hfunction rfl hps hbody hreturns⟩
  exact .ite ((hexpressions.yields .expression rfl).bind_of hfinish)
    (.bind_of (.pure hexpressions.grammatical.absent) hfinish)

/-- A definition after its decorators. -/
theorem yields_decorated
    (hclass : ∀ first decorators, carries E decorators → Yields S P (classRest self first decorators))
    (hfunction : ∀ first asynchronous decorators, carries E decorators →
      Yields S P (functionRest self first asynchronous decorators)) : Yields S P (decorated self) := by
  refine .bind_of (Q := E) (.loop (fun acc hacc => .skip fun more => .ite ?_ ?_) ?_) ?_
  · refine .bind (hexpressions.yields .named rfl) fun d hd => .skip fun _ => .pure ?_
    simpa using ⟨hacc, hd⟩
  · exact .pure (by simp)
  · simp
  · refine fun decorators hdecorators => .skip fun first => .skip fun isClass => .ite ?_ ?_
    · exact hclass first decorators hdecorators
    refine .skip fun asynchronous => .ite (hfunction first true decorators hdecorators) ?_
    exact .skip fun isFunction => .ite (hfunction first false decorators hdecorators) .fault

end

end ErrorTrail.Syntax
