import Mathlib.Data.List.Forall2
import ErrorTrail.Proofs.Syntax.Traversal
import ErrorTrail.Syntax.Placement

/-!
# Which trees yield

Whether a tree yields in its own block depends on its parts alone, and it still yields when parts of it are
exchanged for others that do (`YieldsAlso.node`): functions, classes and comprehensions inside keep what
they yield to themselves, but not what their headers do.
-/

namespace ErrorTrail.Syntax

variable {α : Type}

namespace Verdict

@[simp] theorem yields_and (a b : Verdict) : (a &&& b).yields = (a.yields || b.yields) := rfl

@[simp] theorem yields_require (b : Bool) : (require b).yields = false := rfl

@[simp] theorem yields_sealed (v : Verdict) : v.sealed.yields = false := rfl

end Verdict

@[simp] theorem Standing.yields_fits (s : Standing) : s.fits.yields = false := rfl

@[simp] theorem Standing.yields_settle (s : Standing) (lazy : Bool) (v : Verdict) :
    (s.settle lazy v).yields = false := rfl

/-- A tree that stands in the place of another yields if that one does, wherever the two stand and whatever
they are judged as. -/
structure YieldsAlso (t u : SyntaxTree α) : Prop where
  form : u.form = t.form
  tree : ∀ {s s' : Standing}, s.eager = s'.eager → (judge s t).yields → (judge s' u).yields
  elements : ∀ {s s' : Standing}, s.eager = s'.eager → (judgeElements s t).yields → (judgeElements s' u).yields
  element : ∀ {s s' : Standing}, s.eager = s'.eager →
    (judgeEachElement s [t]).yields → (judgeEachElement s' [u]).yields
  parts : ∀ {s s' : Standing}, s.eager = s'.eager → (judgeParts s t).yields → (judgeParts s' u).yields
  defaults : ∀ {s s' : Standing}, s.eager = s'.eager → (judgeDefaults s t).yields → (judgeDefaults s' u).yields
  annotations : ∀ {s s' : Standing}, s.eager = s'.eager →
    (judgeAnnotations s t).yields → (judgeAnnotations s' u).yields
  first : ∀ {s s' : Standing}, s.eager = s'.eager → (judgeFirst s t).yields → (judgeFirst s' u).yields

theorem YieldsAlso.isAbsent {t u : SyntaxTree α} (h : YieldsAlso t u) : u.isAbsent = t.isAbsent := by
  obtain ⟨f, a, cs⟩ := t
  obtain ⟨g, b, ds⟩ := u
  obtain rfl : g = f := h.form
  cases g <;> rfl

/-! ## Lists of parts -/

theorem yields_judgeParts (s : Standing) (f : Form) (a : α) (cs : List (SyntaxTree α)) :
    (judgeParts s (.node f a cs)).yields = (judgeList s cs).yields := by
  cases f <;> simp [judgeParts]

theorem yields_judgeEachElement_cons (s : Standing) (t : SyntaxTree α) (ts : List (SyntaxTree α)) :
    (judgeEachElement s (t :: ts)).yields =
      ((judgeEachElement s [t]).yields || (judgeEachElement s ts).yields) := by
  obtain ⟨f, a, cs⟩ := t
  cases f <;> simp [judgeEachElement]

/-- A hint makes a generator whether it is evaluated or not, unless no hint is evaluated. -/
theorem yields_hint (eager evaluated : Bool) (v : Verdict) :
    (if !eager then {} else if evaluated then v else v.unevaluated : Verdict).yields =
      (eager && v.yields) := by
  cases eager <;> cases evaluated <;> rfl

section

variable {f : Form} {a b : α} {cs ds : List (SyntaxTree α)} {s s' : Standing}

theorem yields_judgeList (h : List.Forall₂ YieldsAlso cs ds) (hs : s.eager = s'.eager) :
    (judgeList s cs).yields → (judgeList s' ds).yields := by
  induction h with
  | nil => exact id
  | cons hc _ ih =>
    simp only [judgeList, Verdict.yields_and, Bool.or_eq_true]
    exact Or.imp (hc.tree hs) ih

theorem yields_judgeEachElement (h : List.Forall₂ YieldsAlso cs ds) (hs : s.eager = s'.eager) :
    (judgeEachElement s cs).yields → (judgeEachElement s' ds).yields := by
  induction h with
  | nil => exact id
  | @cons t u ts us hc _ ih =>
    rw [yields_judgeEachElement_cons s t ts, yields_judgeEachElement_cons s' u us, Bool.or_eq_true,
      Bool.or_eq_true]
    exact Or.imp (hc.element hs) ih

theorem yields_judgeAnnotationsList (h : List.Forall₂ YieldsAlso cs ds) (hs : s.eager = s'.eager) :
    (judgeAnnotationsList s cs).yields → (judgeAnnotationsList s' ds).yields := by
  induction h with
  | nil => exact id
  | cons hc _ ih =>
    simp only [judgeAnnotationsList, Verdict.yields_and, Bool.or_eq_true]
    exact Or.imp (hc.annotations hs) ih

/-! ## Nodes -/

/-- A definition yields what its header does. -/
theorem yields_function {asynchronous : Bool} {name : String}
    {args body decorators returns args' body' decorators' returns' : SyntaxTree α}
    (hargs : YieldsAlso args args') (hreturns : YieldsAlso returns returns') (hs : s.eager = s'.eager)
    (hdecorators : (judge s decorators).yields → (judge s' decorators').yields) :
    (judge s (.node (.functionDef asynchronous name) a [args, body, decorators, returns])).yields →
      (judge s' (.node (.functionDef asynchronous name) b [args', body', decorators', returns'])).yields := by
  have hhints : (if s.eager then judgeAnnotations s args &&& judge s returns else {}).yields →
      (if s'.eager then judgeAnnotations s' args' &&& judge s' returns' else {}).yields := by
    rw [hs]
    split
    · simp only [Verdict.yields_and, Bool.or_eq_true]
      exact Or.imp (hargs.annotations hs) (hreturns.tree hs)
    · exact id
  simp only [judge, Verdict.yields_and, Verdict.yields_require, Verdict.yields_sealed, Bool.or_false,
    Bool.false_or, Bool.or_eq_true]
  exact Or.imp (Or.imp hdecorators (hargs.defaults hs)) hhints

/-- A node yields if its parts are exchanged for such that yield. -/
theorem yields_node (h : List.Forall₂ YieldsAlso cs ds) (hs : s.eager = s'.eager) :
    (judge s (.node f a cs)).yields → (judge s' (.node f b ds)).yields := by
  have hloop : s.loop.eager = s'.loop.eager := hs
  have hlist := yields_judgeList h hs
  cases f with
  | functionDef =>
    rcases h with _ | ⟨hargs, _ | ⟨hbody, _ | ⟨hdecorators, _ | ⟨hreturns, _ | _⟩⟩⟩⟩
    case cons.cons.cons.cons.nil => exact yields_function hargs hreturns hs (hdecorators.tree hs)
    all_goals exact hlist
  | lambda =>
    rcases h with _ | ⟨hargs, _ | ⟨hbody, _ | _⟩⟩
    case cons.cons.nil => simpa [judge] using hargs.defaults hs
    all_goals exact hlist
  | classDef =>
    rcases h with _ | ⟨hbases, _ | ⟨hkeywords, _ | ⟨hbody, _ | ⟨hdecorators, _ | _⟩⟩⟩⟩
    case cons.cons.cons.cons.nil =>
      simpa [judge] using Or.imp (Or.imp (hbases.elements hs) (hkeywords.tree hs)) (hdecorators.tree hs)
    all_goals exact hlist
  | returnStmt =>
    rcases h with _ | ⟨hvalue, _ | _⟩
    case cons.nil => simpa [judge] using hvalue.tree hs
    all_goals exact hlist
  | annAssign =>
    rcases h with _ | ⟨htarget, _ | ⟨hhint, _ | ⟨hvalue, _ | _⟩⟩⟩
    case cons.cons.cons.nil =>
      simp only [judge, Verdict.yields_and, yields_hint, hvalue.isAbsent, htarget.form, hs, Bool.or_eq_true,
        Bool.and_eq_true]
      refine Or.imp ?_ (And.imp id (hhint.tree hs))
      split
      · split
        · exact id
        · exact htarget.parts hs
      · simp only [Verdict.yields_and, Bool.or_eq_true]
        exact Or.imp (hvalue.tree hs) (htarget.tree hs)
    all_goals exact hlist
  | forStmt =>
    rcases h with _ | ⟨htarget, _ | ⟨hiterable, _ | ⟨hbody, _ | ⟨horelse, _ | _⟩⟩⟩⟩
    case cons.cons.cons.cons.nil =>
      simpa [judge] using Or.imp (Or.imp (Or.imp (hiterable.tree hs) (htarget.tree hloop)) (hbody.tree hloop))
        (horelse.tree hs)
    all_goals exact hlist
  | whileStmt =>
    rcases h with _ | ⟨htest, _ | ⟨hbody, _ | ⟨horelse, _ | _⟩⟩⟩
    case cons.cons.cons.nil =>
      simpa [judge] using Or.imp (Or.imp (htest.tree hs) (hbody.tree hloop)) (horelse.tree hs)
    all_goals exact hlist
  | withStmt =>
    rcases h with _ | ⟨hitems, _ | ⟨hbody, _ | _⟩⟩
    case cons.cons.nil =>
      simp only [judge, Verdict.yields_and, Verdict.yields_require, Standing.yields_fits, Bool.false_or,
        Bool.or_eq_true]
      exact Or.imp (hitems.tree hs) (hbody.tree hs)
    all_goals exact hlist
  | matchStmt =>
    rcases h with _ | ⟨hsubject, _ | ⟨hcases, _ | _⟩⟩
    case cons.cons.nil => simpa [judge] using Or.imp (hsubject.tree hs) (hcases.tree hs)
    all_goals exact hlist
  | tryStmt =>
    rcases h with _ | ⟨hbody, _ | ⟨hhandlers, _ | ⟨horelse, _ | ⟨hfinal, _ | _⟩⟩⟩⟩
    case cons.cons.cons.cons.nil =>
      simp only [judge, Verdict.yields_and, Verdict.yields_require, Standing.yields_fits, Bool.false_or,
        Bool.or_eq_true]
      refine Or.imp (Or.imp (Or.imp (hbody.tree hs) (horelse.tree hs)) ?_) (hfinal.tree hs)
      exact hhandlers.tree (by split <;> exact hs)
    all_goals exact hlist
  | set =>
    rcases h with _ | ⟨helements, _ | _⟩
    case cons.nil => exact helements.elements hs
    all_goals exact hlist
  | list | tuple =>
    rcases h with _ | ⟨helements, _ | _⟩
    case cons.nil => simpa [judge] using helements.elements hs
    all_goals exact hlist
  | listComp | setComp | generatorExp =>
    rcases h with _ | ⟨helement, _ | ⟨hclauses, _ | _⟩⟩
    case cons.cons.nil => simpa [judge] using hclauses.first hs
    all_goals exact hlist
  | dictComp =>
    rcases h with _ | ⟨hkey, _ | ⟨hvalue, _ | ⟨hclauses, _ | _⟩⟩⟩
    case cons.cons.cons.nil => simpa [judge] using hclauses.first hs
    all_goals exact hlist
  | call =>
    rcases h with _ | ⟨hfunction, _ | ⟨hargs, _ | ⟨hkeywords, _ | _⟩⟩⟩
    case cons.cons.cons.nil =>
      simpa [judge] using Or.imp (Or.imp (hfunction.tree hs) (hargs.elements hs)) (hkeywords.tree hs)
    all_goals exact hlist
  | yield | yieldFrom => simp [judge]
  | importFrom | exceptHandler | await | «attribute» => simpa [judge] using hlist
  | «alias» | name | starred | breakStmt | continueStmt => simp [judge]
  | _ => exact hlist

/-- A node yields alike if parts of it are exchanged for such that do. -/
theorem YieldsAlso.node (h : List.Forall₂ YieldsAlso cs ds) :
    YieldsAlso (.node f a cs) (.node f b ds) where
  form := rfl
  tree := yields_node h
  elements hs := by
    cases f
    case sequence => exact yields_judgeEachElement h hs
    all_goals exact id
  element hs := by
    have htree := yields_node (f := f) (a := a) (b := b) h hs
    cases f
    case starred => simpa [judgeEachElement] using yields_judgeList h hs
    all_goals simpa [judgeEachElement] using htree
  parts hs := by
    rw [yields_judgeParts, yields_judgeParts]
    exact yields_judgeList h hs
  defaults hs := by
    cases f
    case arguments =>
      rcases h with _ | ⟨_, _ | ⟨_, _ | ⟨_, _ | ⟨_, _ | ⟨hnamed, _ | ⟨_, _ | ⟨hdefaults, _ | _⟩⟩⟩⟩⟩⟩⟩
      case cons.cons.cons.cons.cons.cons.cons.nil =>
        simpa [judgeDefaults] using Or.imp (hdefaults.tree hs) (hnamed.tree hs)
      all_goals exact id
    all_goals exact id
  annotations hs := by
    cases f
    case arguments =>
      rcases h with _ | ⟨h₁, _ | ⟨h₂, _ | ⟨h₃, _ | ⟨h₄, _ | ⟨_, _ | ⟨h₆, _ | ⟨_, _ | _⟩⟩⟩⟩⟩⟩⟩
      case cons.cons.cons.cons.cons.cons.cons.nil =>
        simpa [judgeAnnotations] using Or.imp (Or.imp (Or.imp (Or.imp (h₁.annotations hs) (h₂.annotations hs))
          (h₃.annotations hs)) (h₄.annotations hs)) (h₆.annotations hs)
      all_goals exact id
    case arg => exact yields_judgeEachElement h hs
    case sequence => exact yields_judgeAnnotationsList h hs
    all_goals exact id
  first hs := by
    cases f
    case comprehension =>
      rcases h with _ | ⟨_, _ | ⟨hiterable, _ | ⟨_, _ | _⟩⟩⟩
      case cons.cons.cons.nil => exact hiterable.tree hs
      all_goals exact id
    case sequence =>
      rcases h with _ | ⟨hclause, _⟩
      · exact id
      · exact hclause.first hs
    all_goals exact id

/-- The decorators of a function may be exchanged for others that yield. -/
theorem YieldsAlso.function {asynchronous : Bool} {name : String}
    {args body decorators returns args' body' decorators' returns' : SyntaxTree α}
    (hargs : YieldsAlso args args') (hbody : YieldsAlso body body') (hreturns : YieldsAlso returns returns')
    (hdecorators : ∀ {s s' : Standing}, s.eager = s'.eager →
      (judge s decorators).yields → (judge s' decorators').yields) :
    YieldsAlso (.node (.functionDef asynchronous name) a [args, body, decorators, returns])
      (.node (.functionDef asynchronous name) b [args', body', decorators', returns']) where
  form := rfl
  tree hs := yields_function hargs hreturns hs (hdecorators hs)
  elements _ := id
  element {s s'} hs := by
    simpa [judgeEachElement] using yields_function (a := a) (b := b) hargs hreturns hs (hdecorators hs)
  parts hs := by
    rw [yields_judgeParts, yields_judgeParts]
    simpa [judgeList] using Or.imp (hargs.tree hs) (Or.imp (hbody.tree hs)
      (Or.imp (hdecorators hs) (hreturns.tree hs)))
  defaults _ := id
  annotations _ := id
  first _ := id

end

/-- Whether a tree yields does not depend on where it stands, but on whether hints are evaluated there. -/
theorem YieldsAlso.refl (t : SyntaxTree α) : YieldsAlso t t := by
  induction t with
  | node f a cs ih => exact .node (List.forall₂_same.2 ih)

/-- What yields also does so where it may be starred. -/
theorem yields_element {s : Standing} {t : SyntaxTree α} (h : (judge s t).yields) :
    (judgeEachElement s [t]).yields := by
  obtain ⟨f, a, cs⟩ := t
  cases f
  case starred => simp [judge] at h
  all_goals simpa [judgeEachElement] using h

end ErrorTrail.Syntax
