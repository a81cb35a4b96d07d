import ErrorTrail.Proofs.Site.Visit
import ErrorTrail.Proofs.Syntax.Blocks
import ErrorTrail.Proofs.Syntax.Fresh

/-!
# What trees gather

`gather` and the functions beside it read the blocks of a program off its tree. A relation of what is
gathered that holds of the mentions of names and respects putting parts together and enclosing them in a
block (`Gathering`) holds of what a tree gathers and what the tree gathers when it is reshaped: annotated
anew, or with calls of a hook put at its propagation expressions (`Gathering.related`). This is the only
induction over `gather`; what else is said of gathered parts is a case of it.

* `SyntaxTree.bindings` and `SyntaxTree.readings` are the names that a node itself mentions.
* `gather_readsOnly`: a name that no node of a tree binds is only read in the blocks of the tree.
-/

namespace ErrorTrail

open Syntax

namespace Syntax

variable {α β : Type}

namespace SyntaxTree

/-- The name of a target that is a name. -/
def aimedAt : SyntaxTree α → List String
  | node (.name id _) _ _ => [id]
  | _ => []

/-- The names that a node binds, deletes or declares, as they are written. -/
def bindings : SyntaxTree α → List String
  | node (.name id .store) _ _ => [id]
  | node (.name id .del) _ _ => [id]
  | node .namedExpr _ (target :: _) => target.aimedAt
  | node (.annAssign _) _ (target :: _) => target.aimedAt
  | node (.functionDef _ id) _ _ => [id]
  | node (.classDef id) _ _ => [id]
  | node (.arg id) _ _ => [id]
  | node (.alias path asname) _ _ => [importedName path asname]
  | node (.exceptHandler id?) _ _ => id?.toList
  | node (.matchAs id?) _ _ => id?.toList
  | node (.matchStar id?) _ _ => id?.toList
  | node (.matchMapping rest) _ _ => rest.toList
  | node (.globalStmt ids) _ _ => ids
  | node (.nonlocalStmt ids) _ _ => ids
  | _ => []

/-- The names that a node reads. A call of `super` reads the class of the method. -/
def readings : SyntaxTree α → List String
  | node (.name id .load) _ _ => id :: if id = superWord then [classVariable] else []
  | _ => []

end SyntaxTree

open SyntaxTree

/-- Places that differ in the class around them at most. -/
structure Site.Like (owners : Option String → Option String → Prop) (p q : Site) : Prop where
  owner : owners p.owner q.owner
  eq : q = { p with owner := q.owner }

/-- What a relation of parts gathered for a block has to do to hold of what trees gather: `names` are the
names that the trees mention. -/
structure Gathering (β : Type) (owners : Option String → Option String → Prop)
    (names : Deed → String → Prop) (hooks : Marking → Prop)
    (rel : Block → Gathered → Gathered → Prop) : Prop where
  inClass : ∀ name, owners (some name) (some name)
  unnamed : ∀ d, names d ""
  nothing : ∀ b, rel b {} {}
  append : ∀ {b g g' k k'}, rel b g g' → rel b k k' → rel b (g ++ k) (g' ++ k')
  require : ∀ b allowed, rel b (Site.require allowed) (Site.require allowed)
  mention : ∀ {p q : Site} {d n}, p.Like owners q → names d n →
    rel p.block (p.mention d n) (q.mention d n)
  lifted : ∀ {o o' n}, owners o o' → names .lift n →
    rel .comprehension { lifted := [privateName o n] } { lifted := [privateName o' n] }
  enclose : ∀ {p q : Site} {b g g'}, p.Like owners q → b ≠ .file → rel b g g' →
    rel p.block (p.enclose b g) (q.enclose b g')
  hooked : ∀ {p q : Site} {g g'} {a : β} {m : Marking}, hooks m → p.Like owners q →
    rel p.block g g' → rel p.block g (gather q (hookExpr a m.hook) ++ g')

namespace Gathered

@[simp] theorem append_mentions (g k : Gathered) : (g ++ k).mentions = g.mentions ++ k.mentions := rfl
@[simp] theorem append_inner (g k : Gathered) : (g ++ k).inner = g.inner ++ k.inner := rfl
@[simp] theorem append_allowed (g k : Gathered) : (g ++ k).allowed = (g.allowed && k.allowed) := rfl
@[simp] theorem append_lifted (g k : Gathered) : (g ++ k).lifted = g.lifted ++ k.lifted := rfl

@[simp] theorem append_empty (g : Gathered) : g ++ ({} : Gathered) = g := by
  show Gathered.append g {} = g
  simp [Gathered.append]

@[simp] theorem empty_append (g : Gathered) : ({} : Gathered) ++ g = g := by
  show Gathered.append {} g = g
  simp [Gathered.append]

theorem append_assoc (g k l : Gathered) : g ++ k ++ l = g ++ (k ++ l) := by
  show Gathered.append (Gathered.append g k) l = Gathered.append g (Gathered.append k l)
  simp [Gathered.append, Bool.and_assoc]

end Gathered

theorem gatherList_append (p : Site) (ts us : List (SyntaxTree α)) :
    gatherList p (ts ++ us) = gatherList p ts ++ gatherList p us := by
  induction ts with
  | nil => exact (Gathered.empty_append _).symm
  | cons t ts ih => rw [List.cons_append, gatherList, ih, gatherList, Gathered.append_assoc]

example :
    let read (id : String) : SyntaxTree Unit := .node (.name id .load) () []
    gatherList {} ([read "x"] ++ [read "y"]) =
      ({ mentions := [⟨.read, "x", false⟩, ⟨.read, "y", false⟩] } : Gathered) := by
  cbv

/-- What a change of trees has to do so that a tree and the changed tree gather alike: it keeps forms
and changes children, or puts a call of a hook at a propagation expression. -/
def Reshapes (hooks : Marking → Prop) (g : SyntaxTree α → SyntaxTree β) : Prop :=
  ∀ f a cs, (∃ b, g (node f a cs) = node f b (cs.map g)) ∨
    ∃ m ctx word args named r b none_ line, hooks m ∧ node f a cs = site a ctx word args named r ∧
      g (node f a cs) = m.inject b none_ (g r) line

/-- The parts of two trees gather alike in like places. -/
structure Related (owners : Option String → Option String → Prop)
    (rel : Block → Gathered → Gathered → Prop) (t : SyntaxTree α) (t' : SyntaxTree β) : Prop where
  whole : ∀ {p q : Site}, p.Like owners q → rel p.block (gather p t) (gather q t')
  defaults : ∀ {p q : Site}, p.Like owners q → rel p.block (gatherDefaults p t) (gatherDefaults q t')
  annotations : ∀ {p q : Site}, p.Like owners q →
    rel p.block (gatherAnnotations p t) (gatherAnnotations q t')
  hints : ∀ {p q : Site}, p.Like owners q →
    rel p.block (gatherParameterAnnotations p t) (gatherParameterAnnotations q t')
  parameters : ∀ {p q : Site}, p.Like owners q →
    rel p.block (gatherParameters p t) (gatherParameters q t')
  first : ∀ {p q : Site}, p.Like owners q → rel p.block (gatherFirst p t) (gatherFirst q t')
  clauses : ∀ {p q : Site}, p.Like owners q → rel p.block (gatherClauses p t) (gatherClauses q t')
  later : ∀ {p q : Site}, p.Like owners q →
    rel p.block (gatherLaterClauses p [t]) (gatherLaterClauses q [t'])

theorem gatherLaterClauses_cons (p : Site) (t : SyntaxTree α) (ts : List (SyntaxTree α)) :
    gatherLaterClauses p (t :: ts) = gatherLaterClauses p [t] ++ gatherLaterClauses p ts := by
  obtain ⟨f, a, cs⟩ := t
  cases f with
  | comprehension asynchronous =>
    match cs with
    | [_, _, _] => simp [gatherLaterClauses]
    | [] | [_] | [_, _] | _ :: _ :: _ :: _ :: _ => simp [gatherLaterClauses]
  | _ => simp [gatherLaterClauses]

theorem gather_annAssign_list {p : Site} {simple : Int} {a : α} {cs : List (SyntaxTree α)}
    (h : cs.length ≠ 3) : gather p (node (.annAssign simple) a cs) = gatherList p cs := by
  match cs with
  | [] => rfl
  | [_] => simp only [gather]
  | [_, _] => simp only [gather]
  | [_, _, _] => exact absurd rfl h
  | _ :: _ :: _ :: _ :: _ => simp only [gather]

variable {owners : Option String → Option String → Prop} {names : Deed → String → Prop}
  {hooks : Marking → Prop} {rel : Block → Gathered → Gathered → Prop}
  {g : SyntaxTree α → SyntaxTree β}

/-- The names that a node mentions are among those given. -/
def SyntaxTree.Names (names : Deed → String → Prop) (t : SyntaxTree α) : Prop :=
  (∀ n ∈ t.bindings, ∀ d, names d n) ∧ ∀ n ∈ t.readings, names .read n

namespace Site.Like

variable {p q : Site}

theorem block_eq (h : p.Like owners q) : q.block = p.block := by rw [h.eq]
theorem eager_eq (h : p.Like owners q) : q.eager = p.eager := by rw [h.eq]
theorem inIterable_eq (h : p.Like owners q) : q.inIterable = p.inIterable := by rw [h.eq]

theorem into (h : p.Like owners q) (b : Block) : (p.into b).Like owners (q.into b) :=
  ⟨h.owner, by rw [h.eq]; rfl⟩

theorem iterable (h : p.Like owners q) :
    Site.Like owners { p with inIterable := true } { q with inIterable := true } :=
  ⟨h.owner, by rw [h.eq]⟩

theorem iterated (h : p.Like owners q) :
    Site.Like owners { p with iterating := true } { q with iterating := true } :=
  ⟨h.owner, by rw [h.eq]⟩

theorem inClass (h : p.Like owners q) (hclass : ∀ name, owners (some name) (some name)) (name : String) :
    Site.Like owners { p.into .classBody with owner := some name }
      { q.into .classBody with owner := some name } :=
  ⟨hclass name, by rw [h.eq]; rfl⟩

end Site.Like

namespace Gathering

variable {p q : Site} (G : Gathering β owners names hooks rel)
include G

theorem mentionAll {d : Deed} {ns : List String} (hpq : p.Like owners q) (h : ∀ n ∈ ns, names d n) :
    rel p.block (p.mentionAll d ns) (q.mentionAll d ns) := by
  induction ns with
  | nil => exact G.nothing _
  | cons n ns ih =>
    have hcons : ∀ p : Site, p.mentionAll d (n :: ns) = p.mention d n ++ p.mentionAll d ns :=
      fun _ => rfl
    rw [hcons, hcons]
    exact G.append (G.mention hpq (h n List.mem_cons_self))
      (ih fun m hm => h m (List.mem_cons_of_mem _ hm))

theorem hint {F F' : Site → Gathered} (hpq : p.Like owners q)
    (h : ∀ {p q : Site}, p.Like owners q → rel p.block (F p) (F' q)) :
    rel p.block (p.hint F) (q.hint F') := by
  unfold Site.hint
  rw [hpq.eager_eq]
  split
  · exact h hpq
  · exact G.enclose hpq (by simp) (h (hpq.into _))

end Gathering

/-- An instrumented propagation expression reads the hook, and then does what its receiver does. -/
theorem gather_inject (p : Site) (m : Marking) (a none_ : α) (r : SyntaxTree α) (line : Int) :
    gather p (m.inject a none_ r line) = gather p (hookExpr a m.hook) ++ gather p r := by
  simp [Marking.inject, Marking.hookCall, gather, Syntax.gatherList]

namespace Related

variable {cs : List (SyntaxTree α)} {f : Form} {a : α} {b : β} {p q : Site}
  (G : Gathering β owners names hooks rel)
include G

theorem gatherList
    (h : ∀ c ∈ cs, Related owners rel c (g c)) (hpq : p.Like owners q) :
    rel p.block (gatherList p cs) (gatherList q (cs.map g)) := by
  induction cs with
  | nil => exact G.nothing _
  | cons c cs ih =>
    rw [List.map_cons, Syntax.gatherList, Syntax.gatherList]
    exact G.append ((h c List.mem_cons_self).whole hpq) (ih fun d hd => h d (List.mem_cons_of_mem _ hd))

/-! ### Constructs that are no mere lists of their parts -/

section Constructs

variable {args body decorators returns bases keywords element key value clauses target hint type
    handlers orelse final : SyntaxTree α}
  {args' body' decorators' returns' bases' keywords' element' key' value' clauses' target' hint' type'
    handlers' orelse' final' : SyntaxTree β}

theorem functionDef {asynchronous : Bool} {name : String} (hname : names .bind name)
    (hargs : Related owners rel args args') (hbody : Related owners rel body body')
    (hdecorators : Related owners rel decorators decorators')
    (hreturns : Related owners rel returns returns') (hpq : p.Like owners q) :
    rel p.block (gather p (node (.functionDef asynchronous name) a [args, body, decorators, returns]))
      (gather q (node (.functionDef asynchronous name) b [args', body', decorators', returns'])) := by
  simp only [gather]
  refine G.append (G.append (G.append (G.append (G.append ?_ ?_) ?_) ?_) ?_) ?_
  · exact G.mention hpq hname
  · exact hargs.defaults hpq
  · exact hargs.annotations hpq
  · exact G.hint hpq hreturns.whole
  · exact hdecorators.whole hpq
  · exact G.enclose hpq (by simp)
      (G.append (hargs.parameters (hpq.into _)) (hbody.whole (hpq.into _)))

theorem lambda (hargs : Related owners rel args args') (hbody : Related owners rel body body')
    (hpq : p.Like owners q) :
    rel p.block (gather p (node .lambda a [args, body])) (gather q (node .lambda b [args', body'])) := by
  simp only [gather]
  exact G.append (hargs.defaults hpq) <| G.enclose hpq (by simp) <|
    G.append (hargs.parameters (hpq.into _)) (hbody.whole (hpq.into _))

theorem classDef {name : String} (hname : names .bind name)
    (hbases : Related owners rel bases bases') (hkeywords : Related owners rel keywords keywords')
    (hbody : Related owners rel body body') (hdecorators : Related owners rel decorators decorators')
    (hpq : p.Like owners q) :
    rel p.block (gather p (node (.classDef name) a [bases, keywords, body, decorators]))
      (gather q (node (.classDef name) b [bases', keywords', body', decorators'])) := by
  simp only [gather]
  refine G.append (G.append (G.append (G.append ?_ ?_) ?_) ?_) ?_
  · exact G.mention hpq hname
  · exact hbases.whole hpq
  · exact hkeywords.whole hpq
  · exact hdecorators.whole hpq
  · exact G.enclose hpq (by simp) (hbody.whole (hpq.inClass G.inClass name))

/-- A comprehension of one element, which displays and generators have in common. -/
theorem comprehension (helement : Related owners rel element element')
    (hclauses : Related owners rel clauses clauses') (hpq : p.Like owners q) :
    rel p.block
      (gatherFirst { p with inIterable := true } clauses
        ++ p.enclose .comprehension
            (gatherClauses (p.into .comprehension) clauses ++ gather (p.into .comprehension) element))
      (gatherFirst { q with inIterable := true } clauses'
        ++ q.enclose .comprehension
            (gatherClauses (q.into .comprehension) clauses'
              ++ gather (q.into .comprehension) element')) :=
  G.append (hclauses.first hpq.iterable) <| G.enclose hpq (by simp) <|
    G.append (hclauses.clauses (hpq.into _)) (helement.whole (hpq.into _))

theorem dictComp (hkey : Related owners rel key key') (hvalue : Related owners rel value value')
    (hclauses : Related owners rel clauses clauses') (hpq : p.Like owners q) :
    rel p.block (gather p (node .dictComp a [key, value, clauses]))
      (gather q (node .dictComp b [key', value', clauses'])) := by
  simp only [gather]
  exact G.append (hclauses.first hpq.iterable) <| G.enclose hpq (by simp) <|
    G.append (G.append (hclauses.clauses (hpq.into _)) (hvalue.whole (hpq.into _)))
      (hkey.whole (hpq.into _))

theorem namedExpr (hname : names .lift (targetName target)) (hform : target'.form = target.form)
    (htarget : Related owners rel target target') (hvalue : Related owners rel value value')
    (hpq : p.Like owners q) :
    rel p.block (gather p (node .namedExpr a [target, value]))
      (gather q (node .namedExpr b [target', value'])) := by
  have hsame : targetName target' = targetName target := by
    obtain ⟨f, c, ds⟩ := target
    obtain ⟨f', c', ds'⟩ := target'
    obtain rfl : f' = f := hform
    cases f' <;> rfl
  simp only [gather]
  refine G.append (G.append (G.append ?_ ?_) (hvalue.whole hpq)) (htarget.whole hpq)
  · rw [hpq.block_eq, hpq.inIterable_eq]
    exact G.require _ _
  · rw [hpq.block_eq, hsame]
    split
    · next hblock =>
      refine G.append (G.mention hpq hname) ?_
      rw [hblock]
      exact G.lifted hpq.owner hname
    · exact G.nothing _

theorem annAssign {simple : Int} (hnames : ∀ n ∈ target.aimedAt, ∀ d, names d n)
    (htargetForm : target'.form = target.form) (hvalueForm : value'.form = value.form)
    (htarget : Related owners rel target target') (hhint : Related owners rel hint hint')
    (hvalue : Related owners rel value value') (hpq : p.Like owners q) :
    rel p.block (gather p (node (.annAssign simple) a [target, hint, value]))
      (gather q (node (.annAssign simple) b [target', hint', value'])) := by
  have habsent : value'.isAbsent = value.isAbsent := by
    obtain ⟨f, c, ds⟩ := value
    obtain ⟨f', c', ds'⟩ := value'
    obtain rfl : f' = f := hvalueForm
    cases f' <;> rfl
  obtain ⟨f, c, ds⟩ := target
  obtain ⟨f', c', ds'⟩ := target'
  obtain rfl : f' = f := htargetForm
  cases f' with
  | name id ctx =>
    simp only [gather, habsent]
    refine G.append (G.append ?_ (G.hint hpq hhint.whole)) (hvalue.whole hpq)
    have hname := hnames id (List.mem_singleton_self _)
    split
    · split
      · exact G.nothing _
      · exact G.mention hpq (hname _)
    · exact G.mention hpq (hname _)
  | _ =>
    simp only [gather]
    exact G.append (G.append (htarget.whole hpq) (G.hint hpq hhint.whole)) (hvalue.whole hpq)

theorem tryStmt {star : Bool} (hbody : Related owners rel body body')
    (hhandlers : Related owners rel handlers handlers') (horelse : Related owners rel orelse orelse')
    (hfinal : Related owners rel final final') (hpq : p.Like owners q) :
    rel p.block (gather p (node (.tryStmt star) a [body, handlers, orelse, final]))
      (gather q (node (.tryStmt star) b [body', handlers', orelse', final'])) := by
  simp only [gather]
  exact G.append (G.append (G.append (hbody.whole hpq) (horelse.whole hpq)) (hhandlers.whole hpq))
    (hfinal.whole hpq)

theorem exceptHandler {name : Option String} (hname : ∀ n ∈ name.toList, names .bind n)
    (htype : Related owners rel type type') (hbody : Related owners rel body body')
    (hpq : p.Like owners q) :
    rel p.block (gather p (node (.exceptHandler name) a [type, body]))
      (gather q (node (.exceptHandler name) b [type', body'])) := by
  simp only [gather]
  exact G.append (G.append (htype.whole hpq) (G.mentionAll hpq hname)) (hbody.whole hpq)

theorem aliased {name : String} {asname : Option String}
    (hname : names .bringIn (importedName name asname)) (ds : List (SyntaxTree α))
    (ds' : List (SyntaxTree β)) (hpq : p.Like owners q) :
    rel p.block (gather p (node (.alias name asname) a ds))
      (gather q (node (.alias name asname) b ds')) := by
  simp only [gather]
  split
  · rw [hpq.block_eq]
    exact G.require _ _
  · exact G.mention hpq hname

theorem name {id : String} {ctx : Context}
    (hread : ∀ n ∈ (node (.name id ctx) a cs).readings, names .read n)
    (hbind : ∀ n ∈ (node (.name id ctx) a cs).bindings, names .bind n) (ds : List (SyntaxTree β))
    (hpq : p.Like owners q) :
    rel p.block (gather p (node (.name id ctx) a cs)) (gather q (node (.name id ctx) b ds)) := by
  cases ctx with
  | load =>
    simp only [gather, hpq.block_eq]
    refine G.append (G.mention hpq (hread id List.mem_cons_self)) ?_
    split
    · next hsuper => exact G.mention hpq (hread _ (by simp [readings, hsuper.1]))
    · exact G.nothing _
  | store => exact G.mention hpq (hbind id (List.mem_singleton_self _))
  | del => exact G.mention hpq (hbind id (List.mem_singleton_self _))

end Constructs

theorem whole_node (hform : ∀ t, (g t).form = t.form) (hnames : (node f a cs).Names names)
    (h : ∀ c ∈ cs, Related owners rel c (g c)) (hpq : p.Like owners q) :
    rel p.block (gather p (node f a cs)) (gather q (node f b (cs.map g))) := by
  have hlist := gatherList G h hpq
  obtain ⟨hbind, hread⟩ := hnames
  cases f with
  | functionDef asynchronous id =>
    match cs, h with
    | [_, _, _, _], h =>
      exact functionDef G (hbind id (List.mem_singleton_self _) _) (h _ (by simp)) (h _ (by simp))
        (h _ (by simp)) (h _ (by simp)) hpq
    | [], _ | [_], _ | [_, _], _ | [_, _, _], _ | _ :: _ :: _ :: _ :: _ :: _, _ => exact hlist
  | lambda =>
    match cs, h with
    | [_, _], h => exact lambda G (h _ (by simp)) (h _ (by simp)) hpq
    | [], _ | [_], _ | _ :: _ :: _ :: _, _ => exact hlist
  | classDef id =>
    match cs, h with
    | [_, _, _, _], h =>
      exact classDef G (hbind id (List.mem_singleton_self _) _) (h _ (by simp)) (h _ (by simp))
        (h _ (by simp)) (h _ (by simp)) hpq
    | [], _ | [_], _ | [_, _], _ | [_, _, _], _ | _ :: _ :: _ :: _ :: _ :: _, _ => exact hlist
  | listComp | setComp | generatorExp =>
    match cs, h with
    | [_, _], h => exact comprehension G (h _ (by simp)) (h _ (by simp)) hpq
    | [], _ | [_], _ | _ :: _ :: _ :: _, _ => exact hlist
  | dictComp =>
    match cs, h with
    | [_, _, _], h => exact dictComp G (h _ (by simp)) (h _ (by simp)) (h _ (by simp)) hpq
    | [], _ | [_], _ | [_, _], _ | _ :: _ :: _ :: _ :: _, _ => exact hlist
  | namedExpr =>
    match cs, h with
    | [target, _], h =>
      have hname : names .lift (targetName target) := by
        unfold targetName
        split
        · exact hbind _ (List.mem_singleton_self _) _
        · exact G.unnamed _
      exact namedExpr G hname (hform _) (h _ (by simp)) (h _ (by simp)) hpq
    | [], _ | [_], _ | _ :: _ :: _ :: _, _ => exact hlist
  | annAssign simple =>
    match cs, h with
    | [_, _, _], h =>
      exact annAssign G hbind (hform _) (hform _) (h _ (by simp)) (h _ (by simp)) (h _ (by simp)) hpq
    | [], _ | [_], _ | [_, _], _ | _ :: _ :: _ :: _ :: _, _ =>
      rw [gather_annAssign_list (by simp), gather_annAssign_list (by simp)]
      exact hlist
  | tryStmt star =>
    match cs, h with
    | [_, _, _, _], h =>
      exact tryStmt G (h _ (by simp)) (h _ (by simp)) (h _ (by simp)) (h _ (by simp)) hpq
    | [], _ | [_], _ | [_, _], _ | [_, _, _], _ | _ :: _ :: _ :: _ :: _ :: _, _ => exact hlist
  | exceptHandler id? =>
    match cs, h with
    | [_, _], h =>
      exact exceptHandler G (fun n hn => hbind n hn _) (h _ (by simp)) (h _ (by simp)) hpq
    | [], _ | [_], _ | _ :: _ :: _ :: _, _ => exact hlist
  | «alias» path asname => exact aliased G (hbind _ (List.mem_singleton_self _) _) cs _ hpq
  | name id ctx => exact name G hread (fun n hn => hbind n hn _) _ hpq
  | matchMapping rest => exact G.append hlist (G.mentionAll hpq fun n hn => hbind n hn _)
  | matchAs id? => exact G.append hlist (G.mentionAll hpq fun n hn => hbind n hn _)
  | matchStar id? => exact G.mentionAll hpq fun n hn => hbind n hn _
  | globalStmt ids => exact G.mentionAll hpq fun n hn => hbind n hn _
  | nonlocalStmt ids => exact G.mentionAll hpq fun n hn => hbind n hn _
  | yield | yieldFrom | await =>
    simp only [gather, hpq.block_eq]
    exact G.append (G.require _ _) hlist
  | _ => exact hlist

/-- The five kinds of parameters, whose annotations are gathered one after the other. -/
theorem arguments_annotations (h : ∀ c ∈ cs, Related owners rel c (g c)) (hpq : p.Like owners q) :
    rel p.block (gatherAnnotations p (node .arguments a cs))
      (gatherAnnotations q (node .arguments b (cs.map g))) := by
  match cs, h with
  | [_, _, _, _, _, _, _], h =>
    simp only [List.map_cons, List.map_nil, gatherAnnotations]
    refine G.hint hpq fun hpq => G.append (G.append (G.append (G.append ?_ ?_) ?_) ?_) ?_
    all_goals exact (h _ (by simp)).hints hpq
  | [], _ | [_], _ | [_, _], _ | [_, _, _], _ | [_, _, _, _], _ | [_, _, _, _, _], _
  | [_, _, _, _, _, _], _ | _ :: _ :: _ :: _ :: _ :: _ :: _ :: _ :: _, _ => exact G.nothing _

theorem arguments_defaults (h : ∀ c ∈ cs, Related owners rel c (g c)) (hpq : p.Like owners q) :
    rel p.block (gatherDefaults p (node .arguments a cs))
      (gatherDefaults q (node .arguments b (cs.map g))) := by
  match cs, h with
  | [_, _, _, _, _, _, _], h =>
    simp only [List.map_cons, List.map_nil, gatherDefaults]
    exact G.append ((h _ (by simp)).whole hpq) ((h _ (by simp)).whole hpq)
  | [], _ | [_], _ | [_, _], _ | [_, _, _], _ | [_, _, _, _], _ | [_, _, _, _, _], _
  | [_, _, _, _, _, _], _ | _ :: _ :: _ :: _ :: _ :: _ :: _ :: _ :: _, _ => exact G.nothing _

theorem arguments_parameters (h : ∀ c ∈ cs, Related owners rel c (g c)) (hpq : p.Like owners q) :
    rel p.block (gatherParameters p (node .arguments a cs))
      (gatherParameters q (node .arguments b (cs.map g))) := by
  match cs, h with
  | [_, _, _, _, _, _, _], h =>
    simp only [List.map_cons, List.map_nil, gatherParameters]
    refine G.append (G.append (G.append (G.append ?_ ?_) ?_) ?_) ?_
    all_goals exact (h _ (by simp)).parameters hpq
  | [], _ | [_], _ | [_, _], _ | [_, _, _], _ | [_, _, _, _], _ | [_, _, _, _, _], _
  | [_, _, _, _, _, _], _ | _ :: _ :: _ :: _ :: _ :: _ :: _ :: _ :: _, _ => exact G.nothing _

theorem gatherParameterAnnotationsList (h : ∀ c ∈ cs, Related owners rel c (g c))
    (hpq : p.Like owners q) :
    rel p.block (gatherParameterAnnotationsList p cs) (gatherParameterAnnotationsList q (cs.map g)) := by
  induction cs with
  | nil => exact G.nothing _
  | cons c cs ih =>
    exact G.append ((h c List.mem_cons_self).hints hpq)
      (ih fun d hd => h d (List.mem_cons_of_mem _ hd))

theorem gatherParametersList (h : ∀ c ∈ cs, Related owners rel c (g c)) (hpq : p.Like owners q) :
    rel p.block (gatherParametersList p cs) (gatherParametersList q (cs.map g)) := by
  induction cs with
  | nil => exact G.nothing _
  | cons c cs ih =>
    exact G.append ((h c List.mem_cons_self).parameters hpq)
      (ih fun d hd => h d (List.mem_cons_of_mem _ hd))

theorem gatherLaterClauses (h : ∀ c ∈ cs, Related owners rel c (g c)) (hpq : p.Like owners q) :
    rel p.block (gatherLaterClauses p cs) (gatherLaterClauses q (cs.map g)) := by
  induction cs with
  | nil => exact G.nothing _
  | cons c cs ih =>
    rw [List.map_cons, gatherLaterClauses_cons, gatherLaterClauses_cons q]
    exact G.append ((h c List.mem_cons_self).later hpq)
      (ih fun d hd => h d (List.mem_cons_of_mem _ hd))

/-- A clause of a comprehension, as the first and as a later one. -/
theorem clause_node {asynchronous : Int} (h : ∀ c ∈ cs, Related owners rel c (g c))
    (hpq : p.Like owners q) :
    let t : SyntaxTree α := node (.comprehension asynchronous) a cs
    let t' := node (.comprehension asynchronous) b (cs.map g)
    rel p.block (gatherFirst p t) (gatherFirst q t') ∧
      rel p.block (gatherClauses p t) (gatherClauses q t') ∧
      rel p.block (Syntax.gatherLaterClauses p [t]) (Syntax.gatherLaterClauses q [t']) := by
  match cs, h with
  | [target, iterable, conditions], h =>
    have htarget : Related owners rel target (g target) := h _ (by simp)
    have hiterable : Related owners rel iterable (g iterable) := h _ (by simp)
    have hconditions : Related owners rel conditions (g conditions) := h _ (by simp)
    simp only [List.map_cons, List.map_nil, gatherFirst, gatherClauses, Syntax.gatherLaterClauses]
    refine ⟨hiterable.whole hpq, G.append (htarget.whole hpq.iterated) (hconditions.whole hpq), ?_⟩
    exact G.append (G.append (G.append (htarget.whole hpq.iterated) (hiterable.whole hpq.iterable))
      (hconditions.whole hpq)) (G.nothing _)
  | [], _ | [_], _ | [_, _], _ | _ :: _ :: _ :: _ :: _, _ =>
    exact ⟨G.nothing _, G.nothing _, G.nothing _⟩

theorem node_map (hform : ∀ t, (g t).form = t.form) (hnames : (node f a cs).Names names)
    (h : ∀ c ∈ cs, Related owners rel c (g c)) :
    Related owners rel (node f a cs) (node f b (cs.map g)) where
  whole := whole_node G hform hnames h
  defaults {p q} hpq := by
    cases f with
    | arguments => exact arguments_defaults G h hpq
    | _ => exact G.nothing _
  annotations {p q} hpq := by
    cases f with
    | arguments => exact arguments_annotations G h hpq
    | _ => exact G.nothing _
  hints {p q} hpq := by
    cases f with
    | arg name => exact gatherList G h hpq
    | sequence => exact gatherParameterAnnotationsList G h hpq
    | _ => exact G.nothing _
  parameters {p q} hpq := by
    cases f with
    | arg name => exact G.mention hpq (hnames.1 name (List.mem_singleton_self _) _)
    | arguments => exact arguments_parameters G h hpq
    | sequence => exact gatherParametersList G h hpq
    | _ => exact G.nothing _
  first {p q} hpq := by
    cases f with
    | comprehension asynchronous => exact (clause_node G h hpq).1
    | sequence =>
      match cs, h with
      | [], _ => exact G.nothing _
      | _ :: _, h => exact (h _ List.mem_cons_self).first hpq
    | _ => exact G.nothing _
  clauses {p q} hpq := by
    cases f with
    | comprehension asynchronous => exact (clause_node G h hpq).2.1
    | sequence =>
      match cs, h with
      | [], _ => exact G.nothing _
      | _ :: _, h =>
        exact G.append ((h _ List.mem_cons_self).clauses hpq)
          (gatherLaterClauses G (fun c hc => h c (List.mem_cons_of_mem _ hc)) hpq)
    | _ => exact G.nothing _
  later {p q} hpq := by
    cases f with
    | comprehension asynchronous => exact (clause_node G h hpq).2.2
    | _ => exact G.nothing _

/-- A propagation expression and one on the call of a hook. -/
theorem site_inject {m : Marking} {call : α} {ctx : Context} {word args named : α} {r : SyntaxTree α}
    {r' : SyntaxTree β} {none_ : β} {line : Int} (hm : hooks m) (hr : Related owners rel r r') :
    Related owners rel (site call ctx word args named r) (m.inject b none_ r' line) where
  whole {p q} hpq := by
    have hsite : gather p (site call ctx word args named r) = gather p r := by
      simp [site, gather, Syntax.gatherList]
    rw [hsite, gather_inject]
    exact G.hooked hm hpq (hr.whole hpq)
  defaults _ := G.nothing _
  annotations _ := G.nothing _
  hints _ := G.nothing _
  parameters _ := G.nothing _
  first _ := G.nothing _
  clauses _ := G.nothing _
  later _ := G.nothing _

end Related

theorem Reshapes.form_eq (hg : Reshapes hooks g) (t : SyntaxTree α) : (g t).form = t.form := by
  obtain ⟨f, a, cs⟩ := t
  obtain ⟨b, h⟩ | ⟨m, ctx, word, args, named, r, b, none_, line, -, hsite, h⟩ := hg f a cs
  · rw [h, form_node, form_node]
  · rw [h, hsite]
    rfl

/-- A relation that gathered parts respect relates what a tree gathers to what the tree gathers when it
is reshaped. -/
theorem Gathering.related (G : Gathering β owners names hooks rel) (hg : Reshapes hooks g)
    (t : SyntaxTree α) (ht : ∀ s ∈ t.subtrees, s.Names names) : Related owners rel t (g t) := by
  -- the receiver of a propagation expression is a grandchild
  suffices h : Related owners rel t (g t) ∧ ∀ c ∈ t.children, Related owners rel c (g c) from h.1
  induction t with
  | node f a cs ih =>
    have ih : ∀ c ∈ cs, Related owners rel c (g c) ∧ ∀ d ∈ c.children, Related owners rel d (g d) :=
      fun c hc => ih c hc fun s hs => ht s (mem_subtrees_of_mem hc hs)
    have hcs : ∀ c ∈ cs, Related owners rel c (g c) := fun c hc => (ih c hc).1
    refine ⟨?_, hcs⟩
    obtain ⟨b, h⟩ | ⟨m, ctx, word, args, named, r, b, none_, line, hm, hsite, h⟩ := hg f a cs
    · rw [h]
      exact Related.node_map G hg.form_eq (ht _ (self_mem_subtrees _)) hcs
    · rw [h, hsite]
      obtain ⟨-, -, rfl⟩ := SyntaxTree.node.inj hsite
      exact Related.site_inject G hm ((ih _ List.mem_cons_self).2 r (by simp))

/-- Changing annotations reshapes a tree. -/
theorem reshapes_map (h : α → β) : Reshapes hooks (SyntaxTree.map h) :=
  fun f a cs => .inl ⟨h a, map_node h f a cs⟩

/-- A tree is reshaped by leaving it as it is. -/
theorem reshapes_id : Reshapes hooks (id : SyntaxTree α → SyntaxTree α) :=
  fun f a cs => .inl ⟨a, by simp⟩

/-- Instrumenting reshapes a tree. -/
theorem reshapes_visit (m : Marking) : Reshapes (· = m) fun t => (t.visit m).1 := by
  intro f a cs
  rcases h : (node f a cs).propagation? with _ | ⟨word, r⟩
  · exact .inl ⟨a, congrArg Prod.fst (visit_other h)⟩
  · obtain ⟨call, ctx, args, named, ht⟩ := eq_site_of_propagation? h
    obtain ⟨-, rfl, -⟩ := SyntaxTree.node.inj ht
    exact .inr ⟨m, ctx, word, args, named, r, a, {}, siteLine a word, rfl, ht,
      ht ▸ congrArg Prod.fst (visit_site a ctx word args named r)⟩

/-! ## Names that are only read -/

/-- A part that does nothing with a name but read it. -/
structure Gathered.ReadsOnly (n : String) (g : Gathered) : Prop where
  mentions : ∀ m ∈ g.mentions, m.name = n → m.deed = .read
  inner : ∀ s ∈ g.inner, s.ReadsOnly n
  lifted : n ∉ g.lifted

namespace Gathered.ReadsOnly

variable {n : String} {g k : Gathered} {p : Site} {b : Block}

theorem nothing : ({} : Gathered).ReadsOnly n := ⟨by simp, by simp, by simp⟩

theorem require (b : Bool) : (Site.require b).ReadsOnly n :=
  ⟨by simp [Site.require], by simp [Site.require], by simp [Site.require]⟩

theorem append (hg : g.ReadsOnly n) (hk : k.ReadsOnly n) : (g ++ k).ReadsOnly n where
  mentions m hm := (List.mem_append.1 hm).elim (hg.mentions m) (hk.mentions m)
  inner s hs := (List.mem_append.1 hs).elim (hg.inner s) (hk.inner s)
  lifted h := (List.mem_append.1 h).elim hg.lifted hk.lifted

theorem scope (h : g.ReadsOnly n) (hb : b ≠ .file) : (g.scope b).ReadsOnly n :=
  .node hb h.mentions h.inner

/-- Names that are not the one read are mentioned. -/
theorem others {d : Deed} {iterating : Bool} {ns : List String} (h : n ∉ ns) :
    ({ mentions := ns.map fun x => ⟨d, x, iterating⟩ } : Gathered).ReadsOnly n where
  mentions m hm hname := by
    obtain ⟨x, hx, rfl⟩ := List.mem_map.1 hm
    exact absurd (hname ▸ hx) h
  inner := by simp
  lifted := by simp

theorem enclose (h : g.ReadsOnly n) (hb : b ≠ .file) : (p.enclose b g).ReadsOnly n := by
  have hhere : ({ inner := [g.scope b] } : Gathered).ReadsOnly n :=
    ⟨by simp, by simpa using h.scope hb, by simp⟩
  unfold Site.enclose
  split
  · exact hhere
  · split
    · exact hhere.append (others h.lifted)
    · exact hhere
    · exact hhere.append (require false)
    · exact hhere.append ⟨by simp, by simp, h.lifted⟩
    · exact hhere.append ⟨(others h.lifted).mentions, by simp, h.lifted⟩

end Gathered.ReadsOnly

theorem gathering_readsOnly {n : String} (hn : n ≠ "") :
    Gathering α Eq (fun d x => d = .read ∨ ∀ o, privateName o x ≠ n) (fun _ => False)
      (fun _ g _ => g.ReadsOnly n) where
  inClass _ := rfl
  unnamed _ := .inr fun o h => hn ((privateName_cases o "").resolve_right (by simp) ▸ h).symm
  nothing _ := .nothing
  append := .append
  require _ := .require
  mention {p q d x} _ hx := by
    obtain rfl | hx := hx
    · refine ⟨fun m hm _ => ?_, by simp [Site.mention], by simp [Site.mention]⟩
      rw [List.mem_singleton.1 hm]
    · have hother : n ∉ [privateName p.owner x] := by simpa using (hx p.owner).symm
      exact .others hother
  lifted {o o' x} _ hx := by
    refine ⟨by simp, by simp, ?_⟩
    simpa using ((hx.resolve_left (by simp)) o).symm
  enclose _ hb h := h.enclose hb
  hooked h := h.elim

variable {n : String} {t : SyntaxTree α} {p : Site}

/-- Whether no node of a tree binds, deletes or declares a name, as it stands in any class. -/
def SyntaxTree.Leaves (n : String) (t : SyntaxTree α) : Prop :=
  ∀ s ∈ t.subtrees, ∀ x ∈ s.bindings, ∀ o, privateName o x ≠ n

theorem related_readsOnly (hn : n ≠ "") (h : t.Leaves n) :
    Related Eq (fun _ g _ => g.ReadsOnly n) t t :=
  (gathering_readsOnly hn).related reshapes_id t fun s hs =>
    ⟨fun x hx _ => .inr (h s hs x hx), fun _ _ => .inl rfl⟩

/-- A name that no node of a tree binds is only read in the blocks of the tree. -/
theorem gather_readsOnly (hn : n ≠ "") (h : t.Leaves n) : (gather p t).ReadsOnly n :=
  (related_readsOnly hn h).whole (p := p) ⟨rfl, rfl⟩

theorem gatherParameters_readsOnly (hn : n ≠ "") (h : t.Leaves n) :
    (gatherParameters p t).ReadsOnly n :=
  (related_readsOnly hn h).parameters (p := p) ⟨rfl, rfl⟩

end Syntax

end ErrorTrail
