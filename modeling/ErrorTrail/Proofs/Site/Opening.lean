import ErrorTrail.Site.Boundary
import ErrorTrail.Syntax.Placement
import ErrorTrail.Syntax.Printer.Statement
import Mathlib.Data.List.TakeWhile

/-!
# The alias import in the opening of a file

The build step puts the import of the alias after the documentation text and the imports from
`__future__` (`importPosition`). In a body whose imports from `__future__` come first
(`FuturesLead`), the import stands before everything else and disturbs nothing:

* `insertImport_afterOpening`: the documentation, the features asked for and their place at the
  beginning stay, and without the import the body is as it was.
* `wellPlaced_insertImport`: a file may stand with the import where it may stand without.
-/

namespace ErrorTrail

open Syntax

namespace Syntax

variable {α : Type} {body opening rest : List (SyntaxTree α)} {t u : SyntaxTree α} {j : Nat}

/-! ## What may lead a body -/

/-- Whether a statement at a place of a body is an import from `__future__`, or its
documentation. -/
def leadsAt (j : Nat) (t : SyntaxTree α) : Bool :=
  isFutureImport t || (j == 0 && isDocumentation t)

/-- Only the documentation and other imports from `__future__` stand before such an import. -/
def FuturesLead (body : List (SyntaxTree α)) : Prop :=
  ∀ i t, body[i]? = some t → isFutureImport t → ∀ j < i, ∀ u, body[j]? = some u → leadsAt j u

theorem documentation?_cons (t : SyntaxTree α) (ts : List (SyntaxTree α)) :
    SyntaxTree.documentation? (t :: ts) = SyntaxTree.documentation? [t] := by
  unfold SyntaxTree.documentation?
  split <;> simp_all

/-- The documentation of a body is its first statement, when that is nothing but a text. -/
theorem documentation?_eq_none (h : isDocumentation t = false) (ts : List (SyntaxTree α)) :
    SyntaxTree.documentation? (t :: ts) = none := by
  unfold SyntaxTree.documentation?
  split
  · rename_i heq
    cases heq
    cases h
  · rfl

theorem broughtNames_of_isDocumentation (h : isDocumentation t) : broughtNames t = [] := by
  unfold isDocumentation at h
  split at h
  · rfl
  · cases h

end Syntax

variable {body opening rest : List (SyntaxTree Span)} {package : String} {a b : Span}

/-- The statements before the import lead the body, and the next one does not. -/
theorem exists_opening {α : Type} (body : List (SyntaxTree α)) :
    ∃ opening rest, body = opening ++ rest ∧ importPosition body = opening.length ∧
      (∀ j u, opening[j]? = some u → leadsAt j u) ∧
      ∀ u ∈ rest.head?, leadsAt opening.length u = false := by
  have htaken {l : List (SyntaxTree α)} {j : Nat} {u : SyntaxTree α}
      (h : (l.takeWhile isFutureImport)[j]? = some u) : isFutureImport u :=
    List.mem_takeWhile_imp (List.mem_of_getElem? h)
  have hnext (l : List (SyntaxTree α)) :
      ∀ u ∈ (l.dropWhile isFutureImport).head?, isFutureImport u = false := by
    intro u hu
    have := List.head?_dropWhile_not isFutureImport l
    rwa [Option.mem_def.1 hu] at this
  rcases body with _ | ⟨t, ts⟩
  · exact ⟨[], [], rfl, rfl, by simp, by simp⟩
  by_cases hdoc : isDocumentation t
  · refine ⟨t :: ts.takeWhile isFutureImport, ts.dropWhile isFutureImport,
      by simp [List.takeWhile_append_dropWhile], by simp [importPosition, hdoc, Nat.add_comm],
      fun j u hj => ?_, fun u hu => by simp [leadsAt, hnext ts u hu]⟩
    rcases j with _ | j
    · obtain rfl : t = u := Option.some.inj hj
      simp [leadsAt, hdoc]
    · simp [leadsAt, htaken hj]
  · have hsplit := List.takeWhile_append_dropWhile (p := isFutureImport) (l := t :: ts)
    refine ⟨(t :: ts).takeWhile isFutureImport, (t :: ts).dropWhile isFutureImport, hsplit.symm,
      by simp [importPosition, hdoc], fun j u hj => by simp [leadsAt, htaken hj], fun u hu => ?_⟩
    -- With nothing before it, the next statement is the first one.
    have hfirst : ((t :: ts).takeWhile isFutureImport).length = 0 → isDocumentation u = false := by
      intro hlen
      rw [List.eq_nil_of_length_eq_zero hlen, List.nil_append] at hsplit
      rw [hsplit] at hu
      obtain rfl : t = u := Option.some.inj hu
      simpa using hdoc
    simpa [leadsAt, hnext _ u hu] using hfirst

/-- In a body that begins with its imports from `__future__`, the import of the alias divides what
leads the body from what does not. -/
theorem Syntax.FuturesLead.leadsAt_iff {α : Type} {body : List (SyntaxTree α)} {j : Nat}
    {u : SyntaxTree α} (h : FuturesLead body) (hu : body[j]? = some u) :
    leadsAt j u ↔ j < importPosition body := by
  obtain ⟨opening, rest, rfl, hposition, hopening, hrest⟩ := exists_opening body
  rw [hposition]
  refine ⟨fun hleads => ?_, fun hlt => hopening j u (by rwa [List.getElem?_append_left hlt] at hu)⟩
  by_contra hge
  have hge : opening.length ≤ j := Nat.not_lt.1 hge
  rw [List.getElem?_append_right hge] at hu
  obtain ⟨v, rest, rfl⟩ : ∃ v rest', rest = v :: rest' := by
    rcases rest with _ | ⟨v, rest⟩
    · simp at hu
    · exact ⟨v, rest, rfl⟩
  have hv : leadsAt opening.length v = false := hrest v rfl
  rcases hge.eq_or_lt with rfl | hlt
  · simp_all
  · -- A later statement can only be an import from the future, before which nothing else stands.
    have hfuture : isFutureImport u := by simpa [leadsAt, Nat.ne_zero_of_lt hlt] using hleads
    have := h j u (by rwa [List.getElem?_append_right hge]) hfuture opening.length hlt v (by simp)
    simp [hv] at this

/-- The imports from `__future__` come first exactly when none is left after the place of the alias
import. -/
theorem Syntax.futuresLead_iff {α : Type} {body : List (SyntaxTree α)} :
    FuturesLead body ↔ ∀ t ∈ body.drop (importPosition body), isFutureImport t = false := by
  constructor
  · intro h t ht
    obtain ⟨k, hk⟩ := List.getElem?_of_mem ht
    rw [List.getElem?_drop] at hk
    have hleads : ¬leadsAt (importPosition body + k) t := by
      rw [h.leadsAt_iff hk]
      omega
    simp_all [leadsAt]
  · intro h i t hi hfuture j hj u hu
    obtain ⟨opening, rest, hbody, hposition, hopening, -⟩ := exists_opening body
    have hlt : i < opening.length := by
      by_contra hge
      rw [hbody, List.getElem?_append_right (Nat.not_lt.1 hge)] at hi
      rw [hposition, hbody, List.drop_left] at h
      simp [h t (List.mem_of_getElem? hi)] at hfuture
    refine hopening j u ?_
    rwa [hbody, List.getElem?_append_left (hj.trans hlt)] at hu

instance {α : Type} (body : List (SyntaxTree α)) : Decidable (FuturesLead body) :=
  decidable_of_iff _ futuresLead_iff.symm

/-! ## The import of the alias -/

/-- A body with the import of the alias at its place. -/
structure OpensWith (package : String) (body body' : List (SyntaxTree Span)) : Prop where
  /-- The documentation is the same text, or there is still none. -/
  documentation : SyntaxTree.documentation? body' = SyntaxTree.documentation? body
  /-- The imports from `__future__` still come first, -/
  leads : FuturesLead body'
  /-- and ask for the same features. -/
  features : features body' = features body
  inserted : body'[importPosition body]? = some (aliasImport package)
  /-- Of the other statements those that lead the body stand before the import, and no others. -/
  place : ∀ j u, body'[j]? = some u → j ≠ importPosition body →
    (j < importPosition body ↔ leadsAt j u)
  /-- Without the import the body is as it was. -/
  erased : body'.eraseIdx (importPosition body) = body

theorem inOpening_of_leadsAt (h : ∀ j u, opening[j]? = some u → leadsAt j u) :
    ∀ u ∈ opening, inOpening u := by
  intro u hu
  obtain ⟨j, hj⟩ := List.getElem?_of_mem hu
  have := h j u hj
  simp only [leadsAt, inOpening, Bool.or_eq_true, Bool.and_eq_true] at this ⊢
  exact this.imp_right (·.2)

theorem features_append (hopening : ∀ u ∈ opening, inOpening u)
    (hrest : ∀ u ∈ rest, isFutureImport u = false) :
    features (opening ++ rest) = opening.flatMap broughtNames := by
  have htexts : (rest.takeWhile inOpening).flatMap broughtNames = [] := by
    refine List.flatMap_eq_nil_iff.2 fun u hu => broughtNames_of_isDocumentation ?_
    have hmem := (List.takeWhile_prefix inOpening).subset hu
    simpa [inOpening, hrest u hmem] using List.mem_takeWhile_imp hu
  rw [features, List.takeWhile_append_of_pos hopening, List.flatMap_append, htexts, List.append_nil]

/-- The import of the alias stands right after the documentation and the imports from `__future__`,
in front of all other statements, and changes none of them. -/
theorem insertImport_afterOpening (package : String) (a b : Span) (h : FuturesLead body) :
    ∃ body', insertImport package (.node .file a [.node .sequence b body]) =
        .node .file a [.node .sequence b body'] ∧ OpensWith package body body' := by
  have hleft := futuresLead_iff.1 h
  refine ⟨_, rfl, ?_⟩
  obtain ⟨opening, rest, rfl, hposition, hopening, hfirst⟩ := exists_opening body
  rw [hposition, List.drop_left] at hleft
  rw [hposition, List.take_left, List.drop_left]
  have hnew : ∀ u ∈ aliasImport package :: rest, isFutureImport u = false :=
    List.forall_mem_cons.2 ⟨rfl, hleft⟩
  have hinserted : (opening ++ aliasImport package :: rest)[opening.length]? =
      some (aliasImport package) := by simp
  have hplace : ∀ j u, (opening ++ aliasImport package :: rest)[j]? = some u →
      j ≠ opening.length → (j < opening.length ↔ leadsAt j u) := by
    intro j u hu hne
    rcases Nat.lt_or_gt_of_ne hne with hlt | hgt
    · rw [List.getElem?_append_left hlt] at hu
      exact iff_of_true hlt (hopening j u hu)
    · rw [List.getElem?_append_right hgt.le] at hu
      refine iff_of_false hgt.not_gt ?_
      simp [leadsAt, hnew u (List.mem_of_getElem? hu), Nat.ne_zero_of_lt hgt]
  refine ⟨?_, ?_, ?_, hposition ▸ hinserted, hposition ▸ hplace, ?_⟩
  · rcases opening with _ | ⟨t, opening⟩
    · rcases rest with _ | ⟨v, rest⟩
      · rfl
      · have hv : isDocumentation v = false := by
          have := hfirst v rfl
          simp_all [leadsAt]
        exact (documentation?_eq_none (t := v) hv rest).symm
    · exact (documentation?_cons t _).trans (documentation?_cons t _).symm
  · intro i t hi hfuture j hj u hu
    have hne : i ≠ opening.length := by
      rintro rfl
      rw [hinserted] at hi
      obtain rfl := Option.some.inj hi
      cases hfuture
    have hlt : i < opening.length := (hplace i t hi hne).2 (by simp [leadsAt, hfuture])
    exact (hplace j u hu (by omega)).1 (by omega)
  · have hin := inOpening_of_leadsAt hopening
    rw [features_append hin hnew, features_append hin hleft]
  · rw [hposition, List.eraseIdx_append_of_length_le le_rfl, Nat.sub_self, List.eraseIdx_zero,
      List.tail_cons]

/-- A documented body that asks for two features, in two imports, and has another text further
down. -/
theorem insertImport_afterOpening_documented :
    let text (s : String) : SyntaxTree Span :=
      .node .exprStmt {} [.node (.constant (.str s) none) {} []]
    let future (feature : String) : SyntaxTree Span :=
      .node (.importFrom (some "__future__") (some 0)) {}
        [.node .sequence {} [.node (.alias feature none) {} []]]
    let body := [text "About parsing.", future "annotations", future "division", text "Not this.",
      .node .passStmt {} []]
    FuturesLead body ∧ importPosition body = 3 ∧
      ∃ body', insertImport "_wherr" (.node .file {} [.node .sequence {} body]) =
          .node .file {} [.node .sequence {} body'] ∧ OpensWith "_wherr" body body' := by
  intro text future body
  have hlead : FuturesLead body := by decide
  exact ⟨hlead, by decide, insertImport_afterOpening "_wherr" {} {} hlead⟩

/-! ## Where the file may stand -/

theorem judgeList_dropWhile_inOpening {s : Standing} (hrest : ∀ u ∈ rest, isFutureImport u = false)
    (htexts : ∀ u ∈ rest, isDocumentation u → judge s u = {}) :
    judgeList s (rest.dropWhile inOpening) = judgeList s rest := by
  induction rest with
  | nil => rfl
  | cons u rest ih =>
    rw [List.forall_mem_cons] at hrest htexts
    by_cases hu : isDocumentation u
    · rw [List.dropWhile_cons_of_pos (by simp [inOpening, hu]), ih hrest.2 htexts.2, judgeList,
        htexts.1 hu]
      rfl
    · rw [List.dropWhile_cons_of_neg (by simp [inOpening, hu, hrest.1])]

/-- A file may stand with the import of the alias if it may stand without, unless nothing can have
the name of the alias. -/
theorem wellPlaced_insertImport (a b : Span) (h : FuturesLead body) (hne : package ≠ "")
    (htexts : ∀ u ∈ body, isDocumentation u → ∀ s, judge s u = {}) :
    wellPlaced (insertImport package (.node .file a [.node .sequence b body])) =
      (bindable package && wellPlaced (.node .file a [.node .sequence b body])) := by
  have hleft := futuresLead_iff.1 h
  obtain ⟨opening, rest, rfl, hposition, hopening, -⟩ := exists_opening body
  rw [hposition, List.drop_left] at hleft
  have hin := inOpening_of_leadsAt hopening
  have hnew : ∀ u ∈ aliasImport package :: rest, isFutureImport u = false :=
    List.forall_mem_cons.2 ⟨rfl, hleft⟩
  have htexts' (s : Standing) : ∀ u ∈ rest, isDocumentation u → judge s u = {} := fun u hu hdoc =>
    htexts u (List.mem_append_right _ hu) hdoc s
  have himport (s : Standing) : judge s (aliasImport package) = .require (bindable package) := by
    have hname : importedName annotationWord (some package) = package := by simp [importedName, hne]
    simp only [aliasImport, judge, judgeList, hname]
    cases bindable package <;> rfl
  have hstops : (aliasImport package :: rest).dropWhile inOpening = aliasImport package :: rest :=
    rfl
  simp only [insertImport, hposition, List.take_left, List.drop_left, wellPlaced,
    features_append hin hnew, features_append hin hleft, afterOpening,
    List.dropWhile_append_of_pos hin, hstops, judgeList_dropWhile_inOpening hleft (htexts' _),
    judgeList, himport]
  exact Bool.and_left_comm ..

end ErrorTrail
