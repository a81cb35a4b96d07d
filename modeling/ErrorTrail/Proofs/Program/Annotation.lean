import ErrorTrail.Program.Annotate
import ErrorTrail.Proofs.Program.Library
import ErrorTrail.Proofs.Program.Member

/-!
# What the annotation refuses

The annotation looks at a function as a target (`exec_targetOf`) and raises the objection to the target if
there is one (`exec_annotate_refused`). So it refuses a function whose call gives a generator, as soon as
the function is defined (`exec_annotate_generator`).
-/

namespace ErrorTrail

open Act Syntax

/-- Whether a call of a function gives a generator. -/
def Function.isGenerator (f : Function) : Bool :=
  match f.body with
  | .tree _ _ _ _ _ _ generator => generator
  | .boundary _ _ => false

/-- A function as a target of the annotation. -/
def Function.target (f : Function) : Target where
  label := f.path
  className := "function"
  isFunction := true
  name := f.name
  generates := f.isGenerator
  wraps := (f.fields.lookup "__wrapped__").isSome

/-- The error with which a function is refused. -/
def refusalError (r : Refusal) : Obj :=
  .exception (.kind .transformError) [.str r.text] .none (.refusal r) []

/-- The objection to functions that give generators. -/
def generatorRefusal (path : String) : Refusal where
  code := .unsupported
  message := "generator functions cannot return a Result"
  target := path

section

variable {world : World} {n : Nat} {s : Store} {r : Ref} {f : Function}

/-! ## Members of functions -/

/-- A member that functions do not have of themselves is a field. -/
theorem exec_member?_field (ho : s.objects[r]? = some (.function f)) {name : String} (hname : name ≠ "__doc__")
    (hdict : name ≠ "__dict__")
    (hfind : exec (findIn name (Kind.function.ancestors.map .kind)) s = (.ok none, s)) :
    exec ((Machine.ofDepth world (n + 1)).member? (.ref r) name) s = (.ok (f.fields.lookup name), s) := by
  have hclass : exec (classOf (.ref r)) s = (.ok (.kind .function), s) := exec_classOf ho
  have hown : exec (ownFields (.ref r)) s = (.ok f.fields, s) := by
    rw [ownFields, exec_bind_ok (exec_object? ho)]
    rfl
  have hmember : exec ((Machine.ofDepth world n).findMember (.ref r) name) s =
      (.ok (f.fields.lookup name), s) := by
    rcases hlookup : f.fields.lookup name with _ | v
    · exact Machine.exec_findMember_none ho rfl (by simp) hclass hfind hown hlookup hdict hname
    · exact Machine.exec_findMember_field ho rfl (.of_kind hclass hfind) hown hlookup
  rw [Machine.member?, exec_rescue, Machine.member_ofDepth, hmember]

theorem exec_member?_qualname (ho : s.objects[r]? = some (.function f)) :
    exec ((Machine.ofDepth world (n + 1)).member? (.ref r) "__qualname__") s =
      (.ok (some (.str f.path)), s) := by
  have hfinds : s.Finds (.ref r) "__qualname__" (some (.property .function)) :=
    .of_kind (exec_classOf ho) rfl
  have hmember : exec ((Machine.ofDepth world n).findMember (.ref r) "__qualname__") s =
      (.ok (some (.str f.path)), s) :=
    Machine.exec_findMember_property ho rfl hfinds (by decide) rfl
  rw [Machine.member?, exec_rescue, Machine.member_ofDepth, hmember]

/-! ## Refusing -/

/-- The annotation knows a function by its path and name, by its kind and by what it wraps. -/
theorem exec_targetOf (ho : s.objects[r]? = some (.function f)) (hpath : f.path ≠ "") :
    exec (Annotate.targetOf (Machine.ofDepth world (n + 1)) (.ref r)) s = (.ok f.target, s) := by
  have hqualname : exec ((Machine.ofDepth world (n + 1)).member? (.ref r) "__qualname__") s = _ :=
    exec_member?_qualname ho
  have htruth : exec ((Machine.ofDepth world (n + 1)).truth (.str f.path)) s = (.ok true, s) := by
    simp [Machine.truth, hpath]
  have hclass : exec (classOf (.ref r)) s = (.ok (.kind .function), s) := exec_classOf ho
  have hwraps : exec ((Machine.ofDepth world (n + 1)).member? (.ref r) "__wrapped__") s = _ :=
    exec_member?_field ho (by decide) (by decide) rfl
  rcases hbody : f.body with _ | _ <;>
    simp [Annotate.targetOf, exec_bind, hqualname, htruth, Machine.exec_text_str, kindName, className, hclass,
      exec_object? ho, Machine.hasMember, hwraps, Function.target, Function.isGenerator, Kind.name, hbody]

/-- An objection to a function that is not annotated yet is raised, unless it is the error of another
part that is told again. -/
theorem exec_annotate_refused (ho : s.objects[r]? = some (.function f)) (hpath : f.path ≠ "")
    (hmarker : f.fields.lookup LibraryFunction.marker = none) {reason : Refusal}
    (hreason : f.target.objection? = some reason) (hcause : reason.cause = none) :
    exec (Annotate.annotate (Machine.ofDepth world (n + 1)) (.ref r)) s =
      (.error (.raised (.ref s.objects.size)),
        { s with objects := s.objects.push (refusalError reason) }) := by
  have hmember : exec ((Machine.ofDepth world (n + 1)).member? (.ref r) LibraryFunction.marker) s = _ :=
    exec_member?_field ho (by decide) (by decide) rfl
  have hinstrumented : exec (LibraryFunction.isInstrumented (Machine.ofDepth world (n + 1)) (.ref r)) s =
      (.ok false, s) := by
    rw [LibraryFunction.isInstrumented, exec_bind_ok hmember, hmarker]
    rfl
  have hcheck : exec (Annotate.check (Machine.ofDepth world (n + 1)) (.ref r)) s =
      (.error (.raised (.ref s.objects.size)),
        { s with objects := s.objects.push (refusalError reason) }) := by
    rw [Annotate.check, exec_bind_ok (exec_targetOf ho hpath), Target.check, hreason]
    simp [Annotate.refuse, hcause, exec_bind, refusalError]
  rw [Annotate.annotate, exec_bind_ok hinstrumented]
  exact exec_bind_error hcheck

theorem objection?_generator (hname : f.name ≠ Target.lambdaName) (hgenerator : f.isGenerator) :
    f.target.objection? = some (generatorRefusal f.path) := by
  simp [Target.objection?, Function.target, hname, hgenerator, generatorRefusal]

end

/-- A function that gives generators is refused when it has just been defined. -/
theorem exec_annotate_generator {world : World} {n : Nat} {s : Store} {env : Env} {name path : String}
    {args body : SyntaxTree Span} {asynchronous : Bool} {line : Nat} {defaults : List Value × Fields}
    {fields : Fields} (hname : name ≠ Target.lambdaName) (hpath : path ≠ "")
    (hmarker : fields.lookup LibraryFunction.marker = none) (hgenerates : generates env.site.eager body) :
    ∃ e s', exec (do
        let f ← Machine.newFunction env name path args body asynchronous line defaults fields
        Annotate.annotate (Machine.ofDepth world (n + 1)) f) s = (.error (.raised (.ref e)), s') ∧
      s'.objects[e]? = some (refusalError (generatorRefusal path)) := by
  rw [Machine.newFunction, exec_bind_ok (exec_allocValue _ _)]
  refine ⟨_, _, exec_annotate_refused Array.getElem?_push_size hpath hmarker ?_ rfl, Array.getElem?_push_size⟩
  exact objection?_generator hname hgenerates

end ErrorTrail
