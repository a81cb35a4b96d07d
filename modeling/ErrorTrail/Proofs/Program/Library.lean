import ErrorTrail.Proofs.Program.Run
import ErrorTrail.Proofs.Text.Splitting

/-!
# Calls of the library

What the functions and methods of the library that sites use do when a program calls them: each call
of a machine of enough depth is the operation that defines it.
-/

namespace ErrorTrail

open Act

theorem Act.ext {α : Type} {a b : Act α} (h : ∀ s, exec a s = exec b s) : a = b := funext h

namespace Machine

variable {world : World} {n : Nat} {s : Store}

/-- What a machine asks of another is done by the machine of the depth below. -/
theorem call_ofDepth (f : Value) (args : List Value) (named : Fields) :
    (ofDepth world (n + 1)).call f args named = (ofDepth world n).invoke f args named := rfl

theorem member_ofDepth (v : Value) (name : String) :
    (ofDepth world (n + 1)).member v name = (ofDepth world n).findMember v name := rfl

/-- The text of a text is itself. -/
theorem exec_text_str (t : String) :
    exec ((ofDepth world (n + 1)).text (.str t)) s = (.ok t, s) := by
  show exec ((ofDepth world n).describe (.str t)) s = _
  have hmethod : exec (userMethod (.str t) "__str__") s = (.ok none, s) := rfl
  rw [describe, exec_bind_ok hmethod]
  rfl

/-- The arguments of a call of a site function are its location. -/
theorem exec_siteOf (site : Location) :
    exec (LibraryFunction.siteOf (ofDepth world (n + 1)) (.str site.file) (.int site.line)) s =
      (.ok site, s) := by
  rw [LibraryFunction.siteOf, exec_bind_ok (exec_text_str site.file)]
  rfl

theorem exec_two (a b : String) (v w : Value) :
    exec (Arguments.two a b [v, w] []) s = (.ok (v, w), s) := rfl

/-- A call of a function of the library, those that need a function's text left aside. -/
theorem call_library {name : String} (hsplit : name.splitOn "." = [name])
    (hname : name ≠ "wherr" ∧ name ≠ "instrument_function") (hlibrary : name ∈ libraryFunctions)
    (hcompletion : Value.native name ≠ completion) (args : List Value) (named : Fields) :
    (ofDepth world (n + 1)).call (.native name) args named =
      LibraryFunction.call (ofDepth world n) name args named := by
  rw [call_ofDepth]
  unfold invoke
  simp [hcompletion, Native.call, hsplit, hname, hlibrary]

/-- Calling the site function is what an instrumented site does to a result. -/
theorem call_wherrapper (v : Value) (site : Location) :
    (ofDepth world (n + 2)).call (.native "wherrapper") [v, .str site.file, .int site.line] [] =
      Envelope.addSite (ofDepth world (n + 1)) v site := by
  have hsplit : "wherrapper".splitOn "." = ["wherrapper"] := by
    rw [Text.splitOn_char '.']
    decide
  refine Act.ext fun s => ?_
  have harrange : exec (Arguments.arrange ["result", "file", "line"]
      [v, .str site.file, .int site.line] []) s =
      (.ok [some v, some (.str site.file), some (.int site.line)], s) := rfl
  rw [call_library hsplit (by decide) (by decide) (by decide),
    LibraryFunction.call, exec_bind_ok harrange]
  simp only
  rw [exec_bind_ok (exec_siteOf site)]

/-- Calling the constructor of successes makes a success. -/
theorem call_success (v : Value) :
    (ofDepth world (n + 1)).call (.native "Ok") [v] [] = Outcome.success v := by
  have hsplit : "Ok".splitOn "." = ["Ok"] := by
    rw [Text.splitOn_char '.']
    decide
  rw [call_library hsplit (by decide) (by decide) (by decide)]
  rfl

/-- A call of a method of a built-in class that is bound to an object. -/
theorem call_boundMethod {cls method : String} {k : Kind}
    (hsplit : (k.name ++ "." ++ method).splitOn "." = [cls, method])
    (hcompletion : nativeMethod k method ≠ completion) (self : Value) (args : List Value)
    (named : Fields) :
    (ofDepth world (n + 2)).call (.bound (nativeMethod k method) self) args named =
      Native.callMethod (ofDepth world n) cls method self args named := by
  have hbeq : (nativeMethod k method == completion) = false := by simpa using hcompletion
  rw [call_ofDepth, invoke, call_ofDepth]
  unfold invoke
  rw [nativeMethod] at hbeq ⊢
  simp only [hbeq, Bool.false_eq_true, ↓reduceIte, Native.call, hsplit]

/-- A location is added to the trail of an envelope. -/
theorem call_pushEnvelope (v : Value) (site : Location) :
    (ofDepth world (n + 3)).call (.bound (nativeMethod .envelope "push_location") v)
        [.str site.file, .int site.line] [] =
      (do Envelope.push v site; return .none) := by
  have hsplit : (Kind.envelope.name ++ "." ++ "push_location").splitOn "." =
      ["Wherr", "push_location"] := by
    rw [Text.splitOn_char '.']
    decide
  rw [call_boundMethod hsplit (by decide)]
  refine Act.ext fun s => ?_
  simp only [Native.callMethod, LibraryFunction.callEnvelope]
  rw [exec_bind_ok (exec_two "file" "line" _ _), exec_bind_ok (exec_siteOf site)]

/-- A location is added to those of an error object of another library. -/
theorem exec_call_pushForeign {r : Ref} {f : Foreign} (ho : s.objects[r]? = some (.foreign f))
    (site : Location) :
    exec ((ofDepth world (n + 3)).call (.bound (.native "Foreign.push_location") (.ref r))
        [.str site.file, .int site.line] []) s =
      (.ok .none, { s with
        objects := s.objects.setIfInBounds r (.foreign { f with pushed := f.pushed ++ [site] }) }) := by
  have hsplit : (Kind.foreign.name ++ "." ++ "push_location").splitOn "." =
      ["Foreign", "push_location"] := by
    rw [Text.splitOn_char '.']
    decide
  have hname : Value.native "Foreign.push_location" = nativeMethod .foreign "push_location" := by
    decide
  rw [hname, call_boundMethod hsplit (by decide)]
  simp [Native.callMethod, Native.withObject, LibraryFunction.callForeign, exec_bind, ho, exec_two,
    exec_siteOf]

/-- Asking a result for its value is propagating it. -/
theorem call_propagate (v : Value) :
    (ofDepth world (n + 2)).call (.bound (nativeMethod .result "propagate") v) [] [] =
      Outcome.propagate v := by
  have hsplit : (Kind.result.name ++ "." ++ "propagate").splitOn "." = ["Result", "propagate"] := by
    rw [Text.splitOn_char '.']
    decide
  rw [call_boundMethod hsplit (by decide)]
  rfl

end Machine

end ErrorTrail
