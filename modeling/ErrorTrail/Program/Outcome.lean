import ErrorTrail.Program.Display

/-!
# Outcomes

A result is a success or a failure with a payload. Its operations take a function to run on the
payload; the variant that an operation does not concern is handed on as the same object.

`Outcome.propagate` gives the payload of a success and raises the failure as a signal;
`Outcome.boundary` runs a body and turns a signal that leaves it into the failure it carries.
-/

namespace ErrorTrail

namespace Outcome

open Act

/-- A new result. -/
def make (isOk : Bool) (payload : Value) : Act Value := allocValue (.result isOk payload)

def success (payload : Value) : Act Value := make true payload

def failure (payload : Value) : Act Value := make false payload

/-- The variant and payload of a result, if a value is one. -/
def view? (v : Value) : Act (Option (Bool × Value)) := do
  match ← object? v with
  | some (.result isOk payload) => return some (isOk, payload)
  | _ => return none

/-- The variant and payload of a result. -/
def view (v : Value) : Act (Bool × Value) := do
  match ← view? v with
  | some r => return r
  | none => fail .attributeError "no result"

def isOk (r : Value) : Act Bool := return (← view r).1

def isErr (r : Value) : Act Bool := return !(← view r).1

/-! ### Payloads -/

/-- The payload of a success, or a value in its place. -/
def unwrapOr (fallback r : Value) : Act Value := do
  let (isOk, payload) ← view r
  return if isOk then payload else fallback

/-- The payload of a success, or what `f` makes of the error. -/
def unwrapOrElse (f : Value → Act Value) (r : Value) : Act Value := do
  let (isOk, payload) ← view r
  if isOk then return payload else f payload

/-- Raises an error about a payload. -/
def complain {α : Type} (text : Value → Act String) (words : String) (payload cause : Value) :
    Act α := do
  let shown ← text payload
  raise (← allocValue
    (.exception (.kind .runtimeError) [.str (words ++ ": " ++ shown)] cause .plain []))

/-- The payload of a success; a failure is an error, caused by its payload if that is an
exception. -/
def unwrap (text : Value → Act String) (r : Value) : Act Value := do
  let (isOk, payload) ← view r
  if isOk then return payload
  let cause := if ← isException payload then payload else .none
  complain text "unwrap() on Err" payload cause

/-- The payload of a failure. -/
def unwrapErr (text : Value → Act String) (r : Value) : Act Value := do
  let (isOk, payload) ← view r
  if isOk then complain text "unwrap_err() on Ok" payload .none else return payload

/-- The payload of a success; a failure is an error that begins with the given words. -/
def expect (text : Value → Act String) (words : String) (r : Value) : Act Value := do
  let (isOk, payload) ← view r
  if isOk then return payload else complain text words payload .none

/-- The payload of a success, or nothing. -/
def ok (r : Value) : Act Value := do
  let (isOk, payload) ← view r
  return if isOk then payload else .none

/-- The payload of a failure, or nothing. -/
def err (r : Value) : Act Value := do
  let (isOk, payload) ← view r
  return if isOk then .none else payload

/-! ### Combinators -/

/-- A success with what `f` makes of its payload; a failure stays. -/
def map (f : Value → Act Value) (r : Value) : Act Value := do
  let (isOk, payload) ← view r
  if isOk then success (← f payload) else return r

/-- A failure with what `f` makes of its payload; a success stays. -/
def mapErr (f : Value → Act Value) (r : Value) : Act Value := do
  let (isOk, payload) ← view r
  if isOk then return r else failure (← f payload)

/-- What `f` makes of the payload of a success; a failure stays. -/
def flatMap (f : Value → Act Value) (r : Value) : Act Value := do
  let (isOk, payload) ← view r
  if isOk then f payload else return r

/-- What `f` makes of the payload of a failure; a success stays. -/
def orElse (f : Value → Act Value) (r : Value) : Act Value := do
  let (isOk, payload) ← view r
  if isOk then return r else f payload

/-- What the function for its variant makes of a payload. -/
def cases (onOk onErr : Value → Act Value) (r : Value) : Act Value := do
  let (isOk, payload) ← view r
  if isOk then onOk payload else onErr payload

/-! ### Early end -/

/-- The signal that carries a failure to a boundary. -/
def signal (r : Value) : Act Value :=
  allocValue (.exception (.kind .propagation) [r] .none (.signal r) [])

/-- The payload of a success; a failure is raised as a signal. -/
def propagate (r : Value) : Act Value := do
  let (isOk, payload) ← view r
  if isOk then return payload else raise (← signal r)

/-- The result that an exception carries as a signal. -/
def signalled? (error : Value) : Act (Option Value) := do
  match ← object? error with
  | some (.exception _ _ _ (.signal r) _) => return some r
  | _ => return none

/-- Runs a body; a signal that leaves it ends it with the result that the signal carries. -/
def boundary (body : Act Value) : Act Value :=
  rescue body fun error => do
    match ← signalled? error with
    | some r => return r
    | none => raise error

/-! ### Many results -/

/-- Takes results up to the first failure, which is the answer; the success of all payloads if there
is none. `next` gives the results one by one, `limit` of them at most. -/
def sequence (next : Act (Option Value)) (limit : Nat) : Act Value :=
  iterate (fun done => do
    match ← next with
    | none => return .inr (← success (← allocValue (.list done.reverse)))
    | some r =>
      let (isOk, payload) ← view r
      return if isOk then .inl (payload :: done) else .inr r) limit []

/-- A function as a generator calls it: an exception that ends iterations becomes another one. -/
def guarded (f : Value → Act Value) (v : Value) : Act Value := rescue (f v) (failGenerator false)

/-- The results of `f` on items one by one, as a generator gives them. -/
def mapped (f : Value → Act Value) (next : Act (Option Value)) : Act (Option Value) := do
  match ← next with
  | none => return none
  | some v => return some (← guarded f v)

/-- Takes the results of `f` on items up to the first failure. -/
def traverse (f : Value → Act Value) (next : Act (Option Value)) (limit : Nat) : Act Value :=
  sequence (mapped f next) limit

/-- Takes all results: the failure of all error payloads if there are any, else the success of all
payloads. -/
def collect (next : Act (Option Value)) (limit : Nat) : Act Value :=
  iterate (fun (oks, errs) => do
    match ← next with
    | none =>
      if errs.isEmpty then return .inr (← success (← allocValue (.list oks.reverse)))
      else return .inr (← failure (← allocValue (.list errs.reverse)))
    | some r =>
      let (isOk, payload) ← view r
      return .inl (if isOk then (payload :: oks, errs) else (oks, payload :: errs)))
    limit (([], []) : List Value × List Value)

end Outcome

end ErrorTrail
