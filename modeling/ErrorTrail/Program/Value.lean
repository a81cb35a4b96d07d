import ErrorTrail.Log
import ErrorTrail.Report
import ErrorTrail.Refusal
import ErrorTrail.Syntax.Scope
import ErrorTrail.Program.Kind

/-!
# Values and objects

What exists while a program runs. A `Value` is something immutable that is told apart by its content
alone, or a reference to an object of the store, which has an identity and may change. A `Store`
holds the objects, and what running leaves behind.

Running is an `Act`: it changes the store, and gives a result or stops with a raised exception.
-/

namespace ErrorTrail

open Syntax

/-- A reference to an object. -/
abbrev Ref := Nat

/-- A value. A floating number is given by its bits; `mark` tells apart numbers that are not equal
to themselves. -/
inductive Value where
  | none
  | bool (b : Bool)
  | int (n : Int)
  | float (bits : UInt64) (mark : Nat)
  | str (s : String)
  | bytes (bs : List UInt8)
  | ellipsis
  | notImplemented
  | location (l : Location)
  /-- a built-in class -/
  | kind (k : Kind)
  /-- a built-in function -/
  | native (name : String)
  /-- a function with its first argument -/
  | bound (function self : Value)
  | ref (r : Ref)
  deriving DecidableEq, Repr, Inhabited

/-- Named values in the order in which the names came up. -/
abbrev Fields := List (String × Value)

/-- The names that a block of a running program reaches. -/
structure Env where
  /-- variables of this block and of blocks around it -/
  cells : List (String × Ref) := []
  own : List String := []
  outer : List String := []
  /-- the first parameter -/
  first : Option String := none
  /-- the names of a class body or file -/
  space : Option Ref := none
  globals : Ref := 0
  /-- what the block offers to those inside -/
  offers : Surroundings := {}
  site : Site := {}
  /-- what qualified names of definitions in this block begin with -/
  path : String := ""
  file : String := ""
  deriving Repr, Inhabited

/-- What a function does when it is called. -/
inductive Body where
  /-- runs statements; `own` are its variables and `offers` is what it offers to those inside -/
  | tree (parameters body : SyntaxTree Span) (own : List String) (offers : Surroundings)
      (site : Site)
      (asynchronous generator : Bool)
  /-- calls another function and turns its early end into a result -/
  | boundary (target : Value) (asynchronous : Bool)
  deriving Repr, Inhabited

/-- A function that a program has made. -/
structure Function where
  name : String := ""
  path : String := ""
  /-- what the qualified names of definitions inside begin with -/
  locals : String := ""
  body : Body
  defaults : List Value := []
  keywordDefaults : Fields := []
  closure : List (String × Ref) := []
  globals : Ref := 0
  file : String := ""
  line : Nat := 0
  fields : Fields := []
  deriving Repr, Inhabited

/-- How a block of statements ends. -/
inductive Flow where
  | normal
  | returned (v : Value)
  | broke
  | continued
  deriving DecidableEq, Repr, Inhabited

/-- With what a suspended program goes on. -/
inductive Signal where
  | go
  /-- with the value of the expression at which it stood -/
  | sent (v : Value)
  | failed (error : Value)
  | left (f : Flow)
  deriving DecidableEq, Repr, Inhabited

/-- What is left to do in a suspended generator, innermost first. -/
inductive Pending where
  | statements (body : List (SyntaxTree Span))
  | loop (iterator : Value) (asynchronous : Bool) (target : SyntaxTree Span)
      (body orelse : List (SyntaxTree Span))
  | again (test : SyntaxTree Span) (body orelse : List (SyntaxTree Span))
  | attempt (handlers orelse final : List (SyntaxTree Span))
  | cleanup (final : List (SyntaxTree Span))
  | handled (name : Option String) (error : Value)
  | leave (exit manager : Value) (asynchronous : Bool)
  /-- goes on with what came before a cleanup -/
  | resume (signal : Signal)
  /-- assigns what is sent -/
  | store (targets : List (SyntaxTree Span))
  /-- returns what is sent -/
  | give
  | delegate (iterator : Value)
  deriving Repr, Inhabited

/-- How far a generator has come. -/
inductive Progress where
  | fresh
  | suspended
  | running
  | finished
  deriving DecidableEq, Repr, Inhabited

/-- A part of the entries of a dictionary. -/
inductive EntryPart where
  | keys
  | values
  | entries
  deriving DecidableEq, Repr, Inhabited

/-- What an iterator goes through. -/
inductive Course where
  | sequence (list : Ref) (index : Nat)
  /-- a dictionary that keeps its size -/
  | entries (part : EntryPart) (dict : Ref) (size index : Nat)
  /-- a set that keeps its size -/
  | members (set : Ref) (size index : Nat)
  | items (rest : List Value)
  | count (next stop step : Int)
  | mapped (function : Value) (sources : List Value)
  | filtered (function source : Value)
  | zipped (sources : List Value) (strict : Bool)
  | numbered (next : Int) (source : Value)
  /-- what an object gives for 0, 1, 2 and so on -/
  | indexed (object : Value) (next : Nat)
  /-- what a function gives, up to a value that ends it -/
  | calling (function last : Value)
  deriving Repr, Inhabited

/-- What an exception carries besides its arguments. -/
inductive Detail where
  | plain
  /-- an outcome on its way to a boundary -/
  | signal (outcome : Value)
  /-- another error and the list of the locations it came through -/
  | envelope (inner : Value) (trail : Ref)
  | refusal (r : Refusal)
  | faults (issues : List Issue)
  deriving Repr, Inhabited

/-- An error object of another library: which of the members of an envelope it lacks, which are
nothing, the error in it and the locations it was told. -/
structure Foreign where
  missing : List String := []
  blocked : List String := []
  inner : Value := .none
  pushed : List Location := []
  deriving Repr, Inhabited

/-- An object. -/
inductive Obj where
  | list (items : List Value)
  | tuple (items : List Value)
  | dict (entries : List (Value × Value))
  | set (items : List Value) (frozen : Bool)
  /-- the keys, values or entries of a dictionary -/
  | view (part : EntryPart) (dict : Ref)
  | range (start stop step : Int)
  | slice (start stop step : Value)
  /-- a success or a failure -/
  | result (isOk : Bool) (payload : Value)
  | exception (cls : Value) (args : List Value) (cause : Value) (detail : Detail) (fields : Fields)
  | foreign (f : Foreign)
  | report (r : Report)
  | path (p : Path)
  | instanceOf (cls : Value) (fields : Fields)
  | cls (name path : String) (bases mro : List Value) (fields : Fields)
  | function (f : Function)
  | property (get set : Value)
  | staticMethod (function : Value)
  | classMethod (function : Value)
  | superProxy (start self : Value)
  | cell (content : Option Value)
  | space (fields : Fields)
  | module (name : String) (fields : Fields)
  /-- a function with some of its arguments -/
  | applied (function : Value) (args : List Value) (named : Fields)
  | iterator (course : Course)
  | generator (progress : Progress) (asynchronous : Bool) (env : Env) (pending : List Pending)
  /-- a call that waits to be awaited -/
  | coroutine (started : Bool) (function : Value) (env : Env) (args : List Value)
      (keywords : Fields)
  deriving Repr, Inhabited

/-- The objects and what running keeps beside them. -/
structure Store where
  objects : Array Obj := #[]
  /-- the messages logged so far -/
  logs : List LogRecord := []
  /-- the exceptions that are being handled, innermost first -/
  handling : List Value := []
  /-- the objects that are being shown -/
  showing : List Ref := []
  /-- how many calls are open -/
  depth : Nat := 0
  deriving Inhabited

/-- Why running stops without a result: an exception, or the bound on its depth. -/
inductive Stop where
  | raised (error : Value)
  | exhausted
  deriving DecidableEq, Repr, Inhabited

/-- Running something that gives an `α`. -/
abbrev Act := ExceptT Stop (StateM Store)

namespace Act

/-- Makes a new object. -/
def alloc (o : Obj) : Act Ref :=
  modifyGet fun s => (s.objects.size, { s with objects := s.objects.push o })

def allocValue (o : Obj) : Act Value := return .ref (← alloc o)

/-- The object that a reference leads to. -/
def read (r : Ref) : Act Obj := return ((← get).objects[r]?).getD (.cell none)

/-- Changes an object. -/
def write (r : Ref) (o : Obj) : Act Unit :=
  modify fun s => { s with objects := s.objects.setIfInBounds r o }

/-- The object behind a value, if it is a reference. -/
def object? : Value → Act (Option Obj)
  | .ref r => return some (← read r)
  | _ => return none

/-- Raises an exception. -/
def raise {α : Type} (error : Value) : Act α := throw (.raised error)

/-- Makes an exception of a built-in class. -/
def newException (k : Kind) (args : List Value) : Act Value :=
  allocValue (.exception (.kind k) args .none .plain [])

/-- Raises an exception of a built-in class with a message. -/
def fail {α : Type} (k : Kind) (message : String) : Act α := do
  raise (← newException k [.str message])

/-- What `handler` makes of an exception that `body` raises. -/
def rescue {α : Type} (body : Act α) (handler : Value → Act α) : Act α :=
  tryCatch body fun
    | .raised e => handler e
    | .exhausted => throw .exhausted

def typeError {α : Type} (message : String) : Act α := fail .typeError message

/-- What `body` gives or why it stops; this itself does not stop. -/
def observe {α : Type} (body : Act α) : Act (Except Stop α) := ExceptT.mk do
  return .ok (← body.run)

/-- Goes on as an observed step did. -/
def resume {α : Type} : Except Stop α → Act α
  | .ok a => return a
  | .error e => throw e

/-- Runs `body`, and `after` however it ends. -/
def ensuring {α : Type} (body : Act α) (after : Act Unit) : Act α := do
  let r ← observe body
  after
  resume r

/-- How many calls may be open at once. -/
def maxDepth : Nat := 900

/-- Runs `body` as one more open call. -/
def deeper {α : Type} (body : Act α) : Act α := do
  let d := (← get).depth
  if d ≥ maxDepth then fail .recursionError "maximum recursion depth exceeded"
  modify fun s => { s with depth := d + 1 }
  ensuring body (modify fun s => { s with depth := d })

/-- Runs `body` while an exception is being handled. -/
def whileHandling {α : Type} (error : Value) (body : Act α) : Act α := do
  let before := (← get).handling
  modify fun s => { s with handling := error :: before }
  ensuring body (modify fun s => { s with handling := before })

/-- Adds a message to the log. -/
def log (r : LogRecord) : Act Unit := modify fun s => { s with logs := s.logs ++ [r] }

end Act

end ErrorTrail
