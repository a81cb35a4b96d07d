import ErrorTrail.Program.Native.Library

/-!
# Functions that every program can call
-/

namespace ErrorTrail

namespace BasicFunction

open Act

/-- Whether a value can be called. -/
def isCallable (v : Value) : Act Bool := do
  match v with
  | .native _ => return true
  | .bound _ _ => return true
  | .kind _ => return true
  | .ref r =>
    match ← read r with
    | .function _ => return true
    | .applied _ _ _ => return true
    | .cls _ _ _ _ _ => return true
    | .staticMethod _ => return true
    | .instanceOf _ _ => return (← userMethod v "__call__").isSome
    | .exception _ _ _ _ _ => return (← userMethod v "__call__").isSome
    | _ => return false
  | _ => return false

/-- The best of some items under a comparison of their keys. -/
def best (m : Machine) (word : String) (least : Bool) (args : List Value) (named : Fields) :
    Act Value := do
  let xs ← match args with
    | [v] => m.items v
    | vs => pure vs
  match ← CollectionMethod.keysOf m (named.lookup "key") xs with
  | [] =>
    match named.lookup "default" with
    | some d => return d
    | none => fail .valueError (word ++ "() arg is an empty sequence")
  | first :: rest => do
    let found ← rest.foldlM (fun b x => do
      let better ← if least then m.isLess x.1 b.1 else m.isLess b.1 x.1
      return if better then x else b) first
    return found.2

def sum (m : Machine) (args : List Value) (named : Fields) : Act Value := do
  match ← Arguments.arrange ["iterable", "start"] args named with
  | [some v, start] =>
    let start := start.getD (.int 0)
    if let .str _ := start then typeError "sum() can't sum strings"
    (← m.items v).foldlM (m.operate .add) start
  | _ => typeError "missing argument"

/-- `base ^ exponent` modulo `modulus`, by squaring. -/
def powerModulo (modulus : Nat) : Nat → Nat → Nat → Nat
  | 0, _, _ => 1 % modulus
  | fuel + 1, base, exponent =>
    if exponent = 0 then 1 % modulus
    else
      let half := powerModulo modulus fuel (base * base % modulus) (exponent / 2)
      if exponent % 2 = 1 then half * base % modulus else half

/-- The inverse of a number modulo another, if it has one. -/
def inverse? (modulus a : Nat) : Option Nat :=
  let rec go : Nat → Int → Int → Int → Int → Option Int
    | 0, _, _, _, _ => none
    | fuel + 1, r, r', s, s' =>
      if r' = 0 then (if r = 1 then some s else none)
      else go fuel r' (r % r') s' (s - r / r' * s')
  (go (2 * (modulus + a).log2 + 4) a modulus 1 0).map fun x => (x.emod modulus).toNat

/-- A power modulo a number, with the sign of the modulus. -/
def power (a b modulus : Int) : Act Value := do
  if modulus = 0 then fail .valueError "pow() 3rd argument cannot be 0"
  let n := modulus.natAbs
  let base := (a.emod n).toNat
  let base ← if b ≥ 0 then pure base
    else match inverse? n base with
      | some i => pure i
      | none => fail .valueError "base is not invertible for the given modulus"
  let r := powerModulo n (b.natAbs.log2 + 1) base b.natAbs
  return .int (Int.fmod r modulus)

/-- A number rounded to a number of decimal places. -/
def round (m : Machine) (args : List Value) (named : Fields) : Act Value := do
  match ← Arguments.arrange ["number", "ndigits"] args named with
  | [some v, places] =>
    let places ← match places with
      | none => pure none
      | some .none => pure none
      | some p => do pure (some (← m.indexOf p))
    match v.number?, places with
    | some (.int n), none => return .int n
    | some (.int n), some p =>
      if p ≥ 0 then return .int n
      let unit : Nat := Nat.pow 10 (-p).toNat
      let r : Int := Layout.roundDiv n.natAbs unit * unit
      return .int (if n < 0 then -r else r)
    | some (.float bits), places =>
      match magnitude bits, places with
      | .finite d, none =>
        let r : Int := Layout.scaled d 0
        return .int (if d.mantissa < 0 then -r else r)
      | .nan, none => fail .valueError "cannot convert float NaN to integer"
      | .infinite _, none => fail .overflowError "cannot convert float infinity to integer"
      | .finite d, some p =>
        if p > 350 then return v
        let x := (Decimal.mk (Layout.scaled d p) (-p)).toFloat
        newFloat (if (FloatParts.ofBits bits).negative then -x else x)
      | _, some _ => return v
    | none, _ =>
      match ← userMethod v "__round__" with
      | some f => m.call f (v :: args.drop 1) []
      | none => typeError "type doesn't define __round__ method"
  | _ => typeError "missing argument"

def based (base : Nat) (mark : String) (n : Int) : Value :=
  .str ((if n < 0 then "-" else "") ++ mark ++ String.ofList (Nat.toDigits base n.natAbs))

/-- The number by which a hash is shown. -/
def hashNumber : Nat → HashKey → Int
  | _, .number n => n
  | _, .data bytes => (bytes.foldl (fun h b => (h * 31 + b.toNat) % Number.modulus.toNat) 7 : Nat)
  | _, .identity (.ref r) => 8 * (r : Int) + 1000003
  | _, .identity (.float _ mark) => 8 * (mark : Int) + 1000003
  | _, .identity _ => 1000033
  | 0, .tuple _ => 5740354900026072187
  | fuel + 1, .tuple ks =>
    ks.foldl (fun h k => (h * 1000003 + hashNumber fuel k) % Number.modulus) 3430008

/-- An attribute by its name, with a value in its place if it is missing. -/
def getAttribute (m : Machine) (args : List Value) : Act Value := do
  match args with
  | [v, .str name] => m.getMember v name
  | [v, .str name, d] => return (← m.member? v name).getD d
  | _ => typeError "attribute name must be string"

/-- The items of a sequence from the last to the first. -/
def reversed (m : Machine) (v : Value) : Act Value := do
  match ← userMethod v "__reversed__" with
  | some f => m.call f [v] []
  | none =>
    match v, ← object? v with
    | .str s, _ => m.iterator (← allocValue (.list (characterItems s).reverse))
    | .ref r, _ =>
      match ← Machine.heldItems r, ← m.length? v with
      | some xs, _ => Machine.newIterator (.items xs.reverse)
      | none, some n =>
        let xs ← (List.range n).mapM fun (i : Nat) => m.getItem v (.int i)
        Machine.newIterator (.items xs.reverse)
      | none, none => typeError "object is not reversible"
    | _, _ => typeError "object is not reversible"

/-- Calls a function that every program knows. -/
def call (m : Machine) (name : String) (args : List Value) (named : Fields) : Act Value := do
  match name with
  | "len" => match ← m.length? (← Arguments.one "obj" args named) with
    | some n => return .int n
    | none => typeError "object has no len()"
  | "sum" => sum m args named
  | "sorted" =>
    match args with
    | [v] =>
      let xs ← m.items v
      allocValue (.list (← CollectionMethod.sorted m xs (named.lookup "key") (named.lookup "reverse")))
    | _ => typeError "sorted expected 1 argument"
  | "repr" => return .str (← m.repr (← Arguments.one "obj" args named))
  | "ascii" => m.convert 'a' (← Arguments.one "obj" args named)
  | "isinstance" => do
    let (v, c) ← Arguments.two "obj" "class_or_tuple" args named
    return .bool (← LibraryFunction.instanceIn m v 50 c)
  | "issubclass" => do
    let (c, d) ← Arguments.two "cls" "class_or_tuple" args named
    if !(← isClass c) then typeError "issubclass() arg 1 must be a class"
    match ← object? d with
    | some (.tuple ds) => return .bool (← ds.anyM (isSubclass c))
    | _ =>
      if !(← isClass d) then typeError "issubclass() arg 2 must be a class"
      return .bool (← isSubclass c d)
  | "print" => do
    let _ ← args.mapM m.text
    return .none
  | "min" => best m "min" true args named
  | "max" => best m "max" false args named
  | "abs" => do
    let v ← Arguments.one "x" args named
    match v.number? with
    | some (.int n) => return .int n.natAbs
    | some (.float bits) => newFloat (Float.ofBits bits).abs
    | none => match ← userMethod v "__abs__" with
      | some f => m.call f [v] []
      | none => typeError "bad operand type for abs()"
  | "any" => do
    let it ← m.iterator (← Arguments.one "iterable" args named)
    return .bool (← repeatUntil (do
      match ← m.advance it with
      | none => return some false
      | some v => return if ← m.truth v then some true else none) m.patience)
  | "all" => do
    let it ← m.iterator (← Arguments.one "iterable" args named)
    return .bool (← repeatUntil (do
      match ← m.advance it with
      | none => return some true
      | some v => return if ← m.truth v then none else some false) m.patience)
  | "enumerate" =>
    match ← Arguments.arrange ["iterable", "start"] args named with
    | [some v, start] => do
      let start ← match start with
        | some s => m.indexOf s
        | none => pure 0
      Machine.newIterator (.numbered start (← m.iterator v))
    | _ => typeError "missing argument"
  | "zip" => do
    let strict ← match named.lookup "strict" with
      | some v => m.truth v
      | none => pure false
    Machine.newIterator (.zipped (← args.mapM m.iterator) strict)
  | "map" =>
    match args with
    | f :: sources => do Machine.newIterator (.mapped f (← sources.mapM m.iterator))
    | [] => typeError "map() must have at least two arguments."
  | "filter" => do
    let (f, source) ← Arguments.two "function" "iterable" args named
    Machine.newIterator (.filtered f (← m.iterator source))
  | "reversed" => do reversed m (← Arguments.one "sequence" args named)
  | "iter" =>
    match args with
    | [v] => m.iterator v
    | [f, last] => Machine.newIterator (.calling f last)
    | _ => typeError "iter expected 1 or 2 arguments"
  | "next" =>
    match args with
    | it :: d => do
      match ← m.resume it (.send .none) with
      | .item v => return v
      | .done v =>
        match d with
        | d :: _ => return d
        | [] => raise (← newException .stopIteration (if v == .none then [] else [v]))
    | [] => typeError "next expected at least 1 argument"
  | "getattr" => getAttribute m args
  | "hasattr" =>
    match args with
    | [v, .str name] => return .bool (← m.hasMember v name)
    | _ => typeError "hasattr(): attribute name must be string"
  | "setattr" =>
    match args with
    | [v, .str name, x] => do
      m.setMember v name x
      return .none
    | _ => typeError "setattr expected 3 arguments"
  | "delattr" =>
    match args with
    | [v, .str name] => do
      Machine.deleteMember v name
      return .none
    | _ => typeError "delattr expected 2 arguments"
  | "callable" => return .bool (← isCallable (← Arguments.one "obj" args named))
  | "id" => match ← Arguments.one "obj" args named with
    | .ref r => return .int (r + 1)
    | _ => return .int 0
  | "hash" => return .int (hashNumber 50 (← m.hash (← Arguments.one "obj" args named)))
  | "divmod" => do
    let (a, b) ← Arguments.two "x" "y" args named
    match a.number?, b.number? with
    | some (.int _), some (.int 0) => divisionByZero "integer division or modulo by zero"
    | some x, some y => if y.isZero then divisionByZero "float divmod()" else
        let _ := x
        allocValue (.tuple [← m.operate .floorDiv a b, ← m.operate .mod a b])
    | _, _ => allocValue (.tuple [← m.operate .floorDiv a b, ← m.operate .mod a b])
  | "pow" =>
    match ← Arguments.arrange ["base", "exp", "mod"] args named with
    | [some a, some b, none] => m.operate .pow a b
    | [some a, some b, some c] =>
      match a.number?, b.number?, c.number? with
      | some (.int x), some (.int y), some (.int n) => power x y n
      | _, _, _ => typeError "pow() 3rd argument not allowed unless all arguments are integers"
    | _ => typeError "missing argument"
  | "round" => round m args named
  | "ord" => match ← Arguments.one "c" args named with
    | .str s => match s.toList with
      | [c] => return .int c.toNat
      | _ => typeError "ord() expected a character"
    | _ => typeError "ord() expected string of length 1"
  | "chr" => do
    let n ← m.indexOf (← Arguments.one "i" args named)
    if 0 ≤ n ∧ n < 0x110000 then return .str (String.singleton (Char.ofNat n.toNat))
    else fail .valueError "chr() arg not in range(0x110000)"
  | "bin" => return based 2 "0b" (← m.indexOf (← Arguments.one "number" args named))
  | "oct" => return based 8 "0o" (← m.indexOf (← Arguments.one "number" args named))
  | "hex" => return based 16 "0x" (← m.indexOf (← Arguments.one "number" args named))
  | "format" =>
    match args with
    | [v] => return .str (← m.format v "")
    | [v, .str spec] => return .str (← m.format v spec)
    | _ => typeError "format() argument 2 must be str"
  | "vars" => do m.getMember (← Arguments.one "object" args named) "__dict__"
  | "aiter" => do
    let v ← Arguments.one "async_iterable" args named
    m.call (← m.getMember v "__aiter__") [] []
  | "anext" =>
    match args with
    | v :: _ => do m.call (← m.getMember v "__anext__") [] []
    | [] => typeError "missing argument"
  | _ => fail .nameError name

/-- Calls one of the function tools. -/
def callTool (m : Machine) (name : String) (args : List Value) (named : Fields) : Act Value := do
  match name, args with
  | "wraps", wrapped :: _ => return .bound (.native "functools.wrap") wrapped
  | "wrap", wrapped :: wrapper :: _ => LibraryFunction.updateWrapper m wrapper wrapped
  | "update_wrapper", wrapper :: wrapped :: _ => LibraryFunction.updateWrapper m wrapper wrapped
  | "partial", f :: args => allocValue (.applied f args named)
  | "reduce", f :: source :: start => do
    let xs ← m.items source
    match start ++ xs with
    | [] => typeError "reduce() of empty iterable with no initial value"
    | x :: rest => rest.foldlM (fun a b => m.call f [a, b] []) x
  | _, _ => typeError "missing argument"

end BasicFunction

end ErrorTrail
