import ErrorTrail.Program.Format

/-!
# Operators

The operators on values. Whole numbers have no bound; with a floating operand both count as
floating. Division and remainder round towards negative infinity, so that the remainder has the sign
of the divisor. A class of a program takes part by its methods, on either side of an operator.
-/

namespace ErrorTrail

open Syntax

/-- The names of the methods of an operator: on the left, on the right and in place. -/
def operatorWord : BinaryOp → String
  | .add => "add"
  | .sub => "sub"
  | .mult => "mul"
  | .matMult => "matmul"
  | .div => "truediv"
  | .mod => "mod"
  | .pow => "pow"
  | .lShift => "lshift"
  | .rShift => "rshift"
  | .bitOr => "or"
  | .bitXor => "xor"
  | .bitAnd => "and"
  | .floorDiv => "floordiv"

/-- The bits of a whole number as far as `n`, negative numbers in two's complement, combined with
those of another. -/
def combineBits (f : Nat → Nat → Nat) (a b : Int) : Int :=
  let width := max (Nat.log2 a.natAbs) (Nat.log2 b.natAbs) + 2
  let size : Int := Nat.pow 2 width
  let r : Int := f (a.emod size).toNat (b.emod size).toNat
  if r ≥ size / 2 then r - size else r

/-- The greatest size, in bits, of a whole number that an operator makes. -/
def maxBits : Nat := 2000000

/-- The floating number `mantissa · 2 ^ exponent`, if there is one. -/
def Dyadic.toFloat (d : Dyadic) : Float :=
  let zeros := trailingZeros d.mantissa.natAbs.log2 d.mantissa.natAbs
  (Float.ofInt (d.mantissa / Nat.pow 2 zeros)).scaleB (d.exponent + zeros)
where
  trailingZeros : Nat → Nat → Nat
    | 0, _ => 0
    | fuel + 1, n => if n % 2 = 0 then trailingZeros fuel (n / 2) + 1 else 0

/-- The remainder of floating numbers with the sign of the dividend. -/
def truncatedMod (a b : Float) : Float :=
  match magnitude a.toBits, magnitude b.toBits with
  | .finite x, .finite y =>
    let low := min x.exponent y.exponent
    let r := Int.tmod (x.mantissa * Nat.pow 2 (x.exponent - low).toNat)
      (y.mantissa * Nat.pow 2 (y.exponent - low).toNat)
    Dyadic.toFloat ⟨r, low⟩
  | .finite _, .infinite _ => a
  | _, _ => 0.0 / 0.0

/-- A zero with the sign of a number. -/
def zeroLike (x : Float) : Float :=
  if (FloatParts.ofBits x.toBits).negative then -0.0 else 0.0

/-- The remainder of floating numbers with the sign of the divisor. -/
def floatMod (a b : Float) : Float :=
  let r := truncatedMod a b
  if r == 0.0 then zeroLike b
  else if (b < 0.0) != (r < 0.0) then r + b
  else r

/-- The quotient of floating numbers rounded down. -/
def floatFloorDiv (a b : Float) : Float :=
  let r := truncatedMod a b
  let whole := (a - r) / b
  let q := if r == 0.0 || (b < 0.0) == (r < 0.0) then whole else whole - 1.0
  if q == 0.0 then zeroLike (a / b)
  else
    let down := q.floor
    if q - down > 0.5 then down + 1.0 else down

/-- Whether a whole number is too large to be a floating one. -/
def exceedsFloat (n : Int) : Bool := (Float.ofInt n).isInf

namespace Act

def divisionByZero {α : Type} (message : String) : Act α := fail .zeroDivisionError message

/-- A floating number. One that is not equal to itself gets a mark of its own. -/
def newFloat (x : Float) : Act Value := do
  if x.isNaN then return .float x.toBits (← alloc (.cell none))
  return .float x.toBits 0

/-- A number as a floating one. -/
def asFloat (n : Number) : Act Float := do
  if let .int i := n then
    if exceedsFloat i then fail .overflowError "int too large to convert to float"
  return n.toFloat

/-- The quotient of whole numbers. -/
def divideInts (a b : Int) : Act Value := do
  if b = 0 then divisionByZero "division by zero"
  let exact := 2 * FloatParts.hiddenBit
  if a.natAbs < exact && b.natAbs < exact then newFloat (Float.ofInt a / Float.ofInt b)
  else
    -- enough digits of the quotient that rounding them once more does not matter
    let shift : Nat := Nat.log2 b.natAbs + 70 - Nat.log2 a.natAbs
    let q := a.natAbs * Nat.pow 2 shift / b.natAbs
    let sticky := if a.natAbs * Nat.pow 2 shift % b.natAbs = 0 then 0 else 1
    let x := Float.ofNat (q * 2 + sticky) * Float.pow 2.0 (-(Float.ofNat (shift + 1)))
    if x.isInf then fail .overflowError "integer division result too large for a float"
    newFloat (if (a < 0) != (b < 0) then -x else x)

/-- An operator on whole numbers; `none` if it has no meaning for them. -/
def operateInts (op : BinaryOp) (a b : Int) : Act (Option Value) := do
  match op with
  | .add => return some (.int (a + b))
  | .sub => return some (.int (a - b))
  | .mult => return some (.int (a * b))
  | .div => return some (← divideInts a b)
  | .floorDiv =>
    if b = 0 then divisionByZero "integer division or modulo by zero"
    return some (.int (Int.fdiv a b))
  | .mod =>
    if b = 0 then divisionByZero "integer modulo by zero"
    return some (.int (Int.fmod a b))
  | .pow =>
    if b < 0 then
      if a = 0 then divisionByZero "0.0 cannot be raised to a negative power"
      return some (← newFloat (Float.pow (Float.ofInt a) (Float.ofInt b)))
    if Nat.log2 a.natAbs * b.toNat > maxBits then fail .memoryError ""
    return some (.int (Int.pow a b.toNat))
  | .lShift =>
    if b < 0 then fail .valueError "negative shift count"
    if b.toNat > maxBits then fail .memoryError ""
    return some (.int (a * Nat.pow 2 b.toNat))
  | .rShift =>
    if b < 0 then fail .valueError "negative shift count"
    let sign := if a < 0 then -1 else 0
    return some (.int (if b.toNat > maxBits then sign else Int.fdiv a (Nat.pow 2 b.toNat)))
  | .bitOr => return some (.int (combineBits (· ||| ·) a b))
  | .bitXor => return some (.int (combineBits (· ^^^ ·) a b))
  | .bitAnd => return some (.int (combineBits (· &&& ·) a b))
  | .matMult => return none

/-- An operator on floating numbers; `none` if it has no meaning for them. -/
def operateFloats (op : BinaryOp) (a b : Float) : Act (Option Value) := do
  match op with
  | .add => return some (← newFloat (a + b))
  | .sub => return some (← newFloat (a - b))
  | .mult => return some (← newFloat (a * b))
  | .div =>
    if b == 0.0 then divisionByZero "float division by zero"
    return some (← newFloat (a / b))
  | .floorDiv =>
    if b == 0.0 then divisionByZero "float floor division by zero"
    return some (← newFloat (floatFloorDiv a b))
  | .mod =>
    if b == 0.0 then divisionByZero "float modulo"
    return some (← newFloat (floatMod a b))
  | .pow =>
    if a == 0.0 && b < 0.0 then divisionByZero "0.0 cannot be raised to a negative power"
    let x := Float.pow a b
    if x.isInf && !a.isInf && !b.isInf then fail .overflowError "Numerical result out of range"
    return some (← newFloat x)
  | _ => return none

/-- An operator on numbers. -/
def operateNumbers (op : BinaryOp) (a b : Number) : Act (Option Value) := do
  match a, b with
  | .int x, .int y => operateInts op x y
  | _, _ => operateFloats op (← asFloat a) (← asFloat b)

/-- A sequence a number of times. -/
def repeated {α : Type} (xs : List α) (n : Int) : Act (List α) := do
  if xs.length * n.toNat > maxBits then fail .memoryError ""
  return (List.replicate n.toNat xs).flatten

end Act

namespace Machine

open Act

variable (m : Machine)

/-- An operator on sets. -/
def operateSets (op : BinaryOp) (a b : List Value) : Act (Option (List Value)) := do
  let within (xs : List Value) (v : Value) : Act Bool := return (← m.position? xs v).isSome
  match op with
  | .bitOr => return some (← m.insertAll a b)
  | .bitAnd => return some (← a.filterM (within b))
  | .sub => return some (← a.filterM fun v => return !(← within b v))
  | .bitXor => do
    let left ← a.filterM fun v => return !(← within b v)
    let right ← b.filterM fun v => return !(← within a v)
    return some (left ++ right)
  | _ => return none

def putAll (entries : List (Value × Value)) :
    List (Value × Value) → Act (List (Value × Value))
  | [] => return entries
  | (k, v) :: rest => do putAll (← m.put entries k v) rest

/-- An operator on objects of built-in classes; `none` if it has no meaning for them. -/
def operateObjects (op : BinaryOp) (a b : Obj) : Act (Option Value) := do
  match op, a, b with
  | .add, .list xs, .list ys => return some (← allocValue (.list (xs ++ ys)))
  | .add, .tuple xs, .tuple ys => return some (← allocValue (.tuple (xs ++ ys)))
  | .bitOr, .dict xs, .dict ys => return some (← allocValue (.dict (← m.putAll xs ys)))
  | .div, .path p, .path q =>
    return some (← allocValue (.path (if q.isAbsolute then q else ⟨p.root, p.parts ++ q.parts⟩)))
  | op, .set xs frozen, .set ys _ => do
    match ← m.operateSets op xs ys with
    | some zs => return some (← allocValue (.set zs frozen))
    | none => return none
  | _, _, _ => return none

/-- A sequence times a number. -/
def operateTimes (v : Value) (n : Int) : Act (Option Value) := do
  match v with
  | .str s => return some (.str (String.ofList (← repeated s.toList n)))
  | .bytes bs => return some (.bytes (← repeated bs n))
  | .ref r =>
    match ← read r with
    | .list xs => return some (← allocValue (.list (← repeated xs n)))
    | .tuple xs => return some (← allocValue (.tuple (← repeated xs n)))
    | _ => return none
  | _ => return none

/-- A union of classes, as annotations write it. -/
def unionOf (a b : Value) : Act (Option Value) := do
  let side (v : Value) : Act (Option (List Value)) := do
    if v == .none then return some [.kind .noneType]
    if ← isClass v then return some [v]
    match ← object? v with
    | some (.tuple vs) => return some vs
    | _ => return none
  if (← isClass a) || (← isClass b) then
    match ← side a, ← side b with
    | some xs, some ys => return some (← allocValue (.tuple (xs ++ ys)))
    | _, _ => return none
  else return none

/-- An operator on values of built-in classes; `none` if it has no meaning for them. -/
def operateNative (op : BinaryOp) (a b : Value) : Act (Option Value) := do
  match a.number?, b.number? with
  | some x, some y =>
    match op, a, b with
    | .bitOr, .bool p, .bool q => return some (.bool (p || q))
    | .bitAnd, .bool p, .bool q => return some (.bool (p && q))
    | .bitXor, .bool p, .bool q => return some (.bool (p != q))
    | _, _, _ => operateNumbers op x y
  | none, some (.int n) =>
    match op, a, b with
    | .mult, _, _ => operateTimes a n
    | .mod, .str s, _ => return some (.str (← m.percent s b))
    | _, _, _ => return none
  | some (.int n), none => if op = .mult then operateTimes b n else return none
  | _, _ =>
    match op, a, b with
    | .add, .str s, .str t => return some (.str (s ++ t))
    | .add, .bytes s, .bytes t => return some (.bytes (s ++ t))
    | .mod, .str s, _ => return some (.str (← m.percent s b))
    | .div, .ref r, .str s =>
      match ← read r with
      | .path p => m.operateObjects .div (.path p) (.path (Path.ofText s))
      | _ => return none
    | .div, .str s, .ref r =>
      match ← read r with
      | .path p => m.operateObjects .div (.path (Path.ofText s)) (.path p)
      | _ => return none
    | op, .ref r, .ref s =>
      match ← m.operateObjects op (← read r) (← read s) with
      | some v => return some v
      | none => if op = .bitOr then unionOf a b else return none
    | .bitOr, _, _ => unionOf a b
    | _, _, _ => return none

def noOperator {α : Type} (word : String) : Act α :=
  typeError ("unsupported operand types for " ++ word)

/-- What the method of a class of the program makes of two operands. -/
def askOperand (v : Value) (method : String) (other : Value) : Act Value := do
  match ← userMethod v method with
  | some .none => return .notImplemented
  | some f => m.call f [v, other] []
  | none => return .notImplemented

/-- What an operator gives. -/
def operate (op : BinaryOp) (a b : Value) : Act Value := do
  let word := operatorWord op
  let forward ← m.askOperand a ("__" ++ word ++ "__") b
  if forward != .notImplemented then return forward
  match ← m.operateNative op a b with
  | some v => return v
  | none =>
    let backward ← m.askOperand b ("__r" ++ word ++ "__") a
    if backward != .notImplemented then return backward
    noOperator word

/-- What an operator gives that may change its left operand. -/
def operateInPlace (op : BinaryOp) (a b : Value) : Act Value := do
  let word := operatorWord op
  let own ← m.askOperand a ("__i" ++ word ++ "__") b
  if own != .notImplemented then return own
  match op, a with
  | .add, .ref r =>
    match ← read r with
    | .list xs =>
      let ys ← m.items b
      match ← read r with
      | .list now => write r (.list (now ++ ys))
      | _ => write r (.list (xs ++ ys))
      return a
    | _ => m.operate op a b
  | .mult, .ref r =>
    match ← read r, b.number? with
    | .list xs, some (.int n) =>
      write r (.list (← repeated xs n))
      return a
    | _, _ => m.operate op a b
  | op, .ref r =>
    match ← read r, ← object? b with
    | .dict xs, some (.dict ys) =>
      if op = .bitOr then
        write r (.dict (← m.putAll xs ys))
        return a
      else m.operate op a b
    | .set xs false, some (.set ys _) =>
      match ← m.operateSets op xs ys with
      | some zs =>
        write r (.set zs false)
        return a
      | none => m.operate op a b
    | _, _ => m.operate op a b
  | _, _ => m.operate op a b

/-- What a sign or another operator before a value gives. -/
def operateUnary (op : UnaryOp) (v : Value) : Act Value := do
  let ask (method : String) : Act Value := do
    match ← userMethod v method with
    | some f => m.call f [v] []
    | none => noOperator method
  match op, v.number? with
  | .not, _ => return .bool (!(← m.truth v))
  | .minus, some (.int n) => return .int (-n)
  | .plus, some (.int n) => return .int n
  | .invert, some (.int n) => return .int (-n - 1)
  | .minus, some (.float b) => newFloat (-(Float.ofBits b))
  | .plus, some (.float _) => return v
  | .minus, _ => ask "__neg__"
  | .plus, _ => ask "__pos__"
  | .invert, _ => ask "__invert__"

/-! ### Order -/

/-- The name of the method of a comparison. -/
def orderWord : CompareOp → String
  | .lt => "__lt__"
  | .ltE => "__le__"
  | .gt => "__gt__"
  | _ => "__ge__"

/-- The comparison that says the same of exchanged operands. -/
def exchanged : CompareOp → CompareOp
  | .lt => .gt
  | .ltE => .gtE
  | .gt => .lt
  | _ => .ltE

/-- Whether an order satisfies a comparison. -/
def orderHolds (op : CompareOp) (o : Ordering) : Bool :=
  match op with
  | .lt => o == .lt
  | .ltE => o != .gt
  | .gt => o == .gt
  | _ => o != .lt

/-- The order of two sequences is that of their first different items, else of their lengths. -/
def compareItems (op : CompareOp) : List Value → List Value → Act Value
  | [], [] => return .bool (orderHolds op .eq)
  | [], _ :: _ => return .bool (orderHolds op .lt)
  | _ :: _, [] => return .bool (orderHolds op .gt)
  | a :: as, b :: bs => do
    if ← m.sameItem a b then compareItems op as bs else m.order op a b

/-- What one value says on its order to another. -/
def orderHalf (op : CompareOp) (a b : Value) : Act Value := do
  match a.number?, b.number? with
  | some x, some y => return .bool ((x.compare? y).elim false (orderHolds op))
  | _, _ =>
    match a, b with
    | .str s, .str t => return .bool (orderHolds op (compare s t))
    | .bytes s, .bytes t => return .bool (orderHolds op (compare s t))
    | _, _ =>
      match ← object? a, ← object? b with
      | some (.list xs), some (.list ys) => deeper (m.compareItems op xs ys)
      | some (.tuple xs), some (.tuple ys) => deeper (m.compareItems op xs ys)
      | some (.set xs _), some (.set ys _) =>
        let below ← m.included ys xs
        let above ← m.included xs ys
        return .bool (match op with
          | .lt => below && !above
          | .ltE => below
          | .gt => above && !below
          | _ => above)
      | _, _ => m.askOperand a (orderWord op) b

/-- What a comparison of order gives. -/
def compareOrder (op : CompareOp) (a b : Value) : Act Value := do
  let forward ← m.orderHalf op a b
  if forward != .notImplemented then return forward
  let backward ← m.orderHalf (exchanged op) b a
  if backward != .notImplemented then return backward
  typeError "the values cannot be ordered"

/-- What `!=` gives. -/
def compareUnequal (a b : Value) : Act Value := do
  match ← userMethod a "__ne__" with
  | some f =>
    let r ← m.call f [a, b] []
    if r != .notImplemented then return r
    return .bool (!(← m.isEqual a b))
  | none => return .bool (!(← m.isEqual a b))

/-- What a comparison gives. -/
def compareValues (op : CompareOp) (a b : Value) : Act Value := do
  match op with
  | .eq => m.compareEqual a b
  | .notEq => m.compareUnequal a b
  | .is => return .bool (a == b)
  | .isNot => return .bool (a != b)
  | .inside => return .bool (← m.contains b a)
  | .notIn => return .bool (!(← m.contains b a))
  | _ => m.compareOrder op a b

/-- Whether a value comes before another. -/
def isLess (a b : Value) : Act Bool := do m.truth (← m.compareOrder .lt a b)

/-- Puts a value into a sorted list, after those that do not come after it. -/
def insertSorted (v : Value × Value) : List (Value × Value) → Act (List (Value × Value))
  | [] => return [v]
  | w :: ws => do
    if ← m.isLess v.1 w.1 then return v :: w :: ws else return w :: (← insertSorted v ws)

/-- Values with keys in the order of their keys. -/
def sortByKey : List (Value × Value) → Act (List (Value × Value))
  | [] => return []
  | vs => vs.foldlM (fun sorted v => m.insertSorted v sorted) []

end Machine

end ErrorTrail
