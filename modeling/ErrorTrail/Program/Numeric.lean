import ErrorTrail.Program.Machine
import ErrorTrail.Decimal.Shortest
import ErrorTrail.Text.Quoted

/-!
# Numbers and their hashes

Numbers are equal when they denote the same number, whether whole or floating. Their hash is the
number modulo a prime, so that equal numbers have equal hashes.
-/

namespace ErrorTrail

/-- A floating number as a value. -/
def Value.ofFloat (x : Float) : Value := .float x.toBits 0

/-- What a finite floating number is: `mantissa · 2 ^ exponent`. -/
structure Dyadic where
  mantissa : Int
  exponent : Int
  deriving DecidableEq, Repr

/-- A floating number: not a number, infinite, or finite. -/
inductive Magnitude where
  | nan
  | infinite (negative : Bool)
  | finite (d : Dyadic)
  deriving DecidableEq, Repr

/-- What the bits of a floating number say. -/
def magnitude (bits : UInt64) : Magnitude :=
  let p := FloatParts.ofBits bits
  if p.isSpecial then (if p.fraction = 0 then .infinite p.negative else .nan)
  else .finite ⟨if p.negative then -(p.mantissa : Int) else p.mantissa, p.exponent⟩

/-- Compares `m · 2 ^ e` with a whole number. -/
def Dyadic.compareInt (d : Dyadic) (n : Int) : Ordering :=
  compare (d.mantissa * Nat.pow 2 d.exponent.toNat) (n * Nat.pow 2 (-d.exponent).toNat)

/-- The whole number that a finite floating number is, rounded towards zero. -/
def Dyadic.truncated (d : Dyadic) : Int :=
  if d.exponent ≥ 0 then d.mantissa * Nat.pow 2 d.exponent.toNat
  else Int.tdiv d.mantissa (Nat.pow 2 (-d.exponent).toNat)

/-- Whether a finite floating number is whole. -/
def Dyadic.isWhole (d : Dyadic) : Bool := d.compareInt d.truncated == .eq

/-- A number as a value holds it. -/
inductive Number where
  | int (n : Int)
  | float (bits : UInt64)
  deriving DecidableEq, Repr

def Value.number? : Value → Option Number
  | .bool b => some (.int (if b then 1 else 0))
  | .int n => some (.int n)
  | .float b _ => some (.float b)
  | _ => Option.none

namespace Number

def toFloat : Number → Float
  | int n => Float.ofInt n
  | float b => Float.ofBits b

/-- The order of two numbers; `none` if one of them is not a number. -/
def compare? : Number → Number → Option Ordering
  | int a, int b => some (compare a b)
  | int a, float b => (compareInt b a).map Ordering.swap
  | float a, int b => compareInt a b
  | float a, float b =>
    match magnitude a, magnitude b with
    | .nan, _ => none
    | _, .nan => none
    | _, _ =>
      let x := Float.ofBits a
      let y := Float.ofBits b
      some (if x < y then .lt else if x == y then .eq else .gt)
where
  compareInt (bits : UInt64) (n : Int) : Option Ordering :=
    match magnitude bits with
    | .nan => none
    | .infinite true => some .lt
    | .infinite false => some .gt
    | .finite d => some (d.compareInt n)

def equal (a b : Number) : Bool := compare? a b == some .eq

def isZero : Number → Bool
  | int n => n == 0
  | float b => Float.ofBits b == 0.0

/-- The prime that hashes of numbers are taken modulo. -/
def modulus : Int := 0x1fffffffffffffff

/-- A hash is never `-1`. -/
def settle (n : Int) : Int := if n = -1 then -2 else n

/-- The hash of a whole number. -/
def hashInt (n : Int) : Int := settle (n.sign * (n.natAbs % modulus.natAbs : Nat))

/-- The hash of a number; `none` if it is not a number. -/
def hash? : Number → Option Int
  | int n => some (hashInt n)
  | float b =>
    match magnitude b with
    | .nan => none
    | .infinite negative => some (if negative then -314159 else 314159)
    | .finite d =>
      let p := modulus.natAbs
      let m := d.mantissa.natAbs % p
      let scale := if d.exponent ≥ 0 then Nat.pow 2 (d.exponent.toNat % 61)
        else Nat.pow 2 ((61 - (-d.exponent).toNat % 61) % 61)
      some (settle (d.mantissa.sign * (m * scale % p : Nat)))

/-- The text of a number. -/
def text : Number → String
  | int n => toString n
  | float b => Decimal.Style.program.renderFloat (Float.ofBits b)

end Number

end ErrorTrail
