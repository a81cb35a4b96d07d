/-!
# The bits of a floating number

A number of double precision is held as a sign, an exponent with a bias and the fraction of its
mantissa. The leading bit of the mantissa is left out; only the numbers with exponent zero have none.
The greatest exponent marks the infinities and what is not a number.
-/

namespace ErrorTrail

/-- The parts that a floating number is held in. -/
structure FloatParts where
  negative : Bool
  biased : Nat
  fraction : Nat
  deriving DecidableEq, Repr, Inhabited

namespace FloatParts

/-- The weight of the leading bit of a mantissa. -/
def hiddenBit : Nat := 0x10000000000000

/-- The weight of the bit of the sign. -/
def signBit : Nat := 0x8000000000000000

/-- The exponent of infinities and of what is not a number. -/
def specialExponent : Nat := 2047

def ofBits (bits : UInt64) : FloatParts :=
  let n := bits.toNat
  ⟨decide (signBit ≤ n), n / hiddenBit % (specialExponent + 1), n % hiddenBit⟩

/-- Whether the number is an infinity or not a number. -/
def isSpecial (p : FloatParts) : Bool := p.biased == specialExponent

/-- The mantissa of a finite number as a whole number. -/
def mantissa (p : FloatParts) : Nat :=
  if p.biased = 0 then p.fraction else p.fraction + hiddenBit

/-- The exponent that goes with the mantissa as a whole number. -/
def exponent (p : FloatParts) : Int := if p.biased = 0 then -1074 else (p.biased : Int) - 1075

end FloatParts

end ErrorTrail
