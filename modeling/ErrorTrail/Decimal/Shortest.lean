import ErrorTrail.Decimal.Bits

/-!
# Decimal text of binary floating numbers

`ofFloat` gives the fewest decimal digits that read back as the number; where several decimals of
that length do, the nearest to the number. `Style.render` writes such a decimal, `ofText` reads
one, and `toFloat` gives the number nearest to it.

A finite number is `m · 2 ^ q`. The decimals that read back as it are those of the interval between
the two points halfway to its neighbours, the ends included when `m` is even. For one digit, two
digits and so on the two decimals next to the number are tested, in exact arithmetic.
-/

namespace ErrorTrail

/-- The number `digits · 10 ^ exponent`. -/
structure Decimal where
  digits : Nat
  exponent : Int
  deriving DecidableEq, Repr, Inhabited

namespace Decimal

/-- How many decimal digits a number has; zero has one. -/
def digitCount (n : Nat) : Nat := (Nat.toDigits 10 n).length

/-- Drops zeros from the end of the digits; `fuel` bounds their number. -/
def dropZeros : Nat → Nat → Int → Decimal
  | 0, d, e => ⟨d, e⟩
  | fuel + 1, d, e => if d ≠ 0 ∧ d % 10 = 0 then dropZeros fuel (d / 10) (e + 1) else ⟨d, e⟩

/-- A positive number `value / den` with the ends of the interval that rounds to it. -/
structure Interval where
  low : Nat
  value : Nat
  high : Nat
  den : Nat
  closed : Bool

namespace Interval

/-- The decimal exponent of the leading digit. -/
def leading (v : Interval) : Int :=
  if v.value ≥ v.den then (digitCount (v.value / v.den) : Int) - 1
  else -(digitCount ((v.den + v.value - 1) / v.value - 1) : Int)

/-- Whether `c · 10 ^ g` lies in the interval. -/
def contains (v : Interval) (c : Nat) (g : Int) : Bool :=
  let scaled := c * v.den * Nat.pow 10 g.toNat
  let unit := Nat.pow 10 (-g).toNat
  if v.closed then v.low * unit ≤ scaled && scaled ≤ v.high * unit
  else v.low * unit < scaled && scaled < v.high * unit

/-- The decimal on the grid `10 ^ g` that lies in the interval nearest to the number. -/
def onGrid? (v : Interval) (g : Int) : Option Nat :=
  let num := v.value * Nat.pow 10 (-g).toNat
  let den := v.den * Nat.pow 10 g.toNat
  let c := num / den
  match v.contains c g, v.contains (c + 1) g with
  | true, true =>
    let below := num - c * den
    let above := (c + 1) * den - num
    if below < above ∨ (below = above ∧ c % 2 = 0) then some c else some (c + 1)
  | true, false => some c
  | false, true => some (c + 1)
  | false, false => none

/-- Tries grids from coarse to fine. -/
def search (v : Interval) : Nat → Int → Decimal
  | 0, g => ⟨0, g⟩
  | fuel + 1, g =>
    match v.onGrid? g with
    | some c => dropZeros 20 c g
    | none => search v fuel (g - 1)

/-- The shortest decimal of the interval; seventeen digits always suffice. -/
def shortest (v : Interval) : Decimal := v.search 18 v.leading

end Interval

/-- The interval of `m · 2 ^ q`. At a power of two (`boundary`) the neighbour below is nearer. -/
def intervalOf (m : Nat) (q : Int) (boundary : Bool) : Interval :=
  let up := Nat.pow 2 (q - 2).toNat
  { low := (4 * m - (if boundary then 1 else 2)) * up
    value := 4 * m * up
    high := (4 * m + 2) * up
    den := Nat.pow 2 (-(q - 2)).toNat
    closed := m % 2 == 0 }

/-- What the bits of a floating number say. -/
inductive Reading where
  | nan
  | infinite (negative : Bool)
  | finite (negative : Bool) (digits : Decimal)
  deriving Repr

/-- The sign and the shortest decimal of a floating number. -/
def ofFloat (x : Float) : Reading :=
  let p := FloatParts.ofBits x.toBits
  if p.isSpecial then (if p.fraction = 0 then .infinite p.negative else .nan)
  else if p.mantissa = 0 then .finite p.negative ⟨0, 0⟩
  else
    let boundary := decide (p.fraction = 0 ∧ p.biased > 1)
    .finite p.negative (intervalOf p.mantissa p.exponent boundary).shortest

/-- The floating number nearest to a decimal. Beyond four hundred places either way the answer is
infinite or zero. -/
def toFloat (d : Decimal) : Float :=
  if d.digits = 0 then 0.0
  else
    let top := (digitCount d.digits : Int) + d.exponent
    if top > 400 then 1.0 / 0.0
    else if top < -400 then 0.0
    else Float.ofScientific d.digits (d.exponent < 0) d.exponent.natAbs

/-- How a floating number is written. -/
structure Style where
  /-- Numbers from `10 ^ low` up to `10 ^ high` are written without exponent. -/
  low : Int
  high : Int
  /-- Whether a whole number ends in `.0`. -/
  pointZero : Bool

/-- The notation of program texts: positional from `0.0001` up to `10 ^ 16`, exponents of two
digits at least, always signed. -/
def Style.program : Style := ⟨-4, 16, true⟩

/-- The notation of the imaginary unit's factor, where a whole number stays bare. -/
def Style.factor : Style := ⟨-4, 16, false⟩

/-- Writes a decimal. -/
def Style.render (f : Style) (d : Decimal) : String :=
  let ds := Nat.toDigits 10 d.digits
  let count : Int := ds.length
  let point := if d.digits = 0 then 1 else count + d.exponent
  if f.low < point ∧ point ≤ f.high then
    if point ≤ 0 then "0." ++ String.ofList (List.replicate (-point).toNat '0' ++ ds)
    else if point ≥ count then
      String.ofList (ds ++ List.replicate (point - count).toNat '0')
        ++ (if f.pointZero then ".0" else "")
    else String.ofList (ds.take point.toNat ++ '.' :: ds.drop point.toNat)
  else
    let e := point - 1
    let digits := toString e.natAbs
    let mantissa := match ds with
      | [c] => String.ofList [c]
      | c :: cs => String.ofList (c :: '.' :: cs)
      | [] => "0"
    mantissa ++ "e" ++ (if e < 0 then "-" else "+")
      ++ (if digits.length < 2 then "0" ++ digits else digits)

/-- Writes a floating number. -/
def Style.renderFloat (f : Style) (x : Float) : String :=
  match ofFloat x with
  | .nan => "nan"
  | .infinite negative => if negative then "-inf" else "inf"
  | .finite negative d => (if negative then "-" else "") ++ f.render d

/-- Splits off the leading digits, underscores between them dropped. -/
def takeDigits (cs : List Char) : List Char × List Char :=
  ((cs.takeWhile fun c => c.isDigit || c == '_').filter Char.isDigit,
    cs.dropWhile fun c => c.isDigit || c == '_')

def natOfDigits (cs : List Char) : Nat := cs.foldl (fun n c => n * 10 + (c.toNat - 48)) 0

/-- Reads digits with an optional point and exponent; the text is known to have that form. -/
def ofText (s : String) : Decimal :=
  let (whole, rest) := takeDigits s.toList
  let (fraction, rest) := match rest with
    | '.' :: cs => takeDigits cs
    | cs => ([], cs)
  let exponent : Int := match rest with
    | _ :: '-' :: cs => -(natOfDigits (takeDigits cs).1 : Int)
    | _ :: '+' :: cs => natOfDigits (takeDigits cs).1
    | _ :: cs => natOfDigits (takeDigits cs).1
    | [] => 0
  ⟨natOfDigits (whole ++ fraction), exponent - fraction.length⟩

end Decimal

end ErrorTrail
