import ErrorTrail.Syntax.Tree
import ErrorTrail.Syntax.Token
import ErrorTrail.Decimal.Shortest

/-!
# Values of literals

What the digits of a number and the body of a text or byte literal stand for.
-/

namespace ErrorTrail.Syntax

/-- The value of a hexadecimal digit of either case. -/
def hexDigit? (c : Char) : Option Nat :=
  if c.isDigit then some (c.toNat - 48)
  else if 'a' ≤ c ∧ c ≤ 'f' then some (c.toNat - 87)
  else if 'A' ≤ c ∧ c ≤ 'F' then some (c.toNat - 55)
  else none

/-- The value of digits in a base. -/
def digitsValue (base : Nat) (cs : List Char) : Nat :=
  cs.foldl (fun n c => n * base + (hexDigit? c).getD 0) 0

/-- Decimal integers have at most this many digits, read or written. -/
def maxDecimalDigits : Nat := 4300

/-- The value of a number token; `none` if it is too long. -/
def numberConstant (text : String) : Option Constant :=
  let cs := text.toList.filter (· ≠ '_')
  let decimal (cs : List Char) : Option Constant :=
    if cs.all Char.isDigit then
      if cs.length > maxDecimalDigits then none else some (.int (digitsValue 10 cs))
    else if cs.getLast?.any fun c => c == 'j' || c == 'J' then
      let x := (Decimal.ofText (String.ofList cs.dropLast)).toFloat
      some (.complex (Decimal.Style.factor.renderFloat x ++ "j"))
    else
      let x := (Decimal.ofText (String.ofList cs)).toFloat
      some (.float (Decimal.Style.program.renderFloat x))
  match cs with
  | '0' :: c :: ds =>
    if c = 'x' ∨ c = 'X' then some (.int (digitsValue 16 ds))
    else if c = 'o' ∨ c = 'O' then some (.int (digitsValue 8 ds))
    else if c = 'b' ∨ c = 'B' then some (.int (digitsValue 2 ds))
    else decimal cs
  | _ => decimal cs

/-- The character of a code point; one that is no character is replaced. -/
def charOfPoint (n : Nat) : Char := if n.isValidChar then Char.ofNat n else Char.ofNat 0xfffd

/-- Exactly `n` hexadecimal digits at the beginning of the text. -/
def hexPrefix (n : Nat) (cs : List Char) : Option Nat :=
  let ds := cs.take n
  if ds.length = n ∧ ds.all (fun c => (hexDigit? c).isSome) then some (digitsValue 16 ds) else none

/-- What an escape of one letter stands for. -/
def letterEscape (c : Char) : Option Char :=
  match c with
  | '\\' => some '\\'
  | '\'' => some '\''
  | '"' => some '"'
  | 'a' => some (Char.ofNat 7)
  | 'b' => some (Char.ofNat 8)
  | 'f' => some (Char.ofNat 12)
  | 'n' => some '\n'
  | 'r' => some '\r'
  | 't' => some '\t'
  | 'v' => some (Char.ofNat 11)
  | _ => none

def isOctal (c : Char) : Bool := '0' ≤ c && c ≤ '7'

/-- The octal digits, three at most, at the beginning of the text. -/
def octalPrefix (cs : List Char) : List Char := (cs.take 3).takeWhile isOctal

/-- The text that the body of a literal stands for; `none` if an escape is incomplete. An unknown
escape stands for itself. -/
def decodeText : Nat → List Char → Option (List Char)
  | 0, _ => none
  | _ + 1, [] => some []
  | fuel + 1, '\\' :: c :: cs =>
    let coded (n : Nat) : Option (List Char) := do
      let v ← hexPrefix n cs
      if v > 0x10ffff then none
      else (decodeText fuel (cs.drop n)).map (charOfPoint v :: ·)
    if c = '\n' then decodeText fuel cs
    else if isOctal c then
      let ds := octalPrefix (c :: cs)
      (decodeText fuel ((c :: cs).drop ds.length)).map (charOfPoint (digitsValue 8 ds) :: ·)
    else if c = 'x' then coded 2
    else if c = 'u' then coded 4
    else if c = 'U' then coded 8
    else if c = 'N' then none
    else match letterEscape c with
      | some d => (decodeText fuel cs).map (d :: ·)
      | none => (decodeText fuel cs).map fun r => '\\' :: c :: r
  | _ + 1, ['\\'] => some ['\\']
  | fuel + 1, c :: cs => (decodeText fuel cs).map (c :: ·)

/-- The bytes that the body of a byte literal stands for; only ASCII characters may stand in it. -/
def decodeBytes (raw : Bool) : Nat → List Char → Option (List UInt8)
  | 0, _ => none
  | _ + 1, [] => some []
  | fuel + 1, '\\' :: c :: cs =>
    if c.toNat ≥ 128 then none
    else if raw then (decodeBytes raw fuel cs).map fun r => 92 :: c.toNat.toUInt8 :: r
    else if c = '\n' then decodeBytes raw fuel cs
    else if isOctal c then
      let ds := octalPrefix (c :: cs)
      (decodeBytes raw fuel ((c :: cs).drop ds.length)).map ((digitsValue 8 ds).toUInt8 :: ·)
    else if c = 'x' then do
      let v ← hexPrefix 2 cs
      (decodeBytes raw fuel (cs.drop 2)).map (v.toUInt8 :: ·)
    else match letterEscape c with
      | some d => (decodeBytes raw fuel cs).map (d.toNat.toUInt8 :: ·)
      | none => (decodeBytes raw fuel cs).map fun r => 92 :: c.toNat.toUInt8 :: r
  | fuel + 1, c :: cs =>
    if c.toNat ≥ 128 then none else (decodeBytes raw fuel cs).map (c.toNat.toUInt8 :: ·)

/-- The text of a literal's part; a raw literal has no escapes. -/
def literalText (raw : Bool) (cs : List Char) : Option (List Char) :=
  if raw then some cs else decodeText (cs.length + 1) cs

end ErrorTrail.Syntax
