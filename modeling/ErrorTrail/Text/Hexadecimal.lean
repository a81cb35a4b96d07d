import ErrorTrail.Text.Classes
import ErrorTrail.Text.Quoted

/-!
# Hexadecimal texts

Bytes written as two hexadecimal digits each.
-/

namespace ErrorTrail.Text

/-- Bytes as hexadecimal digits. -/
def hexOfBytes (bs : List UInt8) : String :=
  String.join (bs.map fun b => String.ofList (hexDigits 2 b.toNat))

/-- The bytes that pairs of hexadecimal digits give. -/
def bytesOfDigits : List Char → List UInt8
  | a :: b :: cs => (hexValue [a, b]).toUInt8 :: bytesOfDigits cs
  | _ => []

def bytesOfHex (s : String) : List UInt8 := bytesOfDigits s.toList

end ErrorTrail.Text
