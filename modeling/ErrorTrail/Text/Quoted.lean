import ErrorTrail.Text.Classes

/-!
# Quoted text

The literal form of a text (`quoted`) and of a byte string (`quotedBytes`): single quotes unless
the content holds single quotes and no double ones; backslashes, the chosen quote and characters
without a visible form are escaped.
-/

namespace ErrorTrail.Text

/-- The lower-case hexadecimal digits of a number, at least `width` of them. -/
def hexDigits (width n : Nat) : List Char :=
  let ds := Nat.toDigits 16 n
  List.replicate (width - ds.length) '0' ++ ds

/-- A character as an escape: a letter for line breaks and tabs, else its code point in two, four
or eight digits, whichever is the first to suffice. -/
def escaped (c : Char) : List Char :=
  if c = '\\' then ['\\', '\\']
  else if c = '\n' then ['\\', 'n']
  else if c = '\r' then ['\\', 'r']
  else if c = '\t' then ['\\', 't']
  else if c.toNat < 0x100 then '\\' :: 'x' :: hexDigits 2 c.toNat
  else if c.toNat < 0x10000 then '\\' :: 'u' :: hexDigits 4 c.toNat
  else '\\' :: 'U' :: hexDigits 8 c.toNat

/-- The quote for a content: single unless only double quotes need no escape. -/
def quoteFor (cs : List Char) : Char :=
  if cs.contains '\'' && !cs.contains '"' then '"' else '\''

/-- The content of a literal between the quotes `q`. -/
def quotedContent (q : Char) (cs : List Char) : List Char :=
  cs.flatMap fun c =>
    if c = q then ['\\', c] else if c = '\\' || !isPrintable c then escaped c else [c]

/-- The literal form of a text. -/
def quoted (s : String) : String :=
  let q := quoteFor s.toList
  String.ofList (q :: quotedContent q s.toList ++ [q])

/-- The literal form of a byte string; bytes outside printable ASCII are escaped. -/
def quotedBytes (bs : List UInt8) : String :=
  let cs := bs.map fun b => Char.ofNat b.toNat
  let q := quoteFor cs
  let content := cs.flatMap fun c =>
    if c = q then ['\\', c]
    else if c = '\\' || c.toNat < 32 || 127 ≤ c.toNat then escaped c else [c]
  String.ofList ('b' :: q :: content ++ [q])

end ErrorTrail.Text
