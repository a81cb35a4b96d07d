/-!
# Capital and small letters

The capital and the small form of letters, for the Latin, Greek and Cyrillic letters of the first
two thousand code points that have one form of one letter each.
-/

namespace ErrorTrail.Text

/-- Small letters whose capitals stand a fixed distance below: first, last, distance. -/
def caseShifts : List (Nat × Nat × Nat) :=
  [(0x61, 0x7a, 32), (0xe0, 0xf6, 32), (0xf8, 0xfe, 32), (0x3b1, 0x3c1, 32), (0x3c3, 0x3cb, 32),
    (0x430, 0x44f, 32), (0x450, 0x45f, 80), (0x561, 0x586, 48)]

/-- Pairs of neighbours, the capital first, as ranges. -/
def casePairs : List (Nat × Nat) :=
  [(0x100, 0x12f), (0x132, 0x137), (0x14a, 0x177), (0x460, 0x481), (0x48a, 0x4bf), (0x4d0, 0x52f)]

/-- Pairs of neighbours whose capitals have odd code points. -/
def oddCasePairs : List (Nat × Nat) := [(0x139, 0x148), (0x179, 0x17e), (0x4c1, 0x4ce)]

/-- The capital of a letter. -/
def capital (c : Char) : Char :=
  let n := c.toNat
  match caseShifts.find? fun s => s.1 ≤ n && n ≤ s.2.1 with
  | some (_, _, d) => Char.ofNat (n - d)
  | none =>
    if n = 0xff then Char.ofNat 0x178
    else if n = 0xb5 then Char.ofNat 0x39c
    else if casePairs.any fun p => p.1 ≤ n && n ≤ p.2 then Char.ofNat (n - n % 2)
    else if oddCasePairs.any fun p => p.1 ≤ n && n ≤ p.2 then Char.ofNat (n - 1 + n % 2)
    else c

/-- The small form of a letter. -/
def small (c : Char) : Char :=
  let n := c.toNat
  match caseShifts.find? fun s => s.1 ≤ n + s.2.2 && n + s.2.2 ≤ s.2.1 with
  | some (_, _, d) => Char.ofNat (n + d)
  | none =>
    if n = 0x178 then Char.ofNat 0xff
    else if casePairs.any fun p => p.1 ≤ n && n ≤ p.2 then Char.ofNat (n + 1 - n % 2)
    else if oddCasePairs.any fun p => p.1 ≤ n && n ≤ p.2 then Char.ofNat (n + n % 2)
    else c

/-- The capitals of a letter; a sharp s becomes two letters. -/
def capitals (c : Char) : List Char := if c.toNat = 0xdf then ['S', 'S'] else [capital c]

def isCapital (c : Char) : Bool := small c != c

def isSmall (c : Char) : Bool := capital c != c || c.toNat = 0xdf

def isCased (c : Char) : Bool := isCapital c || isSmall c

end ErrorTrail.Text
