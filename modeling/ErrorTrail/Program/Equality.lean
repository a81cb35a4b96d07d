import ErrorTrail.Program.Truth

/-!
# Equality and hashes

When two values are equal, and what a value is hashed by. Numbers are equal by what they denote,
texts and bytes by their content, containers item by item, results by their variant and payload; all
else is equal only to itself, unless a class of a program says otherwise by `__eq__`. In a container
an item is also equal to itself whatever its class says.
-/

namespace ErrorTrail

/-- The bytes that a text is hashed by: as many for each character as the widest of them needs. -/
def textData (s : String) : List UInt8 :=
  let points := s.toList.map Char.toNat
  let byte (n shift : Nat) : UInt8 := (n / Nat.pow 2 shift % 256).toUInt8
  if points.all (· < 0x100) then points.map (byte · 0)
  else if points.all (· < 0x10000) then points.flatMap fun n => [byte n 0, byte n 8]
  else points.flatMap fun n => [byte n 0, byte n 8, byte n 16, byte n 24]

/-- What content is hashed by; no content is hashed like zero. -/
def HashKey.ofData (bytes : List UInt8) : HashKey :=
  if bytes.isEmpty then .number 0 else .data bytes

def HashKey.ofText (s : String) : HashKey := .ofData (textData s)

/-- What a location is hashed by. -/
def HashKey.ofLocation (l : Location) : HashKey :=
  .tuple [.ofText l.file, .number (Number.hashInt l.line)]

/-- The hash of a value without identity. -/
def Value.plainHash : Value → HashKey
  | .str s => .ofText s
  | .bytes bs => .ofData bs
  | .location l => .ofLocation l
  | v =>
    match v.number? with
    | some n => n.hash?.elim (.identity v) .number
    | Option.none => .identity v

/-- Whether two values without identity are equal; `none` if they are not of comparable kinds. -/
def Value.plainEqual? : Value → Value → Option Bool
  | .str a, .str b => some (a == b)
  | .bytes a, .bytes b => some (a == b)
  | .location a, .location b => some (a == b)
  | a, b =>
    match a.number?, b.number? with
    | some x, some y => some (x.equal y)
    | _, _ => Option.none

/-- Whether two ranges hold the same numbers. -/
def sameRange (a b c a' b' c' : Int) : Bool :=
  let n := rangeLength a b c
  n == rangeLength a' b' c' && (n == 0 || (a == a' && (n == 1 || c == c')))

namespace Machine

open Act

variable (m : Machine)

/-- Whether two items of containers are equal. -/
def sameItem (a b : Value) : Act Bool := do
  if a == b then return true
  match a.plainEqual? b with
  | some e => return e
  | none => m.equal a b

def sameItems : List Value → List Value → Act Bool
  | [], [] => return true
  | a :: as, b :: bs => do
    if ← m.sameItem a b then sameItems as bs else return false
  | _, _ => return false

/-- Whether an item is among others. -/
def contained (v : Value) : List Value → Act Bool
  | [] => return false
  | a :: as => do
    if ← m.sameItem a v then return true else contained v as

/-- Whether a key of a container is the one that is looked for, which has the hash `h`. -/
def matchesKey (h : HashKey) (key k : Value) : Act Bool := do
  if k == key then return true
  match k.plainEqual? key with
  | some e => return e
  | none => if (← m.hash k) == h then m.equal k key else return false

/-- The number of an entry, counted from `i` on. -/
def entryFrom (h : HashKey) (key : Value) : List Value → Nat → Act (Option Nat)
  | [], _ => return none
  | k :: ks, i => do
    if ← m.matchesKey h key k then return some i else entryFrom h key ks (i + 1)

/-- The number of a key among the keys of a container. -/
def position? (keys : List Value) (key : Value) : Act (Option Nat) := do
  m.entryFrom (← m.hash key) key keys 0

/-- The value of a key. -/
def lookup? (entries : List (Value × Value)) (key : Value) : Act (Option Value) := do
  match ← m.position? (entries.map (·.1)) key with
  | some i => return (entries[i]?).map (·.2)
  | none => return none

/-- Entries after a key is given a value. -/
def put (entries : List (Value × Value)) (key v : Value) : Act (List (Value × Value)) := do
  match ← m.position? (entries.map (·.1)) key with
  | some i => return entries.modify i fun e => (e.1, v)
  | none => return entries ++ [(key, v)]

/-- Items after one is put among them unless it is there. -/
def insert (items : List Value) (v : Value) : Act (List Value) := do
  match ← m.position? items v with
  | some _ => return items
  | none => return items ++ [v]

def insertAll (items : List Value) : List Value → Act (List Value)
  | [] => return items
  | v :: vs => do insertAll (← m.insert items v) vs

/-- Whether every key has an equal value in `entries`. -/
def sameEntries (entries : List (Value × Value)) : List (Value × Value) → Act Bool
  | [] => return true
  | (k, v) :: rest => do
    match ← m.lookup? entries k with
    | some w => if ← m.sameItem v w then sameEntries entries rest else return false
    | none => return false

/-- Whether every item is among `items`. -/
def included (items : List Value) : List Value → Act Bool
  | [] => return true
  | v :: vs => do
    match ← m.position? items v with
    | some _ => included items vs
    | none => return false

/-- Whether two objects of built-in classes are equal; `notImplemented` if that is not for their
classes to say. -/
def equalObjects : Obj → Obj → Act Value
  | .list a, .list b =>
    if a.length != b.length then return .bool false else return .bool (← m.sameItems a b)
  | .tuple a, .tuple b => return .bool (← m.sameItems a b)
  | .dict a, .dict b =>
    if a.length != b.length then return .bool false else return .bool (← m.sameEntries b a)
  | .set a _, .set b _ =>
    if a.length != b.length then return .bool false else return .bool (← m.included b a)
  | .range a b c, .range a' b' c' => return .bool (sameRange a b c a' b' c')
  | .slice a b c, .slice a' b' c' => return .bool (← m.sameItems [a, b, c] [a', b', c'])
  | .result a v, .result b w => do
    if a != b then return .bool false
    match v.plainEqual? w with
    | some e => return .bool e
    | none => return .bool (← m.equal v w)
  | .report a, .report b => return .bool (a == b)
  | .path a, .path b => return .bool (a == b)
  | _, _ => return .notImplemented

/-- What one value says on being equal to another. -/
def equalHalf (a b : Value) : Act Value := do
  match a.plainEqual? b with
  | some e => return .bool e
  | none =>
    match ← userMethod a "__eq__" with
    | some f => m.call f [a, b] []
    | none =>
      match a, b with
      | .ref r, .ref s => m.equalObjects (← read r) (← read s)
      | _, _ => return .notImplemented

/-- What `==` gives. -/
def compareEqual (a b : Value) : Act Value := do
  let forward ← m.equalHalf a b
  if forward != .notImplemented then return forward
  let backward ← m.equalHalf b a
  if backward != .notImplemented then return backward
  return .bool (a == b)

/-- Whether two values are equal. -/
def isEqual (a b : Value) : Act Bool := do m.truth (← m.compareEqual a b)

def hashAll : List Value → Act (List HashKey)
  | [] => return []
  | v :: vs => return (← m.hash v) :: (← hashAll vs)

/-- The hash that a class of a program gives a value; `none` if it leaves that open. -/
def userHash? (v : Value) : Act (Option HashKey) := do
  match ← userMethod v "__hash__" with
  | some .none => typeError "unhashable"
  | some f =>
    match ← m.call f [v] [] with
    | .int n => return some (.number (Number.hashInt n))
    | .bool b => return some (.number (if b then 1 else 0))
    | _ => typeError "a hash is a whole number"
  | none =>
    match ← userMethod v "__eq__" with
    | some _ => typeError "unhashable"
    | none => return none

/-- What a value is hashed by. -/
def hashOf (v : Value) : Act HashKey := do
  match v with
  | .ref r =>
    match ← read r with
    | .tuple items => return .tuple (← m.hashAll items)
    | .result isOk payload =>
      return .tuple [.number (if isOk then 1 else 0), ← m.hash payload]
    | .set items true => return .number items.length
    | .list _ => typeError "unhashable type: 'list'"
    | .dict _ => typeError "unhashable type: 'dict'"
    | .space _ => typeError "unhashable type: 'dict'"
    | .set _ false => typeError "unhashable type: 'set'"
    | .slice _ _ _ => typeError "unhashable type: 'slice'"
    | .range a b c =>
      let n := rangeLength a b c
      return .tuple [.number n, .number (if n = 0 then 0 else a), .number (if n < 2 then 0 else c)]
    | .report p =>
      return .tuple [.ofText p.message, .ofText p.errorType,
        .tuple (p.locations.map HashKey.ofLocation)]
    | .path p => return .tuple [.ofText p.text]
    | _ =>
      match ← m.userHash? v with
      | some h => return h
      | none => return .identity v
  | v => return v.plainHash

end Machine

end ErrorTrail
