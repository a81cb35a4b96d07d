import ErrorTrail.Program.Member

/-!
# Iteration

How the items of a value are gone through. A list is gone through as it is at each step; of all
else that is not an iterator itself the items are those at the beginning.
-/

namespace ErrorTrail

/-- The numbers of a range. -/
def rangeItems (start step : Int) : Nat → List Value
  | 0 => []
  | n + 1 => .int start :: rangeItems (start + step) step n

/-- The characters of a text, each as a text. -/
def characterItems (s : String) : List Value := s.toList.map fun c => .str (String.singleton c)

def byteItems (bs : List UInt8) : List Value := bs.map fun b => .int b.toNat

/-- The items of an object of a built-in class that holds them. -/
def Obj.items? : Obj → Option (List Value)
  | .list xs => some xs
  | .tuple xs => some xs
  | .dict es => some (es.map (·.1))
  | .set xs _ => some xs
  | .range a b c => some (rangeItems a c (rangeLength a b c))
  | .space fs => some (fs.map fun f => .str f.1)
  | _ => none

namespace Machine

open Act

variable (m : Machine)

/-- A part of an entry. -/
def partOf (part : EntryPart) (entry : Value × Value) : Act Value := do
  match part with
  | .keys => return entry.1
  | .values => return entry.2
  | .entries => allocValue (.tuple [entry.1, entry.2])

/-- The entries of a dictionary object. -/
def dictEntries (r : Ref) : Act (List (Value × Value)) := do
  match ← read r with
  | .dict es => return es
  | .space fs => return fs.map fun f => (.str f.1, f.2)
  | _ => return []

/-- The items that an object holds, if it is of a class that does. -/
def heldItems (r : Ref) : Act (Option (List Value)) := do
  match ← read r with
  | .view part dict => return some (← (← dictEntries dict).mapM (partOf part))
  | o => return o.items?

def newIterator (c : Course) : Act Value := allocValue (.iterator c)

/-- The iterator over the items of a value. -/
def iterator (v : Value) : Act Value := do
  match v with
  | .str s => newIterator (.items (characterItems s))
  | .bytes bs => newIterator (.items (byteItems bs))
  | .ref r =>
    match ← read r with
    | .list _ => newIterator (.sequence r 0)
    | .dict es => newIterator (.entries .keys r es.length 0)
    | .view part dict => newIterator (.entries part dict (← dictEntries dict).length 0)
    | .set xs false => newIterator (.members r xs.length 0)
    | .range a b c => newIterator (.count a b c)
    | .iterator _ => return v
    | .generator _ false _ _ => return v
    | o =>
      match o.items? with
      | some xs => newIterator (.items xs)
      | none =>
        match ← userMethod v "__iter__" with
        | some .none => typeError "object is not iterable"
        | some f => m.call f [v] []
        | none =>
          match ← userMethod v "__getitem__" with
          | some _ => newIterator (.indexed v 0)
          | none => typeError "object is not iterable"
  | _ => typeError "object is not iterable"

/-- The next item of an iterator. -/
def advance (it : Value) : Act (Option Value) := do
  match ← m.resume it (.send .none) with
  | .item v => return some v
  | .done _ => return none

/-- The next items of several iterators; `none` if one is at its end. -/
def advanceAll : List Value → Act (Option (List Value))
  | [] => return some []
  | it :: its => do
    match ← m.advance it with
    | none => return none
    | some v =>
      match ← advanceAll its with
      | none => return none
      | some vs => return some (v :: vs)

/-- The first of several iterators that is not at its end, counted from `i` on. -/
def firstOpen : List Value → Nat → Act (Option Nat)
  | [], _ => return none
  | it :: its, i => do
    match ← m.advance it with
    | some _ => return some i
    | none => firstOpen its (i + 1)

/-- The next items of several iterators from number `i` on, which have to end together; `none` at
their end. -/
def advanceStrictly : List Value → Nat → Act (Option (List Value))
  | [], _ => return some []
  | it :: its, i => do
    match ← m.advance it with
    | some v => return (← advanceStrictly its (i + 1)).map (v :: ·)
    | none =>
      if i > 0 then differ i "shorter"
      match ← m.firstOpen its 1 with
      | some j => differ j "longer"
      | none => return none
where
  differ {α : Type} (i : Nat) (word : String) : Act α :=
    fail .valueError ("zip() argument " ++ toString (i + 1) ++ " is " ++ word ++ " than argument"
      ++ (if i = 1 then " 1" else "s 1-" ++ toString i))

def advanceTogether (its : List Value) : Act (Option (List Value)) := m.advanceStrictly its 0

/-- The first item of a source that a test takes. -/
def firstTaken (test source : Value) : Act (Option Value) :=
  repeatUntil (do
    match ← m.advance source with
    | none => return some none
    | some v =>
      let taken ← if test == .none then m.truth v else do m.truth (← m.call test [v] [])
      return if taken then some (some v) else none) m.patience

/-- The next item of a built-in iterator, and how it goes on. -/
def advanceCourse : Course → Act (Option (Value × Course))
  | .sequence list i => do
    return ((← listItems list)[i]?).map fun v => (v, .sequence list (i + 1))
  | .entries part dict size i => do
    let es ← dictEntries dict
    if es.length != size then fail .runtimeError "dictionary changed size during iteration"
    match es[i]? with
    | some e => return some (← partOf part e, .entries part dict size (i + 1))
    | none => return none
  | .members set size i => do
    match ← read set with
    | .set xs _ =>
      if xs.length != size then fail .runtimeError "Set changed size during iteration"
      return (xs[i]?).map fun v => (v, .members set size (i + 1))
    | _ => return none
  | .items [] => return none
  | .items (v :: rest) => return some (v, .items rest)
  | .count next stop step =>
    return if rangeLength next stop step = 0 then none
      else some (.int next, .count (next + step) stop step)
  | .mapped f sources => do
    match ← m.advanceAll sources with
    | none => return none
    | some vs => return some (← m.call f vs [], .mapped f sources)
  | .filtered test source => do
    match ← m.firstTaken test source with
    | none => return none
    | some v => return some (v, .filtered test source)
  | .zipped [] _ => return none
  | .zipped sources strict => do
    match ← (if strict then m.advanceTogether sources else m.advanceAll sources) with
    | none => return none
    | some vs => return some (← allocValue (.tuple vs), .zipped sources strict)
  | .numbered next source => do
    match ← m.advance source with
    | none => return none
    | some v => return some (← allocValue (.tuple [.int next, v]), .numbered (next + 1) source)
  | .indexed object next => do
    match ← userMethod object "__getitem__" with
    | none => return none
    | some f =>
      rescue (do return some (← m.call f [object, .int next] [], .indexed object (next + 1)))
        fun e => do
          if (← isKind e .indexError) || (← isKind e .stopIteration) then return none else raise e
  | .calling f last => do
    let v ← m.call f [] []
    if ← m.sameItem v last then return none else return some (v, .calling f last)

/-- The step of an iterator that is no generator. -/
def stepIterator (it : Value) : Act Step := do
  match it with
  | .ref r =>
    match ← read r with
    | .iterator c =>
      match ← m.advanceCourse c with
      | none =>
        write r (.iterator (.items []))
        return .done .none
      | some (v, next) =>
        write r (.iterator next)
        return .item v
    | _ =>
      match ← userMethod it "__next__" with
      | none => typeError "object is not an iterator"
      | some f =>
        rescue (do return .item (← m.call f [it] [])) fun e => do
          if ← isKind e .stopIteration then
            return .done ((← m.member e "value").getD .none)
          else raise e
  | _ => typeError "object is not an iterator"

/-- Goes through an iterator. -/
def collectFrom (it : Value) : Act (List Value) :=
  iterate (fun done => do
    match ← m.advance it with
    | none => return .inr done.reverse
    | some v => return .inl (v :: done)) m.patience []

/-- All items of a value. -/
def items (v : Value) : Act (List Value) := do
  match v with
  | .str s => return characterItems s
  | .bytes bs => return byteItems bs
  | .ref r =>
    match ← heldItems r with
    | some xs => return xs
    | none => m.collectFrom (← m.iterator v)
  | _ => m.collectFrom (← m.iterator v)

/-- Whether `needle` stands somewhere in a text. -/
def occursIn (needle : List Char) : List Char → Bool
  | [] => needle.isEmpty
  | c :: cs => needle.isPrefixOf (c :: cs) || occursIn needle cs

/-- Whether a value contains another. -/
def contains (v x : Value) : Act Bool := do
  match v, x with
  | .str s, .str t => return occursIn t.toList s.toList
  | .str _, _ => typeError "only a text is in a text"
  | .bytes bs, .int n => return bs.any fun b => (b.toNat : Int) == n
  | .ref r, _ =>
    match ← read r with
    | .dict es => return (← m.position? (es.map (·.1)) x).isSome
    | .set xs _ => return (← m.position? xs x).isSome
    | .space fs => return fs.any fun f => Value.str f.1 == x
    | _ =>
      match ← heldItems r with
      | some xs => m.contained x xs
      | none =>
        match ← userMethod v "__contains__" with
        | some f => m.truth (← m.call f [v, x] [])
        | none =>
          let it ← m.iterator v
          repeatUntil (do
            match ← m.advance it with
            | none => return some false
            | some y => if ← m.sameItem y x then return some true else return none) m.patience
  | _, _ => typeError "argument is not iterable"

end Machine

end ErrorTrail
