import ErrorTrail.Syntax.Names

/-!
# Scopes

The blocks of a program that names belong to, and what each block does with names. A `Scope` lists
the mentions of names in a block in the order in which the text makes them, and the blocks inside.
Names that begin with two underscores are private: in the body of a class they stand under the name
that `privateName` gives.

* `fileScope`, `functionScope`, `lambdaScope`, `classScope` and `comprehensionScope` read a block off
  its tree.
* `Scope.home` says where a name of a block lives: in the block itself, in a block around it, or
  among the names of the file.
* `Scope.captured` lists the names that a block takes from the blocks around it.
* `Scope.sound` is whether the declarations of a block and of those inside are consistent.

An assignment expression in a comprehension assigns in the block around the comprehension. Inside it
the name is `lifted`: it lives outside.
-/

namespace ErrorTrail.Syntax

/-! ### Private names -/

/-- A name as it stands in the body of the class `owner`. -/
def privateName (owner : Option String) (name : String) : String :=
  match owner with
  | none => name
  | some o =>
    let stem := (o.toList.dropWhile (· = '_'))
    if name.startsWith "__" && !name.endsWith "__" && !name.contains '.' && !stem.isEmpty then
      "_" ++ String.ofList stem ++ name
    else name

/-! ### Mentions -/

/-- What kind of block a scope is. Annotations that are never evaluated are a block of their own. -/
inductive Block where
  | file
  | classBody
  | function
  | comprehension
  | annotations
  deriving DecidableEq, Repr, Inhabited

/-- What a block does with a name. -/
inductive Deed where
  | read
  | bind
  | bringIn
  | parameter
  | annotate
  | declareGlobal
  | declareOuter
  /-- an assignment that belongs to the block around a comprehension -/
  | lift
  /-- such an assignment on its way through a comprehension -/
  | cross
  deriving DecidableEq, Repr, Inhabited

/-- A mention of a name; `iterating` if it stands in the target of a comprehension. -/
structure Mention where
  deed : Deed
  name : String
  iterating : Bool := false
  deriving DecidableEq, Repr, Inhabited

/-- A block: its kind, its mentions, whether all that stands in it may stand in such a block, and the
blocks inside. -/
inductive Scope where
  | node (block : Block) (mentions : List Mention) (allowed : Bool) (inner : List Scope)
  deriving Repr, Inhabited

namespace Scope

def block : Scope → Block
  | node b _ _ _ => b

def mentions : Scope → List Mention
  | node _ ms _ _ => ms

def inner : Scope → List Scope
  | node _ _ _ ss => ss

end Scope

/-- What a part of a block contributes to it. -/
structure Gathered where
  mentions : List Mention := []
  inner : List Scope := []
  allowed : Bool := true
  /-- the names that are assigned for the block around -/
  lifted : List String := []
  deriving Repr, Inhabited

namespace Gathered

protected def append (a b : Gathered) : Gathered :=
  ⟨a.mentions ++ b.mentions, a.inner ++ b.inner, a.allowed && b.allowed, a.lifted ++ b.lifted⟩

instance : Append Gathered := ⟨Gathered.append⟩

/-- The block that a part makes up. -/
def scope (b : Block) (g : Gathered) : Scope := .node b g.mentions g.allowed g.inner

end Gathered

/-- Where a part of a program stands. -/
structure Site where
  block : Block := .file
  owner : Option String := none
  /-- whether annotations are evaluated -/
  eager : Bool := true
  /-- whether the part is in an iterable of a comprehension -/
  inIterable : Bool := false
  /-- whether the part is in a target of a comprehension -/
  iterating : Bool := false
  deriving DecidableEq, Repr, Inhabited

namespace Site

def mention (p : Site) (deed : Deed) (name : String) : Gathered :=
  { mentions := [⟨deed, privateName p.owner name, p.iterating⟩] }

def mentionAll (p : Site) (deed : Deed) (names : List String) : Gathered :=
  { mentions := names.map fun n => ⟨deed, privateName p.owner n, p.iterating⟩ }

/-- Something that may stand here only if `b`. -/
def require (b : Bool) : Gathered := { allowed := b }

/-- The place inside a block that stands here. -/
def into (p : Site) (b : Block) : Site := { p with block := b, iterating := false }

/-- A block that stands here. Names that it lifts are assigned here, unless this is itself a
comprehension or not evaluated. -/
def enclose (p : Site) (b : Block) (g : Gathered) : Gathered :=
  let here : Gathered := { inner := [g.scope b] }
  if g.lifted.isEmpty then here
  else match p.block with
    | .function => here ++ { mentions := g.lifted.map fun n => ⟨.bind, n, p.iterating⟩ }
    | .file => here
    | .classBody => here ++ require false
    | .annotations => here ++ { lifted := g.lifted }
    | .comprehension =>
      here ++ { mentions := g.lifted.map fun n => ⟨.cross, n, false⟩, lifted := g.lifted }

/-- An annotation that stands here, which is a block of its own if it is not evaluated. -/
def hint (p : Site) (g : Site → Gathered) : Gathered :=
  if p.eager then g p else p.enclose .annotations (g (p.into .annotations))

end Site

/-- The word under which a method reaches the methods of the classes above. -/
def superWord : String := "super"

/-- The variable that holds the class of a method. -/
def classVariable : String := "__class__"

variable {α : Type}

/-- The name at which an assignment expression aims. -/
def targetName : SyntaxTree α → String
  | .node (.name id _) _ _ => id
  | _ => ""

mutual
/-- What a part of a block does with names, in order. -/
def gather (p : Site) : SyntaxTree α → Gathered
  | .node (.name id .load) _ _ =>
    p.mention .read id
      ++ (if id = superWord ∧ (p.block = .function ∨ p.block = .comprehension) then
            p.mention .read classVariable
          else {})
  | .node (.name id _) _ _ => p.mention .bind id
  | .node (.functionDef _ name) _ [args, body, decorators, returns] =>
    p.mention .bind name ++ gatherDefaults p args ++ gatherAnnotations p args
      ++ p.hint (gather · returns) ++ gather p decorators
      ++ p.enclose .function
          (gatherParameters (p.into .function) args ++ gather (p.into .function) body)
  | .node .lambda _ [args, body] =>
    gatherDefaults p args
      ++ p.enclose .function
          (gatherParameters (p.into .function) args ++ gather (p.into .function) body)
  | .node (.classDef name) _ [bases, keywords, body, decorators] =>
    p.mention .bind name ++ gather p bases ++ gather p keywords ++ gather p decorators
      ++ p.enclose .classBody (gather { p.into .classBody with owner := some name } body)
  | .node .listComp _ [element, clauses] =>
    gatherFirst { p with inIterable := true } clauses
      ++ p.enclose .comprehension
          (gatherClauses (p.into .comprehension) clauses ++ gather (p.into .comprehension) element)
  | .node .setComp _ [element, clauses] =>
    gatherFirst { p with inIterable := true } clauses
      ++ p.enclose .comprehension
          (gatherClauses (p.into .comprehension) clauses ++ gather (p.into .comprehension) element)
  | .node .generatorExp _ [element, clauses] =>
    gatherFirst { p with inIterable := true } clauses
      ++ p.enclose .comprehension
          (gatherClauses (p.into .comprehension) clauses ++ gather (p.into .comprehension) element)
  | .node .dictComp _ [key, value, clauses] =>
    gatherFirst { p with inIterable := true } clauses
      ++ p.enclose .comprehension
          (gatherClauses (p.into .comprehension) clauses ++ gather (p.into .comprehension) value
            ++ gather (p.into .comprehension) key)
  | .node .namedExpr _ [target, value] =>
    Site.require (p.block ≠ .annotations && !p.inIterable)
      ++ (if p.block = .comprehension then
            p.mention .lift (targetName target)
              ++ { lifted := [privateName p.owner (targetName target)] }
          else {})
      ++ gather p value ++ gather p target
  | .node (.annAssign simple) _ [.node (.name id _) _ _, hint, value] =>
    (if simple = 0 then
        (if value.isAbsent then {} else p.mention .bind id)
      else p.mention .annotate id)
      ++ p.hint (gather · hint) ++ gather p value
  | .node (.annAssign _) _ [target, hint, value] =>
    gather p target ++ p.hint (gather · hint) ++ gather p value
  | .node (.tryStmt _) _ [body, handlers, orelse, final] =>
    gather p body ++ gather p orelse ++ gather p handlers ++ gather p final
  | .node (.exceptHandler name) _ [type, body] =>
    gather p type ++ p.mentionAll .bind name.toList ++ gather p body
  | .node (.alias name asname) _ _ =>
    if asname.getD name = "*" then Site.require (p.block = .file)
    else p.mention .bringIn (importedName name asname)
  | .node (.globalStmt names) _ _ => p.mentionAll .declareGlobal names
  | .node (.nonlocalStmt names) _ _ => p.mentionAll .declareOuter names
  | .node (.matchMapping rest) _ cs => gatherList p cs ++ p.mentionAll .bind rest.toList
  | .node (.matchAs name) _ cs => gatherList p cs ++ p.mentionAll .bind name.toList
  | .node (.matchStar name) _ _ => p.mentionAll .bind name.toList
  | .node .yield _ cs =>
    Site.require (p.block ≠ .annotations && p.block ≠ .comprehension) ++ gatherList p cs
  | .node .yieldFrom _ cs =>
    Site.require (p.block ≠ .annotations && p.block ≠ .comprehension) ++ gatherList p cs
  | .node .await _ cs => Site.require (p.block ≠ .annotations) ++ gatherList p cs
  | .node _ _ cs => gatherList p cs
termination_by structural t => t

def gatherList (p : Site) : List (SyntaxTree α) → Gathered
  | [] => {}
  | t :: ts => gather p t ++ gatherList p ts

/-- The defaults of parameters. -/
def gatherDefaults (p : Site) : SyntaxTree α → Gathered
  | .node .arguments _ [_, _, _, _, keywordDefaults, _, defaults] =>
    gather p defaults ++ gather p keywordDefaults
  | _ => {}

/-- The annotations of parameters. -/
def gatherAnnotations (p : Site) : SyntaxTree α → Gathered
  | .node .arguments _ [positionalOnly, positional, vararg, keywordOnly, _, kwarg, _] =>
    p.hint fun q =>
      gatherParameterAnnotations q positionalOnly ++ gatherParameterAnnotations q vararg
        ++ gatherParameterAnnotations q kwarg ++ gatherParameterAnnotations q positional
        ++ gatherParameterAnnotations q keywordOnly
  | _ => {}

def gatherParameterAnnotations (p : Site) : SyntaxTree α → Gathered
  | .node (.arg _) _ cs => gatherList p cs
  | .node .sequence _ cs => gatherParameterAnnotationsList p cs
  | _ => {}

def gatherParameterAnnotationsList (p : Site) : List (SyntaxTree α) → Gathered
  | [] => {}
  | t :: ts => gatherParameterAnnotations p t ++ gatherParameterAnnotationsList p ts

/-- The parameters themselves. -/
def gatherParameters (p : Site) : SyntaxTree α → Gathered
  | .node (.arg name) _ _ => p.mention .parameter name
  | .node .arguments _ [positionalOnly, positional, vararg, keywordOnly, _, kwarg, _] =>
    gatherParameters p positionalOnly ++ gatherParameters p positional
      ++ gatherParameters p keywordOnly ++ gatherParameters p vararg ++ gatherParameters p kwarg
  | .node .sequence _ cs => gatherParametersList p cs
  | _ => {}

def gatherParametersList (p : Site) : List (SyntaxTree α) → Gathered
  | [] => {}
  | t :: ts => gatherParameters p t ++ gatherParametersList p ts

/-- The iterable of the first clause of a comprehension, which is evaluated outside. -/
def gatherFirst (p : Site) : SyntaxTree α → Gathered
  | .node (.comprehension _) _ [_, iterable, _] => gather p iterable
  | .node .sequence _ (clause :: _) => gatherFirst p clause
  | _ => {}

/-- The clauses of a comprehension without the first iterable. -/
def gatherClauses (p : Site) : SyntaxTree α → Gathered
  | .node (.comprehension _) _ [target, _, conditions] =>
    gather { p with iterating := true } target ++ gather p conditions
  | .node .sequence _ (clause :: clauses) =>
    gatherClauses p clause ++ gatherLaterClauses p clauses
  | _ => {}

def gatherLaterClauses (p : Site) : List (SyntaxTree α) → Gathered
  | [] => {}
  | .node (.comprehension _) _ [target, iterable, conditions] :: clauses =>
    gather { p with iterating := true } target ++ gather { p with inIterable := true } iterable
      ++ gather p conditions ++ gatherLaterClauses p clauses
  | _ :: clauses => gatherLaterClauses p clauses
end

/-! ### Blocks of a program -/

/-- The block of a whole file. -/
def fileScope (eager : Bool) (t : SyntaxTree α) : Scope := (gather { eager } t).scope .file

/-- The block of a function with these parameters and this body. -/
def functionScope (p : Site) (args body : SyntaxTree α) : Scope :=
  (gatherParameters (p.into .function) args ++ gather (p.into .function) body).scope .function

/-- The block of a class. -/
def classScope (p : Site) (name : String) (body : SyntaxTree α) : Scope :=
  (gather { p.into .classBody with owner := some name } body).scope .classBody

/-- The block of a comprehension with these clauses and elements. -/
def comprehensionScope (p : Site) (clauses : SyntaxTree α) (elements : List (SyntaxTree α)) :
    Scope :=
  let q := p.into .comprehension
  (gatherClauses q clauses ++ gatherList q elements).scope .comprehension

/-! ### Where names live -/

/-- The names that the blocks around a block offer it: those that live in functions, none at all for
a whole file, and those that are declared to be the file's. -/
structure Surroundings where
  offered : Option (List String) := none
  declared : List String := []
  deriving DecidableEq, Repr, Inhabited

/-- Where a name lives. -/
inductive Home where
  | own
  | outer
  | file
  deriving DecidableEq, Repr, Inhabited

def Deed.binds : Deed → Bool
  | .bind => true
  | .bringIn => true
  | .parameter => true
  | .annotate => true
  | _ => false

/-- The deeds after which a name cannot be declared any more. -/
def Deed.settles : Deed → Bool
  | .read => true
  | .bind => true
  | .parameter => true
  | .annotate => true
  | _ => false

namespace Scope

/-- Whether a block does any of the deeds `f` with a name. -/
def does (s : Scope) (f : Deed → Bool) (name : String) : Bool :=
  s.mentions.any fun m => m.name == name && f m.deed

/-- The names of a block, each once. -/
def names (s : Scope) : List String := (s.mentions.map (·.name)).eraseDups

/-- Where a name of a block lives. -/
def home (around : Surroundings) (s : Scope) (name : String) : Home :=
  let offered := (around.offered.getD []).contains name
  if s.does (· == .declareGlobal) name then .file
  else if s.does (fun d => d == .declareOuter || d == .lift) name then
    if offered then .outer else .file
  else if s.does Deed.binds name then .own
  else if offered then .outer
  else .file

/-- The names that live in a block. -/
def own (around : Surroundings) (s : Scope) : List String :=
  s.names.filter fun n => s.home around n == .own

def declaredGlobal (s : Scope) : List String := s.names.filter (s.does (· == .declareGlobal))

/-- What a block offers to the blocks inside. The names of a class are not offered, and neither are
those of a file, which every block reaches anyway. -/
def offers (around : Surroundings) (s : Scope) : Surroundings :=
  let offered := around.offered.getD []
  match s.block with
  | .classBody => ⟨some (classVariable :: offered), around.declared⟩
  | b =>
    let mine := s.own around
    let rest := offered.filter fun n => !s.declaredGlobal.contains n
    ⟨some (if b == .file || b == .annotations then rest else mine ++ rest),
      (around.declared.filter fun n => !mine.contains n) ++ s.declaredGlobal⟩

mutual
/-- The names that a block and the blocks inside take from the blocks around it. -/
def captures (around : Surroundings) : Scope → List String
  | .node b ms a ss =>
    let s := Scope.node b ms a ss
    let fromInside := capturesList (s.offers around) ss
    let passing := match b with
      | .classBody => fromInside.filter (· ≠ classVariable)
      | .file => []
      | .annotations => fromInside
      | _ => fromInside.filter fun n => s.home around n ≠ .own || !s.names.contains n
    s.names.filter (fun n => s.home around n == .outer) ++ passing

def capturesList (around : Surroundings) : List Scope → List String
  | [] => []
  | s :: ss => captures around s ++ capturesList around ss
end

/-- The names that a block takes from the blocks around it, in order. -/
def captured (around : Surroundings) (s : Scope) : List String := sortedNames (s.captures around)

/-! ### Consistency -/

/-- Whether a mention may follow the mentions `before` it in a block. -/
def mayFollow (b : Block) (before : List Mention) (m : Mention) : Bool :=
  let earlier (f : Mention → Bool) : Bool := before.any fun e => e.name == m.name && f e
  let declared (e : Mention) : Bool :=
    e.deed == .declareGlobal || e.deed == .declareOuter
  let iterationKept : Bool := !(m.iterating && earlier fun e => declared e || e.deed == .lift)
  iterationKept && match m.deed with
    | .parameter => !earlier fun e => e.deed == .parameter
    | .declareGlobal => !earlier fun e => e.deed.settles
    | .declareOuter => !earlier fun e => e.deed.settles
    | .annotate => b == .file || !earlier declared
    | .lift => !earlier fun e => e.iterating
    | .cross => !earlier fun e => e.iterating
    | _ => true

/-- Whether every mention may follow those before it. -/
def inOrder (b : Block) : List Mention → List Mention → Bool
  | _, [] => true
  | before, m :: ms => mayFollow b before m && inOrder b (m :: before) ms

/-- Whether the declarations of one name fit together. -/
def declarationFits (around : Surroundings) (s : Scope) (name : String) : Bool :=
  let outer := s.does (· == .declareOuter) name
  !(outer && s.does (· == .declareGlobal) name)
    && (!outer || (around.offered.getD []).contains name)

mutual
/-- Whether the declarations of a block and of the blocks inside are consistent. -/
def sound (around : Surroundings) : Scope → Bool
  | .node b ms a ss =>
    let s := Scope.node b ms a ss
    a && inOrder b [] ms && s.names.all (s.declarationFits around)
      && soundList (s.offers around) ss

def soundList (around : Surroundings) : List Scope → Bool
  | [] => true
  | s :: ss => sound around s && soundList around ss
end

end Scope

end ErrorTrail.Syntax
