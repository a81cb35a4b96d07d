import ErrorTrail.Text.Quoted

/-!
# Choice of quotes

A documentation text keeps its line breaks and stands in triple quotes, and the text of a template
should hold no backslash. `quoteChoices` escapes a text as little as possible and tells which quotes
can stand around it.
-/

namespace ErrorTrail.Syntax.Quotes

/-- Every kind of quotes, in order of preference. -/
def all : List (List Char) :=
  [['\''], ['"'], ['"', '"', '"'], ['\'', '\'', '\'']]

/-- The quotes that a text of several lines can stand in. -/
def triple : List (List Char) := [['"', '"', '"'], ['\'', '\'', '\'']]

/-- Whether `p` occurs in a text. -/
def occurs (p : List Char) : List Char → Bool
  | [] => p.isEmpty
  | c :: cs => p.isPrefixOf (c :: cs) || occurs p cs

/-- A text with characters without visible form escaped; line breaks and tabs too if `whole`. -/
def escapedText (whole : Bool) (cs : List Char) : List Char :=
  cs.flatMap fun c =>
    if !whole && (c == '\n' || c == '\t') then [c]
    else if c == '\\' || !Text.isPrintable c then Text.escaped c
    else [c]

/-- The escaped text and the quotes of `allowed` that can stand around it, best first. Quotes that
end like the text come last, and then its last character is escaped. If no quotes fit, the text is
escaped for a single quote character. -/
def quoteChoices (allowed : List (List Char)) (whole : Bool) (cs : List Char) :
    List Char × List (List Char) :=
  let text := escapedText whole cs
  let fitting := (allowed.filter fun q => !text.contains '\n' || triple.contains q).filter
    fun q => !occurs q text
  if fitting.isEmpty then
    let q := Text.quoteFor cs
    (Text.quotedContent q cs, [(allowed.find? fun a => a.contains q).getD [q]])
  else match text.getLast? with
    | none => (text, fitting)
    | some c =>
      let sorted := fitting.filter (fun q => q.head? != some c)
        ++ fitting.filter (fun q => q.head? == some c)
      if (sorted.head?.bind List.head?) == some c then (text.dropLast ++ ['\\', c], sorted)
      else (text, sorted)

/-- A text between the best of the allowed quotes. -/
def write (allowed : List (List Char)) (s : String) : String :=
  let (text, choices) := quoteChoices allowed false s.toList
  let q := choices.headD ['\'']
  String.ofList (q ++ text ++ q)

/-- A template whose parts are given, each with whether it is plain text. The quotes must suit every
part; if none do, the text is escaped between triple quotes. -/
def writeTemplate (parts : List (String × Bool)) : String :=
  let step (acc : Option (List Char × List (List Char))) (part : String × Bool) :=
    acc.bind fun (text, allowed) =>
      let (new, choices) := quoteChoices allowed part.2 part.1.toList
      if choices.any allowed.contains then some (text ++ new, choices) else none
  match parts.foldl step (some ([], all)) with
  | some (text, choices) =>
    let q := choices.headD ['\'']
    String.ofList (q ++ text ++ q)
  | none =>
    -- a double quote in front makes the quotes single, whatever the part holds
    let text := parts.flatMap fun part => (Text.quotedContent '\'' part.1.toList)
    String.ofList (['\'', '\'', '\''] ++ text ++ ['\'', '\'', '\''])

end ErrorTrail.Syntax.Quotes
