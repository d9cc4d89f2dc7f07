import ChipEight.Pattern.Flaw
import ChipEight.Text

/-!
# Reading patterns

A reader goes through the characters of a pattern and keeps the place it has come to, whether white
space and comments count, and the names given to groups so far.
-/

namespace ChipEight.Pattern

/-- How far a pattern has been read. -/
structure Reader where
  /-- How many characters the whole pattern has, and so how many steps may be needed at most. -/
  total : Nat
  rest : List Char
  place : Position := {}
  /-- White space and comments do not count. -/
  verbose : Bool := false
  /-- The names of groups with the parts of the text that gave them. -/
  names : List (String × Span) := []

namespace Reader

/-- The reader of a text that has not been read yet. -/
def start (text : String) : Reader := { total := text.length, rest := text.toList }

/-- Goes past the next character. -/
def skip (r : Reader) : Reader :=
  match r.rest with
  | [] => r
  | c :: rest => { r with rest, place := r.place.past c }

/-- What is left behind white space and comments, with its place. A comment goes from a number sign
to the end of its line. -/
def pastBlanks (comment : Bool) (place : Position) : List Char → Position × List Char
  | [] => (place, [])
  | c :: rest =>
    if comment then pastBlanks (c ≠ '\n') (place.past c) rest
    else if Text.isBlank c then pastBlanks false (place.past c) rest
    else if c = '#' then pastBlanks true (place.past c) rest
    else (place, c :: rest)

/-- Goes past white space and comments if these do not count. -/
def skipBlanks (r : Reader) : Reader :=
  if r.verbose then
    let (place, rest) := pastBlanks false r.place r.rest
    { r with rest, place }
  else r

end Reader

/-- A reading of a part of a pattern, which may find a flaw. -/
abbrev Read := EStateM Flaw Reader

namespace Read

def here : Read Position := return (← get).place

/-- The next character; none at the end. -/
def next? : Read (Option Char) := return (← get).rest.head?

/-- Goes past the next character. -/
def skip : Read Unit := modify Reader.skip

/-- Goes past what does not count. -/
def skipBlanks : Read Unit := modify Reader.skipBlanks

/-- Goes past the next character and what does not count behind it. -/
def skipOn : Read Unit := do
  skip
  skipBlanks

/-- Goes past a text if it comes next. -/
def accept (text : List Char) : Read Bool := do
  if text.isPrefixOf (← get).rest then
    modify fun r => text.foldl (fun r _ => r.skip) r
    return true
  else
    return false

/-- What has been read from a place on. -/
def since (start : Position) : Read Span := return ⟨start, ← here⟩

/-- The next character as a part of the text; at the end the empty part. -/
def nextSpan : Read Span := do
  let place ← here
  match ← next? with
  | some c => return ⟨place, place.past c⟩
  | none => return .emptyAt place

def refuse {α : Type} (problem : Problem) (span : Span) (earlier? : Option Span := none) : Read α :=
  throw { problem, span, earlier? }

/-- Blames the next character. -/
def refuseNext {α : Type} (problem : Problem) (earlier? : Option Span := none) : Read α := do
  refuse problem (← nextSpan) earlier?

/-- The next character, where the text must not end. -/
def nextOr (atEnd : Read Char) : Read Char := do
  match ← next? with
  | some c => return c
  | none => atEnd

/-- Goes from one value to the next until there is none. Every step reads at least a character, so
that there are no more steps than characters. -/
def iterate {α : Type} (step : α → Read (Option α)) (a : α) : Read α := do
  go ((← get).total + 1) a
where
  go : Nat → α → Read α
  | 0, a => return a
  | steps + 1, a => do
    match ← step a with
    | none => return a
    | some b => go steps b

/-- Collects items until there is none. -/
def many {α : Type} (item : Read (Option α)) : Read (List α) := do
  let items ← iterate (fun items => return (← item).map (· :: items)) []
  return items.reverse

end Read

end ChipEight.Pattern
