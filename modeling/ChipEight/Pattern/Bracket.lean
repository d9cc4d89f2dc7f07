import ChipEight.Pattern.Escape

/-!
# Brackets

Sets of characters in square brackets: characters, ranges, escapes, named sets and brackets stand
side by side for their union, and between two such unions there may be operators.
-/

namespace ChipEight.Pattern

/-- What has been read of a bracket. -/
structure BracketContents where
  /-- What stands on the left of the last operator, and the operator. -/
  left? : Option (SetNode × SetOperation) := none
  /-- Where the items start. -/
  start : Position
  /-- The items since the last operator, the last one first. -/
  items : List SetNode := []

namespace BracketContents

def push (b : BracketContents) (item : SetNode) : BracketContents :=
  { b with items := item :: b.items }

/-- The union of the items. -/
def side (b : BracketContents) : SetNode :=
  match b.items.reverse, b.items with
  | first :: _ :: _, last :: _ => .union ⟨first.span.start, last.span.stop⟩ b.items.reverse
  | [item], _ => item
  | _, _ => .empty (.emptyAt b.start)

/-- All that has been read. Operators take their left sides first. -/
def close (b : BracketContents) : SetNode :=
  match b.left? with
  | none => b.side
  | some (left, op) => .operation ⟨left.span.start, b.side.span.stop⟩ op left b.side

/-- The two characters of an operator, if they come next. -/
def operation? : List Char → Option SetOperation
  | '&' :: '&' :: _ => some .both
  | '-' :: '-' :: _ => some .onlyLeft
  | '~' :: '~' :: _ => some .justOne
  | _ => none

/-- A set by its name between `[:` and `:]` at the start of a text: whether it is the opposite, the
set, and how many characters it takes. -/
def named? : List Char → Option (Bool × CharSet × Nat)
  | '[' :: ':' :: '^' :: rest => (name? rest).map fun (set, n) => (true, set, n + 5)
  | '[' :: ':' :: rest => (name? rest).map fun (set, n) => (false, set, n + 4)
  | _ => none
where
  name? (s : List Char) : Option (CharSet × Nat) :=
    let name := s.takeWhile (· ≠ ':')
    if (s.drop name.length).take 2 = [':', ']'] then
      (CharSet.named? (.ofList name)).map fun set => (set, name.length)
    else none

end BracketContents

namespace Read

/-- An atom as an item of a bracket. -/
def itemOf : Atom → Read SetNode
  | .literal l => return .literal l
  | .shorthand span negated s => return .shorthand span negated s
  | .property span name => return .property span name
  | .dot span | .anchor span _ => refuse .escapeInBracket span

/-- An atom as an end of a range. -/
def endOf : Atom → Read Literal
  | .literal l => return l
  | a => refuse .rangeOfNoCharacters a.span

/-- Whether a dash that comes next stands between the two ends of a range, and neither for itself
before the end of the bracket nor for a part of an operator. -/
def isRangeDash (r : Reader) : Bool :=
  match r.rest with
  | '-' :: rest =>
    let next? :=
      if r.verbose then
        match rest.dropWhile Text.isBlank with
        | '#' :: rest => (rest.dropWhile Text.isBlank).head?
        | rest => rest.head?
      else rest.head?
    next? ≠ some ']' && next? ≠ some '-'
  | _ => false

/-- Refuses the end of the text in a bracket that opens with a part of it. -/
def goOn (opening : Read Span) : Read Unit := do
  if (← next?).isNone then
    refuse .bracketUnclosed (← opening)

/-- Reads an item of a bracket that is neither a bracket nor a named set. -/
def simpleItem (opening : Span) : Read SetNode := do
  let a ← characterOrEscape
  skipBlanks
  goOn (return opening)
  if !isRangeDash (← get) then
    itemOf a
  else
    skipOn
    goOn (return opening)
    let b ← characterOrEscape
    let span : Span := ⟨a.span.start, b.span.stop⟩
    let first ← endOf a
    let last ← endOf b
    if last.char < first.char then
      refuse .rangeReversed span
    return .range span first last

/-- Reads the items that stand for themselves at the start of a bracket: dashes, or else a closing
bracket. -/
def leadingItems (opening : Position) : Read BracketContents := do
  let contents ← iterate (fun b => do
    if (← next?) = some '-' then
      let span ← nextSpan
      skipOn
      goOn (return .emptyAt opening)
      return some (b.push (.literal { span, char := '-' }))
    else
      return none) { start := ← here }
  if contents.items.isEmpty && (← next?) = some ']' then
    let span ← nextSpan
    skipOn
    goOn (since opening)
    return contents.push (.literal { span, char := ']' })
  else
    return contents

/-- Reads on in a bracket, up to the one that closes it. -/
def bracketItem (opening : Span) (inner : Read SetNode) (b : BracketContents) :
    Read (Option BracketContents) := do
  skipBlanks
  let r ← get
  match r.rest.head? with
  | none => refuse .bracketUnclosed opening
  | some ']' => return none
  | some '[' =>
    match BracketContents.named? r.rest with
    | some (negated, set, width) =>
      discard <| accept (r.rest.take width)
      return some (b.push (.named (← since r.place) negated set))
    | none => return some (b.push (← inner))
  | some _ =>
    match BracketContents.operation? r.rest with
    | some op =>
      skip
      skip
      return some { left? := some (b.close, op), start := ← here }
    | none => return some (b.push (← simpleItem opening))

/-- Reads a bracket, from its opening on, with less than `depth` brackets in each other. -/
def bracket : (depth : Nat) → Read SetNode
  | 0 => return .empty (.emptyAt (← here))
  | depth + 1 => do
    let start ← here
    skipOn
    goOn (since start)
    let negated := (← next?) = some '^'
    if negated then
      skipOn
      goOn (since start)
    let contents ← leadingItems start
    let opening ← since start
    let contents ← iterate (bracketItem opening (bracket depth)) contents
    skip
    return .bracket (← since start) negated contents.close

end Read

end ChipEight.Pattern
