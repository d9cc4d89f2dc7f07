import ChipEight.Pattern.Bracket
import ChipEight.Text.Alphabet

/-!
# Groups, repetitions and alternatives

The reading of a whole pattern: branches separated by bars, each a sequence of items, where an item
may be repeated by what follows it, and a group holds branches again.
-/

namespace ChipEight.Pattern

/-- What has been read of the branches of a group. -/
structure Branches where
  /-- Where the first branch starts. -/
  first : Position
  /-- The branches before the last bar, the last one first. -/
  closed : List Node := []
  /-- Where the branch starts that is being read. -/
  start : Position
  /-- The items of that branch, the last one first. -/
  items : List Node := []

namespace Branches

/-- Nothing read yet, at a place. -/
def startAt (p : Position) : Branches := { first := p, start := p }

def push (b : Branches) (item : Node) : Branches := { b with items := item :: b.items }

/-- The branch that ends at a place. -/
def branch (b : Branches) (stop : Position) : Node :=
  match b.items.reverse with
  | [] => .empty ⟨b.start, stop⟩
  | [item] => item
  | items => .sequence ⟨b.start, stop⟩ items

/-- All branches, of which the last one ends at a place. -/
def close (b : Branches) (stop : Position) : Node :=
  match b.closed with
  | [] => b.branch stop
  | closed => .alternatives ⟨b.first, stop⟩ (b.branch stop :: closed).reverse

/-- Starts another branch behind a bar. -/
def bar (b : Branches) (place behind : Position) : Branches :=
  { b with closed := b.branch place :: b.closed, start := behind, items := [] }

end Branches

/-- What the start of a group announces. -/
inductive GroupHead
  /-- No group but modes for the rest of the one around. -/
  | modes (settings : List Setting)
  /-- A group with modes of its own. -/
  | scoped (settings : List Setting)
  | capturing

/-- Settings while they are read. -/
structure SettingsSoFar where
  settings : List Setting := []
  /-- Where each mode is named. -/
  places : List (Mode × Span) := []
  /-- Where the dash stands behind which modes are switched off. -/
  negation? : Option Span := none
  /-- Whether the dash is the last character. -/
  dangling : Bool := false

/-- Whether a character may stand in the name of a group. -/
def isNameCharacter (atStart : Bool) (c : Char) : Bool :=
  c = '_' || Text.isAlphabetic c ||
    !atStart && (Text.isNumeric c || c = '.' || c = '[' || c = ']')

namespace Read

/-- Reads the name of a group up to the angle that closes it. -/
def groupName : Read Unit := do
  let start ← here
  let name ← many do
    match ← next? with
    | none | some '>' => return none
    | some c =>
      if !isNameCharacter ((← here) = start) c then
        refuseNext .groupNameCharacter
      skip
      return some c
  let span ← since start
  if (← next?).isNone then
    refuseNext .groupNameUnclosed
  skip
  if name.isEmpty then
    refuse .groupNameEmpty span
  let name := String.ofList name
  match (← get).names.lookup name with
  | some earlier => refuse .groupNameTaken span earlier
  | none => modify fun r => { r with names := (name, span) :: r.names }

/-- Reads a letter that switches a mode, or the dash before those that are switched off. -/
def setting (s : SettingsSoFar) : Read (Option SettingsSoFar) := do
  let span ← nextSpan
  let next : SettingsSoFar ← match ← next? with
    | none | some ':' | some ')' => return none
    | some '-' =>
      match s.negation? with
      | some earlier => refuse .negationTwice span earlier
      | none => pure { s with negation? := some span, dangling := true }
    | some c =>
      match Mode.ofLetter? c with
      | none => refuse .modeUnknown span
      | some mode =>
        match s.places.lookup mode with
        | some earlier => refuse .modeTwice span earlier
        | none =>
          pure { s with
            settings := s.settings ++ [⟨mode, s.negation?.isNone⟩]
            places := (mode, span) :: s.places
            dangling := false }
  skip
  if (← next?).isNone then
    refuseNext .modeMissing
  return some next

/-- Reads settings up to a colon or the end of the group. -/
def settings : Read (List Setting) := do
  let s ← iterate setting {}
  match s.dangling, s.negation? with
  | true, some span => refuse .negationDangling span
  | _, _ => return s.settings

/-- Reads the start of a group behind the parenthesis, which is a part of the text. -/
def groupHead (opening : Span) : Read GroupHead := do
  skip
  skipBlanks
  let mark ← nextSpan
  for look in ["?=", "?!", "?<=", "?<!"] do
    if ← accept look.toList then
      refuse .lookAround (← since opening.start)
  if (← accept "?P<".toList) || (← accept "?<".toList) then
    if (← next?).isNone then
      refuseNext .groupNameUnclosed
    groupName
    return .capturing
  else if ← accept ['?'] then
    if (← next?).isNone then
      refuse .groupUnclosed opening
    let settings ← settings
    let last? ← next?
    skip
    if last? = some ')' then
      if settings.isEmpty then
        refuse .repetitionOfNothing (.emptyAt mark.start)
      return .modes settings
    else
      return .scoped settings
  else
    return .capturing

/-- Makes white space and comments count or not. -/
def setVerbose (verbose : Bool) : Read Unit := modify fun r => { r with verbose }

/-- Reads a group, from its parenthesis on, where `inner` reads its branches. -/
def group (inner : Read Node) : Read Node := do
  let opening ← nextSpan
  let outside := (← get).verbose
  let body (settings : List Setting) : Read Node := do
    setVerbose ((Setting.find? .verbose settings).getD outside)
    let body ← inner
    if (← next?).isNone then
      refuse .groupUnclosed opening
    setVerbose outside
    skip
    return body
  match ← groupHead opening with
  | .modes settings =>
    setVerbose ((Setting.find? .verbose settings).getD outside)
    return .modes (← since opening.start) settings
  | .scoped settings =>
    let body ← body settings
    return .group (← since opening.start) (some settings) body
  | .capturing =>
    let body ← body []
    return .group (← since opening.start) none body

/-- Reads a decimal number, whose flaw is only a flaw of the pattern if the number counts. White
space around it never counts. -/
def decimal : Read (Except Flaw Nat) := do
  discard <| many (blank skip)
  let start ← here
  let digits ← many do
    match (← next?).filter fun c => CharSet.digit.contains c.toNat with
    | some c =>
      skipOn
      return some (c.toNat - '0'.toNat)
    | none => return none
  let span ← since start
  discard <| many (blank skipOn)
  let n := digits.foldl (fun n d => 10 * n + d) 0
  if digits.isEmpty then return .error { problem := .countMissing, span }
  else if UInt32.size ≤ n then return .error { problem := .countTooLarge, span }
  else return .ok n
where
  blank (skip : Read Unit) : Read (Option Unit) := do
    if ((← next?).map Text.isBlank).getD false then
      skip
      return some ()
    else
      return none

/-- How often something is repeated. -/
structure Counts where
  least : Nat
  most? : Option Nat
  lazily : Bool

/-- Reads how often something is repeated, from the brace on. -/
def counts : Read Counts := do
  let start ← here
  let goOn : Read Unit := do
    if (← next?).isNone then
      refuse .countUnclosed (← since start)
  skipOn
  goOn
  let least ← decimal
  goOn
  let (least, most?) ← do
    if (← next?) ≠ some ',' then
      let n ← ofExcept least
      pure (n, some n)
    else
      skipOn
      goOn
      let n ← ofExcept least
      if (← next?) = some '\x7d' then
        pure (n, none)
      else
        pure (n, some (← ofExcept (← decimal)))
  if (← next?) ≠ some '\x7d' then
    refuse .countUnclosed (← since start)
  skipOn
  let lazily ← accept ['?']
  if most?.any (· < least) then
    refuse .countsReversed (← since start)
  return { least, most?, lazily }

/-- Reads a repetition of the last item. -/
def repetition (counts : Read Counts) (b : Branches) : Read Branches := do
  match b.items with
  | [] | .modes .. :: _ => refuseNext .repetitionOfNothing
  | body :: items =>
    let c ← counts
    let span ← since body.span.start
    return { b with items := .repetition span c.least c.most? c.lazily body :: items }

/-- Reads one of the marks that stand for a repetition. -/
def mark (least : Nat) (most? : Option Nat) : Read Counts := do
  skip
  return { least, most?, lazily := ← accept ['?'] }

/-- Reads on in the branches of a group, up to its end or that of the text. -/
def branchItem (inner : Read Node) (b : Branches) : Read (Option Branches) := do
  skipBlanks
  match ← next? with
  | none | some ')' => return none
  | some '(' => return some (b.push (← group inner))
  | some '|' =>
    let place ← here
    skip
    return some (b.bar place (← here))
  | some '[' => return some (b.push (.bracket (← bracket ((← get).total + 1))))
  | some '?' => repetition (mark 0 (some 1)) b
  | some '*' => repetition (mark 0 none) b
  | some '+' => repetition (mark 1 none) b
  | some '{' => repetition counts b
  | some '.' =>
    let span ← nextSpan
    skip
    return some (b.push (.atom (.dot span)))
  | some '^' => anchor .lineStart
  | some '$' => anchor .lineStop
  | some _ => return some (b.push (.atom (← characterOrEscape)))
where
  anchor (a : Anchor) : Read (Option Branches) := do
    let span ← nextSpan
    skip
    return some (b.push (.atom (.anchor span a)))

/-- Reads the branches of a group, with less than `depth` groups in each other. -/
def branches : (depth : Nat) → Read Node
  | 0 => return .empty (.emptyAt (← here))
  | depth + 1 => do
    let b ← iterate (branchItem (branches depth)) (.startAt (← here))
    return b.close (← here)

/-- Reads a whole text. -/
def pattern : Read Node := do
  let node ← branches ((← get).total + 1)
  if (← next?).isSome then
    refuseNext .groupUnopened
  return node

end Read

/-- How many groups, brackets and the like may stand in each other. -/
def depthLimit : Nat := 250

/-- Reads a pattern. -/
def Node.read (text : String) : Except Flaw Node :=
  match Read.pattern (.start text) with
  | .error flaw _ => .error flaw
  | .ok node _ =>
    match node.tooDeep? depthLimit with
    | some span => .error { problem := .nestedTooDeep depthLimit, span }
    | none => .ok node

end ChipEight.Pattern
