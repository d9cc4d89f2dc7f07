import ChipEight.Hex
import ChipEight.Pattern.Node
import ChipEight.Pattern.Reader

/-!
# Escapes

What a backslash makes of the characters behind it.
-/

namespace ChipEight.Pattern

open Read

/-- The characters with a meaning of their own in patterns. -/
def isSpecial (c : Char) : Bool := "\\.+*?()|[]\x7b\x7d^$#&-~".toList.contains c

/-- Whether a backslash makes a character stand for itself. -/
def isEscapable (c : Char) : Bool :=
  isSpecial c || c.toNat < 0x80 && !(CharSet.alnum.contains c.toNat || c = '<' || c = '>')

/-- The control characters with escapes of one letter. -/
def control? : Char → Option Char
  | 'a' => some '\x07'
  | 'f' => some '\x0C'
  | 't' => some '\t'
  | 'n' => some '\n'
  | 'r' => some '\r'
  | 'v' => some '\x0B'
  | _ => none

/-- The anchors with escapes of one letter. -/
def Anchor.ofLetter? : Char → Option Anchor
  | 'A' => some .textStart
  | 'z' => some .textStop
  | 'b' => some (.word .any)
  | 'B' => some (.word .none)
  | '<' => some (.word .start)
  | '>' => some (.word .stop)
  | _ => none

/-- The set of a letter, and whether it is the opposite. -/
def Shorthand.ofLetter? : Char → Option (Shorthand × Bool)
  | 'd' => some (digit, false)
  | 'D' => some (digit, true)
  | 's' => some (space, false)
  | 'S' => some (space, true)
  | 'w' => some (word, false)
  | 'W' => some (word, true)
  | _ => none

/-- The word boundaries with names of their own. -/
def WordEdge.ofName? : String → Option WordEdge
  | "start" => some start
  | "end" => some stop
  | "start-half" => some startHalf
  | "end-half" => some stopHalf
  | _ => Option.none

/-- How many hexadecimal digits follow a letter. -/
def hexWidth? : Char → Option Nat
  | 'x' => some 2
  | 'u' => some 4
  | 'U' => some 8
  | _ => none

namespace Read

/-- The character of a hexadecimal number whose digits are a part of the text. -/
def character (digits : List (Fin 16)) (span : Span) : Read Char :=
  let n := digits.foldl (fun n d => 16 * n + d.val) 0
  if n.isValidChar then return .ofNat n else refuse .hexNoCharacter span

/-- Reads the next character as a hexadecimal digit, without going past it. -/
def hexDigit : Read (Fin 16) := do
  match (← next?).bind Hex.value? with
  | some d => return d
  | none => refuseNext .hexDigitInvalid

/-- Reads a number of just so many hexadecimal digits. -/
def fixedHex (start : Position) (width : Nat) : Read Literal := do
  let first ← here
  let digits ← (List.range width).mapM fun i => do
    if i ≠ 0 then
      skipOn
    if (← next?).isNone then
      refuseNext .escapeUnfinished
    hexDigit
  skipOn
  let char ← character digits (← since first)
  return { span := ← since start, char, byte := width = 2 }

/-- Reads a number in braces. -/
def bracedHex (start : Position) : Read Literal := do
  let brace ← nextSpan
  skipOn
  let digits ← many do
    match ← next? with
    | none | some '}' => return none
    | some _ =>
      let d ← hexDigit
      skipOn
      return some d
  if (← next?).isNone then
    refuse .escapeUnfinished (← since brace.start)
  let digitsSpan ← since brace.stop
  skipOn
  if digits.isEmpty then
    refuse .hexEmpty (← since brace.start)
  let char ← character digits digitsSpan
  return { span := ← since start, char }

/-- Reads a character given by its number, from the letter on that says how. -/
def hexLiteral (start : Position) (width : Nat) : Read Literal := do
  skipOn
  match ← next? with
  | none => refuseNext .escapeUnfinished
  | some '{' => bracedHex start
  | some _ => fixedHex start width

/-- Reads the name of a property, from the letter before it on: a name in braces, or one letter. -/
def propertyName : Read String := do
  skipOn
  match ← next? with
  | none => refuseNext .escapeUnfinished
  | some '{' =>
    skipOn
    let name ← many do
      match ← next? with
      | none | some '}' => return none
      | some c =>
        skipOn
        return some c
    if (← next?).isNone then
      refuseNext .escapeUnfinished
    skip
    return .ofList name
  | some '\\' => refuseNext .propertyInvalid
  | some c =>
    skipOn
    return .singleton c

/-- Reads the name of a word boundary in braces. What cannot start such a name is left, for it may
be a repetition. -/
def namedEdge? (start : Position) : Read (Option WordEdge) := do
  let before ← get
  skipOn
  let first ← here
  let isPart (c : Char) : Bool := CharSet.alpha.contains c.toNat || c = '-'
  let c ← nextOr do refuse .boundaryOrCount (← since start)
  if !isPart c then
    set before
    return none
  let name ← many do
    match ← next? with
    | none => return none
    | some c =>
      if isPart c then
        skipOn
        return some c
      else
        return none
  if (← next?) ≠ some '}' then
    refuse .boundaryUnclosed (← since before.place)
  let nameSpan ← since first
  skip
  match WordEdge.ofName? (.ofList name) with
  | some edge => return some edge
  | none => refuse .boundaryUnknown nameSpan

/-- Reads an escape, from the backslash on. -/
def escape : Read Atom := do
  let start ← here
  skip
  let c ← nextOr do refuse .escapeUnfinished (← since start)
  if CharSet.digit.contains c.toNat then
    skip
    refuse .backreference (← since start)
  else if let some width := hexWidth? c then
    return .literal (← hexLiteral start width)
  else if c = 'p' || c = 'P' then
    let name ← propertyName
    return .property (← since start) name
  else
    skip
    let span ← since start
    if let some (s, negated) := Shorthand.ofLetter? c then
      return .shorthand span negated s
    else if isEscapable c then
      return .literal { span, char := c }
    else if let some char := control? c then
      return .literal { span, char }
    else if c = 'b' && (← next?) = some '{' then
      let edge? ← namedEdge? start
      return .anchor (← since start) (.word (edge?.getD .any))
    else if let some a := Anchor.ofLetter? c then
      return .anchor span a
    else
      refuse .escapeUnknown span

/-- Reads one character, or an escape. -/
def characterOrEscape : Read Atom := do
  match ← next? with
  | some '\\' => escape
  | c? =>
    let span ← nextSpan
    skip
    return .literal { span, char := c?.getD '\x00' }

end Read

end ChipEight.Pattern
