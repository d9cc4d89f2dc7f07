import ChipEight.Pattern.CharSet
import ChipEight.Pattern.Flaw

/-!
# Pattern trees

What a pattern consists of, as it is written: every node has the part of the text that it covers.
-/

namespace ChipEight.Pattern

/-- What may be switched on and off within a pattern. -/
inductive Mode
  /-- Letters stand for both of their cases. -/
  | eitherCase
  /-- Anchors for the ends of the text hold at the ends of its lines. -/
  | manyLines
  /-- The dot stands for the end of a line as well. -/
  | dotAll
  /-- Repetitions prefer few over many; this decides where a pattern occurs, not whether. -/
  | fewFirst
  /-- Characters are those of Unicode, not bytes. -/
  | unicode
  /-- A carriage return ends a line as well. -/
  | carriageReturns
  /-- White space and comments do not count. -/
  | verbose
  deriving DecidableEq

/-- The letter that switches a mode. -/
def Mode.ofLetter? : Char → Option Mode
  | 'i' => some eitherCase
  | 'm' => some manyLines
  | 's' => some dotAll
  | 'U' => some fewFirst
  | 'u' => some unicode
  | 'R' => some carriageReturns
  | 'x' => some verbose
  | _ => none

/-- A mode with whether it is switched on. -/
structure Setting where
  mode : Mode
  on : Bool
  deriving DecidableEq

/-- What the settings say of a mode, if anything. -/
def Setting.find? (mode : Mode) (settings : List Setting) : Option Bool :=
  (settings.find? (·.mode = mode)).map (·.on)

/-- A character that stands for itself, however it is written. -/
structure Literal where
  span : Span
  char : Char
  /-- Whether it is written as a byte, with two hexadecimal digits. -/
  byte : Bool := false
  deriving DecidableEq

/-- The sets of characters with escapes of one letter. -/
inductive Shorthand
  | digit | space | word
  deriving DecidableEq

/-- The ASCII characters of a shorthand. -/
def Shorthand.ascii : Shorthand → CharSet
  | digit => .digit
  | space => .space
  | word => .word

/-- What a word boundary asks of the characters on its two sides. -/
inductive WordEdge
  /-- Just one of them belongs to a word. -/
  | any
  /-- Both of them belong to a word or neither does. -/
  | none
  /-- A word starts. -/
  | start
  /-- A word ends. -/
  | stop
  /-- No word goes on from the left. -/
  | startHalf
  /-- No word goes on to the right. -/
  | stopHalf
  deriving DecidableEq

/-- Conditions on a place in the text. -/
inductive Anchor
  | lineStart | lineStop | textStart | textStop
  | word (edge : WordEdge)
  deriving DecidableEq

/-- Operations between the two sides in a bracket. -/
inductive SetOperation
  | both | onlyLeft | justOne
  deriving DecidableEq

def SetOperation.apply : SetOperation → CharSet → CharSet → CharSet
  | both => .intersection
  | onlyLeft => .difference
  | justOne => .symmetricDifference

/-- What stands in a bracket. -/
inductive SetNode
  | empty (span : Span)
  | literal (l : Literal)
  | range (span : Span) (first last : Literal)
  /-- A set of ASCII characters by its name. -/
  | named (span : Span) (negated : Bool) (set : CharSet)
  | shorthand (span : Span) (negated : Bool) (s : Shorthand)
  | property (span : Span) (name : String)
  | bracket (span : Span) (negated : Bool) (inner : SetNode)
  | union (span : Span) (items : List SetNode)
  | operation (span : Span) (op : SetOperation) (left right : SetNode)

def SetNode.span : SetNode → Span
  | empty s | range s .. | named s .. | shorthand s .. | property s _ | bracket s .. | union s _
  | operation s .. => s
  | literal l => l.span

/-- What stands for one character or place. -/
inductive Atom
  | literal (l : Literal)
  | dot (span : Span)
  | anchor (span : Span) (a : Anchor)
  | shorthand (span : Span) (negated : Bool) (s : Shorthand)
  /-- A set of characters by the name of a property of Unicode. -/
  | property (span : Span) (name : String)
  deriving DecidableEq

def Atom.span : Atom → Span
  | literal l => l.span
  | dot s | anchor s _ | shorthand s .. | property s _ => s

/-- A pattern or a part of one. -/
inductive Node
  | empty (span : Span)
  /-- Switches modes for what follows in the group. -/
  | modes (span : Span) (settings : List Setting)
  | atom (a : Atom)
  | bracket (set : SetNode)
  /-- A repetition takes as many times as it can, or if it is lazy as few. -/
  | repetition (span : Span) (least : Nat) (most? : Option Nat) (lazily : Bool) (body : Node)
  /-- A group either switches modes for what is in it or captures what it matches. -/
  | group (span : Span) (settings? : Option (List Setting)) (body : Node)
  | alternatives (span : Span) (branches : List Node)
  | sequence (span : Span) (items : List Node)

def Node.span : Node → Span
  | empty s | modes s _ | repetition s .. | group s .. | alternatives s _ | sequence s _ => s
  | atom a => a.span
  | bracket s => s.span

/-! ## Depth -/

mutual

/-- The first part of a bracket that stands deeper than `room` brackets and the like. -/
def SetNode.tooDeep? (room : Nat) : SetNode → Option Span
  | .bracket span _ inner =>
    match room with
    | 0 => some span
    | room + 1 => inner.tooDeep? room
  | .union span items =>
    match room with
    | 0 => some span
    | room + 1 => SetNode.anyTooDeep? room items
  | .operation span _ left right =>
    match room with
    | 0 => some span
    | room + 1 => left.tooDeep? room <|> right.tooDeep? room
  | _ => none

def SetNode.anyTooDeep? (room : Nat) : List SetNode → Option Span
  | [] => none
  | n :: ns => n.tooDeep? room <|> SetNode.anyTooDeep? room ns

end

mutual

/-- The first part of a pattern that stands deeper than `room` others. -/
def Node.tooDeep? (room : Nat) : Node → Option Span
  | .bracket set => set.tooDeep? room
  | .repetition span _ _ _ body | .group span _ body =>
    match room with
    | 0 => some span
    | room + 1 => body.tooDeep? room
  | .alternatives span items | .sequence span items =>
    match room with
    | 0 => some span
    | room + 1 => Node.anyTooDeep? room items
  | _ => none

def Node.anyTooDeep? (room : Nat) : List Node → Option Span
  | [] => none
  | n :: ns => n.tooDeep? room <|> Node.anyTooDeep? room ns

end

end ChipEight.Pattern
