import ChipEight.Pattern.Term

/-!
# Meanings of patterns

The term that a pattern stands for under the modes in force. There is no knowledge of Unicode
beyond its characters, so that the shorthands, the properties and the other cases of letters are
refused unless the mode for ASCII is on; and where characters are bytes, whatever could match a part
of a longer character is refused.
-/

namespace ChipEight.Pattern

/-- The modes that decide what a pattern means. -/
structure Modes where
  eitherCase : Bool := false
  manyLines : Bool := false
  dotAll : Bool := false
  unicode : Bool := true
  carriageReturns : Bool := false
  fewFirst : Bool := false
  deriving DecidableEq

/-- The modes after one has been switched. -/
def Modes.switch (m : Modes) (s : Setting) : Modes :=
  match s.mode with
  | .eitherCase => { m with eitherCase := s.on }
  | .manyLines => { m with manyLines := s.on }
  | .dotAll => { m with dotAll := s.on }
  | .unicode => { m with unicode := s.on }
  | .carriageReturns => { m with carriageReturns := s.on }
  | .fewFirst => { m with fewFirst := s.on }
  | .verbose => m

def Modes.switchAll (m : Modes) (settings : List Setting) : Modes := settings.foldl Modes.switch m

/-- A result, or the flaw that prevents it. -/
abbrev Judged := Except Flaw

namespace Modes

variable (m : Modes)

def refuse {α : Type} (problem : Problem) (span : Span) : Judged α := .error { problem, span }

/-- The code point of a character; where characters are bytes, a byte beyond ASCII is refused. -/
def code (l : Literal) : Judged Nat :=
  if !m.unicode && l.byte && 0x80 ≤ l.char.toNat then refuse .notText l.span
  else .ok l.char.toNat

/-- The code point of a character in a bracket. -/
def codeInBracket (l : Literal) : Judged Nat := do
  let n ← m.code l
  if !m.unicode && 0x80 ≤ n then refuse .notAByte l.span else return n

/-- A set as the modes have it, or its opposite. -/
def settle (span : Span) (negated : Bool) (set : CharSet) : Judged CharSet := do
  if m.unicode && m.eitherCase && set.mentions then
    refuse .caseUnavailable span
  let set := if m.eitherCase then set.eitherCase else set
  let set := if negated then set.complement else set
  if !m.unicode && !set.isAscii then
    refuse .notText span
  return set

/-- A set of ASCII characters by its shorthand, or its opposite. -/
def shorthand (span : Span) (negated : Bool) (s : Shorthand) : Judged CharSet :=
  if m.unicode then refuse .shorthandUnavailable span
  else if negated then refuse .notText span
  else .ok s.ascii

/-- No property of Unicode is known. -/
def property {α : Type} (span : Span) (name : String) : Judged α :=
  if !m.unicode then refuse .notAByte span
  else if !name.toList.any (fun c => c = ':' || c = '=') && ["cf", "sc", "lc"].contains (plain name)
  then refuse .propertyValueUnknown span
  else refuse .propertyUnknown span
where
  /-- A name in lower case, without the signs that separate words and without a leading `is`. -/
  plain (name : String) : String :=
    let letters := name.toList.map Char.toLower
    let letters := if "is".toList.isPrefixOf letters then letters.drop 2 else letters
    .ofList (letters.filter fun c => !(c = ' ' || c = '_' || c = '-') && c.toNat < 0x80)

def dot (span : Span) : Judged CharSet :=
  if !m.unicode then refuse .notText span
  else if m.dotAll then .ok .all
  else if m.carriageReturns then .ok (CharSet.join [.single '\n', .single '\r']).complement
  else .ok (CharSet.single '\n').complement

def look : Anchor → Look
  | .lineStart => if m.manyLines then .lineStart m.carriageReturns else .textStart
  | .lineStop => if m.manyLines then .lineStop m.carriageReturns else .textStop
  | .textStart => .textStart
  | .textStop => .textStop
  | .word edge => .word edge m.unicode

/-- A character outside brackets. -/
def literal (l : Literal) : Judged CharSet := do
  let n ← m.code l
  let set := CharSet.range n n
  if !m.eitherCase then return set
  else if m.unicode then refuse .caseUnavailable l.span
  else return set.eitherCase

/-- One character of a set. -/
def oneOf (set : CharSet) : Term := .oneOf (!m.unicode) set.ranges

def atom : Atom → Judged Term
  | .literal l => m.oneOf <$> m.literal l
  | .dot span => m.oneOf <$> m.dot span
  | .anchor _ a => .ok (.look (m.look a))
  | .shorthand span negated s => m.oneOf <$> m.shorthand span negated s
  | .property span name => m.property span name

end Modes

mutual

/-- The members of a set in a bracket. -/
def SetNode.members (m : Modes) : SetNode → Judged CharSet
  | .empty _ => .ok .none
  | .literal l => do
    let n ← m.codeInBracket l
    return .range n n
  | .range _ first last => return .range (← m.codeInBracket first) (← m.codeInBracket last)
  | .named span negated set => m.settle span negated set
  | .shorthand span negated s => m.shorthand span negated s
  | .property span name => m.property span name
  | .bracket span negated inner => do m.settle span negated (← inner.members m)
  | .union _ items => return CharSet.join (← SetNode.membersOfAll m items)
  | .operation _ op left right => do
    let s ← left.members m
    let t ← right.members m
    let t ← m.settle right.span false t
    let s ← m.settle left.span false s
    return op.apply s t

def SetNode.membersOfAll (m : Modes) : List SetNode → Judged (List CharSet)
  | [] => .ok []
  | n :: ns => return (← n.members m) :: (← SetNode.membersOfAll m ns)

end

/-- The meaning of a part of a pattern may change the modes for what follows. -/
abbrev Meaning := StateT Modes Judged

mutual

def Node.meaning : Node → Meaning Term
  | .empty _ => return .empty
  | .modes _ settings => do
    modify (·.switchAll settings)
    return .empty
  | .atom a => do (← get).atom a
  | .bracket set => do
    let m ← get
    return m.oneOf (← set.members m)
  | .repetition _ least most? lazily body => do
    let t ← body.meaning
    return .repeated least most? (lazily != (← get).fewFirst) t
  | .group span settings? body => do
    let outside ← get
    set (outside.switchAll (settings?.getD []))
    let t ← body.meaning
    set outside
    return if settings?.isNone then .capture span.start t else t
  | .alternatives _ branches => return .anyOf (← Node.meanings branches)
  | .sequence _ items => return .inOrder (← Node.meanings items)

def Node.meanings : List Node → Meaning (List Term)
  | [] => return []
  | n :: ns => return (← n.meaning) :: (← Node.meanings ns)

end

/-- The term of a whole pattern. -/
def Node.term (n : Node) : Judged Term := n.meaning.run' {}

end ChipEight.Pattern
