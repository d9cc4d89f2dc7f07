import ChipEight.Pattern.Automaton
import ChipEight.Pattern.Group
import ChipEight.Pattern.Meaning

/-!
# Patterns

A pattern says which texts to accept: those that have a part of a given form anywhere.
-/

namespace ChipEight

/-- A regular expression that has been read. -/
structure Pattern where
  expr : Pattern.Expr
  deriving DecidableEq

namespace Pattern

/-- Why a text is not taken for a pattern. -/
inductive Refusal
  | flawed (flaw : Flaw)
  /-- A search would take too much room. -/
  | tooLarge
  /-- The words of a text are known only as far as they are ASCII. -/
  | wordsUnknown
  deriving DecidableEq

/-- The lines that say why a text is refused. -/
def Refusal.report (text : String) : Refusal → List String
  | flawed flaw => flaw.report text
  | tooLarge => ["Compiled regex exceeds size limit of 10485760 bytes."]
  | wordsUnknown => ["error building NFA"]

/-- A term as a pattern, if a search for it is feasible. -/
def ofTerm (t : Term) : Except Refusal Pattern :=
  if t.isTooLarge false then .error .tooLarge
  else if t.needsWords then .error .wordsUnknown
  else if t.isTooLarge true then .error .tooLarge
  else .ok ⟨t.expr⟩

/-- Reads a pattern. -/
def read (text : String) : Except Refusal Pattern :=
  match Node.read text >>= Node.term with
  | .error flaw => .error (.flawed flaw)
  | .ok t => ofTerm t

/-- Whether a text has a part of the form that the pattern asks for. -/
def occursIn (p : Pattern) (text : String) : Bool := p.expr.search text.toList

end Pattern

end ChipEight
