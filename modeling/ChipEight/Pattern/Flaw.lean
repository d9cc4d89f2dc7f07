import ChipEight.Text

/-!
# Flaws of patterns

A flaw is what keeps a text from being a pattern, with the part of the text to blame. Its report
shows the text with marks under that part.
-/

namespace ChipEight.Pattern

/-- A place in a text. Lines and columns count from 1, a column for each character. -/
structure Position where
  line : Nat := 1
  column : Nat := 1
  deriving DecidableEq

namespace Position

/-- The place behind a character. -/
def past (p : Position) (c : Char) : Position :=
  if c = '\n' then ⟨p.line + 1, 1⟩ else ⟨p.line, p.column + 1⟩

/-- Whether a place comes before another. -/
def isBefore (p q : Position) : Bool :=
  p.line < q.line || p.line = q.line && p.column < q.column

end Position

/-- A part of a text, from its first place to the one behind it. -/
structure Span where
  start : Position
  stop : Position
  deriving DecidableEq

namespace Span

/-- The part without a character at a place. -/
def emptyAt (p : Position) : Span := ⟨p, p⟩

def onOneLine (s : Span) : Bool := s.start.line = s.stop.line

/-- How many marks show a part on one line; an empty part has one as well. -/
def width (s : Span) : Nat := max 1 (s.stop.column - s.start.column)

end Span

/-- What can be wrong with a text. -/
inductive Problem
  | groupUnclosed | groupUnopened
  | groupNameEmpty | groupNameCharacter | groupNameUnclosed | groupNameTaken
  | lookAround
  | modeTwice | modeUnknown | modeMissing | negationTwice | negationDangling
  | repetitionOfNothing
  | countUnclosed | countMissing | countTooLarge | countsReversed
  | escapeUnfinished | escapeUnknown | backreference
  | hexDigitInvalid | hexEmpty | hexNoCharacter
  | propertyInvalid
  | boundaryOrCount | boundaryUnclosed | boundaryUnknown
  | bracketUnclosed | rangeReversed | rangeOfNoCharacters | escapeInBracket
  /-- Groups, brackets and the like stand deeper in each other than a limit. -/
  | nestedTooDeep (limit : Nat)
  /-- A character of no byte where characters are bytes. -/
  | notAByte
  /-- Bytes would match that are no part of a text. -/
  | notText
  | propertyUnknown | propertyValueUnknown
  | shorthandUnavailable
  | caseUnavailable
  deriving DecidableEq

/-- What a report says of a problem. -/
def Problem.message : Problem → String
  | groupUnclosed => "unclosed group"
  | groupUnopened => "unopened group"
  | groupNameEmpty => "empty capture group name"
  | groupNameCharacter => "invalid capture group character"
  | groupNameUnclosed => "unclosed capture group name"
  | groupNameTaken => "duplicate capture group name"
  | lookAround => "look-around, including look-ahead and look-behind, is not supported"
  | modeTwice => "duplicate flag"
  | modeUnknown => "unrecognized flag"
  | modeMissing => "expected flag but got end of regex"
  | negationTwice => "flag negation operator repeated"
  | negationDangling => "dangling flag negation operator"
  | repetitionOfNothing => "repetition operator missing expression"
  | countUnclosed => "unclosed counted repetition"
  | countMissing => "repetition quantifier expects a valid decimal"
  | countTooLarge => "decimal literal invalid"
  | countsReversed => "invalid repetition count range, the start must be <= the end"
  | escapeUnfinished => "incomplete escape sequence, reached end of pattern prematurely"
  | escapeUnknown => "unrecognized escape sequence"
  | backreference => "backreferences are not supported"
  | hexDigitInvalid => "invalid hexadecimal digit"
  | hexEmpty => "hexadecimal literal empty"
  | hexNoCharacter => "hexadecimal literal is not a Unicode scalar value"
  | propertyInvalid => "invalid Unicode character class"
  | boundaryOrCount =>
    "found either the beginning of a special word boundary or a bounded repetition on a \\b " ++
      "with an opening brace, but no closing brace"
  | boundaryUnclosed =>
    "special word boundary assertion is either unclosed or contains an invalid character"
  | boundaryUnknown =>
    "unrecognized special word boundary assertion, valid choices are: " ++
      "start, end, start-half or end-half"
  | bracketUnclosed => "unclosed character class"
  | rangeReversed => "invalid character class range, the start must be <= the end"
  | rangeOfNoCharacters => "invalid range boundary, must be a literal"
  | escapeInBracket => "invalid escape sequence found in character class"
  | nestedTooDeep limit =>
    "exceed the maximum number of nested parentheses/brackets (" ++ toString limit ++ ")"
  | notAByte => "Unicode not allowed here"
  | notText => "pattern can match invalid UTF-8"
  | propertyUnknown => "Unicode property not found"
  | propertyValueUnknown => "Unicode property value not found"
  | shorthandUnavailable =>
    "Unicode-aware Perl class not found (make sure the unicode-perl feature is enabled)"
  | caseUnavailable =>
    "Unicode-aware case insensitivity matching is not available " ++
      "(make sure the unicode-case feature is enabled)"

/-- A problem with the part of the text that has it, and with an earlier part that this part should
not repeat. -/
structure Flaw where
  problem : Problem
  span : Span
  earlier? : Option Span := none
  deriving DecidableEq

/-- Marks under parts of one line, from left to right, with the first character of the line under
`column`. -/
def marks (column : Nat) : List Span → String
  | [] => ""
  | s :: spans =>
    String.ofList (List.replicate (s.start.column - column) ' ' ++ List.replicate s.width '^') ++
      marks (max column s.start.column + s.width) spans

namespace Flaw

/-- The parts to show, in their order in the text. -/
def spans (f : Flaw) : List Span :=
  match f.earlier? with
  | none => [f.span]
  | some e => if e.start.isBefore f.span.start then [e, f.span] else [f.span, e]

/-- The lines of a text with the marks under them, where `label` stands before each line. -/
def annotated (f : Flaw) (label : Nat → String) (lines : List String) : List String :=
  lines.zipIdx.flatMap fun (line, i) =>
    let shown := label (i + 1) ++ line
    match f.spans.filter fun s => s.onOneLine && s.start.line = i + 1 with
    | [] => [shown]
    | spans => [shown, String.ofList (List.replicate (label (i + 1)).length ' ') ++ marks 1 spans]

/-- Numbers the lines of a text, right-aligned to the last number. -/
def numbered (count : Nat) (i : Nat) : String :=
  let number := toString i
  String.ofList (List.replicate ((toString count).length - number.length) ' ') ++ number ++ ": "

/-- Where a part is that goes over several lines. -/
def extent (s : Span) : String :=
  "on line " ++ toString s.start.line ++ " (column " ++ toString s.start.column ++
    ") through line " ++ toString s.stop.line ++ " (column " ++ toString (s.stop.column - 1) ++ ")"

/-- The report on a text with a flaw, in lines. A text of several lines is shown with their numbers,
between two rules. -/
def report (f : Flaw) (text : String) : List String :=
  let error := "error: " ++ f.problem.message
  let lines := Text.lines text
  "regex parse error:" ::
    match text.splitOn "\n" with
    | [_] => f.annotated (fun _ => "    ") lines ++ [error]
    | all =>
      let rule := String.ofList (List.replicate 79 '~')
      rule :: f.annotated (numbered all.length) lines ++
        rule :: (f.spans.filter (!·.onOneLine)).map extent ++ [error]

end Flaw

end ChipEight.Pattern
