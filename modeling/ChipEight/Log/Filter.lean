import ChipEight.Log.Entry
import ChipEight.Pattern.Basic

/-!
# Log filters

A filter decides which entries are shown. It is read from directives separated by commas: a level
for all targets, a target, or `target=level`, where a target stands for all that start with it.
What stands behind a slash is a pattern that occurs in the shown messages. A directive or a pattern
that makes no sense is left out with a complaint. Of two directives for the same target the later
replaces the earlier and takes its place; of several that apply to an entry the longest target
decides, and of equally long ones the last.
-/

namespace ChipEight.Log

/-- Show entries from a level on, or not at all. -/
structure Directive where
  /-- The start of the targets that this is about. Without one it is about all of them; so is the
  empty start, but the two count as different targets. -/
  path? : Option String
  threshold : Option Level
  deriving DecidableEq

/-- What was wrong with the text of a filter. -/
inductive Complaint
  /-- A directive has more than two sides. -/
  | badDirective (text : String)
  /-- What stands in the place of a level is none. -/
  | badLevel (text : String)
  /-- There are more slashes than one, so that nothing of the text counts. -/
  | manySlashes (text : String)
  /-- What stands behind the slash is no pattern. -/
  | badPattern (text : String) (refusal : Pattern.Refusal)
  deriving DecidableEq

/-- The warning of a complaint. -/
def Complaint.message : Complaint → String
  | badDirective text => ignoring text
  | badLevel text => ignoring text
  | manySlashes text => ignoring text ++ " (too many '/'s)"
  | badPattern text refusal =>
    "warning: invalid regex filter - " ++ "\n".intercalate (refusal.report text)
where
  ignoring (text : String) : String := "warning: invalid logging spec '" ++ text ++ "', ignoring it"

/-- The lines of the warning of a complaint. -/
def Complaint.lines (c : Complaint) : List String := Text.lines (c.message ++ "\n")

/-- A threshold by its name in any case; the outer `none` means that the name is no threshold. -/
def threshold? (name : String) : Option (Option Level) :=
  match name.toUpper with
  | "OFF" => some none
  | "ERROR" => some (some .error)
  | "WARN" => some (some .warn)
  | "INFO" => some (some .info)
  | "DEBUG" => some (some .debug)
  | "TRACE" => some (some .trace)
  | _ => none

namespace Directive

/-- The start that a target needs to have. -/
def start (d : Directive) : String := d.path?.getD ""

def applies (d : Directive) (target : Target) : Bool :=
  d.start.toList.isPrefixOf target.path.toList

/-- Whether the threshold admits a level. -/
def admits (d : Directive) (level : Level) : Bool :=
  match d.threshold with
  | none => false
  | some t => level.rank ≤ t.rank

/-- Reads one directive. -/
def read (s : String) : Except Complaint Directive :=
  match s.splitOn "=" with
  | [part] =>
    match threshold? part with
    | some t => .ok ⟨none, t⟩
    | none => .ok ⟨some part, some .trace⟩
  | [path, level] =>
    match Text.trim level with
    | "" => .ok ⟨some path, some .trace⟩
    | level =>
      match threshold? level with
      | some t => .ok ⟨some path, t⟩
      | none => .error (.badLevel level)
  | _ => .error (.badDirective s)

/-- Takes up a directive: in the place of the one for the same target, or else at the end. -/
def put (d : Directive) : List Directive → List Directive
  | [] => [d]
  | e :: es => if e.path? = d.path? then d :: es else e :: put d es

end Directive

/-- What is shown. -/
structure Filter where
  /-- For different targets, in the order in which these were first named. -/
  directives : List Directive
  /-- Occurs in every message shown. -/
  pattern? : Option Pattern := none
  deriving DecidableEq

namespace Filter

/-- Errors alone, whatever their target. -/
def errorsOnly : Filter := { directives := [⟨none, some .error⟩] }

/-- Reads the directives before a slash and the pattern behind it; without any directive that makes
sense, only errors are shown. -/
def ofParts (directives : String) (pattern? : Option String) : Filter × List Complaint :=
  let parts := ((directives.splitOn ",").map Text.trim).filter (· ≠ "")
  let readings := parts.map Directive.read
  let complaints := readings.filterMap fun
    | .error e => some e
    | .ok _ => none
  let directives :=
    match (readings.filterMap Except.toOption).foldl (fun ds d => d.put ds) [] with
    | [] => errorsOnly.directives
    | ds => ds
  match pattern?.map fun text => (text, Pattern.read text) with
  | none => ({ directives }, complaints)
  | some (_, .ok pattern) => ({ directives, pattern? := some pattern }, complaints)
  | some (text, .error refusal) => ({ directives }, complaints ++ [.badPattern text refusal])

/-- Reads a filter, and complains of what makes no sense. -/
def read (s : String) : Filter × List Complaint :=
  match s.splitOn "/" with
  | [directives] => ofParts directives none
  | [directives, pattern] => ofParts directives (some pattern)
  | _ => (errorsOnly, [.manySlashes s])

/-- The directive that decides on a target: of those that apply, the last of the longest. -/
def deciding? (f : Filter) (target : Target) : Option Directive :=
  (f.directives.filter (·.applies target)).foldl (fun best? d =>
    match best? with
    | some b => if b.start.length ≤ d.start.length then some d else best?
    | none => some d) none

/-- Whether entries of a level and a target are shown, as far as these go. -/
def passes (f : Filter) (level : Level) (target : Target) : Bool :=
  match f.deciding? target with
  | some d => d.admits level
  | none => false

/-- Whether a message has the form that it needs to be shown. -/
def accepts (f : Filter) (message : String) : Bool := f.pattern?.all (·.occursIn message)

end Filter

end ChipEight.Log
