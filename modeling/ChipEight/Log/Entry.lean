import ChipEight.Text

/-!
# Log entries

An entry has a level, a target that says which part of the program it comes from, and a message.
-/

namespace ChipEight.Log

/-- How much an entry matters, the most severe first. -/
inductive Level
  | error | warn | info | debug | trace
  deriving DecidableEq

namespace Level

def name : Level → String
  | error => "ERROR"
  | warn => "WARN"
  | info => "INFO"
  | debug => "DEBUG"
  | trace => "TRACE"

/-- The place in the order of severity; a smaller rank is more severe. -/
def rank : Level → Nat
  | error => 1
  | warn => 2
  | info => 3
  | debug => 4
  | trace => 5

end Level

/-- The part of the program that an entry comes from. -/
inductive Target
  /-- The machine itself. -/
  | engine
  /-- The loop that drives it. -/
  | runner
  deriving DecidableEq

/-- The path under which a target is known. -/
def Target.path : Target → String
  | engine => "emu8::chip8"
  | runner => "chip8::run"

/-- One entry. -/
structure Entry where
  level : Level
  target : Target
  message : String
  deriving DecidableEq

/-- The entry as one line. -/
def Entry.line (e : Entry) : String :=
  "[" ++ Text.column 5 e.level.name ++ " " ++ e.target.path ++ "] " ++ e.message

end ChipEight.Log
