import ChipEight.CommandLine.Arguments
import ChipEight.CommandLine.Files
import ChipEight.Session

/-!
# Outcomes

What the program writes and the code it exits with, for any arguments and any way of reading files.
Usage errors exit with 2, failures to read, load or run with 1. Before anything else the program
warns of whatever makes no sense in the filter of its log.
-/

namespace ChipEight.CommandLine

/-- What the program depends on besides its arguments. -/
structure Environment where
  /-- The text of the log's filter; empty if there is none. -/
  logging : String := ""
  /-- The seed of a run that names none. -/
  entropy : UInt64
  /-- The bytes of the file of a name. -/
  contentsOf : String → Except ReadError (List UInt8)

/-- What is shown of the log. -/
def Environment.filter (env : Environment) : Log.Filter := (Log.Filter.read env.logging).1

/-- The lines that warn of the text of the log's filter. -/
def Environment.warnings (env : Environment) : List String :=
  (Log.Filter.read env.logging).2.flatMap Log.Complaint.lines

/-- What the program leaves behind. -/
structure Outcome where
  exitCode : Nat
  stdout : String := ""
  /-- The lines on the error stream. -/
  stderr : List String := []
  deriving DecidableEq

/-- The name and the number of the program. -/
def versionText : String := "chip8 0.1.0"

def helpText : String :=
  "Runs a Chip-8 program headlessly, pacing one cycle per clock period.\n\n" ++
  "Usage: chip8 [OPTIONS] <ROM>\n\n" ++
  "Arguments:\n" ++
  "  <ROM>  Path to the program image\n\n" ++
  "Options:\n" ++
  "  -c, --cycles <CYCLES>            Stop after this many cycles instead of running forever\n" ++
  "      --clock-speed <CLOCK_SPEED>  Nanoseconds per cycle [default: 8000000]\n" ++
  "  -f, --fast                       Ignore the clock speed and run as fast as possible\n" ++
  "  -s, --seed <SEED>                Seed for the random number generator\n" ++
  "  -k, --keys <KEYS>                " ++
  "Hex digits of keys held down for the whole run, e.g. `5a`\n" ++
  "  -h, --help                       Print help\n" ++
  "  -V, --version                    Print version"

namespace Stop

/-- What the program leaves behind when there is nothing to run. -/
def outcome : Stop → Outcome
  | .error e => { exitCode := 2, stderr := ["error: " ++ e.message] }
  | .help => { exitCode := 0, stdout := helpText ++ "\n" }
  | .version => { exitCode := 0, stdout := versionText ++ "\n" }

end Stop

namespace Request

/-- The cycles that a run may take. Cycles are counted in 64 bits, so that a run without a limit of
its own ends when the count does. -/
def budget (r : Request) : Nat :=
  match r.options.cycles? with
  | some n => n.toNat
  | none => UInt64.size

/-- The keys held during a run. -/
def keys (r : Request) : Keypad := r.options.keys?.getD .released

/-- The pause that a cycle is padded to, in nanoseconds; none in a fast run. -/
def period (r : Request) : Nat :=
  if r.options.fast then 0 else (r.options.clockSpeed?.getD Session.defaultPeriod).toNat

/-- The session of a request with its program loaded, or the record of what prevented it. -/
def start (r : Request) (env : Environment) : Except Record Session :=
  match env.contentsOf r.program with
  | .error e => .error e.record
  | .ok program =>
    let machine := Machine.seeded (r.options.seed?.getD env.entropy)
    match Session.start machine env.filter r.program program with
    | .error e => .error e.record
    | .ok session => .ok session

/-- The last line of a failed run. -/
def failure (cause : Record) : String := "Error: " ++ cause.text

/-- Carries out a request. -/
def outcome (r : Request) (env : Environment) : Outcome :=
  match r.start env with
  | .error cause => { exitCode := 1, stderr := [failure cause] }
  | .ok session =>
    let (session, fault?) := session.run r.keys r.budget
    let session := session.close
    let lines := session.log.toList.map Log.Entry.line
    let stdout := session.summary ++ "\n"
    match fault? with
    | none => { exitCode := 0, stdout, stderr := lines }
    | some e => { exitCode := 1, stdout, stderr := lines ++ [failure e.record] }

end Request

/-- What the program does with its arguments. -/
def outcome (env : Environment) (args : List String) : Outcome :=
  let o := match Request.parse args with
    | .error stop => stop.outcome
    | .ok request => request.outcome env
  { o with stderr := env.warnings ++ o.stderr }

end ChipEight.CommandLine
