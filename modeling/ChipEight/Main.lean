import ChipEight.CommandLine.Outcome

/-!
# The executable

Reads the file, the clock and the environment for `CommandLine.outcome`, and differs from it only in
time: log lines appear as they arise, and cycles are paced.
-/

namespace ChipEight.CommandLine

/-- The bytes of a file, or why there are none. -/
def readProgram (path : String) : IO (Except ReadError (List UInt8)) := do
  try
    return .ok (← IO.FS.readBinFile path).toList
  catch
    | .noFileOrDirectory .. => return .error .notFound
    | .permissionDenied .. => return .error .permissionDenied
    | .inappropriateType _ code _ =>
      return .error (if code = 21 then .isADirectory else .notADirectory)
    | .invalidArgument .. => return .error .nameTooLong
    | e => return .error (.other 5 (toString e))

/-- A seed that no one chose. -/
def entropy : IO UInt64 := do
  let bytes ← IO.getRandomBytes 8
  return bytes.foldl (fun n b => 256 * n + b.toUInt64) 0

/-- Writes out what was logged, and forgets it. -/
def flushLog (s : Session) : IO Session := do
  for entry in s.log do
    IO.eprintln entry.line
  return { s with log := #[] }

/-- Runs like `Session.run`, with every cycle padded to `period` nanoseconds from `since` on. -/
def runPaced (keys : Keypad) (period : Nat) :
    (budget since : Nat) → Session → IO (Session × Option Fault)
  | 0, _, s => return (s, none)
  | budget + 1, since, s => do
    let (s, fault?) := s.cycle keys
    let s ← flushLog s
    match fault? with
    | some e => return (s, some e)
    | none =>
      let elapsed := (← IO.monoNanosNow) - since
      if elapsed < period then
        IO.sleep (.ofNat ((period - elapsed) / 1000000))
      runPaced keys period budget (← IO.monoNanosNow) s

/-- Carries out a request, and answers with the exit code. -/
def perform (r : Request) (logging : String) : IO UInt32 := do
  let program ← readProgram r.program
  match r.start { logging, entropy := ← entropy, contentsOf := fun _ => program } with
  | .error cause =>
    IO.eprintln (Request.failure cause)
    return 1
  | .ok session =>
    let session ← flushLog session
    let (session, fault?) ← runPaced r.keys r.period r.budget (← IO.monoNanosNow) session
    let session ← flushLog session.close
    IO.println session.summary
    match fault? with
    | none => return 0
    | some e =>
      IO.eprintln (Request.failure e.record)
      return 1

end ChipEight.CommandLine

open ChipEight ChipEight.CommandLine in
/-- Runs the program named on the command line. -/
def main (args : List String) : IO UInt32 := do
  -- filters of logs are looked for in this variable by convention
  let logging := (← IO.getEnv "RUST_LOG").getD ""
  for complaint in (Log.Filter.read logging).2 do
    IO.eprintln complaint.message
  match Request.parse args with
  | .ok request => perform request logging
  | .error stop =>
    let outcome := stop.outcome
    IO.print outcome.stdout
    for line in outcome.stderr do
      IO.eprintln line
    return .ofNat outcome.exitCode
