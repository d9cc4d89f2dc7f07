import ChipEight.Log.Filter
import ChipEight.Machine.Basic

/-!
# Headless sessions

A session runs one program without a display: every cycle it holds the same keys, performs a step,
and counts a frame if the screen was drawn on. It listens to the tones itself and logs them by
number. Of the log it keeps the entries that its filter lets through.

* `run_add`: a budget can be spent in two parts.
-/

namespace ChipEight

/-- A program under way. -/
structure Session where
  machine : Machine
  filter : Log.Filter
  /-- Successful cycles so far. -/
  cycles : Nat := 0
  /-- Cycles after which the screen had to be shown again. -/
  frames : Nat := 0
  /-- Tones so far. -/
  beeps : Nat := 0
  log : Array Log.Entry := #[]

namespace Session

/-- Nanoseconds per cycle unless the user asks for another pace. -/
def defaultPeriod : UInt64 := 8000000

/-- The speaker that a session links. -/
def speaker : Speaker := .listener 0

/-- Logs an entry if the filter lets it through. -/
def note (s : Session) (level : Log.Level) (target : Log.Target) (message : Unit → String) :
    Session :=
  if s.filter.passes level target then
    let entry : Log.Entry := ⟨level, target, message ()⟩
    if s.filter.accepts entry.message then { s with log := s.log.push entry } else s
  else s

/-- Takes up an event of the machine: notices are logged, tones are numbered and logged. -/
def hear (s : Session) : Event → Session
  | .notice n => s.note n.level .engine fun _ => n.message
  | .tone _ =>
    let count := s.beeps + 1
    { s with beeps := count }.note .info .runner fun _ => "beep #" ++ toString count

/-- A session with the program loaded; `path` is the name that the log gives it. -/
def start (machine : Machine) (filter : Log.Filter) (path : String) (program : List UInt8) :
    Except Fault Session :=
  let (machine, report) := (machine.link speaker).load program
  match report.fault? with
  | some e => .error e
  | none => .ok <|
    (report.events.foldl hear { machine, filter }).note .info .runner fun _ =>
      "loaded " ++ path ++ " (" ++ toString program.length ++ " bytes)"

/-- One cycle with the given keys held, and the fault that it met. -/
def cycle (keys : Keypad) (s : Session) : Session × Option Fault :=
  let (machine, report) := (s.machine.setKeys keys).step
  let s := report.events.foldl hear { s with machine }
  match report.fault? with
  | some e =>
    (s.note .error .runner fun _ =>
      "halted after " ++ toString s.cycles ++ " cycles at " ++ Fault.place s.machine.state.pc ++
        ": " ++ e.message, some e)
  | none =>
    -- showing the screen is all that there is to a frame
    let (machine, drawn) := s.machine.takeRedraw
    ({ s with machine, cycles := s.cycles + 1, frames := s.frames + drawn.toNat }, none)

/-- Spends up to `budget` cycles, and stops at the first fault. -/
def run (keys : Keypad) : (budget : Nat) → Session → Session × Option Fault
  | 0, s => (s, none)
  | budget + 1, s =>
    match s.cycle keys with
    | (s, none) => run keys budget s
    | (s, some e) => (s, some e)

/-- A budget can be spent in two parts; the second is left alone after a fault in the first. -/
theorem run_add (keys : Keypad) (a b : Nat) (s : Session) :
    run keys (a + b) s =
      match run keys a s with
      | (s, none) => run keys b s
      | (s, some e) => (s, some e) := by
  induction a generalizing s with
  | zero => rw [Nat.zero_add, run]
  | succ a ih =>
    rw [Nat.succ_add, run, run]
    rcases s.cycle keys with ⟨t, _ | e⟩
    · exact ih t
    · rfl

/-- Logs what the session came to. -/
def close (s : Session) : Session :=
  s.note .info .runner fun _ =>
    toString s.cycles ++ " cycles, " ++ toString s.frames ++ " frames"

/-- The registers at the end. -/
def summary (s : Session) : String :=
  "pc " ++ Hex.fixed 4 s.machine.state.pc.toNat ++ " i " ++ Hex.fixed 4 s.machine.state.i.toNat ++
    " v " ++ s.machine.state.v.text

end Session

end ChipEight
