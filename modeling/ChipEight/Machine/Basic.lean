import ChipEight.Instruction.Decode
import ChipEight.Machine.Event
import ChipEight.Random.ChaCha

/-!
# The machine

A core with a speaker. Its owner loads programs, holds keys, shows the screen, and asks for one
cycle at a time: fetch the word at the program counter, decode it, execute it, and let the timers
tick. A cycle that fails anywhere ends there.
-/

namespace ChipEight

/-- A core and the speaker that hears its tones. -/
structure Machine extends Core where
  speaker : Speaker := .mute

/-- What a call came to: the fault it failed with, if it did, and the events on the way. -/
structure Report where
  fault? : Option Fault := none
  events : List Event := []
  deriving DecidableEq

namespace Machine

/-- A machine that was just switched on, with the random words of a seed. -/
def seeded (seed : UInt64) : Machine := { source := .seeded seed }

/-- Copies a program into memory; nothing else changes. -/
def load (m : Machine) (program : List UInt8) : Machine × Report :=
  if program.length ≤ Memory.programLimit then
    ({ m with state.memory := overlay m.state.memory Memory.programStart.toNat program },
      { events := [.notice (.loaded program.length)] })
  else (m, { fault? := some (.programTooLarge program.length Memory.programLimit) })

/-- Lets the timers tick at the end of a cycle. -/
def tick (m : Machine) : Machine × List Event :=
  let (state, sounding) := m.state.tick
  ({ m with state }, if sounding then [.tone m.speaker] else [])

/-- Performs one cycle. -/
def step (m : Machine) : Machine × Report :=
  let s := m.state
  match s.memory.word s.pc.toNat with
  | .error e => (m, ⟨some e, [.notice (.failed s.pc e)]⟩)
  | .ok op =>
    match Instruction.decode op s.pc with
    | .error e => (m, ⟨some e, [.notice (.failed s.pc e)]⟩)
    | .ok instruction =>
      let trace := Event.notice (.decoded s.pc op instruction s.v s.i)
      match instruction.execute.run m.toCore with
      | .error e core => ({ m with toCore := core }, ⟨some e, [trace, .notice (.failed s.pc e)]⟩)
      | .ok () core =>
        let (m, tones) := tick { m with toCore := core }
        (m, ⟨none, trace :: tones⟩)

/-- Holds exactly these keys. -/
def setKeys (m : Machine) (keys : Keypad) : Machine := { m with state.keys := keys }

/-- Moves one key; a number that names none is ignored. -/
def setKey (m : Machine) (key : Nat) (down : Bool) : Machine :=
  { m with state.keys := m.state.keys.move key down }

/-- Whether the screen was drawn on since the flag was last taken. -/
def needsRedraw (m : Machine) : Bool := m.state.redraw

/-- Answers whether the screen was drawn on, and takes the flag back. -/
def takeRedraw (m : Machine) : Machine × Bool := ({ m with state.redraw := false }, m.needsRedraw)

/-- Sends tones to a speaker from now on. -/
def link (m : Machine) (speaker : Speaker) : Machine := { m with speaker }

end Machine

end ChipEight
