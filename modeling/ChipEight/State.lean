import ChipEight.Keypad
import ChipEight.Memory
import ChipEight.Screen
import ChipEight.Stack

/-!
# State

Everything the machine remembers between two instructions, the random source apart.
-/

namespace ChipEight

/-- The contents of V0 to VF. -/
abbrev Registers := Vector UInt8 16

/-- VF, which doubles as the flag. -/
def flagRegister : Register := ⟨0xF, by decide⟩

/-- V0, which jumps can count from. -/
def baseRegister : Register := ⟨0x0, by decide⟩

/-- The state of the machine; the defaults are those of a machine that was just switched on. -/
structure State where
  v : Registers := Vector.replicate 16 0
  /-- The index register I. -/
  i : UInt16 := 0
  /-- The address of the next instruction. -/
  pc : UInt16 := Memory.programStart
  stack : Stack := .empty
  delay : UInt8 := 0
  sound : UInt8 := 0
  memory : Memory := .fresh
  screen : Screen := .blank
  /-- The screen was drawn on since it was last shown. -/
  redraw : Bool := false
  keys : Keypad := .released
  deriving DecidableEq

namespace State

/-- The state of a machine that was just switched on. -/
def fresh : State := {}

/-- Vx becomes `b`. -/
def setV (s : State) (x : Register) (b : UInt8) : State := { s with v := s.v.set x.val b }

/-- Go on with the instruction after this one. -/
def advance (s : State) : State := { s with pc := s.pc + 2 }

/-- Go on with the instruction after the next one. -/
def advanceTwo (s : State) : State := { s with pc := s.pc + 4 }

/-- VF becomes the flag and Vx the result, in this order: the result stays if x is F. -/
def setFlagged (s : State) (x : Register) (result : UInt8) (flag : Bool) : State :=
  (s.setV flagRegister flag.toUInt8).setV x result

/-- Both timers count down to zero; the second part says whether the sound timer was running. -/
def tick (s : State) : State × Bool :=
  ({ s with
      sound := if s.sound > 0 then s.sound - 1 else 0
      delay := if s.delay > 0 then s.delay - 1 else 0 }, s.sound > 0)

@[simp] theorem getElem_setV (s : State) (x y : Register) (b : UInt8) :
    (s.setV x b).v[y.val] = if x = y then b else s.v[y.val] := by
  simp [setV, Vector.getElem_set, Fin.ext_iff]

end State

end ChipEight
