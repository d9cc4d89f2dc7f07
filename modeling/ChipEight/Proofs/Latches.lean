import ChipEight.Proofs.Cycle

/-!
# What a cycle does not look at

Keys have a part in what some instructions do, but not in how a cycle fails. The redraw flag and the
speaker have no part in anything: they are only passed on, or replaced.

* `State.fault?_latches`: a fault is the same whatever the keys and the redraw flag are.
* `Machine.executes?_withDisplay`, `Machine.after_withDisplay`: a cycle is the same with another
  display and another speaker, up to the redraw flag and the speaker in the end.
-/

namespace ChipEight

namespace Instruction

/-- The bytes that an instruction finds in memory have no part in its fault. -/
theorem fault?_unseen (s : State) (memory : Memory) (keys : Keypad) (redraw : Bool)
    (i : Instruction) : i.fault? { s with memory, keys, redraw } = i.fault? s := by
  cases i <;> rfl

/-- Whether an instruction draws on the screen. -/
def draws : Instruction → Bool
  | clear | draw .. => true
  | _ => false

/-- Nothing but the redraw flag depends on the redraw flag. -/
theorem stateAfter_redraw (w : UInt32) (s : State) (redraw : Bool) (i : Instruction) :
    i.stateAfter w { s with redraw } = { i.stateAfter w s with redraw := i.draws || redraw } := by
  cases i <;> rfl

end Instruction

/-- **Keys and the redraw flag have no part in a fault.** -/
theorem State.fault?_latches (s : State) (keys : Keypad) (redraw : Bool) :
    { s with keys, redraw }.fault? = s.fault? := by
  simp only [fault?, Instruction.fault?_unseen s s.memory]

namespace Machine

/-- The machine with another redraw flag and another speaker. -/
def withDisplay (m : Machine) (redraw : Bool) (speaker : Speaker) : Machine :=
  { m with state.redraw := redraw, speaker }

variable (m : Machine) (redraw : Bool) (speaker : Speaker)

theorem fault?_withDisplay : (m.withDisplay redraw speaker).state.fault? = m.state.fault? :=
  m.state.fault?_latches m.state.keys redraw

theorem executes?_withDisplay : (m.withDisplay redraw speaker).executes? = m.executes? := by
  unfold executes?
  rw [fault?_step, fault?_step, fault?_withDisplay]
  rfl

/-- **A cycle is the same with another display and another speaker.** -/
theorem after_withDisplay (i : Instruction) :
    (m.withDisplay redraw speaker).after i =
      (m.after i).withDisplay (i.draws || redraw) speaker := by
  have hstate := Instruction.stateAfter_redraw (m.source.word m.source.taken) m.state redraw i
  unfold after withDisplay Instruction.coreAfter
  simp only [hstate]
  rfl

end Machine

end ChipEight
