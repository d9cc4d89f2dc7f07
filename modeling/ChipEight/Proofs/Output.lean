import ChipEight.Proofs.SideBySide

/-!
# Display and sound do not disturb a program

Those who show the screen and sound the tones ask for the redraw flag, take it, and link speakers.
Whatever they do and whenever, the program goes on as if they had not been there.

* `output_call`: any other call on machines that differ in the redraw flag and the speaker.
* `output_disturbs_nothing`: histories that are the same but for calls that attend to the output.
-/

namespace ChipEight

/-- Whether a call attends to the screen or the sound. -/
def Call.isOutput : Call → Bool
  | needsRedraw | takeRedraw | link _ => true
  | _ => false

namespace Machine

/-- The machines differ in the redraw flag and the speaker at most. -/
def SameButOutput (m m' : Machine) : Prop := ∃ redraw speaker, m' = m.withDisplay redraw speaker

variable {m m' : Machine} {c : Call}

theorem SameButOutput.left (h : m.SameButOutput m') (hc : c.isOutput = true) :
    (m.call c).1.SameButOutput m' := by
  obtain ⟨redraw, speaker, rfl⟩ := h
  cases c with
  | needsRedraw | takeRedraw | link => exact ⟨redraw, speaker, rfl⟩
  | load | step | setKeys | setKey => cases hc

theorem SameButOutput.right (h : m.SameButOutput m') (hc : c.isOutput = true) :
    m.SameButOutput (m'.call c).1 := by
  obtain ⟨redraw, speaker, rfl⟩ := h
  cases c with
  | needsRedraw => exact ⟨redraw, speaker, rfl⟩
  | takeRedraw => exact ⟨false, speaker, rfl⟩
  | link other => exact ⟨redraw, other, rfl⟩
  | load | step | setKeys | setKey => cases hc

theorem load_withDisplay (m : Machine) (redraw : Bool) (speaker : Speaker) (program : List UInt8) :
    (m.withDisplay redraw speaker).load program =
      ((m.load program).1.withDisplay redraw speaker, (m.load program).2) := by
  unfold load
  split <;> rfl

/-- **Any other call does the same on both.** -/
theorem output_call (h : m.SameButOutput m') (hc : c.isOutput = false) :
    (m.call c).1.SameButOutput (m'.call c).1 ∧ (m'.call c).2.muted = (m.call c).2.muted ∧
      m'.completes? c = m.completes? c := by
  obtain ⟨redraw, speaker, rfl⟩ := h
  cases c with
  | needsRedraw | takeRedraw | link => cases hc
  | setKeys | setKey => exact ⟨⟨redraw, speaker, rfl⟩, rfl, rfl⟩
  | load program =>
    have hload := m.load_withDisplay redraw speaker program
    exact ⟨⟨redraw, speaker, congrArg Prod.fst hload⟩,
      congrArg (fun r => Reply.muted { toReport := r.2 }) hload, rfl⟩
  | step =>
    have hs : (m.withDisplay redraw speaker).state = { m.state with redraw } := rfl
    obtain ⟨hnext, hreport, hexecutes⟩ := cycle_rel (R := SameButOutput) hs rfl
      (fun _ => ⟨redraw, speaker, rfl⟩)
      fun i _ => ⟨i.draws || redraw, speaker, m.after_withDisplay redraw speaker i⟩
    exact ⟨hnext, congrArg (fun r => Reply.mk r none) hreport, hexecutes⟩

theorem indistinct_output : Indistinct Call.isOutput (fun _ => True) SameButOutput where
  step := rfl
  left := SameButOutput.left
  right := SameButOutput.right
  both h hc _ := output_call h hc

/-- **Display and sound disturb nothing.** Two copies of a machine get the same calls, apart from
calls that attend to the output, which may be any in each. Then every other call gets the same
reply, as many tones sound in all, and in the end the random sources are the same and so are the
states, but for the redraw flag. -/
theorem output_disturbs_nothing (m : Machine) {cs ds : List Call}
    (h : cs.filter (!·.isOutput) = ds.filter (!·.isOutput)) :
    Alike Call.isOutput m m cs ds ∧
      ∃ redraw, (m.calls ds).1.toCore =
        { (m.calls cs).1.toCore with state := { (m.calls cs).1.state with redraw } } := by
  have hcopy : m.SameButOutput m := ⟨m.state.redraw, m.speaker, rfl⟩
  obtain ⟨⟨redraw, speaker, hend⟩, halike⟩ :=
    indistinct_output.run (.of_filter_eq h) hcopy fun _ _ => trivial
  exact ⟨halike, redraw, congrArg Machine.toCore hend⟩

/-- A tone and a row of a digit: one listener takes the flag at once, the other is there for the
tone and leaves the flag as it is. -/
theorem output_disturbs_nothing_listener :
    let program : List UInt8 := [0x61, 0x05, 0xF1, 0x18, 0xD0, 0x01]
    let m := ((fresh (.cycling #[])).load program).1
    let cs : List Call := [.step, .step, .step, .takeRedraw]
    let ds : List Call := [.link (.listener 1), .step, .needsRedraw, .step, .link .mute, .step]
    (m.heard cs).length = 1 ∧ (m.heard ds).length = 1 ∧
      ∃ redraw, (m.calls ds).1.toCore =
        { (m.calls cs).1.toCore with state := { (m.calls cs).1.state with redraw } } := by
  intro program m cs ds
  have htone : (m.heard cs).length = 1 := by decide +kernel
  have hcalls : cs.filter (!·.isOutput) = ds.filter (!·.isOutput) := by decide
  -- from here on the runs must not be computed again
  clear_value m
  obtain ⟨halike, hend⟩ := output_disturbs_nothing m hcalls
  exact ⟨htone, halike.tones.trans htone, hend⟩

end Machine

end ChipEight
