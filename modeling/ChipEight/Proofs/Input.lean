import ChipEight.Proofs.RandomWords
import ChipEight.Proofs.SideBySide

/-!
# Keys and random words have a part where they are asked for

The keys go into a program by the instructions that test them or wait for them, and the random words
by random instructions whose mask lets something through. A program that carries out none of these
cannot tell one set of keys or one seed from another.

* `Instruction.heedsInput`: the instructions that look at the keys or at a random word.
* `input_call`: any call but the moving of keys, on machines that differ in keys and random words.
* `input_unheeded`: histories that are the same but for the moving of keys.
-/

namespace ChipEight

/-- Whether an instruction looks at the keys or lets a random word through. -/
def Instruction.heedsInput : Instruction → Bool
  | skip (.keyDown _) | skip (.keyUp _) | waitKey _ => true
  | random _ mask => mask != 0
  | _ => false

/-- Nothing but the keys depends on the keys or on the random word. -/
theorem Instruction.stateAfter_input {i : Instruction} (h : i.heedsInput = false) (w w' : UInt32)
    (s : State) (keys : Keypad) :
    i.stateAfter w' { s with keys } = { i.stateAfter w s with keys } := by
  cases i with
  | skip test =>
    cases test with
    | keyDown | keyUp => cases h
    | _ => rfl
  | waitKey x => cases h
  | random x mask =>
    -- a word is taken all the same, and is of no account
    have hmask : mask = 0 := by simpa [heedsInput] using h
    have hzero : ∀ w : UInt32, w.toUInt8 &&& mask = 0 := by
      intro w
      rw [hmask, UInt8.and_zero]
    simp only [stateAfter, vAfter, hzero]
    rfl
  | _ => rfl

/-- Whether a call moves keys. -/
def Call.isInput : Call → Bool
  | setKeys _ | setKey .. => true
  | _ => false

namespace Machine

/-- The machine with other keys, another random source and another speaker. -/
def withInput (m : Machine) (keys : Keypad) (source : Random.Source) (speaker : Speaker) :
    Machine :=
  { m with state.keys := keys, source, speaker }

/-- The machines differ in the keys, the random source and the speaker at most. -/
def SameButInput (m m' : Machine) : Prop :=
  ∃ keys source speaker, m' = m.withInput keys source speaker

variable {m m' : Machine} {c : Call}

theorem SameButInput.left (h : m.SameButInput m') (hc : c.isInput = true) :
    (m.call c).1.SameButInput m' := by
  obtain ⟨keys, source, speaker, rfl⟩ := h
  cases c with
  | setKeys | setKey => exact ⟨keys, source, speaker, rfl⟩
  | load | step | needsRedraw | takeRedraw | link => cases hc

theorem SameButInput.right (h : m.SameButInput m') (hc : c.isInput = true) :
    m.SameButInput (m'.call c).1 := by
  obtain ⟨keys, source, speaker, rfl⟩ := h
  cases c with
  | setKeys held => exact ⟨held, source, speaker, rfl⟩
  | setKey key down => exact ⟨keys.move key down, source, speaker, rfl⟩
  | load | step | needsRedraw | takeRedraw | link => cases hc

theorem load_withInput (m : Machine) (keys : Keypad) (source : Random.Source) (speaker : Speaker)
    (program : List UInt8) :
    (m.withInput keys source speaker).load program =
      ((m.load program).1.withInput keys source speaker, (m.load program).2) := by
  unfold load
  split <;> rfl

/-- A cycle that does not heed the input is the same with another one. -/
theorem after_withInput {i : Instruction} (h : i.heedsInput = false) (keys : Keypad)
    (source : Random.Source) (speaker : Speaker) :
    (m.withInput keys source speaker).after i =
      (m.after i).withInput keys (i.sourceAfter source) speaker := by
  have hstate := Instruction.stateAfter_input h (m.source.word m.source.taken)
    (source.word source.taken) m.state keys
  unfold after withInput Instruction.coreAfter
  simp only [hstate]
  rfl

/-- **Any other call does the same on both**, unless its instruction heeds the input. -/
theorem input_call (h : m.SameButInput m') (hc : c.isInput = false)
    (hi : ∀ i, m.completes? c = some i → i.heedsInput = false) :
    (m.call c).1.SameButInput (m'.call c).1 ∧ (m'.call c).2.muted = (m.call c).2.muted ∧
      m'.completes? c = m.completes? c := by
  obtain ⟨keys, source, speaker, rfl⟩ := h
  cases c with
  | setKeys | setKey => cases hc
  | needsRedraw | takeRedraw => exact ⟨⟨keys, source, speaker, rfl⟩, rfl, rfl⟩
  | link other => exact ⟨⟨keys, source, other, rfl⟩, rfl, rfl⟩
  | load program =>
    have hload := m.load_withInput keys source speaker program
    exact ⟨⟨keys, source, speaker, congrArg Prod.fst hload⟩,
      congrArg (fun r => Reply.muted { toReport := r.2 }) hload, rfl⟩
  | step =>
    have hs : (m.withInput keys source speaker).state = { m.state with keys } := rfl
    obtain ⟨hnext, hreport, hexecutes⟩ := cycle_rel (R := SameButInput) hs rfl
      (fun _ => ⟨keys, source, speaker, rfl⟩)
      fun i hm => ⟨keys, i.sourceAfter source, speaker, after_withInput (hi i hm) ..⟩
    exact ⟨hnext, congrArg (fun r => Reply.mk r none) hreport, hexecutes⟩

theorem indistinct_input : Indistinct Call.isInput (·.heedsInput = false) SameButInput where
  step := rfl
  left := SameButInput.left
  right := SameButInput.right
  both := input_call

theorem Alike.randoms {free : Call → Bool} {cs ds : List Call} (h : Alike free m m' cs ds) :
    m'.randoms ds = m.randoms cs := by
  have hcount := congrArg (List.countP Instruction.takesWord) h.instructions
  rwa [List.countP_map, List.countP_map] at hcount

/-- **Input that is not heeded makes no difference.** Two machines have the same states but for the
keys, and any random sources. They get the same calls, apart from calls that move keys, which may be
any in each. If the first one carries out nothing that heeds the input, then every other call gets
the same reply, as many tones sound, as many random words are taken, and in the end the states are
the same but for the keys. -/
theorem input_unheeded {m m' : Machine} {cs ds : List Call}
    (hstates : ∃ keys, m'.state = { m.state with keys })
    (hcalls : cs.filter (!·.isInput) = ds.filter (!·.isInput))
    (hunheeded : ∀ e ∈ m.completed cs, e.2.heedsInput = false) :
    Alike Call.isInput m m' cs ds ∧
      (∃ words, (m.calls cs).1.source.taken = m.source.taken + words ∧
        (m'.calls ds).1.source.taken = m'.source.taken + words) ∧
      ∃ keys, (m'.calls ds).1.state = { (m.calls cs).1.state with keys } := by
  have hstart : m.SameButInput m' := by
    obtain ⟨keys, hs⟩ := hstates
    refine ⟨keys, m'.source, m'.speaker, ?_⟩
    unfold withInput
    rw [← hs]
  obtain ⟨⟨keys, source, speaker, hend⟩, halike⟩ :=
    indistinct_input.run (.of_filter_eq hcalls) hstart hunheeded
  refine ⟨halike, ⟨m.randoms cs, ?_, ?_⟩, keys, ?_⟩
  · rw [source_calls]
  · rw [source_calls, halike.randoms]
  · rw [hend]
    rfl

/-- Other random words and other keys all along. The program takes a random word under a mask that
lets nothing through, and sounds one tone. -/
theorem input_unheeded_masked :
    let program : List UInt8 := [0x61, 0x05, 0xC2, 0x00, 0xF1, 0x18]
    let m := ((fresh (.cycling #[0x01])).load program).1
    let m' := ((fresh (.cycling #[0xFE])).load program).1.setKey 3 true
    let cs : List Call := [.step, .setKey 7 true, .step, .step]
    let ds : List Call := [.step, .step, .setKey 3 false, .setKey 10 true, .step]
    (m'.heard ds).length = 1 ∧ (m'.calls ds).1.source.taken = 1 ∧
      ∃ keys, (m'.calls ds).1.state = { (m.calls cs).1.state with keys } := by
  intro program m m' cs ds
  have hrun : m'.source.taken = 0 ∧ m.source.taken = 0 ∧
      (∀ e ∈ m.completed cs, e.2.heedsInput = false) ∧
      (m.heard cs).length = 1 ∧ (m.calls cs).1.source.taken = 1 := by
    decide +kernel
  have hstates : ∃ keys, m'.state = { m.state with keys } := ⟨m'.state.keys, rfl⟩
  have hcalls : cs.filter (!·.isInput) = ds.filter (!·.isInput) := by decide
  -- from here on the runs must not be computed again
  clear_value m m'
  obtain ⟨hfresh', hfresh, hunheeded, htone, hone⟩ := hrun
  obtain ⟨halike, ⟨words, htaken, htaken'⟩, hkeys⟩ := input_unheeded hstates hcalls hunheeded
  refine ⟨halike.tones.trans htone, ?_, hkeys⟩
  omega

end Machine

end ChipEight
