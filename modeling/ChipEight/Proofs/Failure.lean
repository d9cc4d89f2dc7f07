import ChipEight.Proofs.Cycle

/-!
# Failing calls

Nothing undoes the changes of a call that fails, so whatever can fail has to fail before it changes
anything.

* `failure_changes_nothing`: a cycle or a load that fails leaves the whole machine as it was and
  sounds no tone, and an instruction that fails leaves the core as it was.
-/

namespace ChipEight

namespace Machine

/-- A program is refused exactly if it does not fit. -/
theorem fault?_load_eq_some_iff {m : Machine} {program : List UInt8} {e : Fault} :
    (m.load program).2.fault? = some e ↔
      Memory.programLimit < program.length ∧
        e = .programTooLarge program.length Memory.programLimit := by
  unfold load
  by_cases h : program.length ≤ Memory.programLimit
  · simp [h, Nat.not_lt.2 h]
  · rw [if_neg h]; simp [Nat.not_le.1 h, eq_comm]

/-- A program that does not fit is refused as a whole. -/
theorem load_of_large {m : Machine} {program : List UInt8}
    (h : Memory.programLimit < program.length) :
    m.load program =
      (m, { fault? := some (.programTooLarge program.length Memory.programLimit) }) :=
  if_neg (Nat.not_le.2 h)

theorem fault?_load_eq_none_iff {m : Machine} {program : List UInt8} :
    (m.load program).2.fault? = none ↔ program.length ≤ Memory.programLimit := by
  by_cases h : program.length ≤ Memory.programLimit
  · rw [load_of_fits h]
    exact iff_of_true rfl h
  · rw [load_of_large (Nat.not_le.1 h)]
    exact iff_of_false (Option.some_ne_none _) h

theorem call_load_of_large {m : Machine} {program : List UInt8}
    (h : Memory.programLimit < program.length) :
    m.call (.load program) =
      (m, { fault? := some (.programTooLarge program.length Memory.programLimit) }) := by
  rw [call, load_of_large h]

/-- **A failure leaves nothing behind**: not in the state, not in the random source, and no tone.
Neither do the timers tick in a cycle that fails. -/
theorem failure_changes_nothing :
    (∀ (m : Machine) (e : Fault), m.step.2.fault? = some e →
      m.step.1 = m ∧ ∀ speaker, .tone speaker ∉ m.step.2.events) ∧
    (∀ (m : Machine) (program : List UInt8) (e : Fault), (m.load program).2.fault? = some e →
      (m.load program).1 = m ∧ ∀ speaker, .tone speaker ∉ (m.load program).2.events) ∧
    (∀ (i : Instruction) (c c' : Core) (e : Fault), i.execute.run c = .error e c' → c' = c) := by
  refine ⟨?_, ?_, ?_⟩
  · intro m e h
    rw [fault?_step] at h
    exact step_of_fault h
  · intro m program e h
    rw [load_of_large (fault?_load_eq_some_iff.1 h).1]
    exact ⟨rfl, fun _ => List.not_mem_nil⟩
  · intro i c c' e h
    exact (Instruction.execute_eq_error_iff.1 h).2

/-- A return with no call open, a program that is one byte too long, and digits that would go past
the end of memory. -/
theorem failure_changes_nothing_instance :
    let returning := ((seeded 0).load [0x00, 0xEE]).1
    let large : List UInt8 := List.replicate 3585 0
    let atEnd : Core := { state := { i := 0xFFE }, source := .cycling #[] }
    (returning.step.2.fault? = some (.stackUnderflow 0x200) ∧ returning.step.1 = returning) ∧
      (((seeded 0).load large).2.fault? = some (.programTooLarge 3585 3584) ∧
        ((seeded 0).load large).1 = seeded 0) ∧
      ∃ c, (Instruction.bcd 3).execute.run atEnd = .error (.outOfBounds 4096) c ∧ c = atEnd := by
  intro returning large atEnd
  have hstep : returning.step.2.fault? = some (.stackUnderflow 0x200) := by decide +kernel
  have hload : ((seeded 0).load large).2.fault? = some (.programTooLarge 3585 3584) := by
    rw [fault?_load_eq_some_iff, List.length_replicate]
    exact ⟨by decide, rfl⟩
  have hrun : (Instruction.bcd 3).execute.run atEnd = .error (.outOfBounds 4096) atEnd := rfl
  exact ⟨⟨hstep, (failure_changes_nothing.1 _ _ hstep).1⟩,
    ⟨hload, (failure_changes_nothing.2.1 _ _ _ hload).1⟩,
    atEnd, hrun, failure_changes_nothing.2.2 _ _ _ _ hrun⟩

end Machine

end ChipEight
