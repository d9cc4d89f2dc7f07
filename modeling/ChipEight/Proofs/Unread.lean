import ChipEight.Proofs.SideBySide
import Mathlib.Data.Set.Basic

/-!
# Memory that is not read makes no difference

A cycle reads the two bytes of its word, the rows of a sprite that it draws, and the bytes that it
puts into registers. Two machines whose memories differ elsewhere do the same, and what they write
is the same in both. So they never differ in more than they did at first, and in less once it has
been written to.

* `Machine.Reads`, `Machine.Writes`: the addresses that the next cycle reads and writes.
* `Instruction.stateAfter_memory`: an instruction depends on what it reads and on no other byte.
* `sameOff_step`: one cycle on memories that differ in what it does not read.
* `sameOff_steps`: any number of cycles, none of which reads what was not written before.
* `unread_memory_is_irrelevant`: what that means if the bytes are not read at all.
-/

namespace ChipEight

/-! ## Memories that differ in places -/

namespace Memory

/-- The memories have the same bytes, but for the addresses of a set. -/
def AgreeOff (A : Set Nat) (memory memory' : Memory) : Prop := ∀ a ∉ A, memory'[a]? = memory[a]?

variable {A B : Set Nat} {memory memory' : Memory}

theorem AgreeOff.mono (h : AgreeOff A memory memory') (hAB : A ⊆ B) : AgreeOff B memory memory' :=
  fun a ha => h a fun hA => ha (hAB hA)

/-- Words are the same where both bytes are. -/
theorem AgreeOff.word (h : AgreeOff A memory memory') {start : Nat}
    (hA : start ≤ 0xFFE → start ∉ A ∧ start + 1 ∉ A) : memory'.word start = memory.word start := by
  by_cases hin : start ≤ 0xFFE
  · obtain ⟨hhigh, hlow⟩ := hA hin
    obtain ⟨op, hword⟩ : ∃ op, memory.word start = .ok op :=
      word_eq_ok_iff.2 (Nat.add_le_add_right hin 2)
    rw [hword, word_eq_iff, h _ hhigh, h _ hlow]
    exact word_eq_iff.1 hword
  · have hout : ¬ start + 2 ≤ size := fun hle => hin (Nat.le_sub_of_add_le hle)
    rw [Memory.word, Memory.word, dif_neg hout, dif_neg hout]

theorem AgreeOff.span (h : AgreeOff A memory memory') {start len : Nat}
    (hA : ∀ a ∈ A, ¬ (start ≤ a ∧ a < start + len)) :
    memory'.span start len = memory.span start len := by
  apply List.ext_getElem?
  intro k
  rw [getElem?_span, getElem?_span]
  by_cases hk : k < len
  · have hnot : start + k ∉ A := fun ha => hA _ ha ⟨Nat.le_add_right _ _, by omega⟩
    rw [if_pos hk, if_pos hk, h _ hnot]
  · rw [if_neg hk, if_neg hk]

/-- **What is written to both is the same in both.** -/
theorem AgreeOff.overlay (h : AgreeOff A memory memory') (start : Nat) (bytes : List UInt8) :
    AgreeOff (A \ {a | start ≤ a ∧ a < start + bytes.length}) (overlay memory start bytes)
      (overlay memory' start bytes) := by
  intro a ha
  by_cases hsize : a < size
  · rw [Vector.getElem?_eq_getElem hsize, Vector.getElem?_eq_getElem hsize, getElem_overlay,
      getElem_overlay]
    by_cases hw : start ≤ a ∧ a < start + bytes.length
    · rw [dif_pos hw, dif_pos hw]
    · have hold := h a fun hA => ha ⟨hA, hw⟩
      rw [Vector.getElem?_eq_getElem hsize, Vector.getElem?_eq_getElem hsize] at hold
      rw [dif_neg hw, dif_neg hw]
      exact hold
  · rw [Vector.getElem?_eq_none (Nat.not_lt.1 hsize), Vector.getElem?_eq_none (Nat.not_lt.1 hsize)]

end Memory

/-! ## What an instruction reads -/

namespace Instruction

/-- How many bytes an instruction reads, from I on: the rows of its sprite, or one for each
register. -/
def readLength : Instruction → Nat
  | draw _ _ rows => rows.val
  | read x => x.val + 1
  | _ => 0

theorem written_memory (s : State) (memory : Memory) (i : Instruction) :
    i.written { s with memory } = i.written s := by
  cases i <;> rfl

/-- **An instruction depends on what it reads and on no other byte.** -/
theorem stateAfter_memory {s : State} {memory : Memory} {i : Instruction} (w : UInt32)
    (h : memory.span s.i.toNat i.readLength = s.memory.span s.i.toNat i.readLength) :
    i.stateAfter w { s with memory } =
      { i.stateAfter w s with memory := i.memoryAfter { s with memory } } := by
  -- a sprite and bytes for registers are all that is read
  cases i with
  | draw x y rows =>
    have hdrawn : State.drawn { s with memory } x y rows = s.drawn x y rows :=
      congrArg (s.screen.drawSprite (s.v.get x).toNat (s.v.get y).toNat) h
    simp only [stateAfter, vAfter, screenAfter, hdrawn]
    rfl
  | read x =>
    have hspan : memory.span s.i.toNat (x.val + 1) = s.memory.span s.i.toNat (x.val + 1) := h
    simp only [stateAfter, vAfter, hspan]
    rfl
  | _ => rfl

end Instruction

namespace Machine

variable {m m' : Machine} {A : Set Nat}

/-- The next cycle reads from the address: as part of the word that it fetches, or of the bytes that
its instruction reads. -/
def Reads (m : Machine) (a : Nat) : Prop :=
  (m.state.pc.toNat ≤ 0xFFE ∧ m.state.pc.toNat ≤ a ∧ a < m.state.pc.toNat + 2) ∨
    ∃ i, m.executes? = some i ∧ m.state.i.toNat ≤ a ∧ a < m.state.i.toNat + i.readLength

/-- The next cycle writes to the address: digits or registers, by an instruction that succeeds. -/
def Writes (m : Machine) (a : Nat) : Prop := ∃ i, m.executes? = some i ∧ i.Writes m.state a

instance (m : Machine) (a : Nat) : Decidable (m.Reads a) :=
  inferInstanceAs (Decidable (_ ∨ ∃ i ∈ m.executes?, _ ∧ _))

instance (m : Machine) (a : Nat) : Decidable (m.Writes a) :=
  have (i : Instruction) : Decidable (i.Writes m.state a) := inferInstanceAs (Decidable (_ ∧ _))
  inferInstanceAs (Decidable (∃ i ∈ m.executes?, _))

/-- The machines have the same random source and the same state, but for memory at the addresses of
a set. -/
structure SameOff (A : Set Nat) (m m' : Machine) : Prop where
  source : m'.source = m.source
  state : m'.state = { m.state with memory := m'.state.memory }
  memory : Memory.AgreeOff A m.state.memory m'.state.memory

/-- The machine with another memory and another speaker. -/
def withMemory (m : Machine) (memory : Memory) (speaker : Speaker) : Machine :=
  { m with state.memory := memory, speaker }

theorem SameOff.eq_withMemory (h : m.SameOff A m') :
    m' = m.withMemory m'.state.memory m'.speaker := by
  unfold withMemory
  rw [← h.state, ← h.source]

theorem SameOff.of_agreeOff {memory : Memory} (h : Memory.AgreeOff A m.state.memory memory)
    (speaker : Speaker) : m.SameOff A (m.withMemory memory speaker) := ⟨rfl, rfl, h⟩

theorem SameOff.mono {B : Set Nat} (h : m.SameOff A m') (hAB : A ⊆ B) : m.SameOff B m' :=
  ⟨h.source, h.state, h.memory.mono hAB⟩

/-- A cycle does the same with another memory, if what it reads there is the same. -/
theorem after_withMemory {i : Instruction} {memory : Memory} (speaker : Speaker)
    (h : memory.span m.state.i.toNat i.readLength =
      m.state.memory.span m.state.i.toNat i.readLength) :
    (m.withMemory memory speaker).after i =
      (m.after i).withMemory (overlay memory m.state.i.toNat (i.written m.state)) speaker := by
  have hstate := i.stateAfter_memory (m.source.word m.source.taken) h
  rw [Instruction.memoryAfter_eq, Instruction.written_memory] at hstate
  unfold after withMemory Instruction.coreAfter
  simp only [hstate]
  rfl

/-- **What an instruction writes is the same in both**, and elsewhere they differ as before. -/
theorem sameOff_after {i : Instruction} (h : m.SameOff A m')
    (hread : ∀ a ∈ A, ¬ (m.state.i.toNat ≤ a ∧ a < m.state.i.toNat + i.readLength)) :
    (m.after i).SameOff (A \ {a | i.Writes m.state a}) (m'.after i) := by
  have hmemory : (m.after i).state.memory =
      overlay m.state.memory m.state.i.toNat (i.written m.state) := i.memoryAfter_eq m.state
  rw [h.eq_withMemory, after_withMemory _ (h.memory.span hread)]
  refine .of_agreeOff ?_ _
  rw [hmemory]
  exact h.memory.overlay _ _

/-- **One cycle on memories that differ in what it does not read** does the same. -/
theorem sameOff_step (h : m.SameOff A m') (hread : ∀ a ∈ A, ¬ m.Reads a) :
    m'.step.2.muted = m.step.2.muted ∧ m.step.1.SameOff (A \ {a | m.Writes a}) m'.step.1 := by
  have hword : m'.state.memory.word m.state.pc.toNat = m.state.memory.word m.state.pc.toNat := by
    refine h.memory.word fun hpc => ⟨fun ha => ?_, fun ha => ?_⟩
    · exact hread _ ha (.inl ⟨hpc, Nat.le_refl _, by omega⟩)
    · exact hread _ ha (.inl ⟨hpc, by omega, by omega⟩)
  have hstay : m.executes? = none → m.SameOff (A \ {a | m.Writes a}) m' := by
    intro hm
    refine h.mono fun a ha => ⟨ha, ?_⟩
    rintro ⟨i, hi, -⟩
    rw [hm] at hi
    cases hi
  have hafter : ∀ i, m.executes? = some i →
      (m.after i).SameOff (A \ {a | m.Writes a}) (m'.after i) := by
    intro i hm
    have hsame : (m.after i).SameOff (A \ {a | i.Writes m.state a}) (m'.after i) :=
      sameOff_after h fun a ha hin => hread a ha (.inr ⟨i, hm, hin⟩)
    refine hsame.mono fun a ⟨ha, hnot⟩ => ⟨ha, ?_⟩
    rintro ⟨j, hj, hwrites⟩
    rw [hm] at hj
    cases hj
    exact hnot hwrites
  obtain ⟨hnext, hreport, -⟩ := cycle_rel h.state hword hstay hafter
  exact ⟨hreport, hnext⟩

/-- The addresses that the first `n` cycles write to. -/
def writtenBefore (m : Machine) (n : Nat) : Set Nat := {a | ∃ k < n, (m.steps k).Writes a}

/-- **Any number of cycles do the same**, as long as none of them reads a byte that differs and was
not written before. -/
theorem sameOff_steps (h : m.SameOff A m') (n : Nat)
    (hread : ∀ k < n, ∀ a ∈ A, (m.steps k).Reads a → a ∈ m.writtenBefore k) :
    (∀ k < n, (m'.steps k).step.2.muted = (m.steps k).step.2.muted) ∧
      (m.steps n).SameOff (A \ m.writtenBefore n) (m'.steps n) := by
  induction n with
  | zero =>
    refine ⟨fun k hk => absurd hk (Nat.not_lt_zero k), h.mono fun a ha => ⟨ha, ?_⟩⟩
    rintro ⟨k, hk, -⟩
    exact Nat.not_lt_zero k hk
  | succ n ih =>
    obtain ⟨hreports, hsame⟩ := ih fun k hk => hread k (Nat.lt_succ_of_lt hk)
    -- what is written to is the same from then on, and may be read
    have hunread : ∀ a ∈ A \ m.writtenBefore n, ¬ (m.steps n).Reads a := fun a ha hreads =>
      ha.2 (hread n (Nat.lt_succ_self n) a ha.1 hreads)
    obtain ⟨hreport, hnext⟩ := sameOff_step hsame hunread
    refine ⟨fun k hk => ?_, hnext.mono fun a ha => ⟨ha.1.1, ?_⟩⟩
    · rcases Nat.lt_succ_iff_lt_or_eq.1 hk with hlt | rfl
      · exact hreports k hlt
      · exact hreport
    · rintro ⟨k, hk, hwrites⟩
      rcases Nat.lt_succ_iff_lt_or_eq.1 hk with hlt | rfl
      · exact ha.1.2 ⟨k, hlt, hwrites⟩
      · exact ha.2 hwrites

/-- **Memory that is not read makes no difference.** Two machines have the same random source and
the same state, but for memory at some addresses. If the first one does not read from there in so
many cycles, then all these cycles report the same, tones included, and in the end the machines
differ at these addresses at most, and not at those that a cycle wrote to. -/
theorem unread_memory_is_irrelevant (h : m.SameOff A m') (n : Nat)
    (hunread : ∀ k < n, ∀ a ∈ A, ¬ (m.steps k).Reads a) :
    (∀ k < n, (m'.steps k).step.2.muted = (m.steps k).step.2.muted) ∧
      (m.steps n).SameOff (A \ m.writtenBefore n) (m'.steps n) :=
  sameOff_steps h n fun k hk a ha hreads => absurd hreads (hunread k hk a ha)

/-- Two bytes differ behind the code. The program writes to one of them and draws a digit; in the
end the machines agree there, and differ in the other byte at most. -/
theorem unread_memory_is_irrelevant_stored :
    let program : List UInt8 := [0xA3, 0x00, 0xF0, 0x55, 0xA0, 0x00, 0xD0, 0x15]
    let m := ((fresh (.cycling #[])).load program).1
    let m' := m.withMemory ((m.state.memory.set 0x300 7).set 0x310 9) .mute
    (∀ k < 4, (m'.steps k).step.2.muted = (m.steps k).step.2.muted) ∧
      (m.steps 4).SameOff {0x310} (m'.steps 4) := by
  intro program m m'
  have hrun : (∀ k < 4, ¬ (m.steps k).Reads 0x300 ∧ ¬ (m.steps k).Reads 0x310) ∧
      (m.steps 1).Writes 0x300 := by
    decide +kernel
  have hbytes : Memory.AgreeOff {0x300, 0x310} m.state.memory
      ((m.state.memory.set 0x300 7).set 0x310 9) := by
    intro a ha
    rw [Set.mem_insert_iff, Set.mem_singleton_iff, not_or] at ha
    rw [Vector.getElem?_set_ne _ (Ne.symm ha.2), Vector.getElem?_set_ne _ (Ne.symm ha.1)]
  -- from here on the run must not be computed again
  clear_value m
  obtain ⟨hbefore, hwrites⟩ := hrun
  have hunread : ∀ k < 4, ∀ a ∈ ({0x300, 0x310} : Set Nat), ¬ (m.steps k).Reads a := by
    rintro k hk a (rfl | rfl)
    · exact (hbefore k hk).1
    · exact (hbefore k hk).2
  have hwritten : 0x300 ∈ m.writtenBefore 4 := ⟨1, by decide, hwrites⟩
  obtain ⟨hreports, hsame⟩ := unread_memory_is_irrelevant (.of_agreeOff hbytes .mute) 4 hunread
  refine ⟨hreports, hsame.mono ?_⟩
  rintro a ⟨rfl | ha, hnot⟩
  · exact absurd hwritten hnot
  · exact ha

end Machine

end ChipEight
