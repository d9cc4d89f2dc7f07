import ChipEight.Proofs.Bounds
import ChipEight.Proofs.Encoding
import Mathlib.Order.Bounds.Defs

/-!
# What a cycle fails with

A cycle looks at one thing after the other: whether the program counter lies in memory, whether the
word there stands for an instruction, and whether the instruction has what it needs.

* `State.Fails`: the conditions of failure, each with its fault, in the order in which they count.
* `Instruction.Ready`: what an instruction needs to succeed.
* `Machine.step_fails_iff`: a cycle of a reachable machine fails with a fault exactly if the
  conditions say so, and otherwise carries out the instruction. A fault of access names the first
  address outside of memory that was asked for.
-/

namespace ChipEight

/-- How many bytes an instruction asks of memory, from I on. -/
def Instruction.asks? : Instruction → Option Nat
  | draw _ _ rows => some rows.val
  | bcd _ => some 3
  | store x | read x => some (x.val + 1)
  | _ => none

/-- The addresses of a range that lie outside of memory. -/
def Memory.beyond (start len : Nat) : Set Nat := {a | start ≤ a ∧ a < start + len ∧ size ≤ a}

namespace State

/-- The two bytes at the program counter, the high one first, are the word. -/
def Fetches (s : State) (op : Opcode) : Prop :=
  ∃ high low, s.memory[s.pc.toNat]? = some high ∧ s.memory[s.pc.toNat + 1]? = some low ∧
    op.toNat = 256 * high.toNat + low.toNat

/-- The word at the program counter is one of the instruction's. -/
def Next (s : State) (i : Instruction) : Prop :=
  ∃ op spare, s.pc.toNat ≤ 0xFFE ∧ s.Fetches op ∧ i.encode spare = op

/-- What the next cycle fails with. -/
inductive Fails (s : State) : Fault → Prop
  /-- The program counter is too close to the end of memory, or past it. -/
  | fetch : 0xFFE < s.pc.toNat → s.Fails (.outOfBounds (max s.pc.toNat 4096))
  /-- The word is none of any instruction's. -/
  | decode {op} : s.pc.toNat ≤ 0xFFE → s.Fetches op → (∀ i spare, Instruction.encode spare i ≠ op) →
      s.Fails (.unsupportedOpcode op s.pc)
  /-- A return with no call open. -/
  | underflow : s.Next .ret → s.stack.depth = 0 → s.Fails (.stackUnderflow s.pc)
  /-- A call with every slot taken. -/
  | overflow {a} : s.Next (.call a) → s.stack.depth = 16 → s.Fails (.stackOverflow s.pc)
  /-- An instruction that asks for more bytes than there are from I on. -/
  | access {i len} : s.Next i → i.asks? = some len → 4096 < s.i.toNat + len →
      s.Fails (.outOfBounds (max s.i.toNat 4096))

/-- The ranges that the next cycle asks of memory: the word, and then the bytes for its
instruction. -/
inductive Asks (s : State) : (start len : Nat) → Prop
  | fetch : s.Asks s.pc.toNat 2
  | access {i len} : s.Next i → i.asks? = some len → s.Asks s.i.toNat len

end State

/-- What an instruction needs. -/
structure Instruction.Ready (s : State) (i : Instruction) : Prop where
  open_of_ret : i = .ret → s.stack.depth ≠ 0
  free_of_call : ∀ a, i = .call a → s.stack.depth ≠ 16
  within : ∀ len, i.asks? = some len → s.i.toNat + len ≤ 4096

/-! ## Instructions -/

namespace Instruction

variable {s : State} {i : Instruction} {e : Fault}

theorem fault?_of_asks? {len : Nat} (h : i.asks? = some len) : i.fault? s = s.overrun? len := by
  cases i <;> cases h <;> rfl

/-- Apart from returns and calls, only what is asked of memory can be missing. -/
theorem fault?_of_asks?_eq_none (h : i.asks? = none) (hret : i ≠ .ret) (hcall : ∀ a, i ≠ .call a) :
    i.fault? s = none := by
  cases i with
  | ret => exact absurd rfl hret
  | call a => exact absurd rfl (hcall a)
  | draw | bcd | store | read => cases h
  | _ => rfl

theorem overrun?_eq_some_iff {len : Nat} :
    s.overrun? len = some e ↔
      4096 < s.i.toNat + len ∧ e = .outOfBounds (max s.i.toNat 4096) := by
  unfold State.overrun? Memory.outside
  by_cases h : s.i.toNat + len ≤ Memory.size
  · simp [h, Nat.not_lt.2 h]
  · rw [if_neg h]
    simp [Nat.not_le.1 h, eq_comm]

/-- **The faults of an instruction**, on a stack that is not overfull. -/
theorem fault?_eq_some_iff (hd : s.stack.depth ≤ Stack.capacity) :
    i.fault? s = some e ↔
      (i = .ret ∧ s.stack.depth = 0 ∧ e = .stackUnderflow s.pc) ∨
      (∃ a, i = .call a ∧ s.stack.depth = 16 ∧ e = .stackOverflow s.pc) ∨
      ∃ len, i.asks? = some len ∧ 4096 < s.i.toNat + len ∧
        e = .outOfBounds (max s.i.toNat 4096) := by
  cases hlen : i.asks? with
  | some len =>
    have hret : i ≠ .ret := by rintro rfl; cases hlen
    have hcall : ∀ a, i ≠ .call a := by rintro a rfl; cases hlen
    simp [fault?_of_asks? hlen, overrun?_eq_some_iff, hret, hcall]
  | none =>
    by_cases hret : i = .ret
    · subst hret
      by_cases hz : s.stack.depth = 0
      · simp [fault?, hz, eq_comm]
      · have hopen : 0 < s.stack.depth ∧ s.stack.depth ≤ Stack.capacity := ⟨by omega, hd⟩
        simp [fault?, hopen, hz]
    · by_cases hcall : ∃ a, i = .call a
      · obtain ⟨a, rfl⟩ := hcall
        by_cases hfull : s.stack.depth = 16
        · simp [fault?, hfull, eq_comm]
        · have hroom : s.stack.depth < Stack.capacity := Nat.lt_of_le_of_ne hd hfull
          simp [fault?, hroom, hfull]
      · have hnone := not_exists.1 hcall
        simp [fault?_of_asks?_eq_none hlen hret hnone, hret, hnone]

/-- **An instruction that has what it needs succeeds**, and no other one does. -/
theorem fault?_eq_none_iff (hd : s.stack.depth ≤ Stack.capacity) :
    i.fault? s = none ↔ i.Ready s := by
  rw [Option.eq_none_iff_forall_ne_some]
  simp only [ne_eq, fault?_eq_some_iff hd]
  constructor
  · intro h
    refine ⟨?_, ?_, ?_⟩
    · intro hi hz
      exact h _ (.inl ⟨hi, hz, rfl⟩)
    · intro a hi hfull
      exact h _ (.inr (.inl ⟨a, hi, hfull, rfl⟩))
    · intro len hlen
      by_contra hout
      exact h _ (.inr (.inr ⟨len, hlen, Nat.not_le.1 hout, rfl⟩))
  · rintro h e (⟨hi, hz, -⟩ | ⟨a, hi, hfull, -⟩ | ⟨len, hlen, hout, -⟩)
    · exact h.open_of_ret hi hz
    · exact h.free_of_call a hi hfull
    · exact Nat.not_lt.2 (h.within len hlen) hout

end Instruction

/-! ## States -/

namespace State

variable {s : State} {i : Instruction} {e : Fault} {op : Opcode}

theorem fetches_iff : s.Fetches op ↔ s.memory.word s.pc.toNat = .ok op := Memory.word_eq_iff.symm

theorem next_iff : s.Next i ↔ s.instruction? = some i := by
  unfold Next instruction?
  simp only [fetches_iff]
  constructor
  · rintro ⟨op, spare, -, hop, hi⟩
    rw [hop]
    exact Instruction.decode?_eq_some_iff.2 ⟨spare, hi⟩
  · intro h
    cases hw : s.memory.word s.pc.toNat with
    | error e => rw [hw] at h; cases h
    | ok op =>
      rw [hw] at h
      obtain ⟨spare, hi⟩ := Instruction.decode?_eq_some_iff.1 h
      exact ⟨op, spare, Nat.le_sub_of_add_le (Memory.word_eq_ok_iff.1 ⟨op, hw⟩), rfl, hi⟩

/-- **The three ways of the next cycle**: no word, a word of nothing, an instruction. -/
theorem next_cases (s : State) :
    0xFFE < s.pc.toNat ∨
    (∃ op, s.pc.toNat ≤ 0xFFE ∧ s.Fetches op ∧ ∀ i spare, Instruction.encode spare i ≠ op) ∨
    ∃ i, s.Next i := by
  by_cases hpc : s.pc.toNat ≤ 0xFFE
  · obtain ⟨op, hw⟩ : ∃ op, s.memory.word s.pc.toNat = .ok op :=
      Memory.word_eq_ok_iff.2 (Nat.add_le_add_right hpc 2)
    have hop := fetches_iff.2 hw
    cases hd : Instruction.decode? op with
    | none => exact .inr (.inl ⟨op, hpc, hop, Instruction.decode?_eq_none_iff.1 hd⟩)
    | some i =>
      obtain ⟨spare, hi⟩ := Instruction.decode?_eq_some_iff.1 hd
      exact .inr (.inr ⟨i, op, spare, hpc, hop, hi⟩)
  · exact .inl (Nat.not_le.1 hpc)

theorem fault?_of_pc (hpc : 0xFFE < s.pc.toNat) :
    s.fault? = some (.outOfBounds (max s.pc.toNat 4096)) := by
  have hout : ¬ s.pc.toNat + 2 ≤ 4096 := by omega
  simp only [fault?, Memory.word, dif_neg hout, Memory.outside]

theorem fault?_of_no_instruction (hop : s.Fetches op)
    (hnone : ∀ i spare, Instruction.encode spare i ≠ op) :
    s.fault? = some (.unsupportedOpcode op s.pc) := by
  have hd := Instruction.decode?_eq_none_iff.2 hnone
  simp only [fault?, fetches_iff.1 hop, Instruction.decode, hd]

theorem fault?_of_next (hi : s.Next i) : s.fault? = i.fault? s := by
  obtain ⟨op, spare, -, hop, hi⟩ := hi
  have hd := Instruction.decode?_eq_some_iff.2 ⟨spare, hi⟩
  simp only [fault?, fetches_iff.1 hop, Instruction.decode, hd]

variable (hd : s.stack.depth ≤ Stack.capacity)

include hd

/-- **The next cycle fails as the conditions say.** -/
theorem fault?_eq_some_iff : s.fault? = some e ↔ s.Fails e := by
  constructor
  · intro hf
    rcases s.next_cases with hpc | ⟨op, hpc, hop, hnone⟩ | ⟨i, hi⟩
    · rw [fault?_of_pc hpc] at hf
      cases hf
      exact .fetch hpc
    · rw [fault?_of_no_instruction hop hnone] at hf
      cases hf
      exact .decode hpc hop hnone
    · rw [fault?_of_next hi, Instruction.fault?_eq_some_iff hd] at hf
      rcases hf with ⟨rfl, hz, rfl⟩ | ⟨a, rfl, hfull, rfl⟩ | ⟨len, hlen, hout, rfl⟩
      · exact .underflow hi hz
      · exact .overflow hi hfull
      · exact .access hi hlen hout
  · intro hf
    cases hf with
    | fetch hpc => exact fault?_of_pc hpc
    | decode _ hop hnone => exact fault?_of_no_instruction hop hnone
    | underflow hi hz =>
      rw [fault?_of_next hi, Instruction.fault?_eq_some_iff hd]
      exact .inl ⟨rfl, hz, rfl⟩
    | overflow hi hfull =>
      rw [fault?_of_next hi, Instruction.fault?_eq_some_iff hd]
      exact .inr (.inl ⟨_, rfl, hfull, rfl⟩)
    | access hi hlen hout =>
      rw [fault?_of_next hi, Instruction.fault?_eq_some_iff hd]
      exact .inr (.inr ⟨_, hlen, hout, rfl⟩)

/-- **The next cycle succeeds** exactly if there is an instruction that has what it needs. -/
theorem fault?_eq_none_iff : s.fault? = none ↔ ∃ i, s.Next i ∧ i.Ready s := by
  constructor
  · intro hf
    rcases s.next_cases with hpc | ⟨op, hpc, hop, hnone⟩ | ⟨i, hi⟩
    · rw [fault?_of_pc hpc] at hf; cases hf
    · rw [fault?_of_no_instruction hop hnone] at hf; cases hf
    · rw [fault?_of_next hi] at hf
      exact ⟨i, hi, (Instruction.fault?_eq_none_iff hd).1 hf⟩
  · rintro ⟨i, hi, hready⟩
    rw [fault?_of_next hi]
    exact (Instruction.fault?_eq_none_iff hd).2 hready

omit hd in
/-- The first address of a range that lies outside of memory, if any does. -/
theorem isLeast_beyond {start len : Nat} (hlen : 0 < len) (hout : 4096 < start + len) :
    IsLeast (Memory.beyond start len) (max start 4096) := by
  refine ⟨⟨Nat.le_max_left _ _, by omega, Nat.le_max_right _ _⟩, ?_⟩
  rintro a ⟨hstart, -, hsize⟩
  exact Nat.max_le.2 ⟨hstart, hsize⟩

omit hd in
/-- **A fault of access names the first address outside of memory** that was asked for. -/
theorem Fails.isLeast {a : Nat} (h : s.Fails (.outOfBounds a)) :
    ∃ start len, s.Asks start len ∧ (0 < len → IsLeast (Memory.beyond start len) a) := by
  cases h with
  | fetch hpc => exact ⟨_, 2, .fetch, fun hlen => isLeast_beyond hlen (by omega)⟩
  | access hi hlen hout =>
    exact ⟨_, _, .access hi hlen, fun hpos => isLeast_beyond hpos hout⟩

end State

/-! ## Cycles -/

namespace Machine

variable {m : Machine}

/-- **When and with what a cycle fails.** Whatever the history, a cycle fails with a fault exactly
if the conditions say so, and succeeds exactly if the instruction at the program counter has what it
needs. If it is for want of memory, the fault names the first address outside that was asked for. No
cycle complains of the size of a program. -/
theorem step_fails_iff (h : m.Reachable) :
    (∀ e, m.step.2.fault? = some e ↔ m.state.Fails e) ∧
    (m.step.2.fault? = none ↔ ∃ i, m.state.Next i ∧ i.Ready m.state) ∧
    (∀ a, m.step.2.fault? = some (.outOfBounds a) →
      ∃ start len, m.state.Asks start len ∧ (0 < len → IsLeast (Memory.beyond start len) a)) ∧
    ∀ size limit, m.step.2.fault? ≠ some (.programTooLarge size limit) := by
  have hd := h.inBounds.depth
  rw [fault?_step]
  refine ⟨fun e => State.fault?_eq_some_iff hd, State.fault?_eq_none_iff hd, ?_, ?_⟩
  · intro a hf
    exact ((State.fault?_eq_some_iff hd).1 hf).isLeast
  · intro size limit hf
    cases (State.fault?_eq_some_iff hd).1 hf

/-- A sprite of two rows at the last address: the second row is what is missing. -/
theorem step_fails_iff_last_row :
    let program : List UInt8 := [0xAF, 0xFF, 0xD0, 0x02]
    let m := ((fresh (.cycling #[])).calls [.load program, .step]).1
    m.Reachable ∧ m.step.2.fault? = some (.outOfBounds 4096) := by
  intro program m
  have hreach : m.Reachable := ⟨_, _, rfl⟩
  have hrun : m.state.instruction? = some (.draw 0 0 2) ∧ m.state.i.toNat = 0xFFF := by
    decide +kernel
  clear_value m
  obtain ⟨hi, hindex⟩ := hrun
  have hfails : m.state.Fails (.outOfBounds (max m.state.i.toNat 4096)) :=
    .access (State.next_iff.2 hi) rfl (by rw [hindex]; decide)
  rw [hindex] at hfails
  exact ⟨hreach, ((step_fails_iff hreach).1 _).2 hfails⟩

end Machine

end ChipEight
