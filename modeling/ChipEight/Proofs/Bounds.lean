import ChipEight.Proofs.Cycle
import Mathlib.Tactic.Common

/-!
# Bounds that every history keeps

* `InBounds`: the counter of open calls, the program counter, the stack, the pixels and the sound
  timer stay in their ranges. The ranges hold each other up: a jump may lead to the end of memory
  and a skip past it, but from there nothing is fetched, and only fetched calls fill the stack.
* `Machine.Reachable.inBounds`: so they hold of every reachable machine.
-/

namespace ChipEight

/-- The ranges of a state between two calls. -/
structure State.InBounds (s : State) : Prop where
  depth : s.stack.depth ≤ Stack.capacity
  /-- Two past the end of memory: a skip from the last address that can be fetched. -/
  pc : s.pc.toNat ≤ 0x1002
  /-- The address of a call that was fetched. -/
  slots : ∀ k (_ : k < Stack.capacity), s.stack.slots[k].toNat ≤ 0xFFE
  pixels : ∀ k (_ : k < Screen.size), s.screen[k] = 0 ∨ s.screen[k] = 1
  /-- A tone lasts for the cycle that asked for it. -/
  silent : s.sound = 0

namespace State.InBounds

theorem fresh : State.fresh.InBounds where
  depth := by decide
  pc := by decide
  slots k hk := by simp [State.fresh, Stack.empty]
  pixels k hk := by simp [State.fresh, Screen.blank]
  silent := rfl

variable {s : State}

/-- Memory, keys and the redraw flag have no part in the bounds. -/
theorem congr (h : s.InBounds) (memory : Memory) (keys : Keypad) (redraw : Bool) :
    { s with memory, keys, redraw }.InBounds :=
  ⟨h.depth, h.pc, h.slots, h.pixels, h.silent⟩

/-- The latest open call was fetched, if there is one. -/
theorem top_le (h : s.InBounds) (hd : 0 < s.stack.depth) : s.stack.top.toNat ≤ 0xFFE := by
  have hk : s.stack.depth - 1 < Stack.capacity := by have := h.depth; omega
  unfold Stack.top
  rw [Vector.getElem?_eq_getElem hk]
  exact h.slots _ hk

/-- So was every other one. -/
theorem live_le (h : s.InBounds) {p : UInt16} (hp : p ∈ s.stack.live) : p.toNat ≤ 0xFFE := by
  obtain ⟨k, hk, rfl⟩ := Vector.getElem_of_mem (Vector.mem_toList_iff.1 (List.mem_of_mem_take hp))
  exact h.slots k hk

variable {i : Instruction} (h : s.InBounds) (hpc : s.pc.toNat ≤ 0xFFE) (hf : i.fault? s = none)

include h hpc hf

theorem pcAfter_le : (i.pcAfter s).toNat ≤ 0x1002 := by
  have hnext : (s.pc + 2).toNat ≤ 0x1002 := by rw [toNat_add_two hpc]; omega
  have hskip : (s.pc + 4).toNat ≤ 0x1002 := by rw [toNat_add_four hpc]; omega
  cases i with
  | ret =>
    have htop := h.top_le (Instruction.open_of_ret hf).1
    simp only [Instruction.pcAfter, toNat_add_two htop]
    omega
  | jump a =>
    have := a.isLt
    simp only [Instruction.pcAfter, UInt16.toNat_ofNat']; omega
  | call a =>
    have := a.isLt
    simp only [Instruction.pcAfter, UInt16.toNat_ofNat']; omega
  | jumpOffset a =>
    simp only [Instruction.pcAfter, UInt16.toNat_ofNat']; omega
  | skip test =>
    simp only [Instruction.pcAfter]
    split
    · exact hskip
    · exact hnext
  | waitKey x =>
    simp only [Instruction.pcAfter]
    split
    · exact h.pc
    · exact hnext
  | _ => exact hnext

omit hpc in
theorem depthAfter_le : (i.stackAfter s).depth ≤ Stack.capacity := by
  have hd := h.depth
  cases i with
  | ret => simp only [Instruction.stackAfter]; omega
  | call a => exact Instruction.room_of_call hf
  | _ => exact hd

omit hf in
theorem slotsAfter_le (k : Nat) (hk : k < Stack.capacity) :
    (i.stackAfter s).slots[k].toNat ≤ 0xFFE := by
  cases i with
  | call a =>
    simp only [Instruction.stackAfter, Vector.getElem_setIfInBounds]
    split
    · exact hpc
    · exact h.slots k hk
  | _ => exact h.slots k hk

omit hpc hf in
theorem pixelsAfter (k : Nat) (hk : k < Screen.size) :
    (i.screenAfter s)[k] = 0 ∨ (i.screenAfter s)[k] = 1 := by
  cases i with
  | clear => simp [Instruction.screenAfter, Screen.blank]
  | draw x y rows =>
    exact Screen.flipAll_dark_or_lit hk (h.pixels k hk)
  | _ => exact h.pixels k hk

omit hpc hf in
/-- The sound timer runs for one tick at most. -/
theorem soundAfter_le : i.soundAfter s = 0 ∨ i.soundAfter s = 1 := by
  cases i with
  | setSound x =>
    simp only [Instruction.soundAfter]
    split <;> simp
  | _ => exact .inl h.silent

end State.InBounds

namespace Machine

variable {m : Machine}

/-- **A cycle that carries out an instruction keeps the bounds.** -/
theorem inBounds_after {i : Instruction} (h : m.state.InBounds) (hi : m.executes? = some i) :
    (m.after i).state.InBounds := by
  have hpc : m.state.pc.toNat ≤ 0xFFE := Nat.le_sub_of_add_le (pc_le_of_executes hi)
  have hf := (executes?_eq_some_iff.1 hi).2
  refine ⟨h.depthAfter_le hf, h.pcAfter_le hpc hf, h.slotsAfter_le hpc, h.pixelsAfter, ?_⟩
  -- the tick of the same cycle stops a tone that the instruction started
  have hsound : (m.after i).state.sound =
      if i.soundAfter m.state > 0 then i.soundAfter m.state - 1 else 0 := rfl
  rcases h.soundAfter_le (i := i) with h0 | h1
  · rw [hsound, h0]; rfl
  · rw [hsound, h1]; rfl

/-- Every call keeps the bounds. -/
theorem inBounds_call (h : m.state.InBounds) (c : Call) : (m.call c).1.state.InBounds := by
  rcases call_cases m c with ⟨i, -, hi, hc⟩ | ⟨-, memory, keys, redraw, hc⟩
  · rw [hc]; exact inBounds_after h hi
  · have hs : (m.call c).1.state = { m.state with memory, keys, redraw } :=
      congrArg Core.state hc
    rw [hs]; exact h.congr memory keys redraw

/-- So does every history. -/
theorem inBounds_calls (h : m.state.InBounds) (cs : List Call) :
    (m.calls cs).1.state.InBounds :=
  calls_invariant (P := fun m => m.state.InBounds) (fun _ c hm => inBounds_call hm c) h cs

/-- **Every reachable machine is within the bounds.** -/
theorem Reachable.inBounds (h : m.Reachable) : m.state.InBounds :=
  h.invariant (P := fun m => m.state.InBounds) (fun _ => .fresh) fun _ c hm => inBounds_call hm c

end Machine

end ChipEight
