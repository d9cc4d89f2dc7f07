import ChipEight.Execute

/-!
# The effect of one instruction

`execute` reads, checks and updates. Here is what it comes to, one field of the state at a time, so
that a statement about a field looks only at the instructions that touch it.

* `le_nine_of_mem_decimalDigits`, `value_decimalDigits`: the digits of a byte are digits, and stand
  for it.
* `getElem?_memoryAfter`: memory changes at most where the instruction `Writes`.
* `execute_run`: an instruction either meets its fault and leaves the core alone, or succeeds with
  every field as its `…After` function says.
* `execute_eq_ok_iff`, `execute_eq_error_iff`: the same, read backwards.
* `run_pair`: two instructions one after the other.
-/

namespace ChipEight

/-- Behind a word that lies in memory the address does not overflow. -/
theorem toNat_add_two {p : UInt16} (h : p.toNat ≤ 0xFFE) : (p + 2).toNat = p.toNat + 2 := by
  rw [UInt16.toNat_add]; simp; omega

/-- Nor does it behind the word after that one. -/
theorem toNat_add_four {p : UInt16} (h : p.toNat ≤ 0xFFE) : (p + 4).toNat = p.toNat + 4 := by
  rw [UInt16.toNat_add]; simp; omega

/-! ## What is written -/

theorem map_toNat_decimalDigits (b : UInt8) :
    (decimalDigits b).map UInt8.toNat = [b.toNat / 100, b.toNat / 10 % 10, b.toNat % 10] := by
  simp [decimalDigits]

theorem le_nine_of_mem_decimalDigits {b d : UInt8} (h : d ∈ decimalDigits b) : d.toNat ≤ 9 := by
  have hb := b.toNat_lt
  have hmem : d.toNat ∈ (decimalDigits b).map UInt8.toNat := List.mem_map_of_mem h
  rw [map_toNat_decimalDigits] at hmem
  simp only [List.mem_cons, List.not_mem_nil, or_false] at hmem
  omega

/-- **The digits of a byte stand for it.** -/
theorem value_decimalDigits {b hundreds tens ones : UInt8}
    (h : decimalDigits b = [hundreds, tens, ones]) :
    100 * hundreds.toNat + 10 * tens.toNat + ones.toNat = b.toNat := by
  have hmap := map_toNat_decimalDigits b
  rw [h] at hmap
  simp only [List.map_cons, List.map_nil, List.cons.injEq, and_true] at hmap
  omega

/-- From V0 to Vx there are x + 1 registers. -/
theorem length_take_registers (v : Registers) (x : Register) :
    (v.toList.take (x.val + 1)).length = x.val + 1 := by
  have hx := x.isLt
  rw [List.length_take, Vector.length_toList]
  omega

theorem getElem?_take_registers (v : Registers) {x z : Register} (hz : z ≤ x) :
    (v.toList.take (x.val + 1))[z.val]? = some (v.get z) := by
  rw [List.getElem?_take, if_pos (Nat.lt_succ_of_le hz), Vector.getElem?_toList]
  exact Vector.getElem?_eq_getElem z.isLt

/-! ## Faults and sprites -/

namespace State

/-- The fault of asking for `len` bytes at I, unless memory holds them all. -/
def overrun? (s : State) (len : Nat) : Option Fault :=
  if s.i.toNat + len ≤ Memory.size then none else some (Memory.outside s.i.toNat)

/-- The screen with the sprite at I drawn at (Vx, Vy), and whether a lit pixel was turned off. -/
def drawn (s : State) (x y : Register) (rows : Fin 16) : Screen × Bool :=
  s.screen.drawSprite (s.v.get x).toNat (s.v.get y).toNat (s.memory.span s.i.toNat rows.val)

end State

namespace Instruction

/-- What an instruction fails with. -/
def fault? (s : State) : Instruction → Option Fault
  | ret =>
    if 0 < s.stack.depth ∧ s.stack.depth ≤ Stack.capacity then none
    else some (.stackUnderflow s.pc)
  | call _ => if s.stack.depth < Stack.capacity then none else some (.stackOverflow s.pc)
  | draw _ _ rows => s.overrun? rows.val
  | bcd _ => s.overrun? 3
  | store x | read x => s.overrun? (x.val + 1)
  | _ => none

/-- What returns has a call to return from. -/
theorem open_of_ret {s : State} (h : ret.fault? s = none) :
    0 < s.stack.depth ∧ s.stack.depth ≤ Stack.capacity := by
  simpa [fault?] using h

/-- What calls has a slot for the call. -/
theorem room_of_call {s : State} {a : Address} (h : (call a).fault? s = none) :
    s.stack.depth < Stack.capacity := by
  simpa [fault?] using h

/-! ## The fields after success

`w` is the next word of the random source, which only `random` takes. -/

def vAfter (w : UInt32) (s : State) : Instruction → Registers
  | load x b => (s.setV x b).v
  | addByte x b => (s.setV x (s.v.get x + b)).v
  | combine op x y => (s.setV x (op.apply (s.v.get x) (s.v.get y))).v
  | arith op => (s.setFlagged op.target (op.compute s.v).1 (op.compute s.v).2).v
  | random x mask => (s.setV x (w.toUInt8 &&& mask)).v
  | draw x y rows => (s.setV flagRegister (s.drawn x y rows).2.toUInt8).v
  | readDelay x => (s.setV x s.delay).v
  | waitKey x =>
    match s.keys.lowest? with
    | none => s.v
    | some k => (s.setV x (.ofNat k.val)).v
  | read x => overlay s.v 0 (s.memory.span s.i.toNat (x.val + 1))
  | _ => s.v

def iAfter (s : State) : Instruction → UInt16
  | loadIndex a => .ofNat a.val
  | addIndex x => s.indexPlus (s.v.get x).toNat
  | loadGlyph x => Memory.fontStart + .ofNat (Font.glyphHeight * (s.v.get x).toNat)
  | read x => s.indexPlus (x.val + 1)
  | _ => s.i

def pcAfter (s : State) : Instruction → UInt16
  | ret => s.stack.top + 2
  | jump a | call a => .ofNat a.val
  | skip test => if test.holds s then s.pc + 4 else s.pc + 2
  | jumpOffset a => .ofNat (((s.v.get baseRegister).toNat + a.val) % 4096)
  | waitKey _ =>
    match s.keys.lowest? with
    | none => s.pc
    | some _ => s.pc + 2
  | _ => s.pc + 2

def stackAfter (s : State) : Instruction → Stack
  | ret => ⟨s.stack.slots, s.stack.depth - 1⟩
  | call _ => ⟨s.stack.slots.setIfInBounds s.stack.depth s.pc, s.stack.depth + 1⟩
  | _ => s.stack

def delayAfter (s : State) : Instruction → UInt8
  | setDelay x => s.v.get x
  | _ => s.delay

def soundAfter (s : State) : Instruction → UInt8
  | setSound x => if s.v.get x = 0 then 0 else 1
  | _ => s.sound

def memoryAfter (s : State) : Instruction → Memory
  | bcd x => overlay s.memory s.i.toNat (decimalDigits (s.v.get x))
  | store x => overlay s.memory s.i.toNat (s.v.toList.take (x.val + 1))
  | _ => s.memory

/-- The bytes that an instruction writes, from I on. -/
def written (s : State) : Instruction → List UInt8
  | bcd x => decimalDigits (s.v.get x)
  | store x => s.v.toList.take (x.val + 1)
  | _ => []

/-- Whether an instruction writes to an address. -/
def Writes (s : State) (i : Instruction) (a : Nat) : Prop :=
  s.i.toNat ≤ a ∧ a < s.i.toNat + (i.written s).length

def screenAfter (s : State) : Instruction → Screen
  | clear => .blank
  | draw x y rows => (s.drawn x y rows).1
  | _ => s.screen

def redrawAfter (s : State) : Instruction → Bool
  | clear | draw .. => true
  | _ => s.redraw

/-- The state after an instruction that succeeds. -/
def stateAfter (w : UInt32) (s : State) (i : Instruction) : State where
  v := i.vAfter w s
  i := i.iAfter s
  pc := i.pcAfter s
  stack := i.stackAfter s
  delay := i.delayAfter s
  sound := i.soundAfter s
  memory := i.memoryAfter s
  screen := i.screenAfter s
  redraw := i.redrawAfter s
  keys := s.keys

/-- The random source after an instruction that succeeds. -/
def sourceAfter (source : Random.Source) : Instruction → Random.Source
  | random .. => source.next.2
  | _ => source

/-- The core after an instruction that succeeds. -/
def coreAfter (c : Core) (i : Instruction) : Core where
  state := i.stateAfter (c.source.word c.source.taken) c.state
  source := i.sourceAfter c.source

theorem memoryAfter_eq (s : State) (i : Instruction) :
    i.memoryAfter s = overlay s.memory s.i.toNat (i.written s) := by
  cases i <;> rfl

/-- What is not written to stays. -/
theorem getElem?_memoryAfter {s : State} {i : Instruction} {a : Nat} (h : ¬ i.Writes s a) :
    (i.memoryAfter s)[a]? = s.memory[a]? := by
  unfold Writes at h
  by_cases ha : a < Memory.size
  · rw [Vector.getElem?_eq_getElem ha, Vector.getElem?_eq_getElem ha, memoryAfter_eq,
      getElem_overlay, dif_neg h]
  · rw [Vector.getElem?_eq_none (Nat.not_lt.1 ha), Vector.getElem?_eq_none (Nat.not_lt.1 ha)]

/-! ## Execution in closed form -/

section Run

open Exec

variable {α β : Type} (c : Core)

theorem run_state_bind (f : State → Exec β) : (state >>= f).run c = (f c.state).run c := rfl

theorem run_attempt_bind (r : Except Fault α) (f : α → Exec β) :
    (attempt r >>= f).run c =
      match r with
      | .ok a => (f a).run c
      | .error e => .error e c := by
  cases r <;> rfl

/-- What follows an action that succeeds goes on where that has left the core. -/
theorem run_bind_of_ok {c c' : Core} {action : Exec α} {a : α} (h : action.run c = .ok a c')
    (f : α → Exec β) : (action >>= f).run c = (f a).run c' := by
  change EStateM.bind action f c = f a c'
  unfold EStateM.bind
  rw [show action c = .ok a c' from h]

/-- Access to `len` bytes at I, and then an update: the fault, if any, is `overrun?`. -/
theorem run_access (r : Except Fault α) (a : α) (len : Nat) (f : α → State → State)
    (hr : r = if c.state.i.toNat + len ≤ Memory.size then .ok a
      else .error (Memory.outside c.state.i.toNat)) :
    (attempt r >>= fun a => update (f a)).run c =
      match c.state.overrun? len with
      | some e => .error e c
      | none => .ok () { c with state := f a c.state } := by
  rw [run_attempt_bind, hr, State.overrun?]
  by_cases h : c.state.i.toNat + len ≤ Memory.size
  · rw [if_pos h, if_pos h]; rfl
  · rw [if_neg h, if_neg h]

end Run

/-- **An instruction either meets its fault and leaves the core alone, or succeeds.** -/
theorem execute_run (i : Instruction) (c : Core) :
    i.execute.run c =
      match i.fault? c.state with
      | some e => .error e c
      | none => .ok () (i.coreAfter c) := by
  cases i with
  | ret =>
    rw [execute, run_state_bind, Stack.pop?_eq, fault?]
    by_cases h : 0 < c.state.stack.depth ∧ c.state.stack.depth ≤ Stack.capacity
    · rw [if_pos h, if_pos h]; rfl
    · rw [if_neg h, if_neg h]; rfl
  | call a =>
    rw [execute, run_state_bind, Stack.push?_eq, fault?]
    by_cases h : c.state.stack.depth < Stack.capacity
    · rw [if_pos h, if_pos h]; rfl
    · rw [if_neg h, if_neg h]; rfl
  | draw x y rows =>
    rw [execute, run_state_bind]
    exact run_access c _ _ rows.val _ (Memory.read_eq ..)
  | bcd x =>
    rw [execute, run_state_bind]
    exact run_access c _ _ 3 _ rfl
  | store x =>
    rw [execute, run_state_bind]
    have hwrite : c.state.memory.write c.state.i.toNat (c.state.v.toList.take (x.val + 1)) =
        if c.state.i.toNat + (x.val + 1) ≤ Memory.size then .ok ((store x).memoryAfter c.state)
        else .error (Memory.outside c.state.i.toNat) := by
      rw [Memory.write, length_take_registers]; rfl
    exact run_access c _ _ (x.val + 1) _ hwrite
  | read x =>
    rw [execute, run_state_bind]
    exact run_access c _ _ (x.val + 1) _ (Memory.read_eq ..)
  | skip test =>
    rw [execute, Exec.run_update]
    have hpc : (if test.holds c.state then c.state.advanceTwo else c.state.advance) =
        { c.state with pc := if test.holds c.state then c.state.pc + 4 else c.state.pc + 2 } := by
      split <;> rfl
    rw [hpc]; rfl
  | waitKey x =>
    rw [execute, Exec.run_update]
    simp only [fault?, coreAfter, stateAfter, vAfter, pcAfter]
    cases c.state.keys.lowest? <;> rfl
  | _ => rfl

variable {i : Instruction} {c c' : Core}

/-- An instruction succeeds exactly without a fault, and then comes to the core after it. -/
theorem execute_eq_ok_iff :
    i.execute.run c = .ok () c' ↔ i.fault? c.state = none ∧ c' = i.coreAfter c := by
  rw [execute_run]
  cases h : i.fault? c.state with
  | none => simp [eq_comm]
  | some e => simp

/-- An instruction fails exactly with its fault, and then the core is as it was. -/
theorem execute_eq_error_iff {e : Fault} :
    i.execute.run c = .error e c' ↔ i.fault? c.state = some e ∧ c' = c := by
  rw [execute_run]
  cases h : i.fault? c.state with
  | none => simp
  | some d =>
    constructor
    · intro heq; cases heq; exact ⟨rfl, rfl⟩
    · rintro ⟨hd, rfl⟩; cases hd; rfl

/-- Two instructions succeed one after the other if neither meets a fault where it comes. -/
theorem run_pair {j : Instruction} (hi : i.fault? c.state = none)
    (hj : j.fault? (i.coreAfter c).state = none) :
    (do i.execute; j.execute).run c = .ok () (j.coreAfter (i.coreAfter c)) := by
  have hfirst : i.execute.run c = .ok () (i.coreAfter c) := execute_eq_ok_iff.2 ⟨hi, rfl⟩
  rw [run_bind_of_ok hfirst]
  exact execute_eq_ok_iff.2 ⟨hj, rfl⟩

end Instruction

end ChipEight
