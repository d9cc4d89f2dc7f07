import ChipEight.Proofs.Redraw
import ChipEight.Proofs.StraightLine
import ChipEight.Proofs.Timers

/-!
# What an instruction may change

The footprint of an instruction can be told from the instruction alone, its registers and its bytes
from I on. Here it is written down part by part, and everything outside is the same after the
instruction as before.

* `Instruction.targets`, `writeLength`, `setsIndex`, `setsSound`, `opened`, `closed`: the footprint.
* `get_vAfter`, `getElem?_slotsAfter`, `depth_stackAfter`, `toNat_pcAfter`: the parts that take more
  than a look at the instruction.
* `Instruction.ChangesOnly`: a state, and one that differs from it in the footprint only.
* `execute_changes_only`: that is what an instruction that succeeds makes of a state.
-/

namespace ChipEight

/-- No key is the lowest exactly if none is down. -/
theorem Keypad.lowest?_eq_none_iff {keys : Keypad} :
    keys.lowest? = none ↔ ∀ k, keys.down? k ≠ some true := by
  simp only [lowest?, down?, List.find?_eq_none, List.mem_finRange, forall_const]
  constructor
  · intro h k hk
    obtain ⟨hlt, hdown⟩ := Vector.getElem?_eq_some_iff.1 hk
    exact h ⟨k, hlt⟩ hdown
  · intro h k hk
    exact h k.val (Vector.getElem?_eq_some_iff.2 ⟨k.isLt, hk⟩)

namespace Instruction

/-! ## Footprints -/

/-- The registers that an instruction may change. -/
def targets : Instruction → Set Register
  | load x _ | addByte x _ | combine _ x _ | random x _ | readDelay x | waitKey x => {x}
  | arith op => {op.target, flagRegister}
  | draw .. => {flagRegister}
  | read x => Set.Iic x
  | _ => ∅

/-- How many bytes of memory it may change, from I on. -/
def writeLength : Instruction → Nat
  | bcd _ => 3
  | store x => x.val + 1
  | _ => 0

/-- Whether it may change I. -/
def setsIndex : Instruction → Bool
  | loadIndex _ | addIndex _ | loadGlyph _ | read _ => true
  | _ => false

/-- Whether it may change the sound timer. -/
def setsSound : Instruction → Bool
  | setSound _ => true
  | _ => false

/-- The number of calls that it opens. -/
def opened : Instruction → Nat
  | call _ => 1
  | _ => 0

/-- The number of calls that it closes. -/
def closed : Instruction → Nat
  | ret => 1
  | _ => 0

variable {s : State} {i : Instruction}

/-! ## Part by part -/

theorem get_vAfter (w : UInt32) {r : Register} (h : r ∉ i.targets) :
    (i.vAfter w s).get r = s.v.get r := by
  -- a register is set, or VF and then a register, or a range of registers from V0 on
  have hset : ∀ (s : State) (x : Register) (b : UInt8), r ≠ x → (s.setV x b).v.get r = s.v.get r :=
    fun s x b hne => (s.getElem_setV x r b).trans (if_neg hne.symm)
  cases i with
  | load x | addByte x | combine _ x | random x | readDelay x => exact hset _ _ _ h
  | waitKey x =>
    rw [vAfter]
    split
    · rfl
    · exact hset _ _ _ h
  | arith op =>
    obtain ⟨hx, hflag⟩ := not_or.1 h
    exact (hset _ _ _ hx).trans (hset _ _ _ hflag)
  | draw => exact hset _ _ _ h
  | read x =>
    have hout : ¬ r.val < 0 + (s.memory.span s.i.toNat (x.val + 1)).length := by
      have hr : x.val < r.val := not_le.1 h
      have hlen := List.length_take_le (x.val + 1) (s.memory.toList.drop s.i.toNat)
      rw [← Memory.span] at hlen
      omega
    change (overlay s.v 0 _)[r.val] = _
    rw [getElem_overlay, dif_neg fun hin => hout hin.2]
    rfl
  | _ => rfl

theorem iAfter_of_not_sets (h : i.setsIndex = false) : i.iAfter s = s.i := by
  cases i with
  | loadIndex | addIndex | loadGlyph | read => cases h
  | _ => rfl

theorem soundAfter_of_not_sets (h : i.setsSound = false) : i.soundAfter s = s.sound := by
  cases i with
  | setSound => cases h
  | _ => rfl

theorem length_written (s : State) (i : Instruction) : (i.written s).length = i.writeLength := by
  cases i with
  | store x => exact length_take_registers s.v x
  | _ => rfl

theorem getElem?_slotsAfter {k : Nat} (h : i.opened = 0 ∨ k ≠ s.stack.depth) :
    (i.stackAfter s).slots[k]? = s.stack.slots[k]? := by
  cases i with
  | call a =>
    have hne : k ≠ s.stack.depth := h.resolve_left Nat.one_ne_zero
    exact Vector.getElem?_setIfInBounds_ne hne.symm
  | _ => rfl

/-- What returns has something to return from. -/
theorem depth_stackAfter (hf : i.fault? s = none) :
    (i.stackAfter s).depth + i.closed = s.stack.depth + i.opened := by
  cases i with
  | ret =>
    have hopen := (open_of_ret hf).1
    simp only [stackAfter, closed, opened]
    omega
  | _ => rfl

/-- An instruction goes on, skips, waits, or leads elsewhere; the address behind it is in range. -/
theorem toNat_pcAfter (hpc : s.pc.toNat ≤ 0xFFE) :
    (i.goesOn → (i.pcAfter s).toNat = s.pc.toNat + 2) ∧
    (∀ test, i = skip test →
      (i.pcAfter s).toNat = s.pc.toNat + if test.holds s then 4 else 2) ∧
    (∀ x, i = waitKey x →
      ((∀ k, s.keys.down? k ≠ some true) → i.pcAfter s = s.pc) ∧
      ((∃ k, s.keys.down? k = some true) → (i.pcAfter s).toNat = s.pc.toNat + 2)) := by
  have hnext := toNat_add_two hpc
  refine ⟨fun h => ?_, ?_, ?_⟩
  · rw [pcAfter_of_goesOn h, hnext]
  · rintro test rfl
    rw [pcAfter]
    split
    · exact toNat_add_four hpc
    · exact hnext
  · rintro x rfl
    constructor
    · intro hnone
      rw [pcAfter, Keypad.lowest?_eq_none_iff.2 hnone]
    · rintro ⟨k, hk⟩
      cases hlow : s.keys.lowest? with
      | none => exact absurd hk (Keypad.lowest?_eq_none_iff.1 hlow k)
      | some _ => rw [pcAfter, hlow, hnext]

/-! ## The whole -/

/-- The second state differs from the first one in the footprint of the instruction only. -/
structure ChangesOnly (i : Instruction) (s s' : State) : Prop where
  v : ∀ r ∉ i.targets, s'.v.get r = s.v.get r
  index : i.setsIndex = false → s'.i = s.i
  memory : ∀ a, ¬ (s.i.toNat ≤ a ∧ a < s.i.toNat + i.writeLength) → s'.memory[a]? = s.memory[a]?
  /-- A call takes the first slot that is not live, and no other one. -/
  slots : ∀ k, i.opened = 0 ∨ k ≠ s.stack.depth → s'.stack.slots[k]? = s.stack.slots[k]?
  depth : s'.stack.depth + i.closed = s.stack.depth + i.opened
  screen : i.draws = false → s'.screen = s.screen
  redraw : i.draws = false → s'.redraw = s.redraw
  /-- The redraw flag is never cleared. -/
  marked : s.redraw = true → s'.redraw = true
  delay : i.setsDelay = false → s'.delay = s.delay
  sound : i.setsSound = false → s'.sound = s.sound
  keys : s'.keys = s.keys
  /-- What neither jumps nor returns, skips or waits goes on with the next word. -/
  next : i.goesOn → s'.pc.toNat = s.pc.toNat + 2
  skipped : ∀ test, i = skip test → s'.pc.toNat = s.pc.toNat + if test.holds s then 4 else 2
  /-- A wait goes on if a key is down, and else stays where it is. -/
  waited : ∀ x, i = waitKey x →
    ((∀ k, s.keys.down? k ≠ some true) → s'.pc = s.pc) ∧
    ((∃ k, s.keys.down? k = some true) → s'.pc.toNat = s.pc.toNat + 2)

/-- **An instruction that succeeds changes nothing outside its footprint**, whatever the state and
the random source. -/
theorem execute_changes_only (i : Instruction) {c c' : Core} (hpc : c.state.pc.toNat ≤ 0xFFE)
    (h : i.execute.run c = .ok () c') : i.ChangesOnly c.state c'.state := by
  obtain ⟨hf, rfl⟩ := execute_eq_ok_iff.1 h
  obtain ⟨hnext, hskip, hwait⟩ := toNat_pcAfter (i := i) hpc
  have hredraw : (i.coreAfter c).state.redraw = (i.draws || c.state.redraw) :=
    i.redrawAfter_eq c.state
  refine
    { v := fun r hr => get_vAfter _ hr
      index := iAfter_of_not_sets
      memory := fun a ha => getElem?_memoryAfter ?_
      slots := fun k => getElem?_slotsAfter
      depth := depth_stackAfter hf
      screen := screenAfter_of_not_draws
      redraw := fun hd => ?_
      marked := fun hset => ?_
      delay := delayAfter_of_not_sets
      sound := soundAfter_of_not_sets
      keys := rfl
      next := hnext
      skipped := hskip
      waited := hwait }
  · rwa [Writes, length_written]
  · rw [hredraw, hd, Bool.false_or]
  · rw [hredraw, hset, Bool.or_true]

/-- Three glyph bytes are read by the last word of memory, with every slot of the stack in use: the
registers behind them stay, the slots stay, and the machine goes on past the end. -/
theorem execute_changes_only_read :
    let c : Core :=
      { state := { State.fresh.setV 3 7 with
          i := 0x050, pc := 0xFFE, stack := ⟨.replicate 16 0x300, 16⟩ }
        source := .cycling #[] }
    ∃ c', (read 2).execute.run c = .ok () c' ∧ c'.state.v.get 3 = 7 ∧
      c'.state.stack.slots[15]? = some 0x300 ∧ c'.state.pc.toNat = 0x1000 := by
  intro c
  have hrun : (read 2).execute.run c = .ok () ((read 2).coreAfter c) :=
    execute_eq_ok_iff.2 ⟨by decide, rfl⟩
  have honly := execute_changes_only (read 2) (by decide) hrun
  have hbehind : ¬ (3 : Register) ≤ 2 := by decide
  exact ⟨_, hrun, (honly.v 3 hbehind).trans rfl, (honly.slots 15 (.inl rfl)).trans rfl,
    honly.next rfl⟩

end Instruction

end ChipEight
