import ChipEight.Proofs.Footprint
import ChipEight.Proofs.Input
import Mathlib.Order.Bounds.Basic

/-!
# Waiting for a key

A machine that waits for a key fetches one instruction again and again. As long as no key is down,
nothing moves that this instruction or its fetch looks at, so that only the delay timer tells how
many cycles have gone by. Once keys are down, the next cycle takes the lowest of them.

* `Keypad.lowest?_eq_some_iff`: the lowest key is the least of those that are down.
* `Waits.step_of_none`, `Waits.step_of_some`: one cycle, in vain or not.
* `Waits.steps`: any number of cycles in vain.
* `waits_for_key`: first the cycles in vain, then calls that move keys, and then the cycle that
  takes one.
-/

namespace ChipEight

theorem Keypad.lowest?_eq_some_iff {keys : Keypad} {k : Fin 16} :
    keys.lowest? = some k ↔ IsLeast {j : Fin 16 | keys[j] = true} k := by
  rw [lowest?, List.find?_eq_some_iff_getElem]
  constructor
  · rintro ⟨hk, i, hi, hget, hbefore⟩
    have hik : i = k.val := by rw [← hget]; simp
    refine ⟨hk, fun j (hj : keys[j] = true) => ?_⟩
    -- a lower key would have been found first
    by_contra hlt
    have hup : keys[j] = false := by simpa using hbefore j.val (by omega)
    rw [hup] at hj
    cases hj
  · rintro ⟨hk, hleast⟩
    refine ⟨hk, k.val, by simp, by simp, fun j hj => ?_⟩
    have hup : ¬keys[(⟨j, by omega⟩ : Fin 16)] = true := fun hdown =>
      absurd (Fin.le_def.1 (hleast hdown)) (Nat.not_le.2 hj)
    simpa using hup

namespace Machine

/-- The next cycle asks for a key, which is to go to Vx, and the sound timer is at rest. -/
structure Waits (m : Machine) (x : Register) : Prop where
  instruction : m.state.instruction? = some (.waitKey x)
  silent : m.state.sound = 0

namespace Waits

variable {m : Machine} {x : Register} (h : m.Waits x)

include h

/-- The delay timer and the keys have no part in the waiting. -/
theorem congr (delay : UInt8) (keys : Keypad) :
    Waits { m with state := { m.state with delay, keys } } x :=
  ⟨h.instruction, h.silent⟩

theorem executes : m.executes? = some (.waitKey x) :=
  executes?_eq_some_iff.2 ⟨h.instruction, rfl⟩

theorem succeeds : m.step.2.fault? = none := by
  rw [fault?_step_of_instruction? h.instruction]
  rfl

theorem tones_step : m.step.2.tones = [] := by
  have htones : m.step.2.tones = if m.soundsIn .step then [m.speaker] else [] :=
    tones_call h.silent .step
  rw [htones, soundsIn, show m.completes? .step = _ from h.executes]
  rfl

/-- **One cycle** of waiting: Vx and the program counter are for the instruction to say, and the
delay timer ticks. -/
theorem step_eq :
    ∃ delay, m.step.1 = { m with
        state := { m.state with
          v := (Instruction.waitKey x).vAfter 0 m.state
          pc := (Instruction.waitKey x).pcAfter m.state
          delay } } ∧
      delay.toNat = m.state.delay.toNat - 1 := by
  refine ⟨_, ?_, toNat_countDown m.state.delay⟩
  rw [step_of_executes h.executes, after, tick, State.tick]
  simp only [Instruction.coreAfter, Instruction.stateAfter, Instruction.soundAfter, h.silent]
  rfl

/-- A cycle in vain changes nothing but the delay timer. -/
theorem step_of_none (hnone : m.state.keys.lowest? = none) :
    ∃ delay, m.step.1 = { m with state := { m.state with delay } } ∧
      delay.toNat = m.state.delay.toNat - 1 := by
  obtain ⟨delay, hstep, hdelay⟩ := h.step_eq
  simp only [Instruction.vAfter, Instruction.pcAfter, hnone] at hstep
  exact ⟨delay, hstep, hdelay⟩

/-- A cycle that takes a key puts it in Vx and goes on. -/
theorem step_of_some {k : Fin 16} (hsome : m.state.keys.lowest? = some k) :
    ∃ delay, m.step.1 =
        { m with state := { m.state.setV x (.ofNat k.val) with pc := m.state.pc + 2, delay } } ∧
      delay.toNat = m.state.delay.toNat - 1 := by
  obtain ⟨delay, hstep, hdelay⟩ := h.step_eq
  simp only [Instruction.vAfter, Instruction.pcAfter, hsome] at hstep
  exact ⟨delay, hstep, hdelay⟩

/-- **Any number of cycles in vain** change nothing but the delay timer. -/
theorem steps (hnone : m.state.keys.lowest? = none) (n : Nat) :
    ∃ delay, m.steps n = { m with state := { m.state with delay } } ∧
      delay.toNat = m.state.delay.toNat - n := by
  induction n with
  | zero => exact ⟨m.state.delay, rfl, rfl⟩
  | succ n ih =>
    obtain ⟨delay, hsteps, hdelay⟩ := ih
    obtain ⟨delay', hstep, hdelay'⟩ := (h.congr delay m.state.keys).step_of_none hnone
    refine ⟨delay', ?_, ?_⟩
    · rw [Machine.steps, hsteps, hstep]
    · change delay'.toNat = delay.toNat - 1 at hdelay'
      omega

end Waits

variable {m : Machine}

/-- Calls that move keys change nothing else. -/
theorem calls_of_inputs {cs : List Call} (h : ∀ c ∈ cs, c.isInput = true) :
    ∃ keys, (m.calls cs).1 = { m with state := { m.state with keys } } := by
  induction cs generalizing m with
  | nil => exact ⟨m.state.keys, rfl⟩
  | cons c cs ih =>
    have hc := h c List.mem_cons_self
    obtain ⟨keys, hcs⟩ := ih (m := (m.call c).1) fun d hd => h d (List.mem_cons_of_mem c hd)
    refine ⟨keys, ?_⟩
    rw [calls_cons, hcs]
    cases c with
    | setKeys | setKey => rfl
    | load | step | needsRedraw | takeRedraw | link => cases hc

/-- In the next cycle, the machine takes the key: it is the lowest one that is down, and goes to Vx.
The program counter goes on, the delay timer ticks, and nothing else changes. -/
structure Takes (m : Machine) (x : Register) (k : Fin 16) : Prop where
  lowest : IsLeast {j : Fin 16 | m.state.keys[j] = true} k
  succeeds : m.step.2.fault? = none
  silent : m.step.2.tones = []
  next : ∃ pc delay,
    m.step.1 = { m with state := { m.state.setV x (.ofNat k.val) with pc, delay } } ∧
      pc.toNat = m.state.pc.toNat + 2 ∧ delay.toNat = m.state.delay.toNat - 1

theorem Waits.takes {x : Register} {k : Fin 16} (h : m.Waits x)
    (hsome : m.state.keys.lowest? = some k) : m.Takes x k := by
  obtain ⟨delay, hstep, hdelay⟩ := h.step_of_some hsome
  have hpc : m.state.pc.toNat ≤ 0xFFE := Nat.le_sub_of_add_le (pc_le_of_executes h.executes)
  exact ⟨Keypad.lowest?_eq_some_iff.1 hsome, h.succeeds, h.tones_step,
    _, delay, hstep, toNat_add_two hpc, hdelay⟩

/-- **Waiting for a key.** A machine asks for a key, and none is down. Then any number of cycles
succeed without a tone and change nothing but the delay timer, which counts them down to zero. If
after that keys are moved, in whatever way, and some are down in the end, then the next cycle takes
the lowest of them. -/
theorem waits_for_key {x : Register} (h : m.Reachable)
    (hwait : m.state.instruction? = some (.waitKey x)) (hup : ∀ k : Fin 16, m.state.keys[k] = false)
    (n : Nat) :
    (∀ j < n, (m.steps j).step.2.fault? = none ∧ (m.steps j).step.2.tones = []) ∧
    (∃ delay, m.steps n = { m with state := { m.state with delay } } ∧
      delay.toNat = m.state.delay.toNat - n) ∧
    ∀ cs : List Call, (∀ c ∈ cs, c.isInput = true) →
      (∃ k : Fin 16, ((m.steps n).calls cs).1.state.keys[k] = true) →
      ∃ k, ((m.steps n).calls cs).1.Takes x k := by
  have hwaits : m.Waits x := ⟨hwait, h.inBounds.silent⟩
  have hnone : m.state.keys.lowest? = none := by
    refine Option.eq_none_iff_forall_ne_some.2 fun k hk => ?_
    have hdown : m.state.keys[k] = true := (Keypad.lowest?_eq_some_iff.1 hk).1
    rw [hup] at hdown
    cases hdown
  refine ⟨fun j _ => ?_, hwaits.steps hnone n, fun cs hcs hdown => ?_⟩
  · obtain ⟨delay, hsteps, -⟩ := hwaits.steps hnone j
    have hstill := hwaits.congr delay m.state.keys
    rw [hsteps]
    exact ⟨hstill.succeeds, hstill.tones_step⟩
  · obtain ⟨delay, hsteps, -⟩ := hwaits.steps hnone n
    obtain ⟨keys, hcalls⟩ := calls_of_inputs (m := m.steps n) hcs
    rw [hsteps] at hcalls hdown ⊢
    rw [hcalls] at hdown ⊢
    have hstill := hwaits.congr delay keys
    cases hlow : keys.lowest? with
    | some k => exact ⟨k, hstill.takes hlow⟩
    | none =>
      obtain ⟨k, hk⟩ := hdown
      have hget : keys[k.val]? = some true := Vector.getElem?_eq_some_iff.2 ⟨k.isLt, hk⟩
      exact absurd hget (Keypad.lowest?_eq_none_iff.1 hlow k)

/-- The delay timer runs out while the machine waits. Then four keys are pressed, one of them none
that there is, and one is released again: the lower one of those left is taken. -/
theorem waits_for_key_lowest :
    let program : List UInt8 := [0x61, 0x05, 0xF1, 0x15, 0xF3, 0x0A]
    let m := ((fresh (.cycling #[])).calls [.load program, .step, .step]).1
    let cs : List Call :=
      [.setKey 20 true, .setKey 12 true, .setKey 2 true, .setKey 7 true, .setKey 2 false]
    m.Reachable ∧ m.state.delay = 4 ∧ (m.steps 6).state.delay.toNat = 0 ∧
      ((m.steps 6).calls cs).1.Takes 3 7 := by
  intro program m cs
  have hreach : m.Reachable := ⟨_, _, rfl⟩
  have hrun : m.state.instruction? = some (.waitKey 3) ∧ m.state.delay = 4 ∧
      (∀ k : Fin 16, m.state.keys[k] = false) ∧ (∀ c ∈ cs, c.isInput = true) ∧
      ((m.steps 6).calls cs).1.state.keys[(7 : Fin 16)] = true ∧
      ∀ k : Fin 16, ((m.steps 6).calls cs).1.state.keys[k] = true → 7 ≤ k := by
    decide +kernel
  -- from here on the run must not be computed again
  clear_value m
  obtain ⟨hwait, hfour, hup, hcs, hseven, hleast⟩ := hrun
  obtain ⟨-, ⟨delay, hsteps, hdelay⟩, htakes⟩ := waits_for_key hreach hwait hup 6
  obtain ⟨k, hk⟩ := htakes cs hcs ⟨7, hseven⟩
  have hk7 : k = 7 := hk.lowest.unique ⟨hseven, hleast⟩
  refine ⟨hreach, hfour, ?_, hk7 ▸ hk⟩
  rw [hsteps]
  rw [hfour] at hdelay
  exact hdelay

end Machine

end ChipEight
