import ChipEight.Machine.Call
import ChipEight.Proofs.Effect

/-!
# Cycles and calls in closed form

* `step_of_fault`, `step_of_executes`: a cycle either fails, and then the machine is as it was, or
  carries out one instruction and lets the timers tick.
* `fault?_step`: whether and how a cycle fails is a matter of the state alone.
* `call_cases`: any other call touches at most memory, the keys and the redraw flag.
* `calls_invariant`: what every call keeps, every history keeps.

A machine is reachable (`Reachable`) if some history leads to it from a fresh one.
-/

namespace ChipEight

/-- The instruction at the program counter, if its word lies in memory and stands for one. -/
def State.instruction? (s : State) : Option Instruction :=
  match s.memory.word s.pc.toNat with
  | .ok op => Instruction.decode? op
  | .error _ => none

/-- What the next cycle fails with: the fetch comes first, then the decoding, then the execution. -/
def State.fault? (s : State) : Option Fault :=
  match s.memory.word s.pc.toNat with
  | .error e => some e
  | .ok op =>
    match Instruction.decode op s.pc with
    | .error e => some e
    | .ok i => i.fault? s

namespace Machine

/-- The instruction that the next cycle carries out, if it succeeds. -/
def executes? (m : Machine) : Option Instruction :=
  match m.step.2.fault? with
  | none => m.state.instruction?
  | some _ => none

/-- The instruction that a call carries out: none unless the call is a cycle that succeeds. -/
def completes? (m : Machine) : Call → Option Instruction
  | .step => m.executes?
  | _ => none

/-- The machine after a cycle that carried out the instruction. -/
def after (m : Machine) (i : Instruction) : Machine :=
  (tick { m with toCore := i.coreAfter m.toCore }).1

/-- What a cycle reports before it executes. -/
def trace (m : Machine) (op : Opcode) (i : Instruction) : Event :=
  .notice (.decoded m.state.pc op i m.state.v m.state.i)

/-- What a cycle reports when it fails. -/
def failure (m : Machine) (e : Fault) : Event := .notice (.failed m.state.pc e)

/-! ## One cycle -/

/-- **The three ways of a cycle**: nothing to execute, an instruction that fails, an instruction
that succeeds. -/
theorem step_cases (m : Machine) :
    (∃ e, m.state.instruction? = none ∧ m.state.fault? = some e ∧
      m.step = (m, ⟨some e, [m.failure e]⟩)) ∨
    (∃ op i e, m.state.memory.word m.state.pc.toNat = .ok op ∧ Instruction.decode? op = some i ∧
      m.state.instruction? = some i ∧ i.fault? m.state = some e ∧ m.state.fault? = some e ∧
      m.step = (m, ⟨some e, [m.trace op i, m.failure e]⟩)) ∨
    (∃ op i, m.state.memory.word m.state.pc.toNat = .ok op ∧ Instruction.decode? op = some i ∧
      m.state.instruction? = some i ∧ i.fault? m.state = none ∧ m.state.fault? = none ∧
      m.step = (m.after i,
        ⟨none, m.trace op i :: (tick { m with toCore := i.coreAfter m.toCore }).2⟩)) := by
  unfold State.instruction? State.fault?
  cases h : m.state.memory.word m.state.pc.toNat with
  | error e => exact .inl ⟨e, rfl, rfl, by simp only [step, h]; rfl⟩
  | ok op =>
    cases hd : Instruction.decode op m.state.pc with
    | error e =>
      obtain ⟨hnone, -⟩ := Instruction.decode_eq_error_iff.1 hd
      exact .inl ⟨e, hnone, by simp only [hd], by simp only [step, h, hd]; rfl⟩
    | ok i =>
      have hsome := Instruction.decode_eq_ok_iff.1 hd
      cases hf : i.fault? m.state with
      | some e =>
        have hrun := Instruction.execute_eq_error_iff.2 ⟨hf, rfl⟩
        exact .inr (.inl ⟨op, i, e, rfl, hsome, hsome, hf, by simp only [hd, hf],
          by simp only [step, h, hd, hrun]; rfl⟩)
      | none =>
        have hrun := Instruction.execute_eq_ok_iff.2 ⟨hf, rfl⟩
        exact .inr (.inr ⟨op, i, rfl, hsome, hsome, hf, by simp only [hd, hf],
          by simp only [step, h, hd, hrun]; rfl⟩)

variable {m : Machine}

/-- **Whether and how a cycle fails is a matter of the state alone.** -/
theorem fault?_step (m : Machine) : m.step.2.fault? = m.state.fault? := by
  obtain ⟨e, -, hf, hs⟩ | ⟨op, i, e, -, -, -, -, hf, hs⟩ | ⟨op, i, -, -, -, -, hf, hs⟩ :=
    step_cases m <;> rw [hs, hf]

/-- **A cycle that fails leaves the machine alone**, and sounds no tone. -/
theorem step_of_fault {e : Fault} (h : m.state.fault? = some e) :
    m.step.1 = m ∧ ∀ speaker, .tone speaker ∉ m.step.2.events := by
  obtain ⟨e, -, -, hs⟩ | ⟨op, i, e, -, -, -, -, -, hs⟩ | ⟨op, i, -, -, -, -, hf, -⟩ := step_cases m
  · rw [hs]; exact ⟨rfl, fun _ => by simp [failure]⟩
  · rw [hs]; exact ⟨rfl, fun _ => by simp [failure, trace]⟩
  · rw [hf] at h; cases h

/-- A cycle carries out the instruction at the program counter, if that has no fault. -/
theorem executes?_eq_some_iff {i : Instruction} :
    m.executes? = some i ↔ m.state.instruction? = some i ∧ i.fault? m.state = none := by
  unfold executes?
  rw [fault?_step]
  obtain ⟨e, hi, hf, -⟩ | ⟨op, j, e, -, -, hi, he, hf, -⟩ | ⟨op, j, -, -, hi, he, hf, -⟩ :=
    step_cases m
  · simp [hi, hf]
  · rw [hf, hi]; simp only [reduceCtorEq, Option.some.injEq, false_iff, not_and]
    rintro rfl; simp [he]
  · rw [hf, hi]; simp only [Option.some.injEq, iff_self_and]
    rintro rfl; exact he

theorem executes?_eq_none_iff : m.executes? = none ↔ ∃ e, m.state.fault? = some e := by
  unfold executes?
  rw [fault?_step]
  obtain ⟨e, hi, hf, -⟩ | ⟨op, j, e, -, -, hi, he, hf, -⟩ | ⟨op, j, -, -, hi, he, hf, -⟩ :=
    step_cases m <;> simp [hi, hf]

/-- **A cycle that carries out an instruction** comes to the machine after it. -/
theorem step_of_executes {i : Instruction} (h : m.executes? = some i) : m.step.1 = m.after i := by
  obtain ⟨hi, he⟩ := executes?_eq_some_iff.1 h
  obtain ⟨e, hj, -, -⟩ | ⟨op, j, e, -, -, hj, hf, -, -⟩ | ⟨op, j, -, -, hj, -, -, hs⟩ :=
    step_cases m
  · rw [hi] at hj; cases hj
  · rw [hi] at hj; cases hj; rw [he] at hf; cases hf
  · rw [hi] at hj; cases hj; rw [hs]

/-- What a cycle reports that carries out an instruction. -/
theorem report_of_executes {i : Instruction} (h : m.executes? = some i) :
    ∃ op, m.step.2 =
      ⟨none, m.trace op i :: if i.soundAfter m.state > 0 then [.tone m.speaker] else []⟩ := by
  obtain ⟨hi, he⟩ := executes?_eq_some_iff.1 h
  obtain ⟨e, hj, -, -⟩ | ⟨op, j, e, -, -, hj, hf, -, -⟩ | ⟨op, j, -, -, hj, -, -, hs⟩ :=
    step_cases m
  · rw [hi] at hj; cases hj
  · rw [hi] at hj; cases hj; rw [he] at hf; cases hf
  · rw [hi] at hj; cases hj
    refine ⟨op, ?_⟩
    rw [hs]
    simp only [tick, State.tick, decide_eq_true_eq]
    rfl

/-- Once there is an instruction, the cycle fails if and as the instruction does. -/
theorem fault?_step_of_instruction? {i : Instruction} (h : m.state.instruction? = some i) :
    m.step.2.fault? = i.fault? m.state := by
  obtain ⟨e, hi, -, -⟩ | ⟨op, j, e, -, -, hi, he, -, hs⟩ | ⟨op, j, -, -, hi, he, -, hs⟩ :=
    step_cases m
  · rw [hi] at h; cases h
  · rw [hi] at h; cases h; rw [hs, he]
  · rw [hi] at h; cases h; rw [hs, he]

/-- The state after a cycle: that after the instruction, the timers apart. -/
theorem state_after (m : Machine) (i : Instruction) :
    (m.after i).state = (i.stateAfter (m.source.word m.source.taken) m.state).tick.1 := rfl

/-- An instruction that is carried out was fetched from memory. -/
theorem pc_le_of_executes {i : Instruction} (h : m.executes? = some i) :
    m.state.pc.toNat + 2 ≤ Memory.size := by
  obtain ⟨hi, -⟩ := executes?_eq_some_iff.1 h
  unfold State.instruction? at hi
  cases hw : m.state.memory.word m.state.pc.toNat with
  | ok op => exact Memory.word_eq_ok_iff.1 ⟨op, hw⟩
  | error e => rw [hw] at hi; cases hi

/-! ## Any call -/

/-- **A call either carries out an instruction or touches at most memory, the keys and the redraw
flag**; the random source is then left alone. -/
theorem call_cases (m : Machine) (c : Call) :
    (∃ i, m.completes? c = some i ∧ m.executes? = some i ∧ (m.call c).1 = m.after i) ∨
    (m.completes? c = none ∧ ∃ memory keys redraw, (m.call c).1.toCore =
      { m.toCore with state := { m.state with memory, keys, redraw } }) := by
  cases c with
  | step =>
    cases h : m.executes? with
    | some i => exact .inl ⟨i, h, rfl, step_of_executes h⟩
    | none =>
      obtain ⟨e, hf⟩ := executes?_eq_none_iff.1 h
      refine .inr ⟨h, m.state.memory, m.state.keys, m.state.redraw, ?_⟩
      exact congrArg Machine.toCore (step_of_fault hf).1
  | load program =>
    refine .inr ⟨rfl, ?_⟩
    simp only [call, load]
    split
    · exact ⟨_, _, _, rfl⟩
    · exact ⟨m.state.memory, m.state.keys, m.state.redraw, rfl⟩
  | setKeys keys => exact .inr ⟨rfl, m.state.memory, keys, m.state.redraw, rfl⟩
  | setKey key down =>
    exact .inr ⟨rfl, m.state.memory, m.state.keys.move key down, m.state.redraw, rfl⟩
  | needsRedraw => exact .inr ⟨rfl, m.state.memory, m.state.keys, m.state.redraw, rfl⟩
  | takeRedraw => exact .inr ⟨rfl, m.state.memory, m.state.keys, false, rfl⟩
  | link speaker => exact .inr ⟨rfl, m.state.memory, m.state.keys, m.state.redraw, rfl⟩

/-- A program that fits is loaded. -/
theorem load_of_fits {program : List UInt8} (h : program.length ≤ Memory.programLimit) :
    m.load program =
      ({ m with state.memory := overlay m.state.memory Memory.programStart.toNat program },
        { events := [.notice (.loaded program.length)] }) :=
  if_pos h

/-- Only a cycle carries out an instruction. -/
theorem completes?_eq_some_iff {c : Call} {i : Instruction} :
    m.completes? c = some i ↔ c = .step ∧ m.executes? = some i := by
  cases c <;> simp [completes?]

theorem completes?_of_ne_step (m : Machine) {c : Call} (h : c ≠ .step) : m.completes? c = none := by
  cases c with
  | step => exact absurd rfl h
  | _ => rfl

/-! ## Histories -/

/-- A machine that was just switched on, with the words of a random source. -/
def fresh (source : Random.Source) : Machine := { source }

/-- Some history of calls leads from a fresh machine to this one. -/
def Reachable (m : Machine) : Prop := ∃ source cs, ((fresh source).calls cs).1 = m

/-- What a history carries out: the instructions of its successful cycles, each with the state that
it is carried out in. -/
def completed (m : Machine) : List Call → List (State × Instruction)
  | [] => []
  | c :: cs => ((m.completes? c).map fun i => (m.state, i)).toList ++ (m.call c).1.completed cs

/-- The calls of a history, each with the reply to it. -/
def answered (m : Machine) (cs : List Call) : List (Call × Reply) := cs.zip (m.calls cs).2

theorem calls_cons (m : Machine) (c : Call) (cs : List Call) :
    (m.calls (c :: cs)).1 = ((m.call c).1.calls cs).1 := rfl

theorem completed_cons (m : Machine) (c : Call) (cs : List Call) :
    m.completed (c :: cs) =
      ((m.completes? c).map fun i => (m.state, i)).toList ++ (m.call c).1.completed cs := rfl

theorem mem_completed_of_completes? {c : Call} {i : Instruction} (h : m.completes? c = some i)
    (cs : List Call) : (m.state, i) ∈ m.completed (c :: cs) := by
  rw [completed_cons, h]
  exact List.mem_append_left _ (List.mem_singleton_self _)

/-- The second part of a history goes on where the first one has led. -/
theorem completed_append (m : Machine) (cs ds : List Call) :
    m.completed (cs ++ ds) = m.completed cs ++ (m.calls cs).1.completed ds := by
  induction cs generalizing m with
  | nil => rfl
  | cons c cs ih =>
    rw [List.cons_append, completed_cons, completed_cons, ih, List.append_assoc, calls_cons]

theorem answered_nil (m : Machine) : m.answered [] = [] := rfl

theorem answered_cons (m : Machine) (c : Call) (cs : List Call) :
    m.answered (c :: cs) = (c, (m.call c).2) :: (m.call c).1.answered cs := rfl

theorem seeded_eq_fresh (seed : UInt64) : seeded seed = fresh (.seeded seed) := rfl

/-- **What every call keeps, every history keeps.** -/
theorem calls_invariant {P : Machine → Prop} (hcall : ∀ m c, P m → P (m.call c).1) (hm : P m)
    (cs : List Call) : P (m.calls cs).1 := by
  induction cs generalizing m with
  | nil => exact hm
  | cons c cs ih => exact ih (hcall m c hm)

/-- What holds of fresh machines and is kept by every call holds of every reachable machine. -/
theorem Reachable.invariant {P : Machine → Prop} (hfresh : ∀ source, P (fresh source))
    (hcall : ∀ m c, P m → P (m.call c).1) (h : m.Reachable) : P m := by
  obtain ⟨source, cs, rfl⟩ := h
  exact calls_invariant hcall (hfresh source) cs

end Machine

end ChipEight
