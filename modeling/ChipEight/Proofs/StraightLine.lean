import ChipEight.Proofs.Cycle
import Mathlib.Tactic.Common

/-!
# Straight-line code

A program without jumps, calls, skips and waits is carried out word by word, as it was written. Here
its words are handed to the machine one after the other, and memory is not asked for them.

* `Machine.obey`, `Run.obeyAll`: cycles on words that are given instead of fetched.
* `Memory.CodeAt`: the words lie in memory from an address on. Loading puts them there
  (`codeAt_load`), and what is written elsewhere leaves them alone (`CodeAt.congr`).
* `advanceMany_eq_obeyAll`: as long as the code is not written to, fetching the words and being
  given them comes to the same.
* `straight_line_run`: so it does for a list of words that is loaded and run.
-/

namespace ChipEight

/-- Whether the word behind an instruction that succeeded is the next one, whatever the state. -/
def Instruction.goesOn : Instruction → Bool
  | ret | jump _ | call _ | skip _ | jumpOffset _ | waitKey _ => false
  | _ => true

theorem Instruction.pcAfter_of_goesOn {s : State} {i : Instruction} (h : i.goesOn) :
    i.pcAfter s = s.pc + 2 := by
  cases i with
  | ret | jump | call | skip | jumpOffset | waitKey => cases h
  | _ => rfl

/-! ## Code in memory -/

namespace Opcode

/-- The two bytes of a word, the high one first. -/
def bytes (op : Opcode) : List UInt8 := [.ofNat (op.toNat / 256), .ofNat (op.toNat % 256)]

/-- The bytes of a list of words. -/
def image (ops : List Opcode) : List UInt8 := ops.flatMap bytes

theorem image_cons (op : Opcode) (ops : List Opcode) :
    image (op :: ops) = .ofNat (op.toNat / 256) :: .ofNat (op.toNat % 256) :: image ops := rfl

theorem length_image (ops : List Opcode) : (image ops).length = 2 * ops.length := by
  induction ops with
  | nil => rfl
  | cons op ops ih =>
    rw [image_cons, List.length_cons, List.length_cons, List.length_cons, ih]
    omega

end Opcode

namespace Memory

/-- The words lie in memory one behind the other, from the address on. -/
def CodeAt (memory : Memory) : (start : Nat) → List Opcode → Prop
  | _, [] => True
  | start, op :: ops => memory.word start = .ok op ∧ CodeAt memory (start + 2) ops

variable {memory memory' : Memory} {start : Nat} {ops : List Opcode}

/-- Where the bytes of the words are, there the words are. -/
theorem codeAt_of_image
    (h : ∀ k < (Opcode.image ops).length, memory[start + k]? = (Opcode.image ops)[k]?) :
    memory.CodeAt start ops := by
  induction ops generalizing start with
  | nil => trivial
  | cons op ops ih =>
    rw [Opcode.image_cons, List.length_cons, List.length_cons] at h
    have hop := op.toNat_lt
    have hhigh := h 0 (by omega)
    have hlow := h 1 (by omega)
    refine ⟨word_eq_iff.2 ⟨_, _, hhigh, hlow, ?_⟩, ih fun k hk => ?_⟩
    · simp only [UInt8.toNat_ofNat']
      omega
    · have hnext := h (k + 2) (by omega)
      rw [List.getElem?_cons_succ, List.getElem?_cons_succ] at hnext
      rw [← hnext]
      congr 1
      omega

/-- Code stays as long as its addresses keep their bytes. -/
theorem CodeAt.congr (hcode : memory.CodeAt start ops)
    (h : ∀ a, start ≤ a → a < start + 2 * ops.length → memory'[a]? = memory[a]?) :
    memory'.CodeAt start ops := by
  induction ops generalizing start with
  | nil => trivial
  | cons op ops ih =>
    rw [List.length_cons] at h
    obtain ⟨hword, hrest⟩ := hcode
    refine ⟨?_, ih hrest fun a ha hlt => h a (by omega) (by omega)⟩
    rw [word_eq_iff, h start (by omega) (by omega), h (start + 1) (by omega) (by omega)]
    exact word_eq_iff.1 hword

/-- **Loading puts the words where programs start.** -/
theorem codeAt_load (memory : Memory) (hlen : ops.length ≤ 1792) :
    CodeAt (overlay memory programStart.toNat (Opcode.image ops)) programStart.toNat ops := by
  have hstart : programStart.toNat = 512 := rfl
  refine codeAt_of_image fun k hk => ?_
  have himage := Opcode.length_image ops
  have ha : programStart.toNat + k < size := by simp only [size]; omega
  rw [Vector.getElem?_eq_getElem ha, getElem_overlay, dif_pos ⟨by omega, by omega⟩,
    List.getElem?_eq_getElem hk]
  simp only [Nat.add_sub_cancel_left]

end Memory

/-! ## Cycles on given words -/

namespace Machine

/-- One cycle on a word that is given instead of fetched: decode it, execute it, and let the timers
tick. -/
def obey (m : Machine) (op : Opcode) : Machine × Report :=
  match Instruction.decode op m.state.pc with
  | .error e => (m, ⟨some e, [m.failure e]⟩)
  | .ok i =>
    match i.execute.run m.toCore with
    | .error e core => ({ m with toCore := core }, ⟨some e, [m.trace op i, m.failure e]⟩)
    | .ok () core =>
      let (m', tones) := tick { m with toCore := core }
      (m', ⟨none, m.trace op i :: tones⟩)

/-- A cycle obeys the word that it fetches. -/
theorem step_eq_obey {m : Machine} {op : Opcode}
    (h : m.state.memory.word m.state.pc.toNat = .ok op) : m.step = m.obey op := by
  simp only [step, h]
  rfl

/-- A word that is obeyed without a fault is that of an instruction, which is carried out. -/
theorem obey_eq_after {m : Machine} {op : Opcode} (h : (m.obey op).2.fault? = none) :
    ∃ i, Instruction.decode? op = some i ∧ (m.obey op).1 = m.after i := by
  unfold obey at h ⊢
  cases hd : Instruction.decode op m.state.pc with
  | error e => rw [hd] at h; cases h
  | ok i =>
    rw [hd] at h
    simp only [Instruction.execute_run] at h ⊢
    cases hf : i.fault? m.state with
    | some e => rw [hf] at h; cases h
    | none => exact ⟨i, Instruction.decode_eq_ok_iff.1 hd, rfl⟩

end Machine

namespace Run

/-- One more cycle, on a given word. -/
def obey (r : Run) (op : Opcode) : Run :=
  let (machine, report) := r.machine.obey op
  { machine
    cycles := if report.fault?.isNone then r.cycles + 1 else r.cycles
    fault? := report.fault?
    events := r.events ++ report.events }

/-- A cycle on each of the words in turn, as long as none fails. -/
def obeyAll (r : Run) : List Opcode → Run
  | [] => r
  | op :: ops =>
    match r.fault? with
    | none => (r.obey op).obeyAll ops
    | some _ => r

/-- No word writes to an address from `lo` up to `hi` when its turn comes and it succeeds. -/
def Spares (r : Run) (ops : List Opcode) (lo hi : Nat) : Prop :=
  ∀ before op after i, ops = before ++ op :: after → (r.obeyAll (before ++ [op])).fault? = none →
    Instruction.decode? op = some i →
    ∀ a, lo ≤ a → a < hi → ¬ i.Writes (r.obeyAll before).machine.state a

variable {r : Run} {op : Opcode} {ops : List Opcode} {lo hi : Nat}

theorem obeyAll_cons (h : r.fault? = none) : r.obeyAll (op :: ops) = (r.obey op).obeyAll ops := by
  rw [obeyAll, h]

theorem obeyAll_of_fault {e : Fault} (h : r.fault? = some e) : r.obeyAll ops = r := by
  cases ops <;> simp [obeyAll, h]

theorem Spares.head (hspares : r.Spares (op :: ops) lo hi) (h : r.fault? = none)
    (hobey : (r.obey op).fault? = none) {i : Instruction} (hop : Instruction.decode? op = some i)
    (a : Nat) (hlo : lo ≤ a) (hhi : a < hi) : ¬ i.Writes r.machine.state a :=
  hspares [] op ops i rfl (by rw [List.nil_append, obeyAll_cons h]; exact hobey) hop a hlo hhi

theorem Spares.tail (hspares : r.Spares (op :: ops) lo hi) (h : r.fault? = none) :
    (r.obey op).Spares ops lo hi := by
  intro before op' after i hops hobey hop a hlo hhi
  have hfirst := hspares (op :: before) op' after i (by rw [hops]; rfl)
  rw [List.cons_append, obeyAll_cons h, obeyAll_cons h] at hfirst
  exact hfirst hobey hop a hlo hhi

/-- **As long as the code is not written to, fetching the words and being given them comes to the
same.** The code may lie anywhere between `lo` and `hi`, and reach to the very end of memory. -/
theorem advanceMany_eq_obeyAll (h : r.fault? = none)
    (hcode : r.machine.state.memory.CodeAt r.machine.state.pc.toNat ops)
    (hlo : lo ≤ r.machine.state.pc.toNat)
    (hhi : r.machine.state.pc.toNat + 2 * ops.length ≤ hi)
    (hgoes : ∀ op ∈ ops, ∀ i, Instruction.decode? op = some i → i.goesOn)
    (hspares : r.Spares ops lo hi) : r.advanceMany ops.length = r.obeyAll ops := by
  induction ops generalizing r with
  | nil => rfl
  | cons op ops ih =>
    obtain ⟨hword, hrest⟩ := hcode
    rw [List.length_cons] at hhi
    have hcycle : r.advance = r.obey op := by
      rw [advance, Machine.step_eq_obey hword]
      rfl
    rw [List.length_cons, advanceMany, h, obeyAll_cons h, hcycle]
    cases hobey : (r.obey op).fault? with
    | some e => rw [advanceMany_of_fault hobey, obeyAll_of_fault hobey]
    | none =>
      obtain ⟨i, hop, hafter⟩ := Machine.obey_eq_after hobey
      have hstate : (r.obey op).machine.state = (r.machine.after i).state :=
        congrArg (fun m : Machine => m.state) hafter
      have hgo : i.goesOn := hgoes op List.mem_cons_self i hop
      -- the word was fetched, so the next address does not wrap, not even at the end of memory
      have hpc : (r.obey op).machine.state.pc.toNat = r.machine.state.pc.toNat + 2 := by
        have hfetched := Memory.word_eq_ok_iff.1 ⟨op, hword⟩
        have hnext : (r.obey op).machine.state.pc = r.machine.state.pc + 2 := by
          rw [hstate]; exact Instruction.pcAfter_of_goesOn hgo
        rw [hnext, toNat_add_two (Nat.le_sub_of_add_le hfetched)]
      have hmemory : (r.obey op).machine.state.memory = i.memoryAfter r.machine.state := by
        rw [hstate]; rfl
      have hgoes' := fun op' hmem => hgoes op' (List.mem_cons_of_mem op hmem)
      refine ih hobey ?_ (by omega) (by omega) hgoes' (hspares.tail h)
      rw [hpc, hmemory]
      refine hrest.congr fun a ha hlt => Instruction.getElem?_memoryAfter ?_
      exact hspares.head h hobey hop a (by omega) (by omega)

end Run

/-- **Straight-line code means its words.** The words are loaded into a fresh machine and run. As
long as none of them is a jump, a call, a return, a skip or a wait, and none of them writes to the
program, the run is that on the words as they are written: as many cycles, the same fault if there
is one, the same events, and the same machine in the end. -/
theorem Machine.straight_line_run (seed : UInt64) (ops : List Opcode) (hlen : ops.length ≤ 1792)
    (hgoes : ∀ op ∈ ops, ∀ i, Instruction.decode? op = some i → i.goesOn)
    (hspares : Run.Spares { machine := ((seeded seed).load (Opcode.image ops)).1 } ops
      0x200 (0x200 + 2 * ops.length)) :
    ((seeded seed).load (Opcode.image ops)).2.fault? = none ∧
      ((seeded seed).load (Opcode.image ops)).1.run ops.length =
        Run.obeyAll { machine := ((seeded seed).load (Opcode.image ops)).1 } ops := by
  have hfits : (Opcode.image ops).length ≤ Memory.programLimit := by
    rw [Opcode.length_image]
    exact Nat.mul_le_mul_left 2 hlen
  rw [load_of_fits hfits] at hspares ⊢
  exact ⟨rfl, Run.advanceMany_eq_obeyAll rfl (Memory.codeAt_load _ hlen) (Nat.le_refl _)
    (Nat.le_refl _) hgoes hspares⟩

/-- Two registers are stored behind the program, and then a word comes that stands for nothing. -/
theorem Machine.straight_line_run_stores :
    let ops : List Opcode := [0xA300, 0xF155, 0x0123]
    let m := ((seeded 1).load (Opcode.image ops)).1
    (m.run 3).cycles = 2 ∧ (m.run 3).fault? = some (.unsupportedOpcode 0x0123 0x204) := by
  intro ops m
  have hdecode : Instruction.decode? 0xA300 = some (.loadIndex 0x300) ∧
      Instruction.decode? 0xF155 = some (.store 1) ∧ Instruction.decode? 0x0123 = none := by decide
  obtain ⟨hindex, hstore, hnone⟩ := hdecode
  have hgoes : (ops.all fun op => (Instruction.decode? op).all Instruction.goesOn) = true := by
    decide
  have hspares : Run.Spares { machine := m } ops 0x200 (0x200 + 2 * ops.length) := by
    intro before op after i hops _ hop a hlo hhi
    rcases before with _ | ⟨first, _ | ⟨second, _ | ⟨third, before⟩⟩⟩
    · obtain ⟨rfl, -⟩ := List.cons.inj hops
      rw [hindex] at hop
      cases hop
      rintro ⟨hge, hlt⟩
      exact absurd (Nat.lt_of_le_of_lt hge hlt) (Nat.lt_irrefl _)
    · obtain ⟨rfl, hrest⟩ := List.cons.inj hops
      obtain ⟨rfl, -⟩ := List.cons.inj hrest
      rw [hstore] at hop
      cases hop
      have hi : (Run.obeyAll { machine := m } [0xA300]).machine.state.i.toNat = 0x300 := by
        decide +kernel
      rintro ⟨hge, -⟩
      rw [hi] at hge
      exact absurd (Nat.lt_of_le_of_lt hge hhi) (by decide)
    · obtain ⟨rfl, -⟩ := List.cons.inj (List.cons.inj (List.cons.inj hops).2).2
      rw [hnone] at hop
      cases hop
    · simp [ops] at hops
  have hrun : m.run 3 = _ := (straight_line_run 1 ops (by decide)
    (fun op hmem i hop => by
      have hall := List.all_eq_true.1 hgoes op hmem
      rw [hop] at hall
      exact hall) hspares).2
  have hobey : (Run.obeyAll { machine := m } ops).cycles = 2 ∧
      (Run.obeyAll { machine := m } ops).fault? = some (.unsupportedOpcode 0x0123 0x204) := by
    decide +kernel
  rw [hrun]
  exact hobey

end ChipEight
