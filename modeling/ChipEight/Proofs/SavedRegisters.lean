import ChipEight.Proofs.Footprint

/-!
# Registers saved and restored

A store lays registers down in memory from I on, and a read takes them up again. In between a
program may work on its registers as it likes: that leaves memory alone, and I still points at what
was stored, so the read finds it there. The other way round, a store puts back what a read has
taken, if I is first moved back to where it was.

* `Memory.span_overlay`, `Memory.overlay_span`: what was written is read back, and to write back
  what was read changes nothing.
* `Instruction.getElem?_written_of_read`: the same for whatever instruction has written.
* `Edit`: an instruction that works on registers alone, and the address that it is executed at.
* `Edit.run_performAll`: edits succeed, and change nothing but registers and the program counter.
* `store_read_inverse`: a store, any edits, and a read; and a read with a store behind it.
-/

namespace ChipEight

namespace Memory

/-- **What was written is read back**, from its first byte on. -/
theorem span_overlay (memory : Memory) {start len : Nat} {bytes : List UInt8}
    (hlen : len ≤ bytes.length) (hfits : start + bytes.length ≤ size) :
    span (overlay memory start bytes) start len = bytes.take len := by
  have hend : start + len ≤ size := Nat.le_trans (Nat.add_le_add_left hlen start) hfits
  have hspan := length_span (m := overlay memory start bytes) hend
  apply List.ext_getElem
  · rw [hspan, List.length_take, Nat.min_eq_left hlen]
  · intro k hk hk'
    rw [hspan] at hk
    rw [getElem_span _ (by omega), getElem_overlay, dif_pos (by omega), List.getElem_take]
    congr 1
    omega

/-- **To write back what was read changes nothing.** -/
theorem overlay_span (memory : Memory) (start len : Nat) :
    overlay memory start (memory.span start len) = memory := by
  refine Vector.ext fun a ha => ?_
  rw [getElem_overlay]
  split
  · rename_i hin
    rw [getElem_span _ (by omega)]
    congr 1
    omega
  · rfl

end Memory

/-- What is laid over a vector from its first item on is what it starts with. -/
theorem take_toList_overlay {α : Type} {n : Nat} (xs : Vector α n) (ys : List α)
    (h : ys.length ≤ n) : (overlay xs 0 ys).toList.take ys.length = ys := by
  apply List.ext_getElem
  · rw [List.length_take, Vector.length_toList, Nat.min_eq_left h]
  · intro k hk hk'
    rw [List.getElem_take, Vector.getElem_toList, getElem_overlay, dif_pos (by omega)]
    rfl

namespace Instruction

/-- Whether an instruction works on registers alone, with a random byte at the most. -/
def onRegisters : Instruction → Bool
  | load .. | addByte .. | combine .. | arith _ | random .. => true
  | _ => false

/-- Executes an instruction at an address, wherever the program counter was. -/
def executeAt (address : UInt16) (i : Instruction) : Exec Unit := do
  Exec.update fun s => { s with pc := address }
  i.execute

variable {i : Instruction}

/-- An instruction that has no fault at an address is carried out there. -/
theorem run_executeAt (address : UInt16) (c : Core)
    (h : i.fault? { c.state with pc := address } = none) :
    (i.executeAt address).run c =
      .ok () (i.coreAfter { c with state := { c.state with pc := address } }) :=
  execute_eq_ok_iff.2 ⟨h, rfl⟩

/-- What works on registers alone succeeds, and changes nothing but them. -/
theorem run_of_onRegisters (h : i.onRegisters) (c : Core) :
    ∃ c' v, i.execute.run c = .ok () c' ∧
      c'.state = { c.state with v, pc := c.state.pc + 2 } := by
  have hok : i.execute.run c = .ok () (i.coreAfter c) := by
    refine execute_eq_ok_iff.2 ⟨?_, rfl⟩
    cases i with
    | load | addByte | combine | arith | random => rfl
    | _ => cases h
  refine ⟨_, (i.coreAfter c).state.v, hok, ?_⟩
  cases i with
  | load | addByte | combine | arith | random => rfl
  | _ => cases h

end Instruction

/-- An instruction that works on registers alone, and an address that it can be fetched from. -/
structure Edit where
  address : UInt16
  instruction : Instruction
  fetched : address.toNat ≤ 0xFFE
  onRegisters : instruction.onRegisters

namespace Edit

/-- Executes the instruction at its address. -/
def perform (e : Edit) : Exec Unit := e.instruction.executeAt e.address

/-- Performs edits in turn. -/
def performAll : List Edit → Exec Unit
  | [] => pure ()
  | e :: es => do
    e.perform
    performAll es

/-- **Edits succeed, and change nothing but registers and the program counter.** -/
theorem run_performAll (es : List Edit) (c : Core) :
    ∃ c' v pc, (performAll es).run c = .ok () c' ∧ c'.state = { c.state with v, pc } := by
  induction es generalizing c with
  | nil => exact ⟨c, c.state.v, c.state.pc, rfl, rfl⟩
  | cons e es ih =>
    obtain ⟨c₁, v₁, hrun₁, hs₁⟩ := Instruction.run_of_onRegisters e.onRegisters
      { c with state := { c.state with pc := e.address } }
    obtain ⟨c₂, v₂, pc, hrun₂, hs₂⟩ := ih c₁
    refine ⟨c₂, v₂, pc, (Instruction.run_bind_of_ok hrun₁ _).trans hrun₂, ?_⟩
    rw [hs₂, hs₁]

end Edit

namespace Instruction

open Exec

/-- A read takes the bytes from I on, one for each register. -/
theorem getElem?_span_of_read (w : UInt32) {s : State} {x z : Register}
    (hfits : s.i.toNat + (x.val + 1) ≤ Memory.size) (hz : z ≤ x) :
    (s.memory.span s.i.toNat (x.val + 1))[z.val]? = some (((read x).vAfter w s).get z) := by
  have hlt : z.val < x.val + 1 := Nat.lt_succ_of_le hz
  have hlength := Memory.length_span (m := s.memory) hfits
  have hbyte : (overlay s.v 0 (s.memory.span s.i.toNat (x.val + 1)))[z.val] =
      (s.memory.span s.i.toNat (x.val + 1))[z.val] := by
    rw [getElem_overlay, dif_pos ⟨Nat.zero_le _, by omega⟩]
    rfl
  rw [List.getElem?_eq_getElem (by omega), ← hbyte]
  rfl

/-- **What an instruction has written is read back**, as many bytes of it as the read asks for, as
long as memory and I are as the instruction has left them. -/
theorem getElem?_written_of_read (w : UInt32) {s s' : State} {i : Instruction} {x z : Register}
    (hlength : x.val + 1 ≤ (i.written s).length)
    (hfits : s.i.toNat + (i.written s).length ≤ Memory.size)
    (hmemory : s'.memory = i.memoryAfter s) (hindex : s'.i = s.i) (hz : z ≤ x) :
    (i.written s)[z.val]? = some (((read x).vAfter w s').get z) := by
  have hfits' : s'.i.toNat + (x.val + 1) ≤ Memory.size := by
    rw [hindex]
    omega
  -- the bytes that are read are the first ones of those that were written
  have hspan : s'.memory.span s'.i.toNat (x.val + 1) = (i.written s).take (x.val + 1) := by
    rw [hmemory, hindex, memoryAfter_eq, Memory.span_overlay s.memory hlength hfits]
  rw [← getElem?_span_of_read w hfits' hz, hspan, List.getElem?_take,
    if_pos (Nat.lt_succ_of_le hz)]

/-- **What was stored is read back**, as many registers of it as the read asks for, as long as
memory and I are as the store has left them. -/
theorem get_vAfter_read_of_stored (w : UInt32) {s s' : State} {x x' z : Register} (hle : x' ≤ x)
    (hfits : s.i.toNat + (x.val + 1) ≤ Memory.size) (hmemory : s'.memory = (store x).memoryAfter s)
    (hindex : s'.i = s.i) (hz : z ≤ x') :
    ((read x').vAfter w s').get z = s.v.get z := by
  have hlength : ((store x).written s).length = x.val + 1 := length_written s (store x)
  have hread := getElem?_written_of_read w (i := store x) (hlength ▸ Nat.succ_le_succ hle)
    (hlength ▸ hfits) hmemory hindex hz
  have hstored : ((store x).written s)[z.val]? = some (s.v.get z) :=
    getElem?_take_registers s.v (hz.trans hle)
  exact Option.some.inj (hread.symm.trans hstored)

/-- **What was read is put back**, as long as I is where it was and memory and registers are as the
read has left them. -/
theorem memoryAfter_store_of_read (w : UInt32) {s s' : State} {x : Register}
    (hfits : s.i.toNat + (x.val + 1) ≤ Memory.size) (hmemory : s'.memory = s.memory)
    (hindex : s'.i = s.i) (hv : s'.v = (read x).vAfter w s) :
    (store x).memoryAfter s' = s.memory := by
  have hx := x.isLt
  have hlength := Memory.length_span (m := s.memory) hfits
  have htake := take_toList_overlay s.v (s.memory.span s.i.toNat (x.val + 1)) (by omega)
  rw [hlength] at htake
  rw [memoryAfter, hmemory, hindex, hv, vAfter, htake, Memory.overlay_span]

/-- The registers up to x' are as in the core `c` that stored them, and all others as in the core
`c₁` before the read. I has moved past what was read. -/
structure Restored (x' : Register) (c c₁ c₂ : Core) : Prop where
  index : c₁.state.i = c.state.i
  back : ∀ z ≤ x', c₂.state.v.get z = c.state.v.get z
  kept : ∀ z, x' < z → c₂.state.v.get z = c₁.state.v.get z
  /-- I is not cut off, not even at the end of memory. -/
  moved : c₂.state.i.toNat = c₁.state.i.toNat + (x'.val + 1)
  memory : c₂.state.memory = c₁.state.memory

/-- **A store and a read are inverse to each other.** Registers that were stored can be worked on,
and then a read takes them up again, all of them or the first ones of them, and leaves the others
alone. A store puts back what a read has taken, if I is moved back to where it was. Neither fails,
as long as the store has room in memory. -/
theorem store_read_inverse (c : Core) {x x' : Register} (hle : x' ≤ x)
    (hfits : c.state.i.toNat + x.val + 1 ≤ 4096) :
    (∀ (p q : UInt16) (es : List Edit), p.toNat ≤ 0xFFE → q.toNat ≤ 0xFFE →
      ∃ c₁ c₂, (do (store x).executeAt p; Edit.performAll es).run c = .ok () c₁ ∧
        ((read x').executeAt q).run c₁ = .ok () c₂ ∧
        Restored x' c c₁ c₂ ∧ c₂.state.pc.toNat = q.toNat + 2) ∧
    ∀ pc : UInt16, ∃ c', (do
        (read x).execute
        update fun s => { s with i := c.state.i, pc }
        (store x).execute).run c = .ok () c' ∧
      c'.state.memory = c.state.memory := by
  have hroom : c.state.i.toNat + (x.val + 1) ≤ Memory.size := hfits
  have hx' : x'.val + 1 ≤ x.val + 1 := Nat.succ_le_succ hle
  refine ⟨fun p q es _ hq => ?_, fun pc => ?_⟩
  · have hstore := run_executeAt (i := store x) p c (if_pos hroom)
    obtain ⟨c₁, v, pc, hedits, hs₁⟩ :=
      Edit.run_performAll es ((store x).coreAfter { c with state := { c.state with pc := p } })
    have hindex : c₁.state.i = c.state.i := by rw [hs₁]; rfl
    have hmemory : c₁.state.memory = (store x).memoryAfter c.state := by rw [hs₁]; rfl
    have hroom' : c₁.state.i.toNat + (x'.val + 1) ≤ Memory.size := by
      rw [hindex]
      omega
    have hread := run_executeAt (i := read x') q c₁ (if_pos hroom')
    refine ⟨c₁, _, (run_bind_of_ok hstore _).trans hedits, hread, ⟨hindex, ?_, ?_, ?_, rfl⟩,
      toNat_add_two hq⟩
    · intro z hz
      exact get_vAfter_read_of_stored (c₁.source.word c₁.source.taken) hle hroom hmemory hindex hz
    · intro z hz
      exact get_vAfter (i := read x') (c₁.source.word c₁.source.taken) (not_le.2 hz)
    · have hmoved := c₁.state.toNat_indexPlus (x'.val + 1)
      have hend : Memory.size = 4096 := rfl
      rw [Nat.min_eq_left (by rw [hindex]; omega)] at hmoved
      exact hmoved
  · have hreads : (read x).fault? c.state = none := if_pos hroom
    have hread := execute_eq_ok_iff.2 ⟨hreads, rfl⟩
    -- the store finds the core that the read has left, with I moved back
    let c₁ := (read x).coreAfter c
    have hstores : (store x).fault? { c₁.state with i := c.state.i, pc } = none := if_pos hroom
    let c₂ : Core := { c₁ with state := { c₁.state with i := c.state.i, pc } }
    have hstore := (execute_eq_ok_iff (c := c₂)).2 ⟨hstores, rfl⟩
    refine ⟨_, (run_bind_of_ok hread _).trans hstore, ?_⟩
    exact memoryAfter_store_of_read (c.source.word c.source.taken) hroom rfl rfl rfl

/-- Four registers are stored in the last four bytes of memory. Then V3 and V2 are overwritten, and
the first three registers are read back: V2 comes back, and V3 stays as it is. -/
theorem store_read_inverse_top :
    let c : Core :=
      { state := { (State.fresh.setV 2 40).setV 3 50 with i := 0xFFC }, source := .cycling #[] }
    let es : List Edit :=
      [⟨0xFFE, .combine .copy 3 2, by decide, rfl⟩, ⟨0x201, .load 2 7, by decide, rfl⟩]
    (∃ c₁ c₂, (do (store 3).executeAt 0x200; Edit.performAll es).run c = .ok () c₁ ∧
      ((read 2).executeAt 0x300).run c₁ = .ok () c₂ ∧ c₁.state.v.get 2 = 7 ∧
      c₂.state.v.get 2 = 40 ∧ c₂.state.v.get 3 = c₁.state.v.get 3 ∧ c₂.state.i.toNat = 0xFFF) ∧
    ∃ c', (do
        (read 3).execute
        update fun s => { s with i := 0xFFC, pc := 0x400 }
        (store 3).execute).run c = .ok () c' ∧
      c'.state.memory = c.state.memory := by
  intro c es
  obtain ⟨hsaved, hback⟩ := store_read_inverse c (by decide : (2 : Register) ≤ 3) (by decide)
  refine ⟨?_, hback 0x400⟩
  obtain ⟨c₁, c₂, hstore, hread, h, -⟩ := hsaved 0x200 0x300 es (by decide) (by decide)
  have hedited : ∀ c₁', (do (store 3).executeAt 0x200; Edit.performAll es).run c = .ok () c₁' →
      c₁'.state.v.get 2 = 7 := by
    intro c₁' hrun
    cases hrun
    rfl
  refine ⟨c₁, c₂, hstore, hread, hedited c₁ hstore, (h.back 2 (by decide)).trans rfl,
    h.kept 3 (by decide), ?_⟩
  rw [h.moved, h.index]
  rfl

end Instruction

end ChipEight
