import ChipEight.Proofs.SavedRegisters

/-!
# Decimal digits

The hundreds, tens and ones of a byte are written at I, and I stays. So a read of three bytes finds
them there, puts them into V0, V1 and V2, and moves I past them. The byte may have been in one of
these registers, which then holds a digit of what was there.

* `Instruction.Decomposed`: a core, and one that has the digits of Vx in memory and in registers.
* `Instruction.decimal_decomposition`: that is what the two instructions make of a core, unless
  there is no room for three bytes at I.
-/

namespace ChipEight

namespace Instruction

/-- A core, and one that has the decimal digits of Vx where I was and in the first three
registers. -/
structure Decomposed (x : Register) (c c' : Core) : Prop where
  le_nine : ∀ z ≤ 2, (c'.state.v.get z).toNat ≤ 9
  value : 100 * (c'.state.v.get 0).toNat + 10 * (c'.state.v.get 1).toNat +
    (c'.state.v.get 2).toNat = (c.state.v.get x).toNat
  kept : ∀ z, 2 < z → c'.state.v.get z = c.state.v.get z
  /-- I is behind the digits. -/
  moved : c'.state.i.toNat = c.state.i.toNat + 3
  cells : ∀ z ≤ 2, c'.state.memory[c.state.i.toNat + z.val]? = some (c'.state.v.get z)
  elsewhere : ∀ a, ¬(c.state.i.toNat ≤ a ∧ a < c.state.i.toNat + 3) →
    c'.state.memory[a]? = c.state.memory[a]?
  /-- The machine goes on behind both instructions. -/
  next : c'.state.pc.toNat = c.state.pc.toNat + 4
  /-- Nothing else changes, and no random word is taken. -/
  rest : c' = { c with state := { c.state with
    v := c'.state.v, i := c'.state.i, pc := c'.state.pc, memory := c'.state.memory } }

/-- The core after the digits of Vx were written and read back. -/
def afterDecimal (x : Register) (c : Core) : Core :=
  (read ⟨2, by decide⟩).coreAfter ((bcd x).coreAfter c)

variable {c : Core} {x : Register}

theorem run_decimal (hfits : c.state.i.toNat + 3 ≤ Memory.size) :
    (do (bcd x).execute; (read 2).execute).run c = .ok () (afterDecimal x c) :=
  -- I is still where the digits were written, so there is room for the read as well
  run_pair (if_pos hfits) (if_pos hfits)

section Room

variable (hfits : c.state.i.toNat + 3 ≤ Memory.size) {z : Register} (hz : z ≤ 2)

include hfits hz

/-- **The read puts the digits into registers**, even if it overwrites the byte. -/
theorem getElem?_decimalDigits_eq :
    (decimalDigits (c.state.v.get x))[z.val]? = some ((afterDecimal x c).state.v.get z) :=
  getElem?_written_of_read (c.source.word c.source.taken) (i := bcd x) le_rfl hfits rfl rfl hz

/-- It has taken them from where they were written. -/
theorem getElem?_memory_afterDecimal :
    (afterDecimal x c).state.memory[c.state.i.toNat + z.val]? =
      some ((afterDecimal x c).state.v.get z) := by
  have hread := getElem?_span_of_read (c.source.word c.source.taken)
    (s := ((bcd x).coreAfter c).state) (x := 2) hfits hz
  rw [Memory.getElem?_span, if_pos (Nat.lt_succ_of_le hz)] at hread
  exact hread

end Room

theorem decomposed_afterDecimal (hpc : c.state.pc.toNat ≤ 0xFFE)
    (hfits : c.state.i.toNat + 3 ≤ Memory.size) : Decomposed x c (afterDecimal x c) := by
  have hend : Memory.size = 4096 := rfl
  have hle : ∀ z ≤ 2, ((afterDecimal x c).state.v.get z).toNat ≤ 9 := by
    intro z hz
    have hdigit := getElem?_decimalDigits_eq (x := x) hfits hz
    exact le_nine_of_mem_decimalDigits (List.mem_of_getElem? hdigit)
  have hdigits : decimalDigits (c.state.v.get x) = [(afterDecimal x c).state.v.get 0,
      (afterDecimal x c).state.v.get 1, (afterDecimal x c).state.v.get 2] := by
    have hhundreds :=
      Option.some.inj (getElem?_decimalDigits_eq (x := x) (z := 0) hfits (by decide))
    have htens := Option.some.inj (getElem?_decimalDigits_eq (x := x) (z := 1) hfits (by decide))
    have hones := Option.some.inj (getElem?_decimalDigits_eq (x := x) (z := 2) hfits (by decide))
    rw [← hhundreds, ← htens, ← hones]
    rfl
  have hmoved := c.state.toNat_indexPlus 3
  rw [Nat.min_eq_left (by omega)] at hmoved
  have hnext : (c.state.pc + 2 + 2).toNat = c.state.pc.toNat + 4 := by
    rw [UInt16.add_assoc]
    exact toNat_add_four hpc
  exact
    { le_nine := hle
      value := value_decimalDigits hdigits
      kept := fun z hz => get_vAfter (i := read 2) (c.source.word c.source.taken) (not_le.2 hz)
      moved := hmoved
      cells := fun z hz => getElem?_memory_afterDecimal hfits hz
      elsewhere := fun a ha => getElem?_memoryAfter (i := bcd x) ha
      next := hnext
      rest := rfl }

/-- **A byte is decomposed into decimal digits** by writing them at I and reading them back. Each of
them is at most nine, and together they stand for the byte, whichever register it was in; I moves
past them, and nothing else changes. Without room for three bytes at I, the digits are not written,
and nothing changes at all. -/
theorem decimal_decomposition (c : Core) (x : Register) (hpc : c.state.pc.toNat ≤ 0xFFE) :
    (c.state.i.toNat + 3 ≤ 4096 →
      ∃ c', (do (bcd x).execute; (read 2).execute).run c = .ok () c' ∧ Decomposed x c c') ∧
    (4096 < c.state.i.toNat + 3 →
      (bcd x).execute.run c = .error (.outOfBounds (max c.state.i.toNat 4096)) c) := by
  refine ⟨fun hfits => ?_, fun hover => ?_⟩
  · exact ⟨afterDecimal x c, run_decimal hfits, decomposed_afterDecimal hpc hfits⟩
  · have hfault : (bcd x).fault? c.state = some (.outOfBounds (max c.state.i.toNat 4096)) :=
      if_neg (Nat.not_le.2 hover)
    exact execute_eq_error_iff.2 ⟨hfault, rfl⟩

/-- V1 holds 253, and its digits go to the last three bytes of memory and come back: the 5 is in V1
now, V3 stays, and I is past the end. One byte further on, there is no room. -/
theorem decimal_decomposition_top :
    let c : Core :=
      { state := { (State.fresh.setV 1 253).setV 3 7 with i := 0xFFD, pc := 0xFFE }
        source := .cycling #[] }
    let d : Core := { c with state := { c.state with i := 0xFFE } }
    (∃ c', (do (bcd 1).execute; (read 2).execute).run c = .ok () c' ∧
      (c'.state.v.get 0).toNat = 2 ∧ (c'.state.v.get 1).toNat = 5 ∧
      (c'.state.v.get 2).toNat = 3 ∧ c'.state.v.get 3 = 7 ∧
      c'.state.memory[0xFFE]? = some (c'.state.v.get 1) ∧ c'.state.i.toNat = 0x1000) ∧
    (bcd 1).execute.run d = .error (.outOfBounds 0x1000) d := by
  intro c d
  obtain ⟨c', hrun, h⟩ := (decimal_decomposition c 1 (by decide)).1 (by decide)
  have hover := (decimal_decomposition d 1 (by decide)).2 (by decide)
  have hhundreds := h.le_nine 0 (by decide)
  have htens := h.le_nine 1 (by decide)
  have hones := h.le_nine 2 (by decide)
  have hvalue := h.value
  have hbyte : (c.state.v.get 1).toNat = 253 := rfl
  rw [hbyte] at hvalue
  -- no other three digits stand for 253
  refine ⟨⟨c', hrun, by omega, by omega, by omega, (h.kept 3 (by decide)).trans rfl,
    h.cells 1 (by decide), h.moved⟩, hover⟩

end Instruction

end ChipEight
