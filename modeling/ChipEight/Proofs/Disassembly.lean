import ChipEight.Proofs.Assembly
import ChipEight.Proofs.Encoding

/-!
# Words and their mnemonics

Every instruction has a template: the family of its words, and those of the other nibbles that are
the same in all of them. The rest of a word are operands, but for the nibble that shifts have to
spare. No word fits the templates of two instructions, so a mnemonic, which says which instruction
it is and with which operands, says which word it is.

* `Instruction.fits_iff`: a word is read as the instruction whose template it fits, with its fields
  as operands.
* `Instruction.sameForm_of_fits`: it fits no other template.
* `Instruction.eq_iff_of_decode?`: which words are read as the same instruction.
* `Instruction.mnemonics_faithful`: mnemonics are as good as the words they were read from.
-/

namespace ChipEight

namespace Opcode

/-- The low byte is made of the two low nibbles. -/
theorem toNat_byte (op : Opcode) : op.byte.toNat = 16 * op.y.val + op.n.val := by
  simp only [byte, y, n, Hex.nibble, UInt8.toNat_ofNat']
  omega

/-- An address is made of the three low nibbles. -/
theorem val_address (op : Opcode) :
    op.address.val = 256 * op.x.val + 16 * op.y.val + op.n.val := by
  simp only [address, x, y, n, Hex.nibble, Fin.val_ofNat]
  omega

/-- What the words of an instruction have in common: the family, and other nibbles if they are
fixed. -/
structure Template where
  family : Nat
  x? : Option Nat := none
  y? : Option Nat := none
  n? : Option Nat := none

/-- The word has the nibbles of the template. -/
def Fits (op : Opcode) (t : Template) : Prop :=
  op.family.val = t.family ∧ (∀ x ∈ t.x?, op.x.val = x) ∧ (∀ y ∈ t.y?, op.y.val = y) ∧
    ∀ n ∈ t.n?, op.n.val = n

/-- Both words shift the same register in the same direction; the third nibble does not matter. -/
def SameShift (p q : Opcode) : Prop :=
  p.family.val = 0x8 ∧ q.family.val = 0x8 ∧ p.x = q.x ∧ p.n = q.n ∧
    (p.n.val = 0x6 ∨ p.n.val = 0xE)

end Opcode

namespace Instruction

open Opcode

/-- The template of an instruction, whatever its operands. -/
def template : Instruction → Template
  | clear => { family := 0x0, x? := some 0x0, y? := some 0xE, n? := some 0x0 }
  | ret => { family := 0x0, x? := some 0x0, y? := some 0xE, n? := some 0xE }
  | jump _ => { family := 0x1 }
  | call _ => { family := 0x2 }
  | skip (.equalsByte _ _) => { family := 0x3 }
  | skip (.differsByte _ _) => { family := 0x4 }
  | skip (.equalsRegister _ _) => { family := 0x5, n? := some 0x0 }
  | load _ _ => { family := 0x6 }
  | addByte _ _ => { family := 0x7 }
  | combine op _ _ => { family := 0x8, n? := some op.code }
  | arith (.add _ _) => { family := 0x8, n? := some 0x4 }
  | arith (.sub _ _) => { family := 0x8, n? := some 0x5 }
  | arith (.shiftRight _) => { family := 0x8, n? := some 0x6 }
  | arith (.subFrom _ _) => { family := 0x8, n? := some 0x7 }
  | arith (.shiftLeft _) => { family := 0x8, n? := some 0xE }
  | skip (.differsRegister _ _) => { family := 0x9, n? := some 0x0 }
  | loadIndex _ => { family := 0xA }
  | jumpOffset _ => { family := 0xB }
  | random _ _ => { family := 0xC }
  | draw _ _ _ => { family := 0xD }
  | skip (.keyDown _) => { family := 0xE, y? := some 0x9, n? := some 0xE }
  | skip (.keyUp _) => { family := 0xE, y? := some 0xA, n? := some 0x1 }
  | readDelay _ => { family := 0xF, y? := some 0x0, n? := some 0x7 }
  | waitKey _ => { family := 0xF, y? := some 0x0, n? := some 0xA }
  | setDelay _ => { family := 0xF, y? := some 0x1, n? := some 0x5 }
  | setSound _ => { family := 0xF, y? := some 0x1, n? := some 0x8 }
  | addIndex _ => { family := 0xF, y? := some 0x1, n? := some 0xE }
  | loadGlyph _ => { family := 0xF, y? := some 0x2, n? := some 0x9 }
  | bcd _ => { family := 0xF, y? := some 0x3, n? := some 0x3 }
  | store _ => { family := 0xF, y? := some 0x5, n? := some 0x5 }
  | read _ => { family := 0xF, y? := some 0x6, n? := some 0x5 }

/-- The same instruction with the operands of a word. -/
def withOperands (op : Opcode) : Instruction → Instruction
  | clear => clear
  | ret => ret
  | jump _ => jump op.address
  | call _ => call op.address
  | skip (.equalsByte _ _) => skip (.equalsByte op.x op.byte)
  | skip (.differsByte _ _) => skip (.differsByte op.x op.byte)
  | skip (.equalsRegister _ _) => skip (.equalsRegister op.x op.y)
  | skip (.differsRegister _ _) => skip (.differsRegister op.x op.y)
  | skip (.keyDown _) => skip (.keyDown op.x)
  | skip (.keyUp _) => skip (.keyUp op.x)
  | load _ _ => load op.x op.byte
  | addByte _ _ => addByte op.x op.byte
  | combine c _ _ => combine c op.x op.y
  | arith (.add _ _) => arith (.add op.x op.y)
  | arith (.sub _ _) => arith (.sub op.x op.y)
  | arith (.subFrom _ _) => arith (.subFrom op.x op.y)
  | arith (.shiftRight _) => arith (.shiftRight op.x)
  | arith (.shiftLeft _) => arith (.shiftLeft op.x)
  | loadIndex _ => loadIndex op.address
  | jumpOffset _ => jumpOffset op.address
  | random _ _ => random op.x op.byte
  | draw _ _ _ => draw op.x op.y op.n
  | readDelay _ => readDelay op.x
  | waitKey _ => waitKey op.x
  | setDelay _ => setDelay op.x
  | setSound _ => setSound op.x
  | addIndex _ => addIndex op.x
  | loadGlyph _ => loadGlyph op.x
  | bcd _ => bcd op.x
  | store _ => store op.x
  | read _ => read op.x

/-- The instructions differ in their operands at most. -/
def SameForm (i j : Instruction) : Prop := ∀ op, i.withOperands op = j.withOperands op

theorem template_withOperands (i : Instruction) (op : Opcode) :
    (i.withOperands op).template = i.template := by
  cases i with
  | skip test => cases test <;> rfl
  | arith op => cases op <;> rfl
  | _ => rfl

/-- Operands that are replaced do not matter. -/
theorem withOperands_withOperands (i : Instruction) (op op' : Opcode) :
    (i.withOperands op).withOperands op' = i.withOperands op' := by
  cases i with
  | skip test => cases test <;> rfl
  | arith op => cases op <;> rfl
  | _ => rfl

/-- **A word that fits the template of an instruction is read as that instruction**, with the
operands of the word. -/
theorem decode?_of_fits {op : Opcode} {i : Instruction} (h : op.Fits i.template) :
    decode? op = some (i.withOperands op) := by
  obtain ⟨hfamily, hx, hy, hn⟩ := h
  cases i with
  | skip test =>
    cases test <;>
      simp_all [template, withOperands, decode?, toNat_byte]
  | combine c x y =>
    cases c <;> simp_all [template, Combine.code, withOperands, decode?, decodeArith?]
  | arith op => cases op <;> simp_all [template, withOperands, decode?, decodeArith?]
  | clear | ret => simp_all [template, withOperands, decode?, val_address]
  | _ => simp_all [template, withOperands, decode?, decodeDevice?, toNat_byte]

section Decoded

variable {op p q : Opcode} {i j : Instruction}

theorem fits_of_decodeArith? (hfamily : op.family.val = 0x8) (h : decodeArith? op = some i) :
    op.Fits i.template := by
  revert h
  fun_cases decodeArith? op with
  | case10 => intro h; cases h
  | case1 hn | case2 hn | case3 hn | case4 hn | case5 hn | case6 hn | case7 hn | case8 hn
  | case9 hn =>
    intro h
    cases h
    simp [Fits, template, Combine.code, hfamily, hn]

theorem fits_of_byte {family b : Nat} (hfamily : op.family.val = family) (hb : op.byte.toNat = b) :
    op.Fits { family, y? := some (b / 16), n? := some (b % 16) } := by
  have hop := op.toNat_byte
  have hn := op.n.isLt
  refine ⟨hfamily, by simp, ?_, ?_⟩
  · rintro _ ⟨⟩; omega
  · rintro _ ⟨⟩; omega

theorem fits_of_decodeDevice? (hfamily : op.family.val = 0xF) (h : decodeDevice? op = some i) :
    op.Fits i.template := by
  revert h
  fun_cases decodeDevice? op with
  | case10 => intro h; cases h
  | case1 hb | case2 hb | case3 hb | case4 hb | case5 hb | case6 hb | case7 hb | case8 hb
  | case9 hb =>
    intro h
    cases h
    exact fits_of_byte hfamily hb

theorem fits_of_decode? (h : decode? op = some i) : op.Fits i.template := by
  revert h
  fun_cases decode? op with
  | case1 hf ha | case2 hf ha =>
    intro h
    cases h
    have hop := op.val_address
    have hy := op.y.isLt
    have hn := op.n.isLt
    refine ⟨hf, ?_, ?_, ?_⟩ <;> (rintro _ ⟨⟩; omega)
  | case4 hf | case5 hf | case6 hf | case7 hf | case10 hf | case11 hf | case15 hf | case16 hf
  | case17 hf | case18 hf =>
    intro h
    cases h
    simp [Fits, template, hf]
  | case8 hf hn | case13 hf hn => intro h; cases h; simp [Fits, template, hf, hn]
  | case12 hf => exact fits_of_decodeArith? hf
  | case19 hf hb | case20 hf hb => intro h; cases h; exact fits_of_byte hf hb
  | case22 hf => exact fits_of_decodeDevice? hf
  -- the other words are read as nothing
  | case3 | case9 | case14 | case21 | case23 => intro h; cases h

theorem withOperands_of_decode? (h : decode? op = some i) : i.withOperands op = i := by
  have hfits := decode?_of_fits (fits_of_decode? h)
  rw [h] at hfits
  exact (Option.some.inj hfits).symm

/-- **Templates are what decoding goes by.** -/
theorem fits_iff : op.Fits i.template ↔ decode? op = some (i.withOperands op) := by
  constructor
  · exact decode?_of_fits
  · intro h
    rw [← template_withOperands i op]
    exact fits_of_decode? h

/-- **The templates are disjoint**: instructions whose templates a word fits have the same form. -/
theorem sameForm_of_fits (hi : op.Fits i.template) (hj : op.Fits j.template) : i.SameForm j := by
  have hread : i.withOperands op = j.withOperands op :=
    Option.some.inj ((decode?_of_fits hi).symm.trans (decode?_of_fits hj))
  intro op'
  rw [← withOperands_withOperands i op, hread, withOperands_withOperands]

/-- Only shifts have several words. -/
theorem encode_eq_or_shift (i : Instruction) (spare spare' : Register) :
    i.encode spare = i.encode spare' ∨
      ∃ x, i = arith (.shiftRight x) ∨ i = arith (.shiftLeft x) := by
  cases i with
  | skip test => cases test <;> exact .inl rfl
  | arith op => cases op <;> simp [encode]
  | _ => exact .inl rfl

theorem decode?_of_sameShift (h : p.SameShift q) : decode? p = decode? q := by
  obtain ⟨hp, hq, hx, hn, hshift⟩ := h
  rcases hshift with hn' | hn' <;>
    simp [decode?, decodeArith?, hp, hq, hx, ← hn, hn']

/-- **The words of an instruction** are one, but for the nibble that a shift has to spare. -/
theorem eq_iff_of_decode? (hp : decode? p = some i) (hq : decode? q = some j) :
    i = j ↔ p = q ∨ p.SameShift q := by
  constructor
  · rintro rfl
    obtain ⟨hpfamily, -, -, hpn⟩ := fits_of_decode? hp
    obtain ⟨hqfamily, -, -, hqn⟩ := fits_of_decode? hq
    have hx : i.withOperands p = i.withOperands q := by
      rw [withOperands_of_decode? hp, withOperands_of_decode? hq]
    rcases encode_eq_or_shift i p.y q.y with hsame | ⟨x, rfl | rfl⟩
    · rw [encode_of_decode? hp, encode_of_decode? hq] at hsame
      exact .inl hsame
    all_goals
      have hpn := hpn _ rfl
      have hqn := hqn _ rfl
      have hx : p.x = q.x := by simpa [withOperands] using hx
      exact .inr ⟨hpfamily, hqfamily, hx, Fin.ext (hpn.trans hqn.symm), by simp [hpn]⟩
  · rintro (rfl | hshift)
    · exact Option.some.inj (hp.symm.trans hq)
    · rw [decode?_of_sameShift hshift, hq] at hp
      exact (Option.some.inj hp).symm

end Decoded

end Instruction

/-! ## Operands -/

namespace Assembly.Operand

/-- The operand is in the range of its field of a word. -/
def InRange : Operand → Prop
  | register x => x.val < 16
  | height rows => rows.val < 16
  | byte b => b.toNat ≤ 0xFF
  | address a => a.val ≤ 0xFFF
  | _ => True

theorem inRange (o : Operand) : o.InRange := by
  cases o with
  | register x => exact x.isLt
  | height rows => exact rows.isLt
  | byte b => exact Nat.le_of_lt_succ b.toNat_lt
  | address a => exact Nat.le_of_lt_succ a.isLt
  | _ => exact trivial

end Assembly.Operand

namespace Instruction

/-- **Mnemonics are faithful.** Two words that are read, wherever they stand, have the same
mnemonic if and only if they are read as the same instruction, and that is if and only if they are
the same word, or shift the same register in the same direction. Words are read by the templates,
no word fits those of two instructions that differ in more than operands, and the operands are the
fields of the word, each in its range. -/
theorem mnemonics_faithful {p q : Opcode} {a b : UInt16} {i j : Instruction}
    (hp : decode p a = .ok i) (hq : decode q b = .ok j) :
    (i.mnemonic = j.mnemonic ↔ i = j) ∧ (i = j ↔ p = q ∨ p.SameShift q) ∧
      (∀ (op : Opcode) (k : Instruction),
        op.Fits k.template ↔ decode? op = some (k.withOperands op)) ∧
      (∀ (op : Opcode) (k k' : Instruction),
        op.Fits k.template → op.Fits k'.template → k.SameForm k') ∧
      i.withOperands p = i ∧ ∀ o ∈ i.line.operands, o.InRange := by
  have hpi := decode_eq_ok_iff.1 hp
  have hqj := decode_eq_ok_iff.1 hq
  have htext : i.mnemonic = j.mnemonic ↔ i = j := mnemonic_injective.eq_iff
  have hword : i = j ↔ p = q ∨ p.SameShift q := eq_iff_of_decode? hpi hqj
  have hfields : i.withOperands p = i := withOperands_of_decode? hpi
  exact ⟨htext, hword, fun _ _ => fits_iff, fun _ _ _ => sameForm_of_fits, hfields,
    fun o _ => o.inRange⟩

/-- Two words of one shift. -/
theorem mnemonics_faithful_of_shifts :
    decode 0x8126 0x200 = .ok (arith (.shiftRight 1)) ∧
      decode 0x8136 0xFFE = .ok (arith (.shiftRight 1)) ∧
      ((0x8126 : Opcode) = 0x8136 ∨ Opcode.SameShift 0x8126 0x8136) := by
  have hp : decode 0x8126 0x200 = .ok (arith (.shiftRight 1)) := by decide
  have hq : decode 0x8136 0xFFE = .ok (arith (.shiftRight 1)) := by decide
  exact ⟨hp, hq, (mnemonics_faithful hp hq).2.1.1 rfl⟩

end Instruction

end ChipEight
