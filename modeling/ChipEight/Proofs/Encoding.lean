import ChipEight.Instruction.Decode
import Mathlib.Tactic.Common

/-!
# The words of an instruction

`Instruction.decode?` reads a word from its family nibble on. Here is the other direction: every
instruction with the words that stand for it, each laid out in nibbles, with a byte, or with an
address.

* `decode?_encode`: a word of an instruction is read as that instruction.
* `encode_of_decode?`: a word that is read as an instruction is one of its words.
* `decode?_eq_some_iff`, `decode?_eq_none_iff`: so the words that are read are those that stand for
  something, and none of them stands for two instructions.
-/

namespace ChipEight

namespace Opcode

/-! ## Layouts -/

/-- A word of four nibbles. -/
def ofNibbles (family x y n : Nat) : Opcode := .ofNat (4096 * family + 256 * x + 16 * y + n)

/-- A word whose low half is a byte. -/
def ofByte (family x byte : Nat) : Opcode := .ofNat (4096 * family + 256 * x + byte)

/-- A word that holds an address. -/
def ofAddress (family address : Nat) : Opcode := .ofNat (4096 * family + address)

section Read

variable (family n b : Nat) (x y : Register) (a : Address)

theorem toNat_ofNibbles (hfamily : family < 16) (hn : n < 16) :
    (ofNibbles family x y n).toNat = 4096 * family + 256 * x.val + 16 * y.val + n := by
  have hx := x.isLt
  have hy := y.isLt
  simp only [ofNibbles, UInt16.toNat_ofNat']
  omega

theorem toNat_ofByte (hfamily : family < 16) (hb : b < 256) :
    (ofByte family x b).toNat = 4096 * family + 256 * x.val + b := by
  have hx := x.isLt
  simp only [ofByte, UInt16.toNat_ofNat']
  omega

theorem toNat_ofAddress (hfamily : family < 16) :
    (ofAddress family a).toNat = 4096 * family + a.val := by
  have ha := a.isLt
  simp only [ofAddress, UInt16.toNat_ofNat']
  omega

/-- Four nibbles are read back. -/
theorem read_ofNibbles (hfamily : family < 16) (hn : n < 16) :
    (ofNibbles family x y n).family.val = family ∧ (ofNibbles family x y n).x = x ∧
      (ofNibbles family x y n).y = y ∧ (ofNibbles family x y n).n.val = n := by
  have hx := x.isLt
  have hy := y.isLt
  simp only [Opcode.family, Opcode.x, Opcode.y, Opcode.n, Hex.nibble, Fin.ext_iff,
    toNat_ofNibbles family n x y hfamily hn]
  omega

/-- A register and a byte are read back. -/
theorem read_ofByte (hfamily : family < 16) (hb : b < 256) :
    (ofByte family x b).family.val = family ∧ (ofByte family x b).x = x ∧
      (ofByte family x b).byte = .ofNat b := by
  have hx := x.isLt
  simp only [Opcode.family, Opcode.x, Opcode.byte, Hex.nibble, Fin.ext_iff, ← UInt8.toNat_inj,
    toNat_ofByte family b x hfamily hb, UInt8.toNat_ofNat']
  omega

/-- An address is read back. -/
theorem read_ofAddress (hfamily : family < 16) :
    (ofAddress family a).family.val = family ∧ (ofAddress family a).address = a := by
  have ha := a.isLt
  simp only [Opcode.family, Opcode.address, Hex.nibble, Fin.ext_iff, Fin.val_ofNat,
    toNat_ofAddress family a hfamily]
  omega

end Read

section Write

variable {op : Opcode} {family n b : Nat} (hfamily : op.family.val = family)

include hfamily

theorem ofNibbles_eq (hn : op.n.val = n) : ofNibbles family op.x op.y n = op := by
  have hop := op.toNat_eq_nibbles
  rw [hfamily, hn] at hop
  rw [ofNibbles, ← hop, UInt16.ofNat_toNat]

theorem ofByte_eq (hb : op.byte.toNat = b) : ofByte family op.x b = op := by
  have hop := op.toNat_lt
  have hsum : 4096 * family + 256 * op.x.val + b = op.toNat := by
    simp only [← hfamily, ← hb, Opcode.family, Opcode.x, Opcode.byte, Hex.nibble,
      UInt8.toNat_ofNat']
    omega
  rw [ofByte, hsum, UInt16.ofNat_toNat]

theorem ofAddress_eq : ofAddress family op.address = op := by
  have hop := op.toNat_lt
  have hsum : 4096 * family + op.address.val = op.toNat := by
    simp only [← hfamily, Opcode.family, Opcode.address, Hex.nibble, Fin.val_ofNat]
    omega
  rw [ofAddress, hsum, UInt16.ofNat_toNat]

end Write

end Opcode

/-! ## Words -/

/-- The last nibble of a combination. -/
def Combine.code : Combine → Nat
  | copy => 0x0
  | or => 0x1
  | and => 0x2
  | xor => 0x3

namespace Instruction

/-- The word of an instruction. Shifts have a nibble to spare, which can be anything. -/
def encode (spare : Register) : Instruction → Opcode
  | clear => 0x00E0
  | ret => 0x00EE
  | jump a => .ofAddress 0x1 a
  | call a => .ofAddress 0x2 a
  | skip (.equalsByte x b) => .ofByte 0x3 x b.toNat
  | skip (.differsByte x b) => .ofByte 0x4 x b.toNat
  | skip (.equalsRegister x y) => .ofNibbles 0x5 x y 0x0
  | load x b => .ofByte 0x6 x b.toNat
  | addByte x b => .ofByte 0x7 x b.toNat
  | combine op x y => .ofNibbles 0x8 x y op.code
  | arith (.add x y) => .ofNibbles 0x8 x y 0x4
  | arith (.sub x y) => .ofNibbles 0x8 x y 0x5
  | arith (.shiftRight x) => .ofNibbles 0x8 x spare 0x6
  | arith (.subFrom x y) => .ofNibbles 0x8 x y 0x7
  | arith (.shiftLeft x) => .ofNibbles 0x8 x spare 0xE
  | skip (.differsRegister x y) => .ofNibbles 0x9 x y 0x0
  | loadIndex a => .ofAddress 0xA a
  | jumpOffset a => .ofAddress 0xB a
  | random x mask => .ofByte 0xC x mask.toNat
  | draw x y rows => .ofNibbles 0xD x y rows
  | skip (.keyDown x) => .ofByte 0xE x 0x9E
  | skip (.keyUp x) => .ofByte 0xE x 0xA1
  | readDelay x => .ofByte 0xF x 0x07
  | waitKey x => .ofByte 0xF x 0x0A
  | setDelay x => .ofByte 0xF x 0x15
  | setSound x => .ofByte 0xF x 0x18
  | addIndex x => .ofByte 0xF x 0x1E
  | loadGlyph x => .ofByte 0xF x 0x29
  | bcd x => .ofByte 0xF x 0x33
  | store x => .ofByte 0xF x 0x55
  | read x => .ofByte 0xF x 0x65

open Opcode in
/-- **A word of an instruction is read as that instruction.** -/
theorem decode?_encode (spare : Register) (i : Instruction) :
    decode? (i.encode spare) = some i := by
  cases i with
  | clear | ret => simp only [encode]; decide
  | jump a | call a | loadIndex a | jumpOffset a =>
    have hread := fun family => read_ofAddress family a
    simp (disch := decide) only [encode, decode?, hread]
  | load x b | addByte x b | random x b =>
    have hread := fun family h => read_ofByte family b.toNat x h b.toNat_lt
    simp (disch := decide) only [encode, decode?, hread, UInt8.ofNat_toNat]
  | draw x y rows =>
    have hread := read_ofNibbles 0xD rows x y (by decide) rows.isLt
    simp only [encode, decode?, hread, Fin.eq_of_val_eq hread.2.2.2]
  | combine op x y =>
    have hread := fun n => read_ofNibbles 0x8 n x y (by decide)
    cases op <;> simp (disch := decide) only [encode, Combine.code, decode?, decodeArith?, hread]
  | arith op =>
    have hread := fun n x y => read_ofNibbles 0x8 n x y (by decide)
    cases op <;> simp (disch := decide) only [encode, decode?, decodeArith?, hread]
  | skip test =>
    cases test with
    | equalsByte x b | differsByte x b =>
      have hread := fun family h => read_ofByte family b.toNat x h b.toNat_lt
      simp (disch := decide) only [encode, decode?, hread, UInt8.ofNat_toNat]
    | equalsRegister x y | differsRegister x y =>
      have hread := fun family h => read_ofNibbles family 0 x y h (by decide)
      simp (disch := decide) only [encode, decode?, hread, if_true]
    | keyDown x | keyUp x =>
      have hread := fun b => read_ofByte 0xE b x (by decide)
      simp (disch := decide) only [encode, decode?, hread, UInt8.toNat_ofNat']
  | readDelay x | waitKey x | setDelay x | setSound x | addIndex x | loadGlyph x | bcd x | store x
  | read x =>
    have hread := fun b => read_ofByte 0xF b x (by decide)
    simp (disch := decide) only [encode, decode?, decodeDevice?, hread, UInt8.toNat_ofNat']

section Decoded

open Opcode

variable {op : Opcode} {i : Instruction}

theorem encode_of_decodeArith? (hfamily : op.family.val = 0x8) (h : decodeArith? op = some i) :
    i.encode op.y = op := by
  revert h
  fun_cases decodeArith? op with
  | case10 => intro h; cases h
  | case1 hn | case2 hn | case3 hn | case4 hn | case5 hn | case6 hn | case7 hn | case8 hn
  | case9 hn =>
    intro h
    cases h
    exact ofNibbles_eq hfamily hn

theorem encode_of_decodeDevice? (hfamily : op.family.val = 0xF) (h : decodeDevice? op = some i) :
    i.encode op.y = op := by
  revert h
  fun_cases decodeDevice? op with
  | case10 => intro h; cases h
  | case1 hb | case2 hb | case3 hb | case4 hb | case5 hb | case6 hb | case7 hb | case8 hb
  | case9 hb =>
    intro h
    cases h
    exact ofByte_eq hfamily hb

/-- **A word that is read as an instruction is one of its words.** -/
theorem encode_of_decode? (h : decode? op = some i) : i.encode op.y = op := by
  revert h
  fun_cases decode? op with
  | case1 hf ha | case2 hf ha =>
    intro h
    cases h
    have hop := ofAddress_eq hf
    rw [ha] at hop
    exact hop
  | case4 hf | case5 hf | case15 hf | case16 hf => intro h; cases h; exact ofAddress_eq hf
  | case6 hf | case7 hf | case10 hf | case11 hf | case17 hf =>
    intro h
    cases h
    exact ofByte_eq hf rfl
  | case8 hf hn | case13 hf hn => intro h; cases h; exact ofNibbles_eq hf hn
  | case12 hf => exact encode_of_decodeArith? hf
  | case18 hf => intro h; cases h; exact ofNibbles_eq hf rfl
  | case19 hf hb | case20 hf hb => intro h; cases h; exact ofByte_eq hf hb
  | case22 hf => exact encode_of_decodeDevice? hf
  -- the other words are read as nothing
  | case3 | case9 | case14 | case21 | case23 => intro h; cases h

/-- **Reading is the inverse of writing**, whatever the spare nibble. -/
theorem decode?_eq_some_iff : decode? op = some i ↔ ∃ spare, i.encode spare = op := by
  constructor
  · intro h
    exact ⟨op.y, encode_of_decode? h⟩
  · rintro ⟨spare, rfl⟩
    exact decode?_encode spare i

theorem decode?_eq_none_iff : decode? op = none ↔ ∀ i spare, encode spare i ≠ op := by
  rw [Option.eq_none_iff_forall_ne_some]
  simp only [ne_eq, decode?_eq_some_iff, not_exists]

end Decoded

end Instruction

end ChipEight
