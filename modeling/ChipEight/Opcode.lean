import ChipEight.Hex

/-!
# Opcodes

An opcode is a 16-bit word, stored high byte first. Its operands sit at fixed places:

    family  x  y  n        four nibbles, most significant first
               byte        the low half
            address        everything below the family
-/

namespace ChipEight

/-- One of the registers V0 to VF. -/
abbrev Register := Fin 16

/-- A 12-bit address. -/
abbrev Address := Fin 4096

/-- An instruction word. -/
abbrev Opcode := UInt16

namespace Opcode

/-- The word made of a high and a low byte. -/
def ofBytes (high low : UInt8) : Opcode := UInt16.ofNat (256 * high.toNat + low.toNat)

/-- The most significant nibble. -/
def family (op : Opcode) : Fin 16 := Hex.nibble (op.toNat / 4096)

/-- The register in the second nibble. -/
def x (op : Opcode) : Register := Hex.nibble (op.toNat / 256)

/-- The register in the third nibble. -/
def y (op : Opcode) : Register := Hex.nibble (op.toNat / 16)

/-- The least significant nibble. -/
def n (op : Opcode) : Fin 16 := Hex.nibble op.toNat

/-- The low byte. -/
def byte (op : Opcode) : UInt8 := UInt8.ofNat op.toNat

/-- The low 12 bits. -/
def address (op : Opcode) : Address := Fin.ofNat 4096 op.toNat

theorem toNat_ofBytes (high low : UInt8) :
    (ofBytes high low).toNat = 256 * high.toNat + low.toNat := by
  have h := high.toNat_lt
  have l := low.toNat_lt
  simp [ofBytes]; omega

/-- An opcode is its four nibbles. -/
theorem toNat_eq_nibbles (op : Opcode) :
    op.toNat = 4096 * op.family.val + 256 * op.x.val + 16 * op.y.val + op.n.val := by
  have h := op.toNat_lt
  simp only [family, x, y, n, Hex.nibble]
  omega

end Opcode

end ChipEight
