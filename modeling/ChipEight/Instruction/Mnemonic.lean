import ChipEight.Hex
import ChipEight.Instruction.Basic

/-!
# Assembly text

The mnemonic of an instruction, as a disassembler prints it: bytes in two hexadecimal digits,
addresses in three, the height of a sprite in decimal.
-/

namespace ChipEight

/-- The name of a register, V0 to VF. -/
def Register.name (x : Register) : String := "V" ++ Hex.fixed 1 x.val

/-- A byte as an immediate operand. -/
def Instruction.byteText (b : UInt8) : String := "0x" ++ Hex.fixed 2 b.toNat

/-- An address as an operand. -/
def Instruction.addressText (a : Address) : String := "0x" ++ Hex.fixed 3 a.val

open Instruction (byteText addressText)

/-- A skip reads as the comparison under which it skips. -/
def Test.mnemonic : Test → String
  | equalsByte x b => "SE " ++ x.name ++ ", " ++ byteText b
  | differsByte x b => "SNE " ++ x.name ++ ", " ++ byteText b
  | equalsRegister x y => "SE " ++ x.name ++ ", " ++ y.name
  | differsRegister x y => "SNE " ++ x.name ++ ", " ++ y.name
  | keyDown x => "SKP " ++ x.name
  | keyUp x => "SKNP " ++ x.name

def Combine.mnemonic : Combine → String
  | copy => "LD"
  | or => "OR"
  | and => "AND"
  | xor => "XOR"

def Arith.mnemonic : Arith → String
  | add x y => "ADD " ++ x.name ++ ", " ++ y.name
  | sub x y => "SUB " ++ x.name ++ ", " ++ y.name
  | subFrom x y => "SUBN " ++ x.name ++ ", " ++ y.name
  | shiftRight x => "SHR " ++ x.name
  | shiftLeft x => "SHL " ++ x.name

/-- The assembly text of an instruction. -/
def Instruction.mnemonic : Instruction → String
  | clear => "CLS"
  | ret => "RET"
  | jump a => "JP " ++ addressText a
  | call a => "CALL " ++ addressText a
  | skip test => test.mnemonic
  | load x b => "LD " ++ x.name ++ ", " ++ byteText b
  | addByte x b => "ADD " ++ x.name ++ ", " ++ byteText b
  | combine op x y => op.mnemonic ++ " " ++ x.name ++ ", " ++ y.name
  | arith op => op.mnemonic
  | loadIndex a => "LD I, " ++ addressText a
  | jumpOffset a => "JP V0, " ++ addressText a
  | random x mask => "RND " ++ x.name ++ ", " ++ byteText mask
  | draw x y rows =>
    "DRW " ++ x.name ++ ", " ++ y.name ++ ", " ++ toString rows.val
  | readDelay x => "LD " ++ x.name ++ ", DT"
  | waitKey x => "LD " ++ x.name ++ ", K"
  | setDelay x => "LD DT, " ++ x.name
  | setSound x => "LD ST, " ++ x.name
  | addIndex x => "ADD I, " ++ x.name
  | loadGlyph x => "LD F, " ++ x.name
  | bcd x => "LD B, " ++ x.name
  | store x => "LD [I], " ++ x.name
  | read x => "LD " ++ x.name ++ ", [I]"

end ChipEight
