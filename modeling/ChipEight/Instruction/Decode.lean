import ChipEight.Fault
import ChipEight.Instruction.Basic

/-!
# Decoding

`decode?` reads an opcode. The family nibble chooses a group; within a group the operands follow at
once, or the last nibble or the low byte chooses the instruction. The shifts ignore their `y`
nibble.

* `decode_eq_error_iff`: the only fault of decoding is that no instruction has the opcode.
-/

namespace ChipEight.Instruction

/-- The arithmetic group, chosen by the last nibble. -/
def decodeArith? (op : Opcode) : Option Instruction :=
  match op.n.val with
  | 0x0 => some (combine .copy op.x op.y)
  | 0x1 => some (combine .or op.x op.y)
  | 0x2 => some (combine .and op.x op.y)
  | 0x3 => some (combine .xor op.x op.y)
  | 0x4 => some (arith (.add op.x op.y))
  | 0x5 => some (arith (.sub op.x op.y))
  | 0x6 => some (arith (.shiftRight op.x))
  | 0x7 => some (arith (.subFrom op.x op.y))
  | 0xE => some (arith (.shiftLeft op.x))
  | _ => none

/-- The group of timers, keys and memory, chosen by the low byte. -/
def decodeDevice? (op : Opcode) : Option Instruction :=
  match op.byte.toNat with
  | 0x07 => some (readDelay op.x)
  | 0x0A => some (waitKey op.x)
  | 0x15 => some (setDelay op.x)
  | 0x18 => some (setSound op.x)
  | 0x1E => some (addIndex op.x)
  | 0x29 => some (loadGlyph op.x)
  | 0x33 => some (bcd op.x)
  | 0x55 => some (store op.x)
  | 0x65 => some (read op.x)
  | _ => none

/-- The instruction that an opcode stands for, if there is one. -/
def decode? (op : Opcode) : Option Instruction :=
  match op.family.val with
  | 0x0 =>
    match op.address.val with
    | 0x0E0 => some clear
    | 0x0EE => some ret
    | _ => none
  | 0x1 => some (jump op.address)
  | 0x2 => some (call op.address)
  | 0x3 => some (skip (.equalsByte op.x op.byte))
  | 0x4 => some (skip (.differsByte op.x op.byte))
  | 0x5 => if op.n.val = 0 then some (skip (.equalsRegister op.x op.y)) else none
  | 0x6 => some (load op.x op.byte)
  | 0x7 => some (addByte op.x op.byte)
  | 0x8 => decodeArith? op
  | 0x9 => if op.n.val = 0 then some (skip (.differsRegister op.x op.y)) else none
  | 0xA => some (loadIndex op.address)
  | 0xB => some (jumpOffset op.address)
  | 0xC => some (random op.x op.byte)
  | 0xD => some (draw op.x op.y op.n)
  | 0xE =>
    match op.byte.toNat with
    | 0x9E => some (skip (.keyDown op.x))
    | 0xA1 => some (skip (.keyUp op.x))
    | _ => none
  | 0xF => decodeDevice? op
  | _ => none

/-- The instruction at an address, or the fault that its word is none. -/
def decode (op : Opcode) (address : UInt16) : Except Fault Instruction :=
  match decode? op with
  | some instruction => .ok instruction
  | none => .error (.unsupportedOpcode op address)

theorem decode_eq_ok_iff {op : Opcode} {address : UInt16} {instruction : Instruction} :
    decode op address = .ok instruction ↔ decode? op = some instruction := by
  unfold decode; split <;> simp [*]

theorem decode_eq_error_iff {op : Opcode} {address : UInt16} {e : Fault} :
    decode op address = .error e ↔ decode? op = none ∧ e = .unsupportedOpcode op address := by
  unfold decode; split <;> simp [*, eq_comm]

end ChipEight.Instruction
