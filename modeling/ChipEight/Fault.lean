import ChipEight.Hex
import ChipEight.Opcode
import ChipEight.Record

/-!
# Faults

The causes for which the machine refuses to go on, their messages, and their records.
-/

namespace ChipEight

/-- Why a program could not be loaded or a cycle could not be completed. -/
inductive Fault
  /-- The word at the address is no instruction. -/
  | unsupportedOpcode (opcode : Opcode) (address : UInt16)
  /-- An access leaves memory; the address is the first one outside that it asked for. -/
  | outOfBounds (address : Nat)
  /-- A call at the address with every slot of the stack in use. -/
  | stackOverflow (address : UInt16)
  /-- A return at the address with no call open. -/
  | stackUnderflow (address : UInt16)
  /-- The program does not fit between its start and the end of memory. -/
  | programTooLarge (size limit : Nat)
  deriving DecidableEq

namespace Fault

/-- A program counter in a message: at least three digits. -/
def place (pc : UInt16) : String := "0x" ++ Hex.atLeast 3 pc.toNat

/-- The sentence that reports a fault. -/
def message : Fault → String
  | unsupportedOpcode op a =>
    "unsupported opcode 0x" ++ Hex.fixed 4 op.toNat ++ " at " ++ place a
  | outOfBounds a => "memory access out of bounds at 0x" ++ Hex.atLeast 4 a
  | stackOverflow a => "stack overflow calling from " ++ place a
  | stackUnderflow a => "stack underflow returning from " ++ place a
  | programTooLarge size limit =>
    "program is too large (" ++ toString size ++ " bytes), max size is " ++ toString limit
      ++ " bytes"

/-- The cause and its details, with decimal values. -/
def record : Fault → Record
  | unsupportedOpcode op a =>
    .ofNats "UnsupportedOpcode" [("opcode", op.toNat), ("address", a.toNat)]
  | outOfBounds a => .ofNats "OutOfBounds" [("address", a)]
  | stackOverflow a => .ofNats "StackOverflow" [("address", a.toNat)]
  | stackUnderflow a => .ofNats "StackUnderflow" [("address", a.toNat)]
  | programTooLarge size limit =>
    .ofNats "ProgramTooLarge" [("size", size), ("max", limit)]

end Fault

end ChipEight
