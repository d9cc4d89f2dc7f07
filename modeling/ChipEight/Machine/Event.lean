import ChipEight.Execute
import ChipEight.Instruction.Mnemonic
import ChipEight.Log.Entry

/-!
# Events

What a machine reports while it works, in order: notices about programs and cycles, which belong in
a log, and tones for whatever speaker is linked. A notice carries its data; `Notice.message` puts it
into words.
-/

namespace ChipEight

/-- Where tones go. -/
inductive Speaker
  | mute
  /-- A listener, known by a number of its owner's choice. -/
  | listener (id : Nat)
  deriving DecidableEq

/-- Something worth logging. -/
inductive Notice
  /-- A program of so many bytes was loaded. -/
  | loaded (size : Nat)
  /-- A cycle decoded an instruction and is about to execute it on these registers. -/
  | decoded (pc : UInt16) (op : Opcode) (instruction : Instruction) (v : Registers) (i : UInt16)
  /-- The cycle at the address failed. -/
  | failed (pc : UInt16) (fault : Fault)
  deriving DecidableEq

/-- Something that a machine reports. -/
inductive Event
  | notice (notice : Notice)
  /-- A tone sounded on the speaker that was linked. -/
  | tone (speaker : Speaker)
  deriving DecidableEq

/-- The registers as a bracketed list of bytes. -/
def Registers.text (v : Registers) : String :=
  Text.bracketed (v.toList.map fun b => Hex.fixed 2 b.toNat)

namespace Notice

/-- Only the decoded instructions are mere traces. -/
def level : Notice → Log.Level
  | loaded _ => .debug
  | decoded .. => .trace
  | failed .. => .debug

/-- The trace of a cycle: where it is, what it is about to do, and on which registers. -/
def trace (pc : UInt16) (op : Opcode) (instruction : Instruction) (v : Registers) (i : UInt16) :
    String :=
  Hex.atLeast 3 pc.toNat ++ ": " ++ Hex.fixed 4 op.toNat ++ " " ++
    Text.column 16 instruction.mnemonic ++ " v" ++ v.text ++ " i" ++ Hex.fixed 4 i.toNat

/-- The words of a notice. -/
def message : Notice → String
  | loaded size =>
    "loaded " ++ toString size ++ " byte program at " ++ Fault.place Memory.programStart
  | decoded pc op instruction v i => trace pc op instruction v i
  | failed pc fault => "cycle at " ++ Fault.place pc ++ " failed: " ++ fault.message

end Notice

end ChipEight
