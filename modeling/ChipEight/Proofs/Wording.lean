import ChipEight.Log.Entry
import ChipEight.Proofs.FixedWidth

/-!
# The wording of messages

What the program says of faults, registers and cycles, written out word by word, with numbers in
print as `Hex.printed` has them. It says so exactly.

* `Registers.text_eq_printed`: the list of the registers.
* `Fault.message_eq_sentence`: the sentence for each fault.
* `Log.Entry.line_eq_printed`: the lines of the log.
* `Notice.trace_eq_columns`, `Notice.message_failed`: what is said of a cycle.
-/

namespace ChipEight

/-- The registers in print, from V0 to VF, with two digits each. -/
def Registers.printed (v : Registers) : String :=
  "[" ++ ", ".intercalate (v.toList.map fun b => Hex.printed 2 b.toNat) ++ "]"

theorem Registers.text_eq_printed (v : Registers) : v.text = v.printed := by
  have hbyte : ∀ b : UInt8, Hex.fixed 2 b.toNat = Hex.printed 2 b.toNat :=
    fun b => Hex.fixed_eq_printed (by decide) b.toNat_lt
  simp only [text, printed, Text.bracketed, hbyte]

/-- A word in print. -/
theorem Hex.fixed_four_eq_printed (n : UInt16) : fixed 4 n.toNat = printed 4 n.toNat :=
  fixed_eq_printed (by decide) n.toNat_lt

namespace Fault

/-- The sentence for a fault: words have four digits, and program counters three or as many as they
need. Sizes are in decimal. -/
def sentence : Fault → String
  | unsupportedOpcode op a =>
    "unsupported opcode 0x" ++ Hex.printed 4 op.toNat ++ " at 0x" ++ Hex.printed 3 a.toNat
  | outOfBounds a => "memory access out of bounds at 0x" ++ Hex.printed 4 a
  | stackOverflow a => "stack overflow calling from 0x" ++ Hex.printed 3 a.toNat
  | stackUnderflow a => "stack underflow returning from 0x" ++ Hex.printed 3 a.toNat
  | programTooLarge size limit =>
    "program is too large (" ++ toString size ++ " bytes), max size is " ++ toString limit ++
      " bytes"

theorem place_eq (pc : UInt16) : place pc = "0x" ++ Hex.printed 3 pc.toNat := by
  rw [place, Hex.atLeast_eq_printed (by decide)]

/-- A place told behind the words `s`, which reach up to the digits as `t`. -/
theorem append_place {s t : String} (h : s ++ "0x" = t) (pc : UInt16) :
    s ++ place pc = t ++ Hex.printed 3 pc.toNat := by
  rw [place_eq, ← String.append_assoc, h]

/-- **A fault is reported by its sentence.** -/
theorem message_eq_sentence (e : Fault) : e.message = e.sentence := by
  unfold message sentence
  cases e with
  | unsupportedOpcode op a =>
    have hat := append_place (show " at " ++ "0x" = " at 0x" by decide) a
    simp only [String.append_assoc, Hex.fixed_four_eq_printed, hat]
  | outOfBounds a => simp only [Hex.atLeast_eq_printed (show 0 < 4 by decide)]
  | stackOverflow a => exact append_place (by decide) a
  | stackUnderflow a => exact append_place (by decide) a
  | programTooLarge size limit => rfl

end Fault

theorem Text.column_eq_rightpad (width : Nat) (s : String) :
    column width s = String.ofList (s.toList.rightpad width ' ') := by
  apply String.toList_inj.1
  simp only [column, List.rightpad, String.toList_append, String.toList_ofList,
    String.length_toList]

/-- The line of an entry: its level with blanks up to five characters, its target, and then its
message. -/
def Log.Entry.printed (e : Log.Entry) : String :=
  "[" ++ String.ofList (e.level.name.toList.rightpad 5 ' ') ++ " " ++ e.target.path ++ "] " ++
    e.message

theorem Log.Entry.line_eq_printed (e : Log.Entry) : e.line = e.printed := by
  rw [line, Text.column_eq_rightpad, printed]

namespace Notice

/-- **A trace is a line of columns**: the program counter, the word, the mnemonic with blanks up to
sixteen characters, the registers, and I. -/
theorem trace_eq_columns (pc : UInt16) (op : Opcode) (instruction : Instruction) (v : Registers)
    (i : UInt16) :
    trace pc op instruction v i =
      Hex.printed 3 pc.toNat ++ ": " ++ Hex.printed 4 op.toNat ++ " " ++
        String.ofList (instruction.mnemonic.toList.rightpad 16 ' ') ++ " v" ++ v.printed ++ " i" ++
        Hex.printed 4 i.toNat := by
  rw [trace, Hex.atLeast_eq_printed (by decide), Hex.fixed_four_eq_printed, Text.column_eq_rightpad,
    v.text_eq_printed, Hex.fixed_four_eq_printed]

/-- **A failure is told with its place and its cause.** -/
theorem message_failed (pc : UInt16) (e : Fault) :
    (failed pc e).message =
      "cycle at 0x" ++ Hex.printed 3 pc.toNat ++ " failed: " ++ e.sentence := by
  unfold message
  simp only [Fault.append_place (show "cycle at " ++ "0x" = "cycle at 0x" by decide),
    e.message_eq_sentence]

end Notice

end ChipEight
