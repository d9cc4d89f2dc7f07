import ChipEight.Instruction.Record
import ChipEight.Machine.Call
import ChipEight.Main
import ChipEight.Proofs.CallStack
import ChipEight.Proofs.Checked
import ChipEight.Proofs.Coherence
import ChipEight.Proofs.CycleFaults
import ChipEight.Proofs.Driver
import ChipEight.Proofs.Encoding
import ChipEight.Proofs.Failure
import ChipEight.Proofs.Halted
import ChipEight.Proofs.HexText
import ChipEight.Proofs.Input
import ChipEight.Proofs.Output
import ChipEight.Proofs.RandomWords
import ChipEight.Proofs.Redraw
import ChipEight.Proofs.SideBySide
import ChipEight.Proofs.Sprite
import ChipEight.Proofs.StraightLine
import ChipEight.Proofs.Timers
import ChipEight.Proofs.Unread
import ChipEight.Proofs.Alignment
import ChipEight.Proofs.Superposition
import ChipEight.Proofs.Flags
import ChipEight.Proofs.IndexRegister
import ChipEight.Proofs.SavedRegisters
import ChipEight.Proofs.Disassembly
import ChipEight.Proofs.TraceText
import ChipEight.Proofs.Waiting
import ChipEight.Proofs.HeldKeys
import ChipEight.Proofs.Glyphs
import ChipEight.Proofs.KeyDigits
import ChipEight.Proofs.Decimal
