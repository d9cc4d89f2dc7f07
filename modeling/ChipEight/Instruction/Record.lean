import ChipEight.Instruction.Basic
import ChipEight.Record

/-!
# Instructions field by field

Every instruction as a record: the name of its case and the decimal values of its operands.
-/

namespace ChipEight

def Test.record : Test → Record
  | equalsByte x b => .ofNats "SkipEqImm" [("x", x), ("kk", b.toNat)]
  | differsByte x b => .ofNats "SkipNeImm" [("x", x), ("kk", b.toNat)]
  | equalsRegister x y => .ofNats "SkipEqReg" [("x", x), ("y", y)]
  | differsRegister x y => .ofNats "SkipNeReg" [("x", x), ("y", y)]
  | keyDown x => .ofNats "SkipPressed" [("x", x)]
  | keyUp x => .ofNats "SkipNotPressed" [("x", x)]

def Combine.recordName : Combine → String
  | copy => "Move"
  | or => "Or"
  | and => "And"
  | xor => "Xor"

def Arith.record : Arith → Record
  | add x y => .ofNats "AddReg" [("x", x), ("y", y)]
  | sub x y => .ofNats "Sub" [("x", x), ("y", y)]
  | subFrom x y => .ofNats "SubN" [("x", x), ("y", y)]
  | shiftRight x => .ofNats "ShiftRight" [("x", x)]
  | shiftLeft x => .ofNats "ShiftLeft" [("x", x)]

/-- The case and the operands of an instruction, in the order of the opcode layout. -/
def Instruction.record : Instruction → Record
  | clear => .ofNats "Clear" []
  | ret => .ofNats "Return" []
  | jump a => .ofNats "Jump" [("addr", a)]
  | call a => .ofNats "Call" [("addr", a)]
  | skip test => test.record
  | load x b => .ofNats "Load" [("x", x), ("kk", b.toNat)]
  | addByte x b => .ofNats "AddImm" [("x", x), ("kk", b.toNat)]
  | combine op x y => .ofNats op.recordName [("x", x), ("y", y)]
  | arith op => op.record
  | loadIndex a => .ofNats "LoadIndex" [("addr", a)]
  | jumpOffset a => .ofNats "JumpOffset" [("addr", a)]
  | random x mask => .ofNats "Random" [("x", x), ("kk", mask.toNat)]
  | draw x y rows =>
    .ofNats "Draw" [("x", x), ("y", y), ("n", rows)]
  | readDelay x => .ofNats "ReadDelay" [("x", x)]
  | waitKey x => .ofNats "WaitKey" [("x", x)]
  | setDelay x => .ofNats "SetDelay" [("x", x)]
  | setSound x => .ofNats "SetSound" [("x", x)]
  | addIndex x => .ofNats "AddIndex" [("x", x)]
  | loadGlyph x => .ofNats "LoadGlyph" [("x", x)]
  | bcd x => .ofNats "Bcd" [("x", x)]
  | store x => .ofNats "Store" [("x", x)]
  | read x => .ofNats "Read" [("x", x)]

end ChipEight
