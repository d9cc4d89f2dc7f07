import ChipEight.Core
import ChipEight.Instruction.Basic

/-!
# Execution

What one instruction does to a core. Nothing undoes the changes of an instruction that fails, so
`execute` asks for its memory and its stack slot before it changes anything.
-/

namespace ChipEight

/-- Whether a test holds. A register above F names no key, which is then neither down nor up. -/
def Test.holds (s : State) : Test → Bool
  | equalsByte x b => s.v.get x == b
  | differsByte x b => s.v.get x != b
  | equalsRegister x y => s.v.get x == s.v.get y
  | differsRegister x y => s.v.get x != s.v.get y
  | keyDown x => s.keys.down? (s.v.get x).toNat == some true
  | keyUp x => s.keys.down? (s.v.get x).toNat == some false

/-- The bytewise combination of Vx and Vy. -/
def Combine.apply (a b : UInt8) : Combine → UInt8
  | copy => b
  | or => a ||| b
  | and => a &&& b
  | xor => a ^^^ b

/-- The register that receives the result. -/
def Arith.target : Arith → Register
  | add x _ | sub x _ | subFrom x _ | shiftRight x | shiftLeft x => x

/-- The result and the flag, from the registers as they are before either is written. -/
def Arith.compute (v : Registers) : Arith → UInt8 × Bool
  | add x y => (v.get x + v.get y, 256 ≤ (v.get x).toNat + (v.get y).toNat)
  | sub x y => (v.get x - v.get y, v.get y < v.get x)
  | subFrom x y => (v.get y - v.get x, v.get x < v.get y)
  | shiftRight x => (v.get x >>> 1, (v.get x).toNat % 2 = 1)
  | shiftLeft x => (v.get x <<< 1, 128 ≤ (v.get x).toNat)

/-- I grown by `n`, but never past the largest word. -/
def State.indexPlus (s : State) (n : Nat) : UInt16 := UInt16.ofNat (min (s.i.toNat + n) 0xFFFF)

theorem State.toNat_indexPlus (s : State) (n : Nat) :
    (s.indexPlus n).toNat = min (s.i.toNat + n) 0xFFFF := by
  have hmax : min (s.i.toNat + n) 0xFFFF < 2 ^ 16 := by omega
  rw [indexPlus, UInt16.toNat_ofNat', Nat.mod_eq_of_lt hmax]

/-- The three decimal digits of a byte, most significant first. -/
def decimalDigits (b : UInt8) : List UInt8 := [b / 100, b / 10 % 10, b % 10]

namespace Instruction

open Exec

/-- The effect of an instruction, the program counter included. -/
def execute : Instruction → Exec Unit
  | clear => update fun s => .advance { s with screen := .blank, redraw := true }
  | ret => do
    let s ← state
    match s.stack.pop? with
    | none => throw (.stackUnderflow s.pc)
    | some (caller, stack) => update fun s => { s with stack, pc := caller + 2 }
  | jump a => update fun s => { s with pc := .ofNat a.val }
  | call a => do
    let s ← state
    match s.stack.push? s.pc with
    | none => throw (.stackOverflow s.pc)
    | some stack => update fun s => { s with stack, pc := .ofNat a.val }
  | skip test => update fun s => if test.holds s then s.advanceTwo else s.advance
  | load x b => update fun s => (s.setV x b).advance
  | addByte x b => update fun s => (s.setV x (s.v.get x + b)).advance
  | combine op x y => update fun s => (s.setV x (op.apply (s.v.get x) (s.v.get y))).advance
  | arith op => update fun s =>
    let (result, flag) := op.compute s.v
    (s.setFlagged op.target result flag).advance
  | loadIndex a => update fun s => .advance { s with i := .ofNat a.val }
  | jumpOffset a => update fun s =>
    { s with pc := .ofNat (((s.v.get baseRegister).toNat + a.val) % 4096) }
  | random x mask => do
    let w ← randomWord
    update fun s => (s.setV x (w.toUInt8 &&& mask)).advance
  | draw x y rows => do
    let s ← state
    let sprite ← attempt (s.memory.read s.i.toNat rows.val)
    -- the position is read before VF receives the hit, so it may be in VF
    let (screen, hit) := s.screen.drawSprite (s.v.get x).toNat (s.v.get y).toNat sprite
    update fun s => (State.setV { s with screen, redraw := true } flagRegister hit.toUInt8).advance
  | readDelay x => update fun s => (s.setV x s.delay).advance
  | waitKey x => update fun s =>
    match s.keys.lowest? with
    | none => s
    | some k => (s.setV x (.ofNat k.val)).advance
  | setDelay x => update fun s => .advance { s with delay := s.v.get x }
  | setSound x => update fun s => .advance { s with sound := if s.v.get x = 0 then 0 else 1 }
  | addIndex x => update fun s => .advance { s with i := s.indexPlus (s.v.get x).toNat }
  | loadGlyph x => update fun s =>
    .advance { s with i := Memory.fontStart + .ofNat (Font.glyphHeight * (s.v.get x).toNat) }
  | bcd x => do
    let s ← state
    let memory ← attempt (s.memory.write s.i.toNat (decimalDigits (s.v.get x)))
    update fun s => .advance { s with memory }
  | store x => do
    let s ← state
    let memory ← attempt (s.memory.write s.i.toNat (s.v.toList.take (x.val + 1)))
    update fun s => .advance { s with memory }
  | read x => do
    let s ← state
    let bytes ← attempt (s.memory.read s.i.toNat (x.val + 1))
    update fun s =>
      .advance { s with v := overlay s.v 0 bytes, i := s.indexPlus (x.val + 1) }

end Instruction

end ChipEight
