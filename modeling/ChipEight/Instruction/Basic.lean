import ChipEight.Opcode

/-!
# Instructions

The instruction set, grouped by shape: tests that decide a skip (`Test`), bytewise combinations that
leave VF alone (`Combine`), arithmetic that reports a flag in VF (`Arith`), and the rest.

Operand names follow the opcode layout: registers `x` and `y`, an immediate `byte`, an `address`.
-/

namespace ChipEight

/-- A condition on the registers or the keypad under which the next instruction is skipped. -/
inductive Test
  /-- Vx equals the byte. -/
  | equalsByte (x : Register) (byte : UInt8)
  /-- Vx differs from the byte. -/
  | differsByte (x : Register) (byte : UInt8)
  /-- Vx equals Vy. -/
  | equalsRegister (x y : Register)
  /-- Vx differs from Vy. -/
  | differsRegister (x y : Register)
  /-- Vx names a key, and the key is down. -/
  | keyDown (x : Register)
  /-- Vx names a key, and the key is up. -/
  | keyUp (x : Register)
  deriving DecidableEq

/-- The ways to put Vx and Vy together into Vx without touching VF. -/
inductive Combine
  | copy | or | and | xor
  deriving DecidableEq

/-- Arithmetic whose result goes to Vx and whose flag goes to VF. -/
inductive Arith
  /-- Vx + Vy; the flag is the carry. -/
  | add (x y : Register)
  /-- Vx - Vy; the flag says that Vx was larger. -/
  | sub (x y : Register)
  /-- Vy - Vx; the flag says that Vy was larger. -/
  | subFrom (x y : Register)
  /-- Vx halved; the flag is the bit shifted out. -/
  | shiftRight (x : Register)
  /-- Vx doubled; the flag is the bit shifted out. -/
  | shiftLeft (x : Register)
  deriving DecidableEq

/-- One instruction with its operands. -/
inductive Instruction
  /-- Blank the screen. -/
  | clear
  /-- Go on after the latest open call. -/
  | ret
  | jump (address : Address)
  | call (address : Address)
  /-- Skip the next instruction if the test holds. -/
  | skip (test : Test)
  /-- Vx becomes the byte. -/
  | load (x : Register) (byte : UInt8)
  /-- Vx grows by the byte, modulo 256 and without a flag. -/
  | addByte (x : Register) (byte : UInt8)
  | combine (op : Combine) (x y : Register)
  | arith (op : Arith)
  /-- I becomes the address. -/
  | loadIndex (address : Address)
  /-- Jump to the address plus V0, modulo 4096. -/
  | jumpOffset (address : Address)
  /-- Vx becomes a random byte, masked. -/
  | random (x : Register) (mask : UInt8)
  /-- Flip the sprite of the given height at I onto the screen at (Vx, Vy). -/
  | draw (x y : Register) (rows : Fin 16)
  /-- Vx becomes the delay timer. -/
  | readDelay (x : Register)
  /-- Wait until a key is down; Vx becomes the lowest such key. -/
  | waitKey (x : Register)
  /-- The delay timer becomes Vx. -/
  | setDelay (x : Register)
  /-- Sound a tone if Vx is not zero. -/
  | setSound (x : Register)
  /-- I grows by Vx, up to the largest word. -/
  | addIndex (x : Register)
  /-- I becomes the address of the glyph of digit Vx. -/
  | loadGlyph (x : Register)
  /-- Write the three decimal digits of Vx at I. -/
  | bcd (x : Register)
  /-- Write V0 to Vx at I. -/
  | store (x : Register)
  /-- Read V0 to Vx at I, and move I past them. -/
  | read (x : Register)
  deriving DecidableEq

end ChipEight
