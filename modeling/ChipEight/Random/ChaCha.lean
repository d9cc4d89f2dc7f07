import ChipEight.Random.Source

/-!
# Seeded random words

The ChaCha stream with twelve rounds, under a key of eight words that a linear congruential
generator draws from a 64-bit seed. The stream is the blocks of the counters 0, 1, 2, …, sixteen
words each, so that the word at any position can be computed on its own.
-/

namespace ChipEight.Random.ChaCha

/-- Sixteen words, thought of as a square of four by four. -/
abbrev Block := Vector UInt32 16

/-- The word with its bits moved `k` places towards the high end, round the end. -/
def rotateLeft (w k : UInt32) : UInt32 := (w <<< k) ||| (w >>> (32 - k))

/-- Add one word to another, and turn the bits of a third that takes up the sum. -/
def mix (s : Block) (a b d : Fin 16) (k : UInt32) : Block :=
  let s := s.set a.val (s[a] + s[b])
  s.set d.val (rotateLeft (s[d] ^^^ s[a]) k)

def quarterRound (a b c d : Fin 16) (s : Block) : Block :=
  mix (mix (mix (mix s a b d 16) c d b 12) a b d 8) c d b 7

/-- Every column, then every diagonal. -/
def doubleRound (s : Block) : Block :=
  s |> quarterRound 0 4 8 12 |> quarterRound 1 5 9 13
    |> quarterRound 2 6 10 14 |> quarterRound 3 7 11 15
    |> quarterRound 0 5 10 15 |> quarterRound 1 6 11 12
    |> quarterRound 2 7 8 13 |> quarterRound 3 4 9 14

/-- The block that the rounds start from: four constants, the key, the counter and no nonce. -/
def initial (key : Vector UInt32 8) (counter : Nat) : Block :=
  #v[0x61707865, 0x3320646e, 0x79622d32, 0x6b206574,
    key[0], key[1], key[2], key[3], key[4], key[5], key[6], key[7],
    UInt32.ofNat counter, UInt32.ofNat (counter / UInt32.size), 0, 0]

/-- The block of a counter: twelve rounds, then the initial block added word by word. -/
def block (key : Vector UInt32 8) (counter : Nat) : Block :=
  let start := initial key counter
  Vector.zipWith (· + ·) (Nat.repeat doubleRound 6 start) start

/-- The word at position `k` of the stream. -/
def word (key : Vector UInt32 8) (k : Nat) : UInt32 := (block key (k / 16)).get (Fin.ofNat 16 k)

/-! ## Keys from seeds -/

/-- One step of the generator that stretches a seed. -/
def stretch (s : UInt64) : UInt64 := s * 6364136223846793005 + 11634580027462260723

/-- The word shown at a state of the generator: high bits, turned by the highest five. -/
def output (s : UInt64) : UInt32 :=
  let x := (((s >>> 18) ^^^ s) >>> 27).toUInt32
  let turn := (s >>> 59).toUInt32
  (x >>> turn) ||| (x <<< (32 - turn))

/-- The key of a seed: what the generator shows after one to eight steps. -/
def keyOfSeed (seed : UInt64) : Vector UInt32 8 :=
  Vector.ofFn fun k => output (Nat.repeat stretch (k.val + 1) seed)

end ChipEight.Random.ChaCha

namespace ChipEight.Random

/-- The source of a seed, at its start. -/
def Source.seeded (seed : UInt64) : Source :=
  let key := ChaCha.keyOfSeed seed
  { word := ChaCha.word key }

end ChipEight.Random
