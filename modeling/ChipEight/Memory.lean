import ChipEight.Fault
import ChipEight.Font
import ChipEight.Overlay

/-!
# Memory

4096 bytes, with the font near the bottom and programs from `programStart` on. Every access names a
range of addresses and is refused as a whole if the range leaves memory.

* `read_eq_ok_iff`, `write_eq_ok_iff`, `word_eq_ok_iff`: an access succeeds exactly if its range
  lies in memory.
* `read_eq`: a read in closed form, with the bytes as a `span`.
-/

namespace ChipEight

/-- The number of addresses. -/
abbrev Memory.size : Nat := 4096

/-- The bytes of the machine, by address. -/
abbrev Memory := Vector UInt8 Memory.size

namespace Memory

/-- Programs are loaded and started here. -/
def programStart : UInt16 := 0x200

/-- The font sheet lies here. -/
def fontStart : UInt16 := 0x050

/-- The largest program that fits. -/
def programLimit : Nat := size - programStart.toNat

/-- The fault of an access at `start` that leaves memory: the first address outside. -/
def outside (start : Nat) : Fault := .outOfBounds (max start size)

/-- Memory before any program is loaded: the font and zeros. -/
def fresh : Memory := overlay (Vector.replicate size 0) fontStart.toNat Font.sheet

/-- The `len` bytes from `start` on. -/
def read (m : Memory) (start len : Nat) : Except Fault (List UInt8) :=
  if h : start + len ≤ size then
    .ok (List.ofFn fun k : Fin len => have := k.isLt; m[start + k.val])
  else .error (outside start)

/-- The bytes from `start` on, `len` of them unless memory ends before. -/
def span (m : Memory) (start len : Nat) : List UInt8 := (m.toList.drop start).take len

/-- Memory with the bytes written from `start` on. -/
def write (m : Memory) (start : Nat) (bytes : List UInt8) : Except Fault Memory :=
  if start + bytes.length ≤ size then .ok (overlay m start bytes) else .error (outside start)

/-- The word whose high byte is at `start`. -/
def word (m : Memory) (start : Nat) : Except Fault Opcode :=
  if h : start + 2 ≤ size then .ok (.ofBytes m[start] m[start + 1]) else .error (outside start)

theorem read_eq_ok_iff {m : Memory} {start len : Nat} :
    (∃ bytes, m.read start len = .ok bytes) ↔ start + len ≤ size := by
  unfold read; split <;> simp [*]

theorem length_span {m : Memory} {start len : Nat} (h : start + len ≤ size) :
    (m.span start len).length = len := by
  simp only [span, List.length_take, List.length_drop, Vector.length_toList]
  omega

theorem getElem_span {m : Memory} {start len k : Nat} (h : k < (m.span start len).length)
    (hk : start + k < size) : (m.span start len)[k] = m[start + k] := by
  simp [span]

theorem getElem?_span (m : Memory) (start len k : Nat) :
    (m.span start len)[k]? = if k < len then m[start + k]? else none := by
  simp [span, List.getElem?_take, List.getElem?_drop]

theorem read_eq (m : Memory) (start len : Nat) :
    m.read start len =
      if start + len ≤ size then .ok (m.span start len) else .error (outside start) := by
  unfold read
  split
  · rename_i h
    have hbytes : (List.ofFn fun k : Fin len => m[start + k.val]) = m.span start len := by
      apply List.ext_getElem
      · rw [List.length_ofFn, length_span h]
      · intro k _ _
        rw [List.getElem_ofFn, getElem_span]
    exact congrArg Except.ok hbytes
  · rfl

theorem write_eq_ok_iff {m : Memory} {start : Nat} {bytes : List UInt8} :
    (∃ m', m.write start bytes = .ok m') ↔ start + bytes.length ≤ size := by
  unfold write; split <;> simp [*]

theorem word_eq_ok_iff {m : Memory} {start : Nat} :
    (∃ op, m.word start = .ok op) ↔ start + 2 ≤ size := by
  unfold word; split <;> simp [*]

/-- A word is two bytes, the high one first. -/
theorem word_eq_iff {m : Memory} {start : Nat} {op : Opcode} :
    m.word start = .ok op ↔ ∃ high low, m[start]? = some high ∧ m[start + 1]? = some low ∧
      op.toNat = 256 * high.toNat + low.toNat := by
  unfold word
  by_cases h : start + 2 ≤ 4096
  · have hhigh : start < size := Nat.lt_of_lt_of_le (by omega) h
    have hlow : start + 1 < size := Nat.lt_of_lt_of_le (by omega) h
    rw [dif_pos h, Vector.getElem?_eq_getElem hhigh, Vector.getElem?_eq_getElem hlow]
    simp [← UInt16.toNat_inj, Opcode.toNat_ofBytes, eq_comm]
  · rw [dif_neg h]
    constructor
    · intro hw; cases hw
    · rintro ⟨high, low, -, hlow, -⟩
      have hlt := (Vector.getElem?_eq_some_iff.1 hlow).1
      exact absurd hlt (by simp only [size]; omega)

end Memory

end ChipEight
