/-!
# The built-in font

The sixteen hexadecimal digits, each five rows of four pixels in the high half of a byte.
-/

namespace ChipEight.Font

/-- Rows, and so bytes, per glyph. -/
def glyphHeight : Nat := 5

/-- All glyphs, in the order of their digits. -/
def sheet : List UInt8 := [
  0xF0, 0x90, 0x90, 0x90, 0xF0, -- 0
  0x20, 0x60, 0x20, 0x20, 0x70, -- 1
  0xF0, 0x10, 0xF0, 0x80, 0xF0, -- 2
  0xF0, 0x10, 0xF0, 0x10, 0xF0, -- 3
  0x90, 0x90, 0xF0, 0x10, 0x10, -- 4
  0xF0, 0x80, 0xF0, 0x10, 0xF0, -- 5
  0xF0, 0x80, 0xF0, 0x90, 0xF0, -- 6
  0xF0, 0x10, 0x20, 0x40, 0x40, -- 7
  0xF0, 0x90, 0xF0, 0x90, 0xF0, -- 8
  0xF0, 0x90, 0xF0, 0x10, 0xF0, -- 9
  0xF0, 0x90, 0xF0, 0x90, 0x90, -- A
  0xE0, 0x90, 0xE0, 0x90, 0xE0, -- B
  0xF0, 0x80, 0x80, 0x80, 0xF0, -- C
  0xE0, 0x90, 0x90, 0x90, 0xE0, -- D
  0xF0, 0x80, 0xF0, 0x80, 0xF0, -- E
  0xF0, 0x80, 0xF0, 0x80, 0x80] -- F

/-- The rows of digit `d`, top first. -/
def glyph (d : Fin 16) : List UInt8 := (sheet.drop (glyphHeight * d.val)).take glyphHeight

theorem length_sheet : sheet.length = 16 * glyphHeight := rfl

theorem length_glyph (d : Fin 16) : (glyph d).length = glyphHeight := by
  revert d; decide

end ChipEight.Font
