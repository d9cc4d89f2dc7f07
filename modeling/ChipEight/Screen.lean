/-!
# Screen

A grid of 64 by 32 pixels that wraps at its edges. Sprites are drawn by flipping pixels: each row of
a sprite is a byte, its highest bit leftmost, and every set bit flips the pixel it lands on.

* `getElem_flipAll`: a pixel ends flipped if it was named an odd number of times.
* `hit_flipAll`: if no pixel is named twice, the draw hits exactly if it named a lit pixel.
-/

namespace ChipEight

namespace Screen

abbrev width : Nat := 64

abbrev height : Nat := 32

/-- The number of pixels. -/
abbrev size : Nat := width * height

end Screen

/-- The pixels, row by row from the top left: 0 is a dark pixel, 1 a lit one. -/
abbrev Screen := Vector UInt8 Screen.size

namespace Screen

/-- Every pixel dark. -/
def blank : Screen := Vector.replicate size 0

/-- The position of the pixel in column `px` and row `py`, counted round the edges. -/
def cell (px py : Nat) : Fin size :=
  ⟨width * (py % height) + px % width, by
    have hx := Nat.mod_lt px (show 0 < 64 by decide)
    have hy := Nat.mod_lt py (show 0 < 32 by decide)
    simp only [size, width, height]; omega⟩

/-- Whether a sprite row has a set bit in column `c`, counted from the left. -/
def lit (row : UInt8) (c : Nat) : Bool := row.toNat.testBit (7 - c)

/-- The positions that a sprite at `(px, py)` flips, row by row and left to right. -/
def spriteCells (px py : Nat) : List UInt8 → List (Fin size)
  | [] => []
  | row :: rows =>
    ((List.range 8).filter (lit row)).map (fun c => cell (px + c) py) ++
      spriteCells px (py + 1) rows

/-- Flips one pixel, and notes whether it was lit. -/
def flip : Screen × Bool → Fin size → Screen × Bool
  | (screen, hit), c =>
    let was := screen[c]
    (screen.set c.val (was ^^^ 1), hit || was == 1)

/-- Flips the pixels one after the other; the second part says whether a lit one was among them. -/
def flipAll (screen : Screen) (cells : List (Fin size)) : Screen × Bool :=
  cells.foldl flip (screen, false)

/-- The screen after a sprite is drawn at `(px, py)`, and whether a lit pixel was turned off. -/
def drawSprite (screen : Screen) (px py : Nat) (rows : List UInt8) : Screen × Bool :=
  flipAll screen (spriteCells px py rows)

/-- A pixel that is flipped once more. -/
theorem xor_one_xor (a : UInt8) (lit : Bool) :
    a ^^^ 1 ^^^ lit.toUInt8 = a ^^^ (!lit).toUInt8 := by
  cases lit with
  | false => exact UInt8.xor_zero
  | true => exact UInt8.xor_assoc a 1 1

theorem getElem_foldl_flip (screen : Screen) (hit : Bool) (cells : List (Fin size)) (i : Nat)
    (hi : i < size) :
    (cells.foldl flip (screen, hit)).1[i] =
      screen[i] ^^^ (decide (cells.count ⟨i, hi⟩ % 2 = 1)).toUInt8 := by
  induction cells generalizing screen hit with
  | nil => simp [Bool.toUInt8]
  | cons c cs ih =>
    simp only [List.foldl_cons, flip, ih, Vector.getElem_set, Fin.getElem_fin]
    by_cases h : c.val = i
    · have hc : c = ⟨i, hi⟩ := Fin.ext h
      subst hc
      have hparity : decide ((cs.count ⟨i, hi⟩ + 1) % 2 = 1) =
          !decide (cs.count ⟨i, hi⟩ % 2 = 1) := by
        rcases Nat.mod_two_eq_zero_or_one (cs.count ⟨i, hi⟩) with h0 | h1 <;>
          simp [Nat.add_mod, *]
      rw [if_pos h, List.count_cons_self, hparity]
      exact xor_one_xor screen[i] _
    · have hc : c ≠ ⟨i, hi⟩ := fun e => h (congrArg Fin.val e)
      simp [h, List.count_cons_of_ne hc]

theorem getElem_flipAll (screen : Screen) (cells : List (Fin size)) (i : Nat) (hi : i < size) :
    (flipAll screen cells).1[i] =
      screen[i] ^^^ (decide (cells.count ⟨i, hi⟩ % 2 = 1)).toUInt8 :=
  getElem_foldl_flip screen false cells i hi

/-- No other value comes up where a pixel was dark or lit. -/
theorem flipAll_dark_or_lit {screen : Screen} {cells : List (Fin size)} {i : Nat} (hi : i < size)
    (h : screen[i] = 0 ∨ screen[i] = 1) :
    (flipAll screen cells).1[i] = 0 ∨ (flipAll screen cells).1[i] = 1 := by
  rw [getElem_flipAll]
  rcases h with h | h <;> rw [h] <;> cases decide (cells.count ⟨i, hi⟩ % 2 = 1) <;>
    simp [Bool.toUInt8]

theorem hit_foldl_flip (screen : Screen) (hit : Bool) (cells : List (Fin size))
    (h : cells.Nodup) :
    (cells.foldl flip (screen, hit)).2 = (hit || cells.any fun c => screen[c] == 1) := by
  induction cells generalizing screen hit with
  | nil => simp
  | cons c cs ih =>
    obtain ⟨hc, hcs⟩ := List.nodup_cons.1 h
    -- flipping `c` changes no pixel that is still to come
    have hsame : ∀ d ∈ cs, (screen.set c.val (screen[c] ^^^ 1))[d] = screen[d] := fun d hd => by
      have hne : c.val ≠ d.val := fun e => hc (Fin.ext e ▸ hd)
      simp [hne]
    have hany : (cs.any fun d => (screen.set c.val (screen[c] ^^^ 1))[d] == 1) =
        cs.any fun d => screen[d] == 1 := by
      rw [Bool.eq_iff_iff, List.any_eq_true, List.any_eq_true]
      exact ⟨fun ⟨d, hd, e⟩ => ⟨d, hd, hsame d hd ▸ e⟩,
        fun ⟨d, hd, e⟩ => ⟨d, hd, (hsame d hd).symm ▸ e⟩⟩
    rw [List.foldl_cons, flip, ih _ _ hcs, hany, List.any_cons, Bool.or_assoc]

/-- If no pixel is named twice, a hit is a lit pixel among those named. -/
theorem hit_flipAll (screen : Screen) (cells : List (Fin size)) (h : cells.Nodup) :
    (flipAll screen cells).2 = cells.any fun c => screen[c] == 1 := by
  rw [flipAll, hit_foldl_flip screen false cells h, Bool.false_or]

end Screen

end ChipEight
