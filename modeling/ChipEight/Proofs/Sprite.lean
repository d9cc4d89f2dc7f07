import ChipEight.Proofs.Effect
import Mathlib.Data.List.Nodup
import Mathlib.Data.Int.ModEq
import Mathlib.Tactic.Common

/-!
# Drawing, pixel by pixel

`Screen.drawSprite` names positions one after the other and flips what it finds there. A sprite is
at most as high and as wide as the screen, so it names no position twice, however it wraps, and the
draw can be read off each pixel.

* `Screen.cell_mem_spriteCells_iff`: the pixels that a sprite names.
* `Screen.nodup_spriteCells`: it names none of them twice.
* `Screen.pixel_drawSprite`, `Screen.hit_drawSprite_iff`: the draw flips these and no others, and it
  hits exactly if some pixel goes out.
* `Instruction.execute_draw`: the instruction as a whole.
-/

namespace ChipEight

/-- How far `b` lies ahead of `a` on a ring of `n` places. -/
def ahead (n a b : Nat) : Nat := (((b : Int) - a) % n).toNat

theorem ahead_eq_iff {n a b d : Nat} (hd : d < n) : ahead n a b = d ↔ (a + d) % n = b % n := by
  have hn : (n : Int) ≠ 0 := by omega
  have hpos : 0 ≤ ((b : Int) - a) % n := Int.emod_nonneg _ hn
  have hmod : ahead n a b = d ↔ (b : Int) - a ≡ d [ZMOD n] := by
    have hself : (d : Int) % n = d := Int.emod_eq_of_lt (by omega) (by omega)
    unfold ahead Int.ModEq
    rw [hself]; omega
  have hsum : (a + d) % n = b % n ↔ ((a + d : Nat) : Int) ≡ b [ZMOD n] := by
    unfold Int.ModEq; omega
  have hdiff : -((d : Int) - ((b : Int) - a)) = (b : Int) - (a + d : Nat) := by omega
  rw [hmod, hsum, Int.modEq_iff_dvd, Int.modEq_iff_dvd, ← Int.dvd_neg, hdiff]

namespace Screen

/-- The pixel in column `qx` and row `qy`. -/
def pixel (screen : Screen) (qx : Fin width) (qy : Fin height) : UInt8 :=
  screen.get (cell qx qy)

/-- Whether a sprite at `(px, py)` has a set bit where the pixel in column `qx` and row `qy` is. -/
def covered (px py : Nat) (rows : List UInt8) (qx : Fin width) (qy : Fin height) : Bool :=
  ahead width px qx < 8 &&
    (rows[ahead height py qy]?).any fun row => lit row (ahead width px qx)

/-! ## The pixels of a sprite -/

/-- Two positions are one if their columns are one and their rows are one, round the edges. -/
theorem cell_eq_cell_iff {px py qx qy : Nat} :
    cell px py = cell qx qy ↔ px % width = qx % width ∧ py % height = qy % height := by
  simp only [cell, Fin.mk.injEq, width, height]
  omega

/-- Every position is that of a pixel. -/
theorem exists_cell (k : Fin size) : ∃ (qx : Fin width) (qy : Fin height), k = cell qx qy := by
  obtain ⟨k, hk⟩ := k
  have hrow : k / 64 < 32 := by simp only [size, width, height] at hk; omega
  refine ⟨⟨k % 64, Nat.mod_lt _ (by decide)⟩, ⟨k / 64, hrow⟩, Fin.ext ?_⟩
  simp only [cell, width, height]
  omega

variable {px py : Nat} {rows : List UInt8}

/-- A sprite names the positions of its set bits. -/
theorem mem_spriteCells_iff {k : Fin size} :
    k ∈ spriteCells px py rows ↔
      ∃ r c row, rows[r]? = some row ∧ c < 8 ∧ lit row c ∧ cell (px + c) (py + r) = k := by
  induction rows generalizing py with
  | nil => simp [spriteCells]
  | cons row rows ih =>
    simp only [spriteCells, List.mem_append, List.mem_map, List.mem_filter, List.mem_range, ih]
    constructor
    · rintro (⟨c, ⟨hc, hl⟩, rfl⟩ | ⟨r, c, row', hr, hc, hl, rfl⟩)
      · exact ⟨0, c, row, rfl, hc, hl, rfl⟩
      · exact ⟨r + 1, c, row', hr, hc, hl, by rw [Nat.add_assoc, Nat.add_comm 1]⟩
    · rintro ⟨r, c, row', hr, hc, hl, rfl⟩
      cases r with
      | zero =>
        cases hr
        exact .inl ⟨c, ⟨hc, hl⟩, rfl⟩
      | succ r => exact .inr ⟨r, c, row', hr, hc, hl, by rw [Nat.add_assoc, Nat.add_comm 1]⟩

/-- One row of a sprite names no position twice: it is not as wide as the screen. -/
theorem nodup_row (row : UInt8) :
    (((List.range 8).filter (lit row)).map fun c => cell (px + c) py).Nodup := by
  refine List.Nodup.map_on ?_ (List.nodup_range.filter _)
  intro c hc d hd he
  have hc8 := List.mem_range.1 (List.mem_filter.1 hc).1
  have hd8 := List.mem_range.1 (List.mem_filter.1 hd).1
  have hmod := (cell_eq_cell_iff.1 he).1
  simp only [width] at hmod
  omega

/-- **A sprite that is no higher than the screen names no position twice**, however it wraps. -/
theorem nodup_spriteCells (h : rows.length ≤ height) : (spriteCells px py rows).Nodup := by
  induction rows generalizing py with
  | nil => exact List.nodup_nil
  | cons row rows ih =>
    have hlen : rows.length + 1 ≤ 32 := h
    refine (nodup_row row).append (ih (Nat.le_of_succ_le h)) ?_
    -- a position of this row and one of a later row differ in their rows
    intro k hk hlater
    obtain ⟨c, -, rfl⟩ := List.mem_map.1 hk
    obtain ⟨r, d, row', hr, -, -, he⟩ := mem_spriteCells_iff.1 hlater
    have hr' := (List.getElem?_eq_some_iff.1 hr).1
    have hmod := (cell_eq_cell_iff.1 he).2
    simp only [height] at hmod
    omega

/-- **The pixels that a sprite names** are those it covers. -/
theorem cell_mem_spriteCells_iff (h : rows.length ≤ height) {qx : Fin width} {qy : Fin height} :
    cell qx qy ∈ spriteCells px py rows ↔ covered px py rows qx qy := by
  simp only [mem_spriteCells_iff, covered, Bool.and_eq_true, decide_eq_true_eq, Option.any_eq_true]
  constructor
  · rintro ⟨r, c, row, hr, hc, hl, he⟩
    -- no two rows or columns of the sprite come to lie in one, so these are the distances
    obtain ⟨hx, hy⟩ := cell_eq_cell_iff.1 he
    have hr32 : r < height := Nat.lt_of_lt_of_le (List.getElem?_eq_some_iff.1 hr).1 h
    have hc64 : c < width := Nat.lt_trans hc (by decide)
    rw [(ahead_eq_iff hc64).2 hx, (ahead_eq_iff hr32).2 hy]
    exact ⟨hc, row, hr, hl⟩
  · rintro ⟨hc, row, hr, hl⟩
    have hr32 : ahead height py qy < height :=
      Nat.lt_of_lt_of_le (List.getElem?_eq_some_iff.1 hr).1 h
    have hc64 : ahead width px qx < width := Nat.lt_trans hc (by decide)
    exact ⟨_, _, row, hr, hc, hl,
      cell_eq_cell_iff.2 ⟨(ahead_eq_iff hc64).1 rfl, (ahead_eq_iff hr32).1 rfl⟩⟩

/-! ## The draw -/

variable (screen : Screen) (px py : Nat) (h : rows.length ≤ height)

include h

/-- **A draw flips the pixels that the sprite covers**, and no others. -/
theorem pixel_drawSprite (qx : Fin width) (qy : Fin height) :
    (screen.drawSprite px py rows).1.pixel qx qy =
      screen.pixel qx qy ^^^ (covered px py rows qx qy).toUInt8 := by
  -- a position that is named is named once, which is odd
  have hcount : (spriteCells px py rows).count (cell qx qy) =
      if covered px py rows qx qy then 1 else 0 := by
    simp only [(nodup_spriteCells h).count, cell_mem_spriteCells_iff h]
  have hflip := getElem_flipAll screen (spriteCells px py rows) (cell qx qy).val (cell qx qy).isLt
  rw [Fin.eta, hcount] at hflip
  refine hflip.trans ?_
  cases covered px py rows qx qy <;> rfl

/-- **A draw hits exactly if some pixel goes out.** -/
theorem hit_drawSprite_iff :
    (screen.drawSprite px py rows).2 = true ↔
      ∃ qx qy, screen.pixel qx qy = 1 ∧ (screen.drawSprite px py rows).1.pixel qx qy = 0 := by
  have hnodup : (spriteCells px py rows).Nodup := nodup_spriteCells h
  rw [drawSprite, hit_flipAll screen _ hnodup, List.any_eq_true]
  constructor
  · rintro ⟨k, hk, hlit⟩
    obtain ⟨qx, qy, rfl⟩ := exists_cell k
    have hone : screen.pixel qx qy = 1 := beq_iff_eq.1 hlit
    have hcov := (cell_mem_spriteCells_iff h).1 hk
    have hflip := pixel_drawSprite screen px py h qx qy
    rw [hcov, hone] at hflip
    exact ⟨qx, qy, hone, hflip⟩
  · rintro ⟨qx, qy, hone, hout⟩
    -- a pixel that goes out was flipped, and so is one of the sprite
    have hflip := pixel_drawSprite screen px py h qx qy
    have hcov : covered px py rows qx qy := by
      by_contra hnot
      rw [Bool.eq_false_iff.2 hnot, hone] at hflip
      exact absurd (hflip.symm.trans hout) (by decide)
    exact ⟨_, (cell_mem_spriteCells_iff h).2 hcov, beq_iff_eq.2 hone⟩

end Screen

/-- Whether the sprite at I, drawn at (Vx, Vy), has a set bit where the pixel in column `px` and row
`py` is: `r` and `c` are the row and the column of the sprite that come to lie there. -/
def State.covers (s : State) (x y : Register) (rows : Fin 16) (px : Fin Screen.width)
    (py : Fin Screen.height) : Bool :=
  let r := ahead Screen.height (s.v.get y).toNat py
  let c := ahead Screen.width (s.v.get x).toNat px
  r < rows.val && c < 8 && (s.memory[s.i.toNat + r]?).any fun row => row.toNat.testBit (7 - c)

theorem State.covered_span (s : State) (x y : Register) (rows : Fin 16) (px : Fin Screen.width)
    (py : Fin Screen.height) :
    Screen.covered (s.v.get x).toNat (s.v.get y).toNat (s.memory.span s.i.toNat rows.val) px py =
      s.covers x y rows px py := by
  simp only [Screen.covered, State.covers, Memory.getElem?_span]
  generalize ahead Screen.height (s.v.get y).toNat py = r
  by_cases hr : r < rows.val
  · simp [hr, Screen.lit]
  · simp [hr]

namespace Instruction

/-- **The draw instruction.** If memory holds the rows of the sprite, it succeeds. It flips exactly
the pixels that the sprite covers, sets VF if some pixel goes out and clears it otherwise, asks for
a redraw and goes on with the next instruction. Nothing else changes. -/
theorem execute_draw (c : Core) (x y : Register) (rows : Fin 16) (hpc : c.state.pc.toNat ≤ 0xFFE)
    (hi : c.state.i.toNat + rows.val ≤ Memory.size) :
    ∃ (screen : Screen) (pc : UInt16) (hit : Bool),
      (draw x y rows).execute.run c = .ok ()
        { c with state := { c.state.setV flagRegister (if hit then 1 else 0) with
            pc, screen, redraw := true } } ∧
      pc.toNat = c.state.pc.toNat + 2 ∧
      (∀ px py, screen.pixel px py =
        c.state.screen.pixel px py ^^^ if c.state.covers x y rows px py then 1 else 0) ∧
      (hit = true ↔ ∃ px py, c.state.screen.pixel px py = 1 ∧ screen.pixel px py = 0) := by
  have hrows := rows.isLt
  have hlen : (c.state.memory.span c.state.i.toNat rows.val).length ≤ Screen.height := by
    rw [Memory.length_span hi]; exact Nat.le_of_lt (Nat.lt_trans hrows (by decide))
  have hfault : (draw x y rows).fault? c.state = none := if_pos hi
  refine ⟨(c.state.drawn x y rows).1, c.state.pc + 2, (c.state.drawn x y rows).2, ?_, ?_, ?_, ?_⟩
  · rw [execute_run, hfault]; rfl
  · exact toNat_add_two hpc
  · intro px py
    rw [State.drawn, Screen.pixel_drawSprite _ _ _ hlen, State.covered_span]; rfl
  · exact Screen.hit_drawSprite_iff _ _ _ hlen

/-- The digit 0 drawn in the bottom right corner, with both coordinates in VF: it goes on at the
left edge and at the top, and puts a pixel out there. -/
theorem execute_draw_corner :
    let c : Core :=
      { state := { State.fresh.setV flagRegister 0xFF with
          i := Memory.fontStart, screen := Screen.blank.set 2 1 }
        source := .cycling #[] }
    ∃ screen pc,
      (draw 15 15 5).execute.run c = .ok ()
        { c with state := { c.state.setV flagRegister 1 with pc, screen, redraw := true } } ∧
      screen.pixel 0 31 = 1 ∧ screen.pixel 2 0 = 0 := by
  intro c
  obtain ⟨screen, pc, hit, hrun, -, hpixel, hhit⟩ :=
    execute_draw c 15 15 5 (by decide) (by decide)
  have hleft : screen.pixel 0 31 = 1 := by rw [hpixel]; decide +kernel
  have hout : screen.pixel 2 0 = 0 := by rw [hpixel]; decide +kernel
  have hlit : c.state.screen.pixel 2 0 = 1 := by decide +kernel
  rw [hhit.2 ⟨2, 0, hlit, hout⟩] at hrun
  exact ⟨screen, pc, hrun, hleft, hout⟩

end Instruction

end ChipEight
