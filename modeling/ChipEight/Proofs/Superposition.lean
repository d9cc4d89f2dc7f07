import ChipEight.Proofs.Sprite
import Mathlib.Data.List.Perm.Basic

/-!
# Sprites on top of each other

A draw flips the pixels that its sprite covers, and flips commute. So what a list of draws comes to
at a pixel is a matter of how many of them cover it, and of nothing else: neither of their order,
nor of the registers that held their places, nor of the hits that the draws before them left in VF.

* `Drawing.run_perform`: one draw, in registers that were set for it.
* `run_performAll`: a list of draws flips a pixel if an odd number of them cover it.
* `drawings_superpose`: so the order of the draws makes no difference, and all of them once more
  take them back.
-/

namespace ChipEight

/-- A sprite, that is, so many rows from an address on, and the place where it goes on the
screen. -/
structure Placement where
  start : UInt16
  rows : Fin 16
  column : UInt8
  row : UInt8
  deriving DecidableEq

/-- A sprite in its place, with the registers that hold the place and the address of the instruction
that draws it. -/
structure Drawing extends Placement where
  x : Register
  y : Register
  address : UInt16
  deriving DecidableEq

/-- Whether the sprite has a set bit where the pixel in column `px` and row `py` is. -/
def Placement.covers (memory : Memory) (px : Fin Screen.width) (py : Fin Screen.height)
    (p : Placement) : Bool :=
  Screen.covered p.column.toNat p.row.toNat (memory.span p.start.toNat p.rows.val) px py

namespace Drawing

/-- The sprite lies in memory, two registers hold its place, and the instruction can be fetched. -/
structure Feasible (d : Drawing) : Prop where
  fits : d.start.toNat + d.rows.val ≤ Memory.size
  distinct : d.x ≠ d.y
  fetched : d.address.toNat ≤ 0xFFE

/-- The state in which the sprite can be drawn: I, the two registers and the program counter are set
for it. -/
def prepare (d : Drawing) (s : State) : State :=
  { (s.setV d.x d.column).setV d.y d.row with i := d.start, pc := d.address }

/-- Sets what the draw needs, and draws. -/
def perform (d : Drawing) : Exec Unit := do
  Exec.update d.prepare
  (Instruction.draw d.x d.y d.rows).execute

/-- Performs draws in turn, with nothing in between. -/
def performAll : List Drawing → Exec Unit
  | [] => pure ()
  | d :: ds => do
    d.perform
    performAll ds

variable {d : Drawing}

/-- The first register still holds the column when the second one holds the row. -/
theorem drawn_prepare (h : d.x ≠ d.y) (s : State) :
    (d.prepare s).drawn d.x d.y d.rows =
      s.screen.drawSprite d.column.toNat d.row.toNat (s.memory.span d.start.toNat d.rows.val) := by
  have hx : (d.prepare s).v.get d.x = d.column := by
    change ((s.setV d.x d.column).setV d.y d.row).v[d.x.val] = _
    rw [State.getElem_setV, if_neg h.symm, State.getElem_setV, if_pos rfl]
  have hy : (d.prepare s).v.get d.y = d.row := by
    change ((s.setV d.x d.column).setV d.y d.row).v[d.y.val] = _
    rw [State.getElem_setV, if_pos rfl]
  rw [State.drawn, hx, hy]
  rfl

/-- **One draw** succeeds. It leaves memory alone and flips the pixels that the sprite covers. -/
theorem run_perform (h : d.Feasible) (c : Core) :
    ∃ c', d.perform.run c = .ok () c' ∧ c'.state.memory = c.state.memory ∧
      ∀ px py, c'.state.screen.pixel px py =
        c.state.screen.pixel px py ^^^ (d.covers c.state.memory px py).toUInt8 := by
  have hrows := d.rows.isLt
  have hlen : (c.state.memory.span d.start.toNat d.rows.val).length ≤ Screen.height := by
    rw [Memory.length_span h.fits]
    exact Nat.le_of_lt (Nat.lt_trans hrows (by decide))
  have hrun := (Instruction.execute_eq_ok_iff (c := { c with state := d.prepare c.state })
    (i := .draw d.x d.y d.rows)).2 ⟨if_pos h.fits, rfl⟩
  refine ⟨_, hrun, rfl, fun px py => ?_⟩
  change ((d.prepare c.state).drawn d.x d.y d.rows).1.pixel px py = _
  rw [drawn_prepare h.distinct, Screen.pixel_drawSprite _ _ _ hlen]
  rfl

/-- One more flip turns an even number of flips into an odd one, and back. -/
theorem toUInt8_odd_add (n : Nat) (b : Bool) :
    (decide ((n + if b then 1 else 0) % 2 = 1)).toUInt8 =
      b.toUInt8 ^^^ (decide (n % 2 = 1)).toUInt8 := by
  rcases Nat.mod_two_eq_zero_or_one n with h | h <;> cases b <;> simp [Nat.add_mod, h, Bool.toUInt8]

/-- **A list of draws** succeeds. It leaves memory alone, and flips a pixel if an odd number of the
sprites cover it. -/
theorem run_performAll {ds : List Drawing} (h : ∀ d ∈ ds, d.Feasible) (c : Core) :
    ∃ c', (performAll ds).run c = .ok () c' ∧ c'.state.memory = c.state.memory ∧
      ∀ px py, c'.state.screen.pixel px py = c.state.screen.pixel px py ^^^
        (decide ((ds.map toPlacement).countP (·.covers c.state.memory px py) % 2 = 1)).toUInt8 := by
  induction ds generalizing c with
  | nil => exact ⟨c, rfl, rfl, fun px py => by simp [Bool.toUInt8]⟩
  | cons d ds ih =>
    obtain ⟨c₁, hrun, hmemory, hpixel⟩ := run_perform (h d List.mem_cons_self) c
    obtain ⟨c₂, hruns, hmemories, hpixels⟩ := ih (fun e he => h e (List.mem_cons_of_mem _ he)) c₁
    refine ⟨c₂, ?_, hmemories.trans hmemory, fun px py => ?_⟩
    · exact (Instruction.run_bind_of_ok hrun _).trans hruns
    · -- the later draws find the memory that the first one found
      rw [hpixels, hpixel, hmemory, List.map_cons, List.countP_cons, toUInt8_odd_add,
        UInt8.xor_assoc]

end Drawing

/-- A screen is its pixels. -/
theorem Screen.ext_pixel {screen screen' : Screen}
    (h : ∀ px py, screen'.pixel px py = screen.pixel px py) : screen' = screen := by
  refine Vector.ext fun k hk => ?_
  obtain ⟨px, py, hcell⟩ := exists_cell ⟨k, hk⟩
  have hpixel := h px py
  unfold pixel at hpixel
  rw [← hcell] at hpixel
  exact hpixel

theorem Screen.pixel_blank (px : Fin width) (py : Fin height) : blank.pixel px py = 0 :=
  Vector.getElem_replicate (cell px py).isLt

/-- Flips of a pixel that is dark or lit are counted modulo 2. -/
theorem Screen.toNat_xor_odd {p : UInt8} (h : p = 0 ∨ p = 1) (n : Nat) :
    (p ^^^ (decide (n % 2 = 1)).toUInt8).toNat = (p.toNat + n) % 2 := by
  rcases Nat.mod_two_eq_zero_or_one n with hn | hn <;> rcases h with rfl | rfl <;>
    simp [Nat.add_mod, hn, Bool.toUInt8]

open Drawing

/-- **Sprites superpose by parity, whatever their order.** Performed one after the other, draws
leave memory alone, and each pixel grows by the number of sprites that cover it, modulo 2. So the
same sprites in the same places make the same screen in any order, and if they are drawn again, in
any order, the screen is as it was. -/
theorem drawings_superpose (c : Core)
    (hpixels : ∀ px py, c.state.screen.pixel px py = 0 ∨ c.state.screen.pixel px py = 1)
    (ds : List Drawing) (hds : ∀ d ∈ ds, d.Feasible) :
    ∃ c', (performAll ds).run c = .ok () c' ∧ c'.state.memory = c.state.memory ∧
      (∀ px py, (c'.state.screen.pixel px py).toNat =
        ((c.state.screen.pixel px py).toNat +
          ds.countP fun d => d.covers c.state.memory px py) % 2) ∧
      ∀ es : List Drawing, (∀ e ∈ es, e.Feasible) →
        (es.map toPlacement).Perm (ds.map toPlacement) →
        (∃ c₁, (performAll es).run c = .ok () c₁ ∧ c₁.state.screen = c'.state.screen) ∧
        ∃ c₂, (performAll (ds ++ es)).run c = .ok () c₂ ∧ c₂.state.screen = c.state.screen := by
  obtain ⟨c', hrun, hmemory, hpixel⟩ := run_performAll hds c
  refine ⟨c', hrun, hmemory, fun px py => ?_, fun es hes hperm => ⟨?_, ?_⟩⟩
  · rw [hpixel, List.countP_map]
    exact Screen.toNat_xor_odd (hpixels px py) _
  · obtain ⟨c₁, hrun₁, -, hpixel₁⟩ := run_performAll hes c
    refine ⟨c₁, hrun₁, Screen.ext_pixel fun px py => ?_⟩
    rw [hpixel₁, hpixel, hperm.countP_eq]
  · have hboth : ∀ d ∈ ds ++ es, d.Feasible := fun d hd =>
      (List.mem_append.1 hd).elim (hds d) (hes d)
    obtain ⟨c₂, hrun₂, -, hpixel₂⟩ := run_performAll hboth c
    refine ⟨c₂, hrun₂, Screen.ext_pixel fun px py => ?_⟩
    -- every sprite is there twice
    rw [hpixel₂, List.map_append, List.countP_append, hperm.countP_eq, ← Nat.two_mul,
      Nat.mul_mod_right]
    simp [Bool.toUInt8]

/-- The digits 0 and 8 in one place, over the bottom right corner: they differ in two pixels, one on
either side of the edge. Drawn again with other registers, 8 before 0, they leave nothing. -/
theorem drawings_superpose_corner :
    let c : Core := { source := .cycling #[] }
    let zero : Placement := ⟨0x050, 5, 62, 30⟩
    let eight : Placement := ⟨0x078, 5, 62, 30⟩
    let ds : List Drawing := [⟨zero, 15, 3, 0x200⟩, ⟨eight, 1, 15, 0xFFE⟩]
    let es : List Drawing := [⟨eight, 0, 1, 0x201⟩, ⟨zero, 2, 15, 0x000⟩]
    ∃ c' c₂, (performAll ds).run c = .ok () c' ∧ (c'.state.screen.pixel 62 30).toNat = 0 ∧
      (c'.state.screen.pixel 63 0).toNat = 1 ∧ (c'.state.screen.pixel 0 0).toNat = 1 ∧
      (performAll (ds ++ es)).run c = .ok () c₂ ∧ c₂.state.screen = .blank := by
  intro c zero eight ds es
  have hblank : ∀ px py, c.state.screen.pixel px py = 0 ∨ c.state.screen.pixel px py = 1 :=
    fun px py => .inl (Screen.pixel_blank px py)
  have hds : ∀ d ∈ ds, d.Feasible := by
    intro d hd
    rcases List.mem_pair.1 hd with rfl | rfl <;> exact ⟨by decide, by decide, by decide⟩
  have hes : ∀ e ∈ es, e.Feasible := by
    intro e he
    rcases List.mem_pair.1 he with rfl | rfl <;> exact ⟨by decide, by decide, by decide⟩
  obtain ⟨c', hrun, -, hpixel, hagain⟩ := drawings_superpose c hblank ds hds
  obtain ⟨-, c₂, hrun₂, hscreen⟩ := hagain es hes (List.Perm.swap zero eight [])
  refine ⟨c', c₂, hrun, ?_, ?_, ?_, hrun₂, hscreen⟩ <;> rw [hpixel] <;> decide +kernel

end ChipEight
