import ChipEight.Proofs.Coherence
import ChipEight.Proofs.Redraw
import ChipEight.Proofs.Superposition

/-!
# Glyphs stay drawable

The font lies in memory like everything else, and a program may write over it. Nothing but a program
can: what is loaded goes behind it. So unless a program has written there, every digit can be drawn,
after any history and at any place of the screen.

* `getElem?_memory_call`, `getElem?_memory_calls`: below the programs, memory stays as it is unless
  an instruction writes to it.
* `Memory.span_glyph`: the rows of a digit, where memory holds the font.
* `Instruction.run_drawGlyph`: the two instructions that draw a digit.
* `glyphs_stay_drawable`: what they do after a history that spares the font.
-/

namespace ChipEight

namespace Memory

/-- The font is where it belongs. -/
def HoldsFont (memory : Memory) : Prop := ∀ k < 80, memory[0x050 + k]? = Font.sheet[k]?

theorem holdsFont_fresh : fresh.HoldsFont := by
  have hsheet : Font.sheet.length = 80 := rfl
  intro k hk
  have ha : 0x050 + k < size := Nat.lt_trans (Nat.add_lt_add_left hk _) (by decide)
  rw [Vector.getElem?_eq_getElem ha, getElem_fresh, initial, if_pos ⟨by omega, by omega⟩,
    Nat.add_sub_cancel_left, List.getD_eq_getElem?_getD, List.getElem?_eq_getElem (by omega),
    Option.getD_some]

/-- **The rows of a digit** lie five by five from the start of the font on. -/
theorem span_glyph {memory : Memory} (h : memory.HoldsFont) (d : Fin 16) :
    memory.span (0x050 + 5 * d.val) 5 = Font.glyph d := by
  refine List.ext_getElem? fun k => ?_
  rw [getElem?_span, Font.glyph, Font.glyphHeight, List.getElem?_take, List.getElem?_drop]
  split
  · rw [Nat.add_assoc, h _ (by omega)]
  · rfl

end Memory

/-! ## Histories that spare the font -/

namespace Machine

variable {m : Machine} {a : Nat}

/-- **Below the programs, memory stays as it is in a call**, unless an instruction writes there. -/
theorem getElem?_memory_call {c : Call} (ha : a < 0x200)
    (h : ∀ i, m.completes? c = some i → ¬i.Writes m.state a) :
    (m.call c).1.state.memory[a]? = m.state.memory[a]? := by
  cases c with
  | step =>
    change m.step.1.state.memory[a]? = _
    rw [step_eq_elim]
    cases hi : m.executes? with
    | some i => exact Instruction.getElem?_memoryAfter (h i hi)
    | none => rfl
  | load program =>
    change (m.load program).1.state.memory[a]? = _
    by_cases hfits : program.length ≤ 3584
    · rw [getElem?_load hfits, if_neg (by omega)]
    · rw [load_of_large (Nat.not_le.1 hfits)]
  | _ => rfl

/-- So it does in a history. -/
theorem getElem?_memory_calls {cs : List Call} (ha : a < 0x200)
    (h : ∀ e ∈ m.completed cs, ¬e.2.Writes e.1 a) :
    (m.calls cs).1.state.memory[a]? = m.state.memory[a]? :=
  calls_keep (·.state.memory[a]?) (fun s i => ¬i.Writes s a)
    (fun _ _ hc => getElem?_memory_call ha hc) h

/-- No instruction of the history writes over the font. -/
def SparesFont (m : Machine) (cs : List Call) : Prop :=
  ∀ e ∈ m.completed cs, ∀ a, 0x050 ≤ a → a < 0x0A0 → ¬e.2.Writes e.1 a

theorem holdsFont_calls {cs : List Call} (hfont : m.state.memory.HoldsFont) (h : m.SparesFont cs) :
    (m.calls cs).1.state.memory.HoldsFont := by
  intro k hk
  rw [getElem?_memory_calls (by omega) fun e he => h e he _ (by omega) (by omega)]
  exact hfont k hk

end Machine

/-! ## Drawing a digit -/

namespace Instruction

/-- Draws the digit in Vx at (Va, Vb): I goes to the glyph, and then its five rows are drawn. -/
def drawGlyph (x a b : Register) : Exec Unit := do
  (loadGlyph x).execute
  (draw a b ⟨5, by decide⟩).execute

variable {c : Core} {x a b : Register} {d : Fin 16}

theorem toNat_iAfter_loadGlyph {s : State} (hd : (s.v.get x).toNat = d.val) :
    ((loadGlyph x).iAfter s).toNat = 0x050 + 5 * d.val := by
  have hstart : Memory.fontStart.toNat = 0x050 := rfl
  have hheight : Font.glyphHeight = 5 := rfl
  rw [iAfter, UInt16.toNat_add, UInt16.toNat_ofNat', hd, hstart, hheight]
  omega

/-- **A digit is drawn** if memory holds the font: the sprite that is drawn is its glyph. -/
theorem run_drawGlyph (hfont : c.state.memory.HoldsFont) (hd : (c.state.v.get x).toNat = d.val) :
    let drawn := c.state.screen.drawSprite (c.state.v.get a).toNat (c.state.v.get b).toNat
      (Font.glyph d)
    ∃ c', (drawGlyph x a b).run c = .ok () c' ∧ c'.state.screen = drawn.1 ∧
      c'.state.v.get flagRegister = drawn.2.toUInt8 := by
  intro drawn
  have hi := toNat_iAfter_loadGlyph hd
  let c₁ := (loadGlyph x).coreAfter c
  have hfits : c₁.state.i.toNat + 5 ≤ 4096 := by
    change ((loadGlyph x).iAfter c.state).toNat + 5 ≤ 4096
    omega
  have hruns : (drawGlyph x a b).run c = .ok () ((draw a b 5).coreAfter c₁) :=
    run_pair rfl (if_pos hfits)
  -- loading the glyph moves I, and touches none of what is drawn with it or on
  have hdrawn : c₁.state.drawn a b 5 = drawn := by
    change c.state.screen.drawSprite _ _
      (c.state.memory.span ((loadGlyph x).iAfter c.state).toNat 5) = drawn
    rw [hi, Memory.span_glyph hfont]
    rfl
  refine ⟨_, hruns, congrArg Prod.fst hdrawn, ?_⟩
  change (c₁.state.setV flagRegister (c₁.state.drawn a b 5).2.toUInt8).v[flagRegister.val] = _
  rw [State.getElem_setV, if_pos rfl, hdrawn]

/-- The digit `d`, which Vx holds, can be drawn at (Va, Vb), and `c'` is what comes of it. -/
structure DrawsGlyph (c : Core) (x a b : Register) (d : Fin 16) (c' : Core) : Prop where
  succeeds : (drawGlyph x a b).run c = .ok () c'
  /-- The pixels that the glyph covers there, round the edges, are flipped, and no others. -/
  pixels : ∀ px py, c'.state.screen.pixel px py = c.state.screen.pixel px py ^^^
    if Screen.covered (c.state.v.get a).toNat (c.state.v.get b).toNat (Font.glyph d) px py then 1
    else 0
  /-- A blank screen then shows the digit, and nothing else. -/
  shown : c.state.screen = .blank → ∀ px py, c'.state.screen.pixel px py =
    if Screen.covered (c.state.v.get a).toNat (c.state.v.get b).toNat (Font.glyph d) px py then 1
    else 0
  /-- There is nothing to hit on it. -/
  missed : c.state.screen = .blank → c'.state.v.get flagRegister = 0

theorem exists_drawsGlyph (hfont : c.state.memory.HoldsFont)
    (hd : (c.state.v.get x).toNat = d.val) : ∃ c', DrawsGlyph c x a b d c' := by
  have hlen : (Font.glyph d).length ≤ Screen.height := by
    rw [Font.length_glyph]
    decide
  obtain ⟨c', hrun, hscreen, hflag⟩ := run_drawGlyph (a := a) (b := b) hfont hd
  have hpixel : ∀ px py, c'.state.screen.pixel px py = c.state.screen.pixel px py ^^^
      (Screen.covered (c.state.v.get a).toNat (c.state.v.get b).toNat (Font.glyph d) px
        py).toUInt8 :=
    fun px py => by rw [hscreen, Screen.pixel_drawSprite _ _ _ hlen]
  refine ⟨c', hrun, hpixel, fun hblank px py => ?_, fun hblank => ?_⟩
  · rw [hpixel, hblank, Screen.pixel_blank, UInt8.zero_xor]
    rfl
  · -- no pixel of a blank screen can go out
    have hmiss : ¬(c.state.screen.drawSprite (c.state.v.get a).toNat (c.state.v.get b).toNat
        (Font.glyph d)).2 = true := by
      rw [Screen.hit_drawSprite_iff _ _ _ hlen, hblank]
      rintro ⟨px, py, hlit, -⟩
      rw [Screen.pixel_blank] at hlit
      exact absurd hlit (by decide)
    rw [hflag, Bool.eq_false_iff.2 hmiss]
    rfl

end Instruction

open Instruction

/-- **Glyphs stay drawable.** After any history that spares the font, whatever programs were loaded,
every digit can be drawn at any place. -/
theorem glyphs_stay_drawable {source : Random.Source} {cs : List Call}
    (hspared : (Machine.fresh source).SparesFont cs) (x a b : Register) (d : Fin 16)
    (hd : (((Machine.fresh source).calls cs).1.state.v.get x).toNat = d.val) :
    ∃ c', DrawsGlyph ((Machine.fresh source).calls cs).1.toCore x a b d c' :=
  have hfresh : (Machine.fresh source).state.memory.HoldsFont := Memory.holdsFont_fresh
  exists_drawsGlyph (Machine.holdsFont_calls hfresh hspared) hd

/-- A program writes right in front of the font and right behind it, and another one is loaded over
it. Then the digit B is drawn over the bottom right corner, where it goes on at the left edge and at
the top. -/
theorem glyphs_stay_drawable_corner :
    let program : List UInt8 :=
      [0x6A, 0x0B, 0x6B, 0xFE, 0xA0, 0x4D, 0xFA, 0x33, 0xA0, 0xA0, 0xFB, 0x55]
    let cs : List Call :=
      [.load program, .step, .step, .step, .step, .step, .step, .load [0x00, 0xE0]]
    let m := ((Machine.fresh (.cycling #[])).calls cs).1
    m.state.memory[0x04F]? = some 1 ∧ m.state.memory[0x0AB]? = some 0xFE ∧
      ∃ c', (drawGlyph 10 11 11).run m.toCore = .ok () c' ∧ c'.state.screen.pixel 62 30 = 1 ∧
        c'.state.screen.pixel 1 30 = 0 ∧ c'.state.screen.pixel 1 31 = 1 ∧
        c'.state.screen.pixel 0 0 = 1 ∧ c'.state.v.get flagRegister = 0 := by
  intro program cs m
  have hrun : m.state.memory[0x04F]? = some 1 ∧ m.state.memory[0x0AB]? = some 0xFE ∧
      m.state.v.get 10 = 11 ∧ m.state.v.get 11 = 0xFE ∧
      ∀ e ∈ (Machine.fresh (.cycling #[])).completed cs, e.2.draws = false ∧
        (e.1.i.toNat + (e.2.written e.1).length ≤ 0x050 ∨ 0x0A0 ≤ e.1.i.toNat) := by
    decide +kernel
  obtain ⟨hfront, hbehind, hdigit, hplace, hcompleted⟩ := hrun
  have hspared : (Machine.fresh (.cycling #[])).SparesFont cs := by
    rintro e he a hle hlt ⟨hfrom, hto⟩
    have := (hcompleted e he).2
    omega
  have hblank := Machine.screen_calls fun e he => (hcompleted e he).1
  have hdraws := glyphs_stay_drawable hspared 10 11 11 11
  rw [show ((Machine.fresh (.cycling #[])).calls cs).1 = m from rfl] at hblank hdraws
  -- from here on the run must not be computed again
  clear_value m
  obtain ⟨c', hdraws⟩ := hdraws (congrArg UInt8.toNat hdigit)
  have hpixel := hdraws.shown hblank
  rw [hplace] at hpixel
  refine ⟨hfront, hbehind, c', hdraws.succeeds, ?_, ?_, ?_, ?_, hdraws.missed hblank⟩ <;>
    rw [hpixel] <;> decide +kernel

end ChipEight
