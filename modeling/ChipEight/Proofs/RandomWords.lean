import ChipEight.Proofs.Cycle

/-!
# Random words are taken one by one, in order

A machine takes a word of its random source in every cycle that carries out a random instruction,
and at no other time. So what a program gets can be told from the stream and from how many random
instructions came before, however much is executed, loaded, shown or refused in between.

* `source_call`: what a call does to the random source.
* `source_calls`: after a history, the words taken are as many as the random instructions.
* `takesInOrder_calls`: so the next random instruction gets the next word, whatever the source.
* `random_words_in_order`: the same for the stream of a seed, from its first word on.
-/

namespace ChipEight

/-- Whether an instruction takes a random word. -/
def Instruction.takesWord : Instruction → Bool
  | random .. => true
  | _ => false

theorem Instruction.sourceAfter_eq (source : Random.Source) (i : Instruction) :
    i.sourceAfter source = { source with taken := source.taken + i.takesWord.toNat } := by
  cases i <;> rfl

theorem Instruction.takesWord_eq_false {i : Instruction} (h : ∀ x mask, i ≠ .random x mask) :
    i.takesWord = false := by
  cases i with
  | random x mask => exact absurd rfl (h x mask)
  | _ => rfl

namespace Machine

/-- How many random instructions a history carries out. -/
def randoms (m : Machine) (cs : List Call) : Nat := (m.completed cs).countP fun e => e.2.takesWord

/-- **A call takes a word exactly if it carries out a random instruction.** -/
theorem source_call (m : Machine) (c : Call) :
    (m.call c).1.source = { m.source with
      taken := m.source.taken + ((m.completes? c).any Instruction.takesWord).toNat } := by
  rcases call_cases m c with ⟨i, hc, -, hm⟩ | ⟨hc, memory, keys, redraw, hm⟩
  · have hafter : (m.after i).source = i.sourceAfter m.source := rfl
    rw [hc, hm, hafter, Instruction.sourceAfter_eq, Option.any_some]
  · have hsame := congrArg Core.source hm
    rw [hc]
    exact hsame

theorem randoms_cons (m : Machine) (c : Call) (cs : List Call) :
    m.randoms (c :: cs) =
      ((m.completes? c).any Instruction.takesWord).toNat + (m.call c).1.randoms cs := by
  unfold randoms
  rw [completed_cons, List.countP_append]
  cases m.completes? c with
  | none => rw [Option.map_none, Option.toList_none, List.countP_nil]; rfl
  | some i => cases h : i.takesWord <;> simp [h]

/-- **As many words are taken as random instructions are carried out**, and the stream stays as it
is. -/
theorem source_calls (m : Machine) (cs : List Call) :
    (m.calls cs).1.source = { m.source with taken := m.source.taken + m.randoms cs } := by
  induction cs generalizing m with
  | nil => rfl
  | cons c cs ih =>
    rw [calls_cons, ih, source_call, randoms_cons, Nat.add_assoc]

/-- The machine takes the words of a stream in order, and has come to position `j`. -/
structure TakesInOrder (m : Machine) (word : Nat → UInt32) (j : Nat) : Prop where
  source : m.source = { word, taken := j }
  /-- The next random instruction gets the low byte of word `j`, under its mask. -/
  rolled : ∀ x mask, m.executes? = some (.random x mask) →
    m.step.1.state.v.get x = UInt8.ofNat ((word j).toNat % 256) &&& mask
  /-- It takes that word and no other, even if the mask lets nothing through. -/
  taken : ∀ x mask, m.executes? = some (.random x mask) →
    m.step.1.source = { word, taken := j + 1 }
  /-- No other call takes a word. -/
  kept : ∀ c, (∀ x mask, m.completes? c ≠ some (.random x mask)) → (m.call c).1.source = m.source

/-- **Random words come in order, whatever the source and the history.** A machine goes on with the
words of its source where it stands, one for each random instruction that it carries out. -/
theorem takesInOrder_calls (m : Machine) (cs : List Call) :
    TakesInOrder (m.calls cs).1 m.source.word (m.source.taken + m.randoms cs) := by
  have hsource : (m.calls cs).1.source =
      { word := m.source.word, taken := m.source.taken + m.randoms cs } :=
    source_calls m cs
  generalize (m.calls cs).1 = m' at hsource ⊢
  refine ⟨hsource, ?_, ?_, ?_⟩
  · intro x mask hi
    have hbyte : m'.step.1.state.v.get x =
        (m'.source.word m'.source.taken).toUInt8 &&& mask := by
      rw [step_of_executes hi]
      exact (State.getElem_setV m'.state x x _).trans (if_pos rfl)
    have hlow : ∀ w : UInt32, w.toUInt8 = UInt8.ofNat (w.toNat % 256) := by
      intro w
      rw [← UInt8.toNat_inj, UInt32.toNat_toUInt8, UInt8.toNat_ofNat']
      omega
    rw [hbyte, hlow, hsource]
  · intro x mask hi
    have hcall := source_call m' .step
    rw [show m'.completes? .step = some (.random x mask) from hi, hsource] at hcall
    exact hcall
  · intro c hother
    have hnone : (m'.completes? c).any Instruction.takesWord = false := by
      cases hc : m'.completes? c with
      | none => rfl
      | some i =>
        refine Instruction.takesWord_eq_false fun x mask => ?_
        rintro rfl
        exact hother x mask hc
    rw [source_call, hnone]
    rfl

/-- **A seed gives its words in order, whatever the history.** A machine with a seed has taken as
many words of its stream as it has carried out random instructions, and the next one gets the next
word. -/
theorem random_words_in_order (seed : UInt64) (cs : List Call) :
    TakesInOrder ((seeded seed).calls cs).1 (Random.Source.seeded seed).word
      ((seeded seed).randoms cs) := by
  have hstart : (seeded seed).source.taken = 0 := rfl
  have hcalls := takesInOrder_calls (seeded seed) cs
  rw [hstart, Nat.zero_add] at hcalls
  exact hcalls

/-- A random byte, and another one that the mask drops. The low byte of the third word is 123, and
of that the third instruction lets the low digit through, which is 11. -/
theorem random_words_in_order_masked :
    let program : List UInt8 := [0xC0, 0xFF, 0xC1, 0x00, 0xC2, 0x0F]
    let cs : List Call := [.load program, .step, .takeRedraw, .step, .setKey 3 true]
    let m := ((seeded 0).calls cs).1
    m.source.taken = 2 ∧ m.step.1.state.v.get 2 = 11 := by
  intro program cs m
  have hrun : (seeded 0).randoms cs = 2 ∧ m.executes? = some (.random 2 0x0F) := by
    decide +kernel
  have hbyte : UInt8.ofNat (((Random.Source.seeded 0).word 2).toNat % 256) &&& 0x0F = 11 := by
    decide +kernel
  have hin : TakesInOrder m _ _ := random_words_in_order 0 cs
  -- from here on the run must not be computed again
  clear_value m
  obtain ⟨htwo, hrandom⟩ := hrun
  rw [htwo] at hin
  refine ⟨by rw [hin.source], ?_⟩
  rw [hin.rolled 2 0x0F hrandom, hbyte]

end Machine

end ChipEight
