import ChipEight.Instruction.Mnemonic
import ChipEight.Proofs.HexText

/-!
# Lines of assembly

The mnemonic of an instruction is a line: a name, and operands with commas between them. Read like
that, it says all there is to know. Names and operands can be told from their characters, no operand
has a comma in it and no name a blank, and a name with its operands stands for one instruction.

* `Operand.read?_chars`, `Name.read?_text`: operands and names are read back.
* `Line.chars_injective`: so a line can be taken apart again.
* `Line.instruction?_line`: what the lines of instructions stand for.
* `Instruction.mnemonic_injective`: no two instructions have the same mnemonic.
* `Instruction.length_mnemonic_le`: how long mnemonics are.
-/

namespace ChipEight

/-- What is always read back is determined by what is written. -/
theorem injective_of_read? {α β : Type} {write : α → β} {read? : β → Option α}
    (h : ∀ a, read? (write a) = some a) : Function.Injective write := by
  intro a b hab
  have hread := h a
  rw [hab, h b] at hread
  exact (Option.some.inj hread).symm

namespace Assembly

/-- What can stand behind a name. -/
inductive Operand
  | register (x : Register)
  | byte (b : UInt8)
  | address (a : Address)
  /-- The height of a sprite. -/
  | height (rows : Fin 16)
  | index
  /-- The bytes that I points at. -/
  | atIndex
  | delayTimer
  | soundTimer
  | key
  | glyph
  | digits
  deriving DecidableEq

/-- The names of instructions. One name can stand before several kinds of operands, each with a
meaning of its own. -/
inductive Name
  | cls | ret | jp | call | se | sne | skp | sknp | ld | add | or | and | xor | sub | subn | shr
  | shl | rnd | drw
  deriving DecidableEq

/-- A name and its operands. -/
structure Line where
  name : Name
  operands : List Operand := []

/-! ## Operands -/

namespace Operand

/-- An operand as it is written. -/
def chars : Operand → List Char
  | register x => 'V' :: Hex.digits 1 x.val
  | byte b => '0' :: 'x' :: Hex.digits 2 b.toNat
  | address a => '0' :: 'x' :: Hex.digits 3 a.val
  | height rows => (toString rows.val).toList
  | index => ['I']
  | atIndex => ['[', 'I', ']']
  | delayTimer => ['D', 'T']
  | soundTimer => ['S', 'T']
  | key => ['K']
  | glyph => ['F']
  | digits => ['B']

/-- The operand that is written like this. -/
def read? : List Char → Option Operand
  | ['I'] => some index
  | ['[', 'I', ']'] => some atIndex
  | ['D', 'T'] => some delayTimer
  | ['S', 'T'] => some soundTimer
  | ['K'] => some key
  | ['F'] => some glyph
  | ['B'] => some digits
  | 'V' :: cs => (Hex.number? cs).map fun n => register (Hex.nibble n)
  | '0' :: 'x' :: cs => (Hex.number? cs).map fun n =>
    if cs.length = 2 then byte (.ofNat n) else address (Opcode.address (.ofNat n))
  | cs => ((List.finRange 16).find? fun rows => (toString rows.val).toList = cs).map height

/-- **An operand is read back.** -/
theorem read?_chars (o : Operand) : read? o.chars = some o := by
  cases o with
  | register x =>
    have hx : x.val < 16 ^ 1 := x.isLt
    have hnibble : Hex.nibble x.val = x := Fin.ext (Nat.mod_eq_of_lt x.isLt)
    simp [chars, read?, Hex.number?_digits hx, hnibble]
  | byte b =>
    have hb : b.toNat < 16 ^ 2 := b.toNat_lt
    simp [chars, read?, Hex.number?_digits hb]
  | address a =>
    have ha : a.val < 16 ^ 3 := a.isLt
    have haddress : Opcode.address (.ofNat a.val) = a := by
      apply Fin.ext
      simp only [Opcode.address, Fin.val_ofNat, UInt16.toNat_ofNat']
      omega
    simp [chars, read?, Hex.number?_digits ha, haddress]
  | height rows => revert rows; decide
  | _ => rfl

theorem chars_injective : Function.Injective chars := injective_of_read? read?_chars

/-- No operand has the comma that ends it. -/
theorem comma_not_mem_chars (o : Operand) : ',' ∉ o.chars := by
  cases o with
  | register x => simpa [chars] using Hex.not_mem_digits (by decide)
  | byte b => simpa [chars] using Hex.not_mem_digits (by decide)
  | address a => simpa [chars] using Hex.not_mem_digits (by decide)
  | height rows => revert rows; decide
  | _ => decide

end Operand

/-! ## Names -/

namespace Name

/-- A name as it is written. -/
def text : Name → String
  | cls => "CLS"
  | ret => "RET"
  | jp => "JP"
  | call => "CALL"
  | se => "SE"
  | sne => "SNE"
  | skp => "SKP"
  | sknp => "SKNP"
  | ld => "LD"
  | add => "ADD"
  | or => "OR"
  | and => "AND"
  | xor => "XOR"
  | sub => "SUB"
  | subn => "SUBN"
  | shr => "SHR"
  | shl => "SHL"
  | rnd => "RND"
  | drw => "DRW"

/-- All names. -/
def all : List Name :=
  [cls, ret, jp, call, se, sne, skp, sknp, ld, add, or, and, xor, sub, subn, shr, shl, rnd, drw]

/-- The name that is written like this. -/
def read? (s : String) : Option Name := all.find? fun n => n.text = s

/-- **A name is read back.** -/
theorem read?_text (n : Name) : read? n.text = some n := by
  cases n <;> decide

theorem text_injective : Function.Injective text := injective_of_read? read?_text

/-- No name has the blank that ends it. -/
theorem blank_not_mem_text (n : Name) : ' ' ∉ n.text.toList := by
  cases n <;> decide

end Name

/-! ## Lines -/

/-- Two texts that are the same, each cut where the mark comes for the first time, have the same
parts. -/
theorem cut_inj {mark : Char} {front front' back back' : List Char}
    (hfront : mark ∉ front) (hfront' : mark ∉ front')
    (hback : ∀ c ∈ back.head?, c = mark) (hback' : ∀ c ∈ back'.head?, c = mark)
    (h : front ++ back = front' ++ back') : front = front' ∧ back = back' := by
  have take_front : ∀ {cs ds : List Char}, mark ∉ cs → (∀ c ∈ ds.head?, c = mark) →
      (cs ++ ds).takeWhile (· ≠ mark) = cs := by
    intro cs ds hcs hds
    have hends : ds.takeWhile (· ≠ mark) = [] := by cases ds <;> simp_all
    rw [List.takeWhile_append_of_pos, hends, List.append_nil]
    intro c hc
    have hne : c ≠ mark := by
      rintro rfl
      exact hcs hc
    simpa using hne
  have heq : front = front' := by
    rw [← take_front hfront hback, h, take_front hfront' hback']
  subst heq
  exact ⟨rfl, List.append_cancel_left h⟩

namespace Operand

/-- Operands behind the first one. -/
def more (os : List Operand) : List Char := os.flatMap fun o => ',' :: ' ' :: o.chars

/-- All the operands of a line. -/
def list : List Operand → List Char
  | [] => []
  | o :: os => ' ' :: (o.chars ++ more os)

theorem head?_more (os : List Operand) : ∀ c ∈ (more os).head?, c = ',' := by
  cases os <;> simp [more]

theorem head?_list (os : List Operand) : ∀ c ∈ (list os).head?, c = ' ' := by
  cases os <;> simp [list]

/-- An operand and those behind it are told apart by the comma. -/
theorem chars_append_more_inj {o o' : Operand} {os os' : List Operand}
    (h : o.chars ++ more os = o'.chars ++ more os') : o = o' ∧ more os = more os' := by
  obtain ⟨ho, hos⟩ := cut_inj (comma_not_mem_chars o) (comma_not_mem_chars o') (head?_more os)
    (head?_more os') h
  exact ⟨chars_injective ho, hos⟩

theorem more_injective : Function.Injective more := by
  intro os os' h
  induction os generalizing os' with
  | nil =>
    cases os' with
    | nil => rfl
    | cons => cases h
  | cons o os ih =>
    cases os' with
    | nil => cases h
    | cons o' os' =>
      have hrest : o.chars ++ more os = o'.chars ++ more os' := by simpa [more] using h
      obtain ⟨rfl, hos⟩ := chars_append_more_inj hrest
      rw [ih hos]

theorem list_injective : Function.Injective list := by
  intro os os' h
  cases os with
  | nil =>
    cases os' with
    | nil => rfl
    | cons => cases h
  | cons o os =>
    cases os' with
    | nil => cases h
    | cons o' os' =>
      have hrest : o.chars ++ more os = o'.chars ++ more os' := by simpa [list] using h
      obtain ⟨rfl, hos⟩ := chars_append_more_inj hrest
      rw [more_injective hos]

end Operand

namespace Line

/-- A line as it is written. -/
def chars (line : Line) : List Char := line.name.text.toList ++ Operand.list line.operands

/-- **A line is determined by its characters.** -/
theorem chars_injective : Function.Injective chars := by
  intro line line' h
  obtain ⟨hname, hoperands⟩ := cut_inj (Name.blank_not_mem_text _) (Name.blank_not_mem_text _)
    (Operand.head?_list _) (Operand.head?_list _) h
  have hn := Name.text_injective (String.toList_inj.1 hname)
  have ho := Operand.list_injective hoperands
  cases line
  cases line'
  subst hn ho
  rfl

/-- The instruction that a line stands for. -/
def instruction? : Line → Option Instruction
  | ⟨.cls, []⟩ => some .clear
  | ⟨.ret, []⟩ => some .ret
  | ⟨.jp, [.address a]⟩ => some (.jump a)
  | ⟨.call, [.address a]⟩ => some (.call a)
  | ⟨.se, [.register x, .byte b]⟩ => some (.skip (.equalsByte x b))
  | ⟨.sne, [.register x, .byte b]⟩ => some (.skip (.differsByte x b))
  | ⟨.se, [.register x, .register y]⟩ => some (.skip (.equalsRegister x y))
  | ⟨.sne, [.register x, .register y]⟩ => some (.skip (.differsRegister x y))
  | ⟨.skp, [.register x]⟩ => some (.skip (.keyDown x))
  | ⟨.sknp, [.register x]⟩ => some (.skip (.keyUp x))
  | ⟨.ld, [.register x, .byte b]⟩ => some (.load x b)
  | ⟨.add, [.register x, .byte b]⟩ => some (.addByte x b)
  | ⟨.ld, [.register x, .register y]⟩ => some (.combine .copy x y)
  | ⟨.or, [.register x, .register y]⟩ => some (.combine .or x y)
  | ⟨.and, [.register x, .register y]⟩ => some (.combine .and x y)
  | ⟨.xor, [.register x, .register y]⟩ => some (.combine .xor x y)
  | ⟨.add, [.register x, .register y]⟩ => some (.arith (.add x y))
  | ⟨.sub, [.register x, .register y]⟩ => some (.arith (.sub x y))
  | ⟨.subn, [.register x, .register y]⟩ => some (.arith (.subFrom x y))
  | ⟨.shr, [.register x]⟩ => some (.arith (.shiftRight x))
  | ⟨.shl, [.register x]⟩ => some (.arith (.shiftLeft x))
  | ⟨.ld, [.index, .address a]⟩ => some (.loadIndex a)
  | ⟨.jp, [.register ⟨0, _⟩, .address a]⟩ => some (.jumpOffset a)
  | ⟨.rnd, [.register x, .byte b]⟩ => some (.random x b)
  | ⟨.drw, [.register x, .register y, .height rows]⟩ => some (.draw x y rows)
  | ⟨.ld, [.register x, .delayTimer]⟩ => some (.readDelay x)
  | ⟨.ld, [.register x, .key]⟩ => some (.waitKey x)
  | ⟨.ld, [.delayTimer, .register x]⟩ => some (.setDelay x)
  | ⟨.ld, [.soundTimer, .register x]⟩ => some (.setSound x)
  | ⟨.add, [.index, .register x]⟩ => some (.addIndex x)
  | ⟨.ld, [.glyph, .register x]⟩ => some (.loadGlyph x)
  | ⟨.ld, [.digits, .register x]⟩ => some (.bcd x)
  | ⟨.ld, [.atIndex, .register x]⟩ => some (.store x)
  | ⟨.ld, [.register x, .atIndex]⟩ => some (.read x)
  | _ => none

end Line

end Assembly

namespace Instruction

open Assembly

/-- The line of an instruction. -/
def line : Instruction → Line
  | clear => ⟨.cls, []⟩
  | ret => ⟨.ret, []⟩
  | jump a => ⟨.jp, [.address a]⟩
  | call a => ⟨.call, [.address a]⟩
  | skip (.equalsByte x b) => ⟨.se, [.register x, .byte b]⟩
  | skip (.differsByte x b) => ⟨.sne, [.register x, .byte b]⟩
  | skip (.equalsRegister x y) => ⟨.se, [.register x, .register y]⟩
  | skip (.differsRegister x y) => ⟨.sne, [.register x, .register y]⟩
  | skip (.keyDown x) => ⟨.skp, [.register x]⟩
  | skip (.keyUp x) => ⟨.sknp, [.register x]⟩
  | load x b => ⟨.ld, [.register x, .byte b]⟩
  | addByte x b => ⟨.add, [.register x, .byte b]⟩
  | combine .copy x y => ⟨.ld, [.register x, .register y]⟩
  | combine .or x y => ⟨.or, [.register x, .register y]⟩
  | combine .and x y => ⟨.and, [.register x, .register y]⟩
  | combine .xor x y => ⟨.xor, [.register x, .register y]⟩
  | arith (.add x y) => ⟨.add, [.register x, .register y]⟩
  | arith (.sub x y) => ⟨.sub, [.register x, .register y]⟩
  | arith (.subFrom x y) => ⟨.subn, [.register x, .register y]⟩
  | arith (.shiftRight x) => ⟨.shr, [.register x]⟩
  | arith (.shiftLeft x) => ⟨.shl, [.register x]⟩
  | loadIndex a => ⟨.ld, [.index, .address a]⟩
  | jumpOffset a => ⟨.jp, [.register (Hex.nibble 0), .address a]⟩
  | random x mask => ⟨.rnd, [.register x, .byte mask]⟩
  | draw x y rows => ⟨.drw, [.register x, .register y, .height rows]⟩
  | readDelay x => ⟨.ld, [.register x, .delayTimer]⟩
  | waitKey x => ⟨.ld, [.register x, .key]⟩
  | setDelay x => ⟨.ld, [.delayTimer, .register x]⟩
  | setSound x => ⟨.ld, [.soundTimer, .register x]⟩
  | addIndex x => ⟨.add, [.index, .register x]⟩
  | loadGlyph x => ⟨.ld, [.glyph, .register x]⟩
  | bcd x => ⟨.ld, [.digits, .register x]⟩
  | store x => ⟨.ld, [.atIndex, .register x]⟩
  | read x => ⟨.ld, [.register x, .atIndex]⟩

/-- The line of an instruction stands for it. -/
theorem instruction?_line (i : Instruction) : i.line.instruction? = some i := by
  cases i with
  | skip test => cases test <;> rfl
  | combine op x y => cases op <;> rfl
  | arith op => cases op <;> rfl
  | _ => rfl

/-- A mnemonic is the line of its instruction, written out. -/
theorem toList_mnemonic (i : Instruction) : i.mnemonic.toList = i.line.chars := by
  -- one instruction has a register in its line that is not an operand of it
  have hbase : Hex.digits 1 (Hex.nibble 0).val = ['0'] := by decide
  fun_cases line i <;>
    simp [mnemonic, Test.mnemonic, Combine.mnemonic, Arith.mnemonic, Register.name, byteText,
      addressText, Hex.fixed, Line.chars, Name.text, Operand.list, Operand.more, Operand.chars,
      hbase]

theorem length_mnemonic_le (i : Instruction) : i.mnemonic.length ≤ 16 := by
  rw [← String.length_toList, toList_mnemonic]
  fun_cases line i with
  | case25 x y rows =>
    have hrows : (Operand.height rows).chars.length ≤ 2 := by revert rows; decide
    simp [Line.chars, Name.text, Operand.list, Operand.more, Operand.chars] at hrows ⊢
    omega
  | _ => simp [Line.chars, Name.text, Operand.list, Operand.more, Operand.chars]

/-- **No two instructions have the same mnemonic.** -/
theorem mnemonic_injective : Function.Injective mnemonic := by
  intro i j h
  have hchars : i.line.chars = j.line.chars := by
    rw [← toList_mnemonic, ← toList_mnemonic, h]
  exact injective_of_read? instruction?_line (Line.chars_injective hchars)

end Instruction

end ChipEight
