import ChipEight.Keypad
import Mathlib.Tactic.Common

/-!
# Keys by their digits

A string of hexadecimal digits stands for a set of keys. It is read from left to right, and given up
at the first character that is no digit.

* `Hex.value?_eq_some_iff`: which characters are digits, and of which value.
* `getElem_pressDigits`: the keys that digits press.
* `pressDigits_eq_error_iff`: the character that is reported is the first that is no digit.
* `pressDigits_eq_map`: what is pressed already has no part in the reading of digits.
* `digits_read_exactly`: strings of digits, and one behind the other.
-/

namespace ChipEight

namespace Hex

/-- The digits in the order of their values, in upper case. -/
def upperDigits : List Char :=
  ['0', '1', '2', '3', '4', '5', '6', '7', '8', '9', 'A', 'B', 'C', 'D', 'E', 'F']

/-- The same in lower case. -/
def lowerDigits : List Char :=
  ['0', '1', '2', '3', '4', '5', '6', '7', '8', '9', 'a', 'b', 'c', 'd', 'e', 'f']

/-- The character is the digit of value `d`, in one case or the other. -/
def Denotes (c : Char) (d : Fin 16) : Prop :=
  upperDigits[d.val]? = some c ∨ lowerDigits[d.val]? = some c

/-- **The value of a digit** is its place among the digits. -/
theorem value?_eq_some_iff {c : Char} {d : Fin 16} : value? c = some d ↔ Denotes c d := by
  constructor
  · intro h
    -- each of the three ranges of characters is a part of one of the two rows
    have hnumeral : ∀ n < 58, 48 ≤ n →
        upperDigits[(nibble (n - 48)).val]? = some (Char.ofNat n) := by decide
    have hupper : ∀ n < 71, 65 ≤ n →
        upperDigits[(nibble (n - 55)).val]? = some (Char.ofNat n) := by decide
    have hlower : ∀ n < 103, 97 ≤ n →
        lowerDigits[(nibble (n - 87)).val]? = some (Char.ofNat n) := by decide
    unfold value? at h
    unfold Denotes
    rw [← Char.ofNat_toNat c]
    split at h
    · next hc =>
      cases h
      exact .inl (hnumeral _ (Nat.lt_succ_of_le hc.2) hc.1)
    split at h
    · next hc =>
      cases h
      exact .inl (hupper _ (Nat.lt_succ_of_le hc.2) hc.1)
    split at h
    · next hc =>
      cases h
      exact .inr (hlower _ (Nat.lt_succ_of_le hc.2) hc.1)
    · cases h
  · have hupper : ∀ d : Fin 16, upperDigits[d.val]?.bind value? = some d := by decide
    have hlower : ∀ d : Fin 16, lowerDigits[d.val]?.bind value? = some d := by decide
    rintro (h | h)
    · simpa [h] using hupper d
    · simpa [h] using hlower d

theorem isSome_value?_iff {c : Char} : (value? c).isSome ↔ ∃ d, Denotes c d := by
  simp only [Option.isSome_iff_exists, value?_eq_some_iff]

theorem value?_eq_none_iff {c : Char} : value? c = none ↔ ∀ d, ¬Denotes c d := by
  simp only [Option.eq_none_iff_forall_ne_some, ne_eq, value?_eq_some_iff]

end Hex

namespace Keypad

/-- The keypad on which the keys of either one are down. -/
def union (a b : Keypad) : Keypad := Vector.zipWith (· || ·) a b

theorem getElem_union (a b : Keypad) (k : Fin 16) : (a.union b)[k] = (a[k] || b[k]) :=
  Vector.getElem_zipWith k.isLt

theorem getElem_press (keys : Keypad) (d k : Fin 16) :
    (keys.set d.val true)[k] = (d == k || keys[k]) := by
  have hset : (keys.set d.val true)[k] = if d.val = k.val then true else keys[k] :=
    Vector.getElem_set d.isLt k.isLt
  rw [hset]
  by_cases h : d = k
  · simp [h]
  · simp [h, Fin.val_inj]

theorem ext_keys {a b : Keypad} (h : ∀ k : Fin 16, a[k] = b[k]) : a = b :=
  Vector.ext fun k hk => h ⟨k, hk⟩

variable {keys pressed : Keypad} {cs : List Char}

/-- **Digits press their keys**, and leave the others as they are. -/
theorem getElem_pressDigits (h : keys.pressDigits cs = .ok pressed) (k : Fin 16) :
    pressed[k] = true ↔ keys[k] = true ∨ ∃ c ∈ cs, Hex.value? c = some k := by
  induction cs generalizing keys with
  | nil =>
    cases h
    simp
  | cons c cs ih =>
    unfold pressDigits at h
    cases hc : Hex.value? c with
    | none =>
      rw [hc] at h
      cases h
    | some d =>
      rw [hc] at h
      simp only [ih h, getElem_press, Bool.or_eq_true, beq_iff_eq, List.mem_cons,
        exists_eq_or_imp, hc, Option.some_inj]
      exact or_assoc.trans or_left_comm

/-- **What is reported is the first character that is no digit**, whatever comes behind it. -/
theorem pressDigits_eq_error_iff {e : InvalidKey} :
    keys.pressDigits cs = .error e ↔ ∃ before after, cs = before ++ e.char :: after ∧
      (∀ c ∈ before, (Hex.value? c).isSome) ∧ Hex.value? e.char = none := by
  induction cs generalizing keys with
  | nil => simp [pressDigits]
  | cons c cs ih =>
    unfold pressDigits
    cases hc : Hex.value? c with
    | none =>
      simp only [Except.error.injEq]
      constructor
      · rintro rfl
        exact ⟨[], cs, rfl, by simp, hc⟩
      · rintro ⟨before, after, hcs, hbefore, -⟩
        rcases List.cons_eq_append_iff.1 hcs with ⟨-, hhead⟩ | ⟨rest, rfl, -⟩
        · cases hhead
          rfl
        · have hdigit := hbefore c List.mem_cons_self
          rw [hc] at hdigit
          cases hdigit
    | some d =>
      simp only [ih]
      constructor
      · rintro ⟨before, after, rfl, hbefore, he⟩
        refine ⟨c :: before, after, rfl, List.forall_mem_cons.2 ⟨?_, hbefore⟩, he⟩
        rw [hc]
        rfl
      · rintro ⟨before, after, hcs, hbefore, he⟩
        rcases List.cons_eq_append_iff.1 hcs with ⟨-, hhead⟩ | ⟨rest, rfl, htail⟩
        · cases hhead
          rw [hc] at he
          cases he
        · exact ⟨rest, after, htail, (List.forall_mem_cons.1 hbefore).2, he⟩

theorem pressDigits_append (keys : Keypad) (cs ds : List Char) :
    keys.pressDigits (cs ++ ds) =
      keys.pressDigits cs >>= fun pressed => pressed.pressDigits ds := by
  induction cs generalizing keys with
  | nil => rfl
  | cons c cs ih =>
    rw [List.cons_append, pressDigits, pressDigits]
    cases Hex.value? c with
    | none => rfl
    | some d => exact ih _

/-- **Keys that are down already have no part in the reading**: they stay down. -/
theorem pressDigits_eq_map (keys : Keypad) (cs : List Char) :
    keys.pressDigits cs = (released.pressDigits cs).map keys.union := by
  cases h : released.pressDigits cs with
  | error e => exact pressDigits_eq_error_iff.2 (pressDigits_eq_error_iff.1 h)
  | ok pressed =>
    obtain ⟨pressed', h'⟩ : ∃ pressed', keys.pressDigits cs = .ok pressed' :=
      pressDigits_eq_ok_iff.2 (pressDigits_eq_ok_iff.1 ⟨pressed, h⟩)
    rw [h']
    refine congrArg Except.ok (ext_keys fun k => ?_)
    have hup : released[k] = false := Vector.getElem_replicate k.isLt
    rw [Bool.eq_iff_iff, getElem_pressDigits h', getElem_union, Bool.or_eq_true,
      getElem_pressDigits h, hup]
    simp

/-- One string of digits behind another: the first fault counts, and otherwise all keys are down. -/
theorem ofDigits_append (s t : String) :
    ofDigits (s ++ t) = do return (← ofDigits s).union (← ofDigits t) := by
  unfold ofDigits
  rw [String.toList_append, pressDigits_append]
  refine congrArg _ (funext fun pressed => ?_)
  rw [pressDigits_eq_map]
  cases released.pressDigits t.toList <;> rfl

/-- How the strings `s` and `t` are read, each for itself and one behind the other. -/
structure ReadsExactly (s t : String) : Prop where
  /-- Strings of digits are accepted, and no others. -/
  accepted : (∃ keys, ofDigits s = .ok keys) ↔ ∀ c ∈ s.toList, ∃ k, Hex.Denotes c k
  /-- Then those keys are down that some digit stands for. -/
  pressed : ∀ keys, ofDigits s = .ok keys →
    ∀ k : Fin 16, keys[k] = true ↔ ∃ c ∈ s.toList, Hex.Denotes c k
  /-- So all that counts of a string are the values of its digits, whatever their order, their case
  and their number. -/
  alike : ∀ a b, ofDigits s = .ok a → ofDigits t = .ok b →
    (a = b ↔ ∀ k, (∃ c ∈ s.toList, Hex.Denotes c k) ↔ ∃ c ∈ t.toList, Hex.Denotes c k)
  /-- Otherwise the first character that is no digit is reported, whatever comes behind it. -/
  refused : ∀ e, ofDigits s = .error e ↔ ∃ before after, s.toList = before ++ e.char :: after ∧
    (∀ c ∈ before, ∃ k, Hex.Denotes c k) ∧ ∀ k, ¬Hex.Denotes e.char k
  /-- This is how it is named. -/
  named : ∀ e : InvalidKey, e.message =
    "'" ++ e.char.toString ++ "' is not a key; keys are hex digits 0-F"
  /-- What is wrong with the first string counts, and then what is wrong with the second. If nothing
  is, the keys of both are down. -/
  composed : ofDigits (s ++ t) = do return (← ofDigits s).union (← ofDigits t)

theorem pressed_iff {s : String} {keys : Keypad} (h : ofDigits s = .ok keys) (k : Fin 16) :
    keys[k] = true ↔ ∃ c ∈ s.toList, Hex.Denotes c k := by
  have hup : released[k] = false := Vector.getElem_replicate k.isLt
  rw [getElem_pressDigits h, hup]
  simp [Hex.value?_eq_some_iff]

/-- **Strings of digits are read exactly**, and so is one behind the other. -/
theorem digits_read_exactly (s t : String) : ReadsExactly s t where
  accepted := by simp only [ofDigits_eq_ok_iff, Hex.isSome_value?_iff]
  pressed _ := pressed_iff
  alike a b ha hb := by
    constructor
    · rintro rfl k
      rw [← pressed_iff ha, ← pressed_iff hb]
    · intro h
      refine ext_keys fun k => ?_
      rw [Bool.eq_iff_iff, pressed_iff ha, pressed_iff hb, h]
  refused e := by
    rw [ofDigits, pressDigits_eq_error_iff]
    simp only [Hex.isSome_value?_iff, Hex.value?_eq_none_iff]
  named _ := rfl
  composed := ofDigits_append s t

/-- Of two characters that are no digits, the first is reported. Full-width ones are none either. -/
example : ofDigits "3F３g" = .error ⟨'３'⟩ := by cbv

end Keypad

end ChipEight
