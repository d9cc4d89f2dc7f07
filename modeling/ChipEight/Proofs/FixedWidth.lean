import ChipEight.Machine.Event
import ChipEight.Proofs.HexText
import Mathlib.Data.List.Basic

/-!
# Texts of fixed width

Where the lengths of the parts are known, a text can be taken apart again.

* `Text.append_inj`, `Text.append_sep_inj`: two parts, the first one of known length.
* `Text.length_bracketed`, `Text.bracketed_inj`: a list of items of one length.
* `Registers.length_text`, `Registers.text_injective`: the list of all registers.
-/

namespace ChipEight

namespace Text

/-- A text can be cut in one place only, if the length of its front is known. -/
theorem append_inj {s s' t t' : String} (hlength : s.length = s'.length)
    (h : s ++ t = s' ++ t') : s = s' ∧ t = t' := by
  have hlists : s.toList ++ t.toList = s'.toList ++ t'.toList := by
    rw [← String.toList_append, ← String.toList_append, h]
  obtain ⟨hs, ht⟩ := List.append_inj hlists (by simpa only [String.length_toList] using hlength)
  exact ⟨String.toList_inj.1 hs, String.toList_inj.1 ht⟩

/-- The same with something fixed behind the front. -/
theorem append_sep_inj {s s' sep t t' : String} (hlength : s.length = s'.length)
    (h : s ++ (sep ++ t) = s' ++ (sep ++ t')) : s = s' ∧ t = t' := by
  obtain ⟨hs, ht⟩ := append_inj hlength h
  exact ⟨hs, (String.append_right_inj sep).1 ht⟩

section Items

variable {w : Nat} {sep : String} {items items' : List String}
  (hitems : ∀ s ∈ items, s.length = w)

include hitems

/-- Items of one length, with something between them. -/
theorem length_intercalate (hne : items ≠ []) :
    (sep.intercalate items).length + sep.length = items.length * (w + sep.length) := by
  induction items with
  | nil => exact absurd rfl hne
  | cons s items ih =>
    have hs : s.length = w := hitems s List.mem_cons_self
    cases items with
    | nil => simp [hs]
    | cons t items =>
      have hrest := ih (fun u hu => hitems u (List.mem_cons_of_mem _ hu)) (List.cons_ne_nil _ _)
      rw [String.intercalate_cons_cons, String.length_append, String.length_append, hs,
        List.length_cons, Nat.succ_mul]
      omega

/-- Items of one length can be taken apart again. -/
theorem intercalate_inj (hitems' : ∀ s ∈ items', s.length = w)
    (hlength : items.length = items'.length)
    (h : sep.intercalate items = sep.intercalate items') : items = items' := by
  induction items generalizing items' with
  | nil => exact (List.length_eq_zero_iff.1 hlength.symm).symm
  | cons s items ih =>
    obtain ⟨s', items', rfl⟩ := List.exists_cons_of_length_eq_add_one hlength.symm
    have hs : s.length = s'.length := by
      rw [hitems s List.mem_cons_self, hitems' s' List.mem_cons_self]
    have hrest := Nat.succ.inj hlength
    cases items with
    | nil =>
      rw [List.length_eq_zero_iff.1 hrest.symm] at h ⊢
      simpa using h
    | cons t items =>
      obtain ⟨t', items', rfl⟩ := List.exists_cons_of_length_eq_add_one hrest.symm
      rw [String.intercalate_cons_cons, String.intercalate_cons_cons, String.append_assoc,
        String.append_assoc] at h
      obtain ⟨rfl, htail⟩ := append_sep_inj hs h
      rw [ih (fun u hu => hitems u (List.mem_cons_of_mem _ hu))
        (fun u hu => hitems' u (List.mem_cons_of_mem _ hu)) hrest htail]

theorem length_bracketed (hne : items ≠ []) :
    (bracketed items).length = items.length * (w + 2) := by
  have hinner : (", ".intercalate items).length + 2 = items.length * (w + 2) :=
    length_intercalate hitems hne
  have houter : (bracketed items).length = 1 + (", ".intercalate items).length + 1 := by
    rw [bracketed, String.length_append, String.length_append]
    rfl
  omega

theorem bracketed_inj (hitems' : ∀ s ∈ items', s.length = w)
    (hlength : items.length = items'.length) (h : bracketed items = bracketed items') :
    items = items' := by
  have hinner : ", ".intercalate items = ", ".intercalate items' :=
    (String.append_right_inj _).1 ((String.append_left_inj _).1 h)
  exact intercalate_inj hitems hitems' hlength hinner

end Items

end Text

namespace Registers

theorem length_of_mem_bytes (v : Registers) :
    ∀ s ∈ v.toList.map fun b => Hex.fixed 2 b.toNat, s.length = 2 := by
  simp

theorem length_text (v : Registers) : v.text.length = 64 := by
  have hlength : (v.toList.map fun b => Hex.fixed 2 b.toNat).length = 16 := by simp
  rw [text, Text.length_bracketed v.length_of_mem_bytes
    (List.ne_nil_of_length_eq_add_one hlength), hlength]

/-- **Registers are determined by their text.** -/
theorem text_injective : Function.Injective text := by
  intro v v' h
  have hbytes := Text.bracketed_inj v.length_of_mem_bytes v'.length_of_mem_bytes (by simp) h
  have hbyte : Function.Injective fun b : UInt8 => Hex.fixed 2 b.toNat := by
    intro b b' hb
    exact UInt8.toNat_inj.1 (Hex.fixed_inj b.toNat_lt b'.toNat_lt hb)
  exact Vector.toList_inj.1 (List.map_injective_iff.2 hbyte hbytes)

end Registers

end ChipEight
