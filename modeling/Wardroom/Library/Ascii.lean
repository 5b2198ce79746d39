import Mathlib
import Wardroom.Library.Utf16

/-! # Characters of one byte

A code unit below 128 stands for a character of its own, and no other unit, pair
or lone surrogate stands for that character.
-/

namespace Wardroom.Library.JsString

theorem unitChar_eq_ascii {a : CodeUnit} (ha : a.toNat < 0x80) (c : CodeUnit) :
    unitChar c = Char.ofNat a.toNat ↔ c = a := by
  have hascii : (Char.ofNat a.toNat).toNat = a.toNat := toNat_ofNat (.inl (by omega))
  constructor
  · intro h
    have hnat := congrArg Char.toNat h
    rw [hascii, unitChar] at hnat
    split_ifs at hnat with hsurrogate
    · have hreplacement : Utf8.replacement.toNat = 0xFFFD := by decide
      omega
    · have hlt := c.toNat_lt
      simp only [isSurrogate, isHigh, isLow, Bool.or_eq_true, Bool.and_eq_true, decide_eq_true_eq,
        UInt16.le_iff_toNat_le, UInt16.reduceToNat] at hsurrogate
      rw [toNat_ofNat (by omega)] at hnat
      exact UInt16.toNat_inj.mp hnat
  · rintro rfl
    have hsurrogate : isSurrogate c = false := by
      simp only [isSurrogate, isHigh, isLow, Bool.or_eq_false_iff, Bool.and_eq_false_iff, decide_eq_false_iff_not,
        UInt16.le_iff_toNat_le, UInt16.reduceToNat]
      omega
    rw [unitChar, hsurrogate, if_neg Bool.false_ne_true]

theorem pairChar_ne_ascii {a c d : CodeUnit} (ha : a.toNat < 0x80) (hc : isHigh c = true) (hd : isLow d = true) :
    pairChar c d ≠ Char.ofNat a.toNat := by
  intro h
  have hnat := congrArg Char.toNat h
  simp only [isHigh, isLow, Bool.and_eq_true, decide_eq_true_eq, UInt16.le_iff_toNat_le, UInt16.reduceToNat] at hc hd
  rw [pairChar, toNat_ofNat (by omega), toNat_ofNat (by omega)] at hnat
  omega

theorem surrogate_ne_ascii {a c : CodeUnit} (ha : a.toNat < 0x80) (hc : isHigh c = true ∨ isLow c = true) : a ≠ c := by
  rintro rfl
  simp only [isHigh, isLow, Bool.and_eq_true, decide_eq_true_eq, UInt16.le_iff_toNat_le, UInt16.reduceToNat] at hc
  omega

theorem mem_chars_ascii {a : CodeUnit} (ha : a.toNat < 0x80) (s : JsString) :
    Char.ofNat a.toNat ∈ chars s ↔ a ∈ s := by
  induction s using chars.induct with
  | case1 => simp [chars]
  | case2 c => rw [chars, List.mem_singleton, List.mem_singleton, eq_comm, unitChar_eq_ascii ha, eq_comm]
  | case3 c d rest hpair ih =>
    have hsurrogates := hpair
    rw [Bool.and_eq_true] at hsurrogates
    have hc := surrogate_ne_ascii ha (.inl hsurrogates.1)
    have hd := surrogate_ne_ascii ha (.inr hsurrogates.2)
    rw [chars, if_pos hpair, List.mem_cons, ih, List.mem_cons, List.mem_cons]
    simp [(pairChar_ne_ascii ha hsurrogates.1 hsurrogates.2).symm, hc, hd]
  | case4 c d rest hpair ih =>
    rw [chars, if_neg hpair, List.mem_cons, ih, @eq_comm _ (Char.ofNat _), unitChar_eq_ascii ha, @eq_comm _ c]
    exact List.mem_cons.symm

theorem head_chars_ascii {a : CodeUnit} (ha : a.toNat < 0x80) (s : JsString) :
    (chars s).head? = some (Char.ofNat a.toNat) ↔ s.head? = some a := by
  cases s using chars.induct with
  | case1 => simp [chars]
  | case2 c =>
    rw [chars, List.head?_cons, List.head?_cons, Option.some_inj, Option.some_inj]
    exact unitChar_eq_ascii ha c
  | case3 c d rest hpair ih =>
    have hsurrogates := hpair
    rw [Bool.and_eq_true] at hsurrogates
    rw [chars, if_pos hpair, List.head?_cons, List.head?_cons, Option.some_inj, Option.some_inj]
    exact iff_of_false (pairChar_ne_ascii ha hsurrogates.1 hsurrogates.2)
      (surrogate_ne_ascii ha (.inl hsurrogates.1)).symm
  | case4 c d rest hpair ih =>
    rw [chars, if_neg hpair, List.head?_cons, List.head?_cons, Option.some_inj, Option.some_inj]
    exact unitChar_eq_ascii ha c

theorem chars_eq_nil (s : JsString) : chars s = [] ↔ s = [] := by
  cases s using chars.induct with
  | case1 => simp [chars]
  | case2 c => simp [chars]
  | case3 c d rest hpair ih => simp [chars, hpair]
  | case4 c d rest hpair ih => simp [chars, hpair]

end Wardroom.Library.JsString
