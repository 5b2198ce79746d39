import Mathlib
import Wardroom.Library.Digits
import Wardroom.Library.Utf16

/-! # How natural numbers are written -/

namespace Wardroom.Library.JsonText
open JsString (ofChar ofString byteLength isPaired isSurrogate)

def decimalText (n : Nat) : JsString := ofString (toString n)

def digitUnit (c : Char) : CodeUnit := c.toNat.toUInt16

theorem isDigit_digitUnit {c : Char} (h : c.isDigit = true) :
    ofChar c = [digitUnit c] ∧ isDigit (digitUnit c) = true ∧ (digitUnit c).toNat = c.toNat := by
  have hrange : 48 ≤ c.toNat ∧ c.toNat ≤ 57 := by
    simpa [Char.isDigit, UInt32.le_iff_toNat_le] using h
  have hunit : (digitUnit c).toNat = c.toNat := by
    rw [digitUnit, Nat.toUInt16, UInt16.toNat_ofNat']
    omega
  refine ⟨if_pos (by omega), ?_, hunit⟩
  simp only [isDigit, Bool.and_eq_true, decide_eq_true_eq, UInt16.le_iff_toNat_le, UInt16.reduceToNat, hunit]
  exact hrange

theorem decimalText_eq (n : Nat) : decimalText n = (Nat.toDigits 10 n).map digitUnit := by
  have hdigits : ∀ c ∈ Nat.toDigits 10 n, c.isDigit = true := fun c hc =>
    Nat.isDigit_of_mem_toDigits (by decide) (by decide) hc
  rw [decimalText, Nat.toString_eq_ofList_toDigits, ofString, String.toList_ofList]
  generalize Nat.toDigits 10 n = cs at hdigits
  induction cs with
  | nil => rfl
  | cons c cs ih =>
    rw [List.flatMap_cons, (isDigit_digitUnit (hdigits c List.mem_cons_self)).1,
      ih fun d hd => hdigits d (List.mem_cons_of_mem _ hd)]
    rfl

theorem digits_decimalText (n : Nat) : Digits (decimalText n) where
  some := by
    rw [decimalText_eq]
    simp [Nat.toDigits_ne_nil]
  all c hc := by
    rw [decimalText_eq] at hc
    obtain ⟨d, hd, rfl⟩ := List.mem_map.mp hc
    exact (isDigit_digitUnit (Nat.isDigit_of_mem_toDigits (by decide) (by decide) hd)).2.1

theorem number_decimalText (n : Nat) : Number (decimalText n) := by
  have hinteger : IntegerPart (decimalText n) := by
    rcases Nat.eq_zero_or_pos n with rfl | hpos
    · exact .zero
    · refine .digits (digits_decimalText n) fun hzero => ?_
      have hhead := head_toDigits hpos
      rw [decimalText_eq] at hzero
      cases hdigits : Nat.toDigits 10 n with
      | nil => exact Nat.toDigits_ne_nil hdigits
      | cons c cs =>
        rw [hdigits] at hzero hhead
        have hc : c.isDigit = true := Nat.isDigit_of_mem_toDigits (b := 10) (by decide) (by decide)
          (hdigits ▸ List.mem_cons_self)
        have hunit := (isDigit_digitUnit hc).2.2
        have hsame : digitUnit c = zero := Option.some.inj hzero
        rw [hsame] at hunit
        exact hhead (congrArg some (Char.toNat_inj.mp hunit.symm))
  have hnumber := Number.mk (.inl rfl) hinteger .none .none
  simpa using hnumber

def digitsValue (text : JsString) : Nat := text.foldl (fun n c => 10 * n + (c.toNat - 0x30)) 0

theorem digitsValue_decimalText (n : Nat) : digitsValue (decimalText n) = n := by
  have hdigits : ∀ c ∈ Nat.toDigits 10 n, c.isDigit = true := fun c hc =>
    Nat.isDigit_of_mem_toDigits (by decide) (by decide) hc
  have hfold (cs : List Char) (hcs : ∀ c ∈ cs, c.isDigit = true) (init : Nat) :
      (cs.map digitUnit).foldl (fun n c => 10 * n + (c.toNat - 0x30)) init = Nat.ofDigitChars 10 cs init := by
    induction cs generalizing init with
    | nil => rfl
    | cons c cs ih =>
      rw [List.map_cons, List.foldl_cons, (isDigit_digitUnit (hcs c List.mem_cons_self)).2.2, Nat.ofDigitChars_cons,
        ih fun d hd => hcs d (List.mem_cons_of_mem _ hd)]
      rfl
  rw [digitsValue, decimalText_eq, hfold _ hdigits, Nat.ofDigitChars_ten_toDigits]

theorem plain_decimalText (n : Nat) : (decimalText n).all JsString.isPlain = true := by
  apply List.all_eq_true.mpr
  intro c hc
  have hdigit := (digits_decimalText n).all c hc
  simp only [isDigit, Bool.and_eq_true, decide_eq_true_eq, UInt16.le_iff_toNat_le, UInt16.reduceToNat] at hdigit
  have hzero : zero.toNat = 0x30 := rfl
  have hquote : quote.toNat = 0x22 := rfl
  have hbackslash : backslash.toNat = 0x5C := rfl
  simp only [JsString.isPlain, Bool.and_eq_true, decide_eq_true_eq, UInt16.le_iff_toNat_le, UInt16.lt_iff_toNat_lt,
    ne_eq, ← UInt16.toNat_inj, UInt16.reduceToNat]
  omega

theorem length_decimalText (n : Nat) : (decimalText n).length = (toString n).length := by
  rw [decimalText_eq, List.length_map, Nat.toString_eq_ofList_toDigits, String.length_ofList]

theorem byteLength_decimalText (n : Nat) : byteLength (decimalText n) = (toString n).length := by
  rw [JsString.byteLength_of_plain (plain_decimalText n), length_decimalText]

end Wardroom.Library.JsonText
