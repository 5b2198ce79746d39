import Wardroom.Library.JsonText
import Mathlib

/-! # How a string is written in JSON

`JSON.stringify` of a string: a quote, a backslash, a control character and a
surrogate without its partner are escaped, and every other code unit stands for
itself.
-/

namespace Wardroom.Library.JsString
open JsonText

def hexLetter (n : Nat) : CodeUnit := if n < 10 then (0x30 + n).toUInt16 else (0x57 + n).toUInt16

/-- Four lower-case hexadecimal digits. -/
def hexUnit (c : CodeUnit) : JsString :=
  [hexLetter (c.toNat / 4096), hexLetter (c.toNat / 256 % 16), hexLetter (c.toNat / 16 % 16),
    hexLetter (c.toNat % 16)]

def escapeUnit (c : CodeUnit) : JsString :=
  if c = quote then [backslash, quote]
  else if c = backslash then [backslash, backslash]
  else if c = 0x08 then [backslash, 0x62]
  else if c = 0x0C then [backslash, 0x66]
  else if c = 0x0A then [backslash, 0x6E]
  else if c = 0x0D then [backslash, 0x72]
  else if c = 0x09 then [backslash, 0x74]
  else if c < 0x20 || isSurrogate c then backslash :: 0x75 :: hexUnit c
  else [c]

/-- A pair of surrogates is one character. -/
def escape : JsString → JsString
  | [] => []
  | [c] => escapeUnit c
  | c :: d :: rest =>
    if isHigh c && isLow d then c :: d :: escape rest else escapeUnit c ++ escape (d :: rest)

/-- `JSON.stringify` of a string. -/
def quoted (s : JsString) : JsString := quote :: (escape s ++ [quote])

/-- A code unit that is written as it is and in one byte. -/
def isPlain (c : CodeUnit) : Bool := 0x20 ≤ c && c < 0x80 && c ≠ quote && c ≠ backslash

variable {c : CodeUnit}

theorem escapeUnit_of_isPlain (h : isPlain c = true) : escapeUnit c = [c] := by
  simp only [isPlain, Bool.and_eq_true, decide_eq_true_eq, ne_eq] at h
  obtain ⟨⟨⟨hlow, hascii⟩, hquote⟩, hbackslash⟩ := h
  rw [UInt16.le_iff_toNat_le] at hlow
  rw [UInt16.lt_iff_toNat_lt] at hascii
  have hne (d : CodeUnit) (hd : d.toNat < 32) : c ≠ d := by
    rintro rfl
    exact absurd hlow (Nat.not_le.mpr hd)
  have hsurrogate : ¬(decide (c < 0x20) || isSurrogate c) = true := by
    simp only [isSurrogate, isHigh, isLow, Bool.or_eq_true, Bool.and_eq_true, decide_eq_true_eq,
      UInt16.le_iff_toNat_le, UInt16.lt_iff_toNat_lt, UInt16.reduceToNat] at hlow hascii ⊢
    omega
  rw [escapeUnit, if_neg hquote, if_neg hbackslash, if_neg (hne _ (by decide)),
    if_neg (hne _ (by decide)), if_neg (hne _ (by decide)), if_neg (hne _ (by decide)),
    if_neg (hne _ (by decide)), if_neg hsurrogate]

theorem isHigh_of_isPlain (h : isPlain c = true) : isHigh c = false := by
  simp only [isPlain, isHigh, Bool.and_eq_true, decide_eq_true_eq, Bool.and_eq_false_iff,
    decide_eq_false_iff_not, UInt16.le_iff_toNat_le, UInt16.lt_iff_toNat_lt,
    UInt16.reduceToNat] at h ⊢
  omega

theorem unitBytes_of_isPlain (h : isPlain c = true) : unitBytes c = 1 := by
  simp only [isPlain, Bool.and_eq_true, decide_eq_true_eq] at h
  exact if_pos h.1.1.2

theorem escape_of_plain {s : JsString} (h : s.all isPlain = true) : escape s = s := by
  induction s using escape.induct with
  | case1 => rfl
  | case2 c =>
    rw [List.all_cons, Bool.and_eq_true] at h
    exact escapeUnit_of_isPlain h.1
  | case3 c d rest hpair ih =>
    rw [List.all_cons, Bool.and_eq_true] at h
    rw [isHigh_of_isPlain h.1] at hpair
    exact absurd hpair Bool.false_ne_true
  | case4 c d rest hpair ih =>
    rw [List.all_cons, Bool.and_eq_true] at h
    rw [escape, if_neg hpair, ih h.2, escapeUnit_of_isPlain h.1, List.singleton_append]

theorem byteLength_of_plain {s : JsString} (h : s.all isPlain = true) : byteLength s = s.length := by
  induction s with
  | nil => rfl
  | cons c rest ih =>
    rw [List.all_cons, Bool.and_eq_true] at h
    rw [byteLength_cons (.inl (isHigh_of_isPlain h.1)), unitBytes_of_isPlain h.1, ih h.2,
      List.length_cons, Nat.add_comm]

theorem byteLength_quoted (s : JsString) : byteLength (quoted s) = byteLength (escape s) + 2 := by
  have hlow : isLow quote = false := by decide
  have hhigh : isHigh quote = false := by decide
  have hone : unitBytes quote = 1 := by decide
  have hlast : byteLength [quote] = 1 := by decide
  rw [quoted, byteLength_cons (.inl hhigh), byteLength_append _ (begins_cons hlow []), hone, hlast]
  omega

theorem byteLength_quoted_of_plain {s : JsString} (h : s.all isPlain = true) :
    byteLength (quoted s) = s.length + 2 := by
  rw [byteLength_quoted, escape_of_plain h, byteLength_of_plain h]

theorem escape_cons (h : isHigh c = false) (rest : JsString) :
    escape (c :: rest) = escapeUnit c ++ escape rest := by
  cases rest with
  | nil => exact (List.append_nil _).symm
  | cons d rest => rw [escape, h, Bool.false_and, if_neg Bool.false_ne_true]

end Wardroom.Library.JsString
