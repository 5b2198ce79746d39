import Mathlib

/-! # Strings as JavaScript has them

A string is a list of UTF-16 code units, and a surrogate need not have its
partner.
-/

namespace Wardroom.Library

abbrev CodeUnit := UInt16

abbrev JsString := List CodeUnit

instance : LawfulBEq JsString := inferInstance

namespace JsString

/-- The code units of a text that is written in the source. -/
def ofChar (c : Char) : JsString :=
  if c.toNat < 0x10000 then [c.toNat.toUInt16]
  else [(0xD800 + (c.toNat - 0x10000) / 0x400).toUInt16, (0xDC00 + (c.toNat - 0x10000) % 0x400).toUInt16]

def ofString (s : String) : JsString := s.toList.flatMap ofChar

def isHigh (c : CodeUnit) : Bool := 0xD800 ≤ c && c ≤ 0xDBFF

def isLow (c : CodeUnit) : Bool := 0xDC00 ≤ c && c ≤ 0xDFFF

def isSurrogate (c : CodeUnit) : Bool := isHigh c || isLow c

/-- What `trim` removes. -/
def isSpace (c : CodeUnit) : Bool :=
  (0x09 ≤ c && c ≤ 0x0D) || (0x2000 ≤ c && c ≤ 0x200A) ||
    c ∈ [0x20, 0xA0, 0x1680, 0x2028, 0x2029, 0x202F, 0x205F, 0x3000, 0xFEFF]

/-- `!text.trim()`. -/
def isBlank (text : JsString) : Bool := text.all isSpace

/-- The bytes of one code unit in UTF-8, where a surrogate by itself is replaced. -/
def unitBytes (c : CodeUnit) : Nat := if c < 0x80 then 1 else if c < 0x800 then 2 else 3

/-- `Buffer.byteLength(text, "utf8")`. -/
def byteLength : JsString → Nat
  | [] => 0
  | [c] => unitBytes c
  | c :: d :: rest =>
    if isHigh c && isLow d then 4 + byteLength rest else unitBytes c + byteLength (d :: rest)

/-- The text does not begin with the second half of a pair. -/
def Begins (text : JsString) : Prop := ∀ c ∈ text.head?, isLow c = false

theorem begins_cons {c : CodeUnit} (h : isLow c = false) (rest : JsString) : Begins (c :: rest) := by
  intro d hd
  obtain rfl : c = d := Option.some.inj hd
  exact h

@[simp] theorem byteLength_nil : byteLength [] = 0 := rfl

theorem byteLength_cons {c : CodeUnit} {rest : JsString} (h : isHigh c = false ∨ Begins rest) :
    byteLength (c :: rest) = unitBytes c + byteLength rest := by
  cases rest with
  | nil => rfl
  | cons d rest =>
    rw [byteLength]
    refine if_neg fun hpair => ?_
    rw [Bool.and_eq_true] at hpair
    rcases h with hhigh | hbegins
    · rw [hhigh] at hpair
      exact Bool.false_ne_true hpair.1
    · rw [hbegins d rfl] at hpair
      exact Bool.false_ne_true hpair.2

theorem byteLength_append (a : JsString) {b : JsString} (h : Begins b) :
    byteLength (a ++ b) = byteLength a + byteLength b := by
  induction a using byteLength.induct with
  | case1 => simp
  | case2 c => exact byteLength_cons (.inr h)
  | case3 c d rest hpair ih =>
    simp only [List.cons_append, byteLength, if_pos hpair, ih]
    omega
  | case4 c d rest hpair ih =>
    simp only [List.cons_append, byteLength, if_neg hpair] at ih ⊢
    rw [ih]
    omega

theorem byteLength_bounds (text : JsString) : text.length ≤ byteLength text ∧ byteLength text ≤ 3 * text.length := by
  have hunit (c : CodeUnit) : 1 ≤ unitBytes c ∧ unitBytes c ≤ 3 := by
    unfold unitBytes
    split_ifs <;> omega
  induction text using byteLength.induct with
  | case1 => exact ⟨Nat.le_refl _, Nat.le_refl _⟩
  | case2 c => exact hunit c
  | case3 c d rest hpair ih =>
    simp only [byteLength, if_pos hpair, List.length_cons]
    omega
  | case4 c d rest hpair ih =>
    simp only [byteLength, if_neg hpair, List.length_cons] at ih ⊢
    have := hunit c
    omega

theorem byteLength_le (text : JsString) : byteLength text ≤ 3 * text.length := (byteLength_bounds text).2

theorem length_le_byteLength (text : JsString) : text.length ≤ byteLength text := (byteLength_bounds text).1

end JsString
end Wardroom.Library
