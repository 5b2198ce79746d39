import Wardroom.Library.JsString

/-! # Base64

Three bytes are four letters; the last group is padded. The decoder skips line
breaks, and does not mind bits that no byte needs.
-/

namespace Wardroom.Library.Base64

abbrev pad : CodeUnit := 0x3D

def letter (v : Nat) : CodeUnit :=
  if v < 26 then (0x41 + v).toUInt16
  else if v < 52 then (0x47 + v).toUInt16
  else if v < 62 then (v - 4).toUInt16
  else if v = 62 then 0x2B
  else 0x2F

def value (c : CodeUnit) : Option Nat :=
  if 0x41 ≤ c ∧ c ≤ 0x5A then some (c.toNat - 0x41)
  else if 0x61 ≤ c ∧ c ≤ 0x7A then some (c.toNat - 0x47)
  else if 0x30 ≤ c ∧ c ≤ 0x39 then some (c.toNat + 4)
  else if c = 0x2B then some 62
  else if c = 0x2F then some 63
  else none

def encode : List UInt8 → JsString
  | [] => []
  | [a] => [letter (a.toNat / 4), letter (a.toNat % 4 * 16), pad, pad]
  | [a, b] => [letter (a.toNat / 4), letter (a.toNat % 4 * 16 + b.toNat / 16), letter (b.toNat % 16 * 4), pad]
  | a :: b :: c :: bytes =>
    letter (a.toNat / 4) :: letter (a.toNat % 4 * 16 + b.toNat / 16) :: letter (b.toNat % 16 * 4 + c.toNat / 64) ::
      letter (c.toNat % 64) :: encode bytes

def decodeGroups : JsString → Option (List UInt8)
  | [] => some []
  | a :: b :: c :: d :: rest => do
    let x ← value a
    let y ← value b
    if c = pad ∧ d = pad ∧ rest = [] then return [(x * 4 + y / 16).toUInt8]
    let z ← value c
    if d = pad ∧ rest = [] then return [(x * 4 + y / 16).toUInt8, (y % 16 * 16 + z / 4).toUInt8]
    let w ← value d
    let bytes ← decodeGroups rest
    return (x * 4 + y / 16).toUInt8 :: (y % 16 * 16 + z / 4).toUInt8 :: (z % 4 * 64 + w).toUInt8 :: bytes
  | _ => none

def decode (text : JsString) : Option (List UInt8) := decodeGroups (text.filter fun c => c ≠ 0x0A && c ≠ 0x0D)

theorem value_letter : ∀ v < 64, value (letter v) = some v := by decide

theorem letter_ne_pad : ∀ v < 64, letter v ≠ pad := by decide

theorem toUInt8_of_toNat {n : Nat} (a : UInt8) (h : n = a.toNat) : n.toUInt8 = a := by
  rw [h]
  simp

theorem decodeGroups_encode (bytes : List UInt8) : decodeGroups (encode bytes) = some bytes := by
  induction bytes using encode.induct with
  | case1 => rfl
  | case2 a =>
    have ha := a.toNat_lt
    have hfirst := toUInt8_of_toNat (n := a.toNat / 4 * 4 + a.toNat % 4 * 16 / 16) a (by omega)
    rw [encode, decodeGroups, value_letter _ (by omega), value_letter _ (by omega)]
    simp only [Option.bind_eq_bind, Option.bind_some, hfirst, and_self, if_true]
    rfl
  | case3 a b =>
    have ha := a.toNat_lt
    have hb := b.toNat_lt
    have hc := letter_ne_pad (b.toNat % 16 * 4) (by omega)
    have hfirst := toUInt8_of_toNat (n := a.toNat / 4 * 4 + (a.toNat % 4 * 16 + b.toNat / 16) / 16) a (by omega)
    have hsecond := toUInt8_of_toNat
      (n := (a.toNat % 4 * 16 + b.toNat / 16) % 16 * 16 + b.toNat % 16 * 4 / 4) b (by omega)
    rw [encode, decodeGroups, value_letter _ (by omega), value_letter _ (by omega), value_letter _ (by omega)]
    simp only [Option.bind_eq_bind, Option.bind_some, hfirst, hsecond, hc, false_and, if_false, and_self, if_true]
    rfl
  | case4 a b c bytes ih =>
    have ha := a.toNat_lt
    have hb := b.toNat_lt
    have hc := c.toNat_lt
    have hthird := letter_ne_pad (b.toNat % 16 * 4 + c.toNat / 64) (by omega)
    have hlast := letter_ne_pad (c.toNat % 64) (by omega)
    have hfirst := toUInt8_of_toNat (n := a.toNat / 4 * 4 + (a.toNat % 4 * 16 + b.toNat / 16) / 16) a (by omega)
    have hsecond := toUInt8_of_toNat
      (n := (a.toNat % 4 * 16 + b.toNat / 16) % 16 * 16 + (b.toNat % 16 * 4 + c.toNat / 64) / 4) b (by omega)
    have hfinal := toUInt8_of_toNat
      (n := (b.toNat % 16 * 4 + c.toNat / 64) % 4 * 64 + c.toNat % 64) c (by omega)
    rw [encode, decodeGroups, value_letter _ (by omega), value_letter _ (by omega), value_letter _ (by omega),
      value_letter _ (by omega), ih]
    simp only [Option.bind_eq_bind, Option.bind_some, hfirst, hsecond, hfinal, hthird, hlast, false_and, if_false]
    rfl

theorem letter_plain : ∀ v < 64, letter v ≠ 0x0A ∧ letter v ≠ 0x0D ∧ letter v ≠ 0x22 ∧ letter v ≠ 0x5C ∧
    0x20 ≤ letter v ∧ letter v < 0x80 := by decide

theorem mem_encode (bytes : List UInt8) {c : CodeUnit} (h : c ∈ encode bytes) : c = pad ∨ ∃ v < 64, c = letter v := by
  induction bytes using encode.induct with
  | case1 => cases h
  | case2 a =>
    have ha := a.toNat_lt
    simp only [encode, List.mem_cons, List.not_mem_nil, or_false] at h
    rcases h with rfl | rfl | rfl | rfl
    · exact .inr ⟨_, by omega, rfl⟩
    · exact .inr ⟨_, by omega, rfl⟩
    · exact .inl rfl
    · exact .inl rfl
  | case3 a b =>
    have ha := a.toNat_lt
    have hb := b.toNat_lt
    simp only [encode, List.mem_cons, List.not_mem_nil, or_false] at h
    rcases h with rfl | rfl | rfl | rfl
    · exact .inr ⟨_, by omega, rfl⟩
    · exact .inr ⟨_, by omega, rfl⟩
    · exact .inr ⟨_, by omega, rfl⟩
    · exact .inl rfl
  | case4 a b c' bytes ih =>
    have ha := a.toNat_lt
    have hb := b.toNat_lt
    have hc := c'.toNat_lt
    simp only [encode, List.mem_cons] at h
    rcases h with rfl | rfl | rfl | rfl | h
    · exact .inr ⟨_, by omega, rfl⟩
    · exact .inr ⟨_, by omega, rfl⟩
    · exact .inr ⟨_, by omega, rfl⟩
    · exact .inr ⟨_, by omega, rfl⟩
    · exact ih h

theorem plain_encode (bytes : List UInt8) {c : CodeUnit} (h : c ∈ encode bytes) :
    c ≠ 0x0A ∧ c ≠ 0x0D ∧ c ≠ 0x22 ∧ c ≠ 0x5C ∧ 0x20 ≤ c ∧ c < 0x80 := by
  rcases mem_encode bytes h with rfl | ⟨v, hv, rfl⟩
  · decide
  · exact letter_plain v hv

theorem decode_encode (bytes : List UInt8) : decode (encode bytes) = some bytes := by
  rw [decode, List.filter_eq_self.mpr fun c hc => by
    obtain ⟨hfeed, hreturn, -⟩ := plain_encode bytes hc
    simp [hfeed, hreturn], decodeGroups_encode]

theorem length_encode (bytes : List UInt8) : (encode bytes).length = (bytes.length + 2) / 3 * 4 := by
  induction bytes using encode.induct with
  | case1 => rfl
  | case2 a => simp [encode]
  | case3 a b => simp [encode]
  | case4 a b c bytes ih =>
    simp only [encode, List.length_cons, ih]
    omega

end Wardroom.Library.Base64
