import Mathlib
import Wardroom.Library.Base64
import Wardroom.Library.JsonString

/-! # Base64 without padding -/

namespace Wardroom.Library.Base64

/-- Without the padding at the end. -/
def encodeRaw (bytes : List UInt8) : JsString := (encode bytes).rdropWhile (· = pad)

def rawGroups : JsString → Option (List UInt8)
  | [] => some []
  | [a, b] => do
    let x ← value a
    let y ← value b
    return [(x * 4 + y / 16).toUInt8]
  | [a, b, c] => do
    let x ← value a
    let y ← value b
    let z ← value c
    return [(x * 4 + y / 16).toUInt8, (y % 16 * 16 + z / 4).toUInt8]
  | a :: b :: c :: d :: rest => do
    let x ← value a
    let y ← value b
    let z ← value c
    let w ← value d
    let bytes ← rawGroups rest
    return (x * 4 + y / 16).toUInt8 :: (y % 16 * 16 + z / 4).toUInt8 :: (z % 4 * 64 + w).toUInt8 :: bytes
  | _ => none

/-- The decoder that takes no padding. -/
def decodeRaw (text : JsString) : Option (List UInt8) := rawGroups (text.filter fun c => c ≠ 0x0A && c ≠ 0x0D)

theorem rdropWhile_cons_of_neg {c : CodeUnit} (hc : c ≠ pad) (text : JsString) :
    List.rdropWhile (· = pad) (c :: text) = c :: text.rdropWhile (· = pad) := by
  rw [List.rdropWhile, List.rdropWhile, List.reverse_cons, List.dropWhile_append]
  split_ifs with hnone
  · rw [List.isEmpty_iff.mp hnone]
    simp [hc]
  · rw [List.reverse_append]
    rfl

theorem encodeRaw_one (a : UInt8) : encodeRaw [a] = [letter (a.toNat / 4), letter (a.toNat % 4 * 16)] := by
  have ha := a.toNat_lt
  have hx := letter_ne_pad (a.toNat / 4) (by omega)
  have hy := letter_ne_pad (a.toNat % 4 * 16) (by omega)
  rw [encodeRaw, encode, rdropWhile_cons_of_neg hx, rdropWhile_cons_of_neg hy]
  rfl

theorem encodeRaw_two (a b : UInt8) : encodeRaw [a, b] =
    [letter (a.toNat / 4), letter (a.toNat % 4 * 16 + b.toNat / 16), letter (b.toNat % 16 * 4)] := by
  have ha := a.toNat_lt
  have hb := b.toNat_lt
  have hx := letter_ne_pad (a.toNat / 4) (by omega)
  have hy := letter_ne_pad (a.toNat % 4 * 16 + b.toNat / 16) (by omega)
  have hz := letter_ne_pad (b.toNat % 16 * 4) (by omega)
  rw [encodeRaw, encode, rdropWhile_cons_of_neg hx, rdropWhile_cons_of_neg hy, rdropWhile_cons_of_neg hz]
  rfl

theorem encodeRaw_three (a b c : UInt8) (bytes : List UInt8) : encodeRaw (a :: b :: c :: bytes) =
    letter (a.toNat / 4) :: letter (a.toNat % 4 * 16 + b.toNat / 16) :: letter (b.toNat % 16 * 4 + c.toNat / 64) ::
      letter (c.toNat % 64) :: encodeRaw bytes := by
  have ha := a.toNat_lt
  have hb := b.toNat_lt
  have hc := c.toNat_lt
  have hx := letter_ne_pad (a.toNat / 4) (by omega)
  have hy := letter_ne_pad (a.toNat % 4 * 16 + b.toNat / 16) (by omega)
  have hz := letter_ne_pad (b.toNat % 16 * 4 + c.toNat / 64) (by omega)
  have hw := letter_ne_pad (c.toNat % 64) (by omega)
  rw [encodeRaw, encode, rdropWhile_cons_of_neg hx, rdropWhile_cons_of_neg hy, rdropWhile_cons_of_neg hz,
    rdropWhile_cons_of_neg hw]
  rfl

theorem length_encodeRaw (bytes : List UInt8) : (encodeRaw bytes).length = (bytes.length * 4 + 2) / 3 := by
  induction bytes using encode.induct with
  | case1 => rfl
  | case2 a => simp [encodeRaw_one]
  | case3 a b => simp [encodeRaw_two]
  | case4 a b c bytes ih =>
    rw [encodeRaw_three]
    simp only [List.length_cons, ih]
    omega

theorem rawGroups_encodeRaw (bytes : List UInt8) : rawGroups (encodeRaw bytes) = some bytes := by
  induction bytes using encode.induct with
  | case1 => rfl
  | case2 a =>
    have ha := a.toNat_lt
    have hfirst := toUInt8_of_toNat (n := a.toNat / 4 * 4 + a.toNat % 4 * 16 / 16) a (by omega)
    rw [encodeRaw_one, rawGroups, value_letter _ (by omega), value_letter _ (by omega)]
    simp only [Option.bind_eq_bind, Option.bind_some, hfirst]
    rfl
  | case3 a b =>
    have ha := a.toNat_lt
    have hb := b.toNat_lt
    have hfirst := toUInt8_of_toNat (n := a.toNat / 4 * 4 + (a.toNat % 4 * 16 + b.toNat / 16) / 16) a (by omega)
    have hsecond := toUInt8_of_toNat
      (n := (a.toNat % 4 * 16 + b.toNat / 16) % 16 * 16 + b.toNat % 16 * 4 / 4) b (by omega)
    rw [encodeRaw_two, rawGroups, value_letter _ (by omega), value_letter _ (by omega), value_letter _ (by omega)]
    simp only [Option.bind_eq_bind, Option.bind_some, hfirst, hsecond]
    rfl
  | case4 a b c bytes ih =>
    have ha := a.toNat_lt
    have hb := b.toNat_lt
    have hc := c.toNat_lt
    have hfirst := toUInt8_of_toNat (n := a.toNat / 4 * 4 + (a.toNat % 4 * 16 + b.toNat / 16) / 16) a (by omega)
    have hsecond := toUInt8_of_toNat
      (n := (a.toNat % 4 * 16 + b.toNat / 16) % 16 * 16 + (b.toNat % 16 * 4 + c.toNat / 64) / 4) b (by omega)
    have hthird := toUInt8_of_toNat (n := (b.toNat % 16 * 4 + c.toNat / 64) % 4 * 64 + c.toNat % 64) c (by omega)
    rw [encodeRaw_three, rawGroups, value_letter _ (by omega), value_letter _ (by omega), value_letter _ (by omega),
      value_letter _ (by omega), ih]
    simp only [Option.bind_eq_bind, Option.bind_some, hfirst, hsecond, hthird]
    rfl

theorem plain_encodeRaw (bytes : List UInt8) : (encodeRaw bytes).all JsString.isPlain = true := by
  refine List.all_eq_true.mpr fun c hc => ?_
  obtain ⟨-, -, hquote, hbackslash, hlow, hhigh⟩ := plain_encode bytes ((List.rdropWhile_prefix _ _).subset hc)
  simp [JsString.isPlain, hquote, hbackslash, hlow, hhigh]

theorem decodeRaw_encodeRaw (bytes : List UInt8) : decodeRaw (encodeRaw bytes) = some bytes := by
  have hplain : (encodeRaw bytes).filter (fun c => c ≠ 0x0A && c ≠ 0x0D) = encodeRaw bytes := by
    refine List.filter_eq_self.mpr fun c hc => ?_
    obtain ⟨hfeed, hreturn, -⟩ := plain_encode bytes ((List.rdropWhile_prefix _ _).subset hc)
    simp [hfeed, hreturn]
  rw [decodeRaw, hplain, rawGroups_encodeRaw]
end Wardroom.Library.Base64
