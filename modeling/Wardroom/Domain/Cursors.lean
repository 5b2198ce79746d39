import Wardroom.Domain.Contracts
import Wardroom.Library.Digits

/-! # The text of a cursor -/

namespace Wardroom.Domain.CursorCodec
open Wardroom.Library

theorem digits_ofDigitChars : ∀ (cs : List Char) (acc : Nat), (∀ c ∈ cs, c.isDigit = true) →
    digits acc cs = some (Nat.ofDigitChars 10 cs acc)
  | [], _, _ => rfl
  | c :: cs, acc, h => by
    have hdigit := h c List.mem_cons_self
    have hrange : '0' ≤ c ∧ c ≤ '9' := by
      simpa [Char.isDigit, Char.le_def] using hdigit
    rw [digits, digitValue, if_pos hrange, Nat.ofDigitChars_cons]
    exact digits_ofDigitChars cs _ fun d hd => h d (List.mem_cons_of_mem _ hd)

theorem decode_toString (n : Nat) : decode (toString n) = some n := by
  have hdigits := digits_ofDigitChars (Nat.toDigits 10 n) 0 fun c hc =>
    Nat.isDigit_of_mem_toDigits (by decide) (by decide) hc
  rw [Nat.ofDigitChars_ten_toDigits] at hdigits
  unfold decode
  rw [Nat.toString_eq_ofList_toDigits, String.toList_ofList]
  rcases Nat.eq_zero_or_pos n with rfl | hpos
  · rw [Nat.toDigits_zero]
    rfl
  · have hhead := head_toDigits hpos
    split
    · exact absurd ‹_› Nat.toDigits_ne_nil
    · rename_i hzero
      rw [hzero] at hhead
      exact absurd rfl hhead
    · rename_i hzero
      rw [hzero] at hhead
      exact absurd rfl hhead
    · exact hdigits

end Wardroom.Domain.CursorCodec
