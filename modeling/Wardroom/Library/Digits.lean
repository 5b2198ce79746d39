import Mathlib.Data.Nat.Digits.Defs
import Mathlib.Data.String.Basic
import Mathlib.Tactic.IntervalCases

/-! # Decimal digits -/

namespace Wardroom.Library

theorem head_toDigits {n : Nat} (h : 0 < n) : (Nat.toDigits 10 n).head? ≠ some '0' := by
  induction n using Nat.strongRecOn with
  | ind n ih =>
    by_cases hlt : n < 10
    · rw [Nat.toDigits_of_lt_base hlt]
      interval_cases n <;> decide
    · rw [Nat.toDigits_of_base_le (by decide) (by omega), List.head?_append]
      have hne : Nat.toDigits 10 (n / 10) ≠ [] := Nat.toDigits_ne_nil
      have hrec := ih (n / 10) (by omega) (by omega)
      cases hdigits : Nat.toDigits 10 (n / 10) with
      | nil => exact absurd hdigits hne
      | cons c cs => rwa [hdigits] at hrec

end Wardroom.Library
