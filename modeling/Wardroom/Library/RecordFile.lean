import Mathlib

/-! # Files of records

Each record is followed by a separator. A reader that starts somewhere in the file does not know
whether it starts at a record, and leaves out what it finds up to the first separator.
-/

namespace Wardroom.Library.RecordFile

variable {α : Type} (sep : α)

def file (records : List (List α)) : List α := records.flatMap fun record => record ++ [sep]

def upto : Nat → List (List α) → List (List α)
  | _, [] => []
  | n, record :: records => if n ≤ record.length then [record] else record :: upto (n - (record.length + 1)) records

/-- The records that begin after a position. -/
def past : Nat → List (List α) → List (List α)
  | _, [] => []
  | n, record :: records => if n ≤ record.length then records else past (n - (record.length + 1)) records

theorem file_cons (record : List α) (records : List (List α)) :
    file sep (record :: records) = record ++ sep :: file sep records := by
  simp [file]

theorem upto_append_past (n : Nat) (records : List (List α)) : upto n records ++ past n records = records := by
  induction records generalizing n with
  | nil => rfl
  | cons record records ih =>
    by_cases h : n ≤ record.length
    · simp [upto, past, h]
    · simp [upto, past, h, ih]

variable {sep} [DecidableEq α]

/-- Splitting the whole file gives the records, and nothing after the last separator. -/
theorem splitOn_file {records : List (List α)} (h : ∀ record ∈ records, sep ∉ record) :
    (file sep records).splitOn sep = records ++ [[]] := by
  induction records with
  | nil => rfl
  | cons record records ih =>
    rw [file_cons, List.splitOn_append_cons_self_of_not_mem (h record List.mem_cons_self),
      ih fun r hr => h r (List.mem_cons_of_mem _ hr), List.cons_append]

/-- A reader that starts within the file finds the records that begin after its start. -/
theorem tail_splitOn_drop {records : List (List α)} (h : ∀ record ∈ records, sep ∉ record) {n : Nat}
    (hn : n < (file sep records).length) :
    (((file sep records).drop n).splitOn sep).tail = past n records ++ [[]] := by
  induction records generalizing n with
  | nil => cases hn
  | cons record records ih =>
    have hrest : ∀ r ∈ records, sep ∉ r := fun r hr => h r (List.mem_cons_of_mem _ hr)
    rw [file_cons] at hn ⊢
    by_cases hcut : n ≤ record.length
    · have hnot : sep ∉ record.drop n := fun hmem => h record List.mem_cons_self (List.mem_of_mem_drop hmem)
      rw [List.drop_append_of_le_length hcut, List.splitOn_append_cons_self_of_not_mem hnot, List.tail_cons,
        splitOn_file hrest, past, if_pos hcut]
    · have hskip : (record ++ sep :: file sep records).drop n = (file sep records).drop (n - (record.length + 1)) := by
        rw [List.drop_append, List.drop_eq_nil_of_le (by omega), List.nil_append]
        obtain ⟨k, hk⟩ : ∃ k, n - record.length = k + 1 := ⟨n - record.length - 1, by omega⟩
        rw [hk, List.drop_succ_cons]
        congr 1
        omega
      rw [hskip, past, if_neg hcut]
      apply ih hrest
      simp only [List.length_append, List.length_cons] at hn
      omega

end Wardroom.Library.RecordFile
