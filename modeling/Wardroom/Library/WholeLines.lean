import Mathlib.Data.List.TakeWhile

/-! # The whole lines of a stream of bytes

A reader that stops after a line feed finds the same lines as one that reads on.
-/

namespace Wardroom.Library.WholeLines

/-- What the bytes hold up to their last line feed. -/
def whole (bytes : List UInt8) : List UInt8 := (bytes.reverse.dropWhile fun b => b ≠ 0x0a).reverse

def wholeLines (bytes : List UInt8) : List (List UInt8) :=
  if whole bytes = [] then [] else (whole bytes).dropLast.splitOn 0x0a

def AtLineEnd (bytes : List UInt8) : Prop := bytes = [] ∨ ∃ front, bytes = front ++ [0x0a]

/-- So many bytes in a row have a line feed among them. -/
def LinesWithin (limit : Nat) (bytes : List UInt8) : Prop :=
  ∀ before within after, bytes = before ++ within ++ after → within.length = limit → 0x0a ∈ within

variable {bytes u v : List UInt8}

theorem whole_of_notMem (h : 0x0a ∉ bytes) : whole bytes = [] := by
  rw [whole, List.reverse_eq_nil_iff, List.dropWhile_eq_nil_iff]
  intro b hb
  have hne : b ≠ 0x0a := by
    rintro rfl
    exact h (List.mem_reverse.mp hb)
  simpa using hne

theorem whole_of_notMem_tail (u : List UInt8) (h : 0x0a ∉ v) : whole (u ++ 0x0a :: v) = u ++ [0x0a] := by
  have hskip : ∀ b ∈ v.reverse, decide (b ≠ 0x0a) = true := by
    intro b hb
    have hne : b ≠ 0x0a := by
      rintro rfl
      exact h (List.mem_reverse.mp hb)
    simpa using hne
  rw [whole, List.reverse_append, List.reverse_cons, List.append_assoc, List.dropWhile_append_of_pos hskip]
  simp

theorem split_last (h : 0x0a ∈ bytes) : ∃ u v, bytes = u ++ 0x0a :: v ∧ 0x0a ∉ v := by
  induction bytes with
  | nil => cases h
  | cons b bytes ih =>
    by_cases hmem : 0x0a ∈ bytes
    · obtain ⟨u, v, rfl, hv⟩ := ih hmem
      exact ⟨b :: u, v, rfl, hv⟩
    · rcases List.mem_cons.mp h with rfl | habsurd
      · exact ⟨[], bytes, rfl, hmem⟩
      · exact absurd habsurd hmem

theorem whole_isPrefix (bytes : List UInt8) : whole bytes <+: bytes := by
  by_cases h : 0x0a ∈ bytes
  · obtain ⟨u, v, rfl, hv⟩ := split_last h
    rw [whole_of_notMem_tail u hv]
    exact ⟨v, by simp⟩
  · rw [whole_of_notMem h]
    exact List.nil_prefix

theorem atLineEnd_whole (bytes : List UInt8) : AtLineEnd (whole bytes) := by
  by_cases h : 0x0a ∈ bytes
  · obtain ⟨u, v, rfl, hv⟩ := split_last h
    rw [whole_of_notMem_tail u hv]
    exact .inr ⟨u, rfl⟩
  · exact .inl (whole_of_notMem h)

theorem whole_ne_nil (h : 0x0a ∈ bytes) : whole bytes ≠ [] := by
  obtain ⟨u, v, rfl, hv⟩ := split_last h
  rw [whole_of_notMem_tail u hv]
  simp

theorem whole_of_atLineEnd (h : AtLineEnd bytes) : whole bytes = bytes := by
  rcases h with rfl | ⟨front, rfl⟩
  · rfl
  · rw [whole_of_notMem_tail front List.not_mem_nil]

theorem wholeLines_cons (u v : List UInt8) : wholeLines (u ++ 0x0a :: v) = u.splitOn 0x0a ++ wholeLines v := by
  by_cases h : 0x0a ∈ v
  · obtain ⟨w, t, rfl, ht⟩ := split_last h
    have hsplit : u ++ 0x0a :: (w ++ 0x0a :: t) = (u ++ 0x0a :: w) ++ 0x0a :: t := by simp
    rw [hsplit, wholeLines, wholeLines, whole_of_notMem_tail _ ht, whole_of_notMem_tail _ ht, if_neg (by simp),
      if_neg (by simp), List.dropLast_concat, List.dropLast_concat, List.splitOn_append_cons_self]
  · rw [wholeLines, wholeLines, whole_of_notMem_tail u h, whole_of_notMem h, if_neg (by simp), if_pos rfl,
      List.dropLast_concat, List.append_nil]

theorem wholeLines_append (h : AtLineEnd u) (v : List UInt8) : wholeLines (u ++ v) = wholeLines u ++ wholeLines v := by
  rcases h with rfl | ⟨front, rfl⟩
  · rfl
  · rw [List.append_assoc, List.singleton_append, wholeLines_cons, wholeLines_cons]
    simp [wholeLines, whole]

theorem AtLineEnd.append (hu : AtLineEnd u) (hv : AtLineEnd v) : AtLineEnd (u ++ v) := by
  rcases hv with rfl | ⟨front, rfl⟩
  · rwa [List.append_nil]
  · exact .inr ⟨u ++ front, by simp⟩

theorem linesWithin_of_length {limit : Nat} (h : bytes.length < limit) : LinesWithin limit bytes := by
  intro before within after hbytes hlength
  rw [hbytes, List.length_append, List.length_append] at h
  omega

end Wardroom.Library.WholeLines
