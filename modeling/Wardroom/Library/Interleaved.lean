import Mathlib.Data.List.Basic

/-! # Streams of several writers

Every piece of a stream has its writer. The pieces of a writer form a block if
nobody else's stand between them; the block is open while it is the end of the
stream.
-/

namespace Wardroom.Library.Interleaved

variable {κ β : Type} {k : κ} {xs ys : List (κ × β)} {bs cs : List β}

def Absent (k : κ) (xs : List (κ × β)) : Prop := ∀ x ∈ xs, x.1 ≠ k

def OneBlock (k : κ) (xs : List (κ × β)) (bs : List β) : Prop :=
  ∃ before after, xs = before ++ bs.map (k, ·) ++ after ∧ Absent k before ∧ Absent k after

def OpenBlock (k : κ) (xs : List (κ × β)) (bs : List β) : Prop :=
  ∃ before, xs = before ++ bs.map (k, ·) ∧ Absent k before

theorem Absent.append (hx : Absent k xs) (hy : Absent k ys) : Absent k (xs ++ ys) := by
  intro x hmem
  rcases List.mem_append.mp hmem with h | h
  · exact hx x h
  · exact hy x h

theorem Absent.openBlock (h : Absent k xs) : OpenBlock k xs ([] : List β) := ⟨xs, by simp, h⟩

theorem absent_map {l : κ} (h : l ≠ k) (bs : List β) : Absent k (bs.map (l, ·)) := by
  intro x hx
  obtain ⟨b, -, rfl⟩ := List.mem_map.mp hx
  exact h

theorem OpenBlock.oneBlock (h : OpenBlock k xs bs) : OneBlock k xs bs := by
  obtain ⟨before, rfl, hbefore⟩ := h
  exact ⟨before, [], by simp, hbefore, by simp [Absent]⟩

/-- The writer goes on. -/
theorem OpenBlock.append (h : OpenBlock k xs bs) (cs : List β) : OpenBlock k (xs ++ cs.map (k, ·)) (bs ++ cs) := by
  obtain ⟨before, rfl, hbefore⟩ := h
  exact ⟨before, by simp, hbefore⟩

/-- Somebody else writes. -/
theorem OneBlock.append (h : OneBlock k xs bs) (hy : Absent k ys) : OneBlock k (xs ++ ys) bs := by
  obtain ⟨before, after, rfl, hbefore, hafter⟩ := h
  exact ⟨before, after ++ ys, by simp, hbefore, hafter.append hy⟩

theorem OpenBlock.absent (h : OpenBlock k xs []) : Absent k xs := by
  obtain ⟨before, rfl, hbefore⟩ := h
  simpa using hbefore

theorem OneBlock.interval (h : OneBlock k xs bs) :
    ∃ n, ∀ i x, xs[i]? = some x → (x.1 = k ↔ n ≤ i ∧ i < n + bs.length) := by
  obtain ⟨before, after, rfl, hbefore, hafter⟩ := h
  refine ⟨before.length, fun i x hi => ?_⟩
  rw [List.append_assoc, List.getElem?_append] at hi
  split_ifs at hi with hlow
  · have hother := hbefore x (List.mem_of_getElem? hi)
    simp only [hother, false_iff]
    omega
  · rw [List.getElem?_append, List.length_map] at hi
    split_ifs at hi with hhigh
    · obtain ⟨b, -, rfl⟩ := List.mem_map.mp (List.mem_of_getElem? hi)
      simp only [true_iff]
      omega
    · have hother := hafter x (List.mem_of_getElem? hi)
      simp only [hother, false_iff]
      omega

end Wardroom.Library.Interleaved
