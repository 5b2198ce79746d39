import Mathlib.Data.List.Basic
import Mathlib.Data.List.Nodup

/-! # Heads of ordered lists and first occurrences -/

namespace Wardroom.Library

variable {α : Type}

/-- The head of an ordered list reaches past everything that is not behind one of its elements. -/
theorem of_mem_takeWhile {R : α → α → Prop} {p : α → Bool} {l : List α} {a b : α}
    (hsorted : l.Pairwise R) (ha : a ∈ l.takeWhile p) (hb : b ∈ l) (hbehind : ¬R a b) :
    p b = true := by
  induction l with
  | nil => cases hb
  | cons x l ih =>
    by_cases hx : p x = true
    · rw [List.takeWhile_cons_of_pos hx] at ha
      rcases List.mem_cons.mp hb with rfl | hlater
      · exact hx
      · rcases List.mem_cons.mp ha with rfl | ha
        · exact absurd ((List.pairwise_cons.mp hsorted).1 b hlater) hbehind
        · exact ih (List.pairwise_cons.mp hsorted).2 ha hlater
    · rw [List.takeWhile_cons_of_neg hx] at ha
      cases ha

theorem nodup_eraseDups [DecidableEq α] (l : List α) : l.eraseDups.Nodup := by
  induction hn : l.length using Nat.strongRecOn generalizing l with
  | _ n ih =>
    cases l with
    | nil => exact List.nodup_nil
    | cons a l =>
      rw [List.eraseDups_cons, List.nodup_cons]
      refine ⟨fun h => ?_, ih _ ?_ _ rfl⟩
      · have hmem := List.mem_eraseDups.mp h
        simp at hmem
      · have hle := List.length_filter_le (fun b => !b == a) l
        rw [List.length_cons] at hn
        omega

theorem sublist_of_filterMap {α β : Type} {f : α → Option β} {g : β → α}
    (h : ∀ a b, f a = some b → g b = a) (l : List α) : ((l.filterMap f).map g).Sublist l := by
  induction l with
  | nil => exact .slnil
  | cons a l ih =>
    cases hf : f a with
    | none =>
      rw [List.filterMap_cons_none hf]
      exact ih.cons a
    | some b =>
      rw [List.filterMap_cons_some hf, List.map_cons, h a b hf]
      exact ih.cons_cons a

theorem length_filter_le_one {p : α → Bool} {l : List α}
    (h : ∀ (i j : Nat) a b, l[i]? = some a → l[j]? = some b → p a = true → p b = true → i = j) :
    (l.filter p).length ≤ 1 := by
  induction l with
  | nil => simp
  | cons a l ih =>
    by_cases ha : p a = true
    · have hnone : l.filter p = [] := by
        apply List.filter_eq_nil_iff.mpr
        intro b hb hpb
        obtain ⟨j, hj⟩ := List.mem_iff_getElem?.mp hb
        have hsame := h 0 (j + 1) a b rfl hj ha hpb
        omega
      simp [ha, hnone]
    · rw [List.filter_cons_of_neg ha]
      apply ih
      intro i j b c hb hc hpb hpc
      have hsame := h (i + 1) (j + 1) b c hb hc hpb hpc
      omega

theorem count_le_of_getElem? [BEq α] [LawfulBEq α] {a : α} :
    ∀ {xs ys : List α}, (∀ i : Nat, ys[i]? = some a → xs[i]? = some a) → ys.count a ≤ xs.count a
  | _, [], _ => by simp
  | [], y :: ys, h => by
    have hnone : a ∉ y :: ys := by
      intro hmem
      obtain ⟨i, hi⟩ := List.mem_iff_getElem?.mp hmem
      simpa using h i hi
    simp [List.count_eq_zero.mpr hnone]
  | x :: xs, y :: ys, h => by
    have htail : ys.count a ≤ xs.count a := count_le_of_getElem? fun i hi => by simpa using h (i + 1) (by simpa using hi)
    by_cases hy : y = a
    · have hx : x = a := by simpa using h 0 (by simp [hy])
      simp [hx, hy, htail]
    · rw [List.count_cons_of_ne hy]
      exact Nat.le_trans htail List.count_le_count_cons

/-- What is set to something that looks the same does not change how the list looks. -/
theorem map_set_of_eq {α β : Type} {f : α → β} {l : List α} {i : Nat} {a b : α} (ha : l[i]? = some a) (h : f b = f a) :
    (l.set i b).map f = l.map f := by
  obtain ⟨hlt, rfl⟩ := List.getElem?_eq_some_iff.mp ha
  apply List.ext_getElem?
  intro j
  rw [List.getElem?_map, List.getElem?_map, List.getElem?_set]
  split_ifs with hij
  · subst hij
    simp [hlt, h]
  · rfl

theorem split_at_last {a : α} {xs₁ xs₂ ys₁ ys₂ : List α} (h₁ : a ∉ ys₁) (h₂ : a ∉ ys₂)
    (h : xs₁ ++ a :: ys₁ = xs₂ ++ a :: ys₂) : xs₁ = xs₂ ∧ ys₁ = ys₂ := by
  rcases List.append_eq_append_iff.mp h with ⟨zs, rfl, heq⟩ | ⟨zs, rfl, heq⟩
  all_goals
    cases zs with
    | nil => simpa [eq_comm] using heq
    | cons z zs =>
      obtain ⟨rfl, rfl⟩ := List.cons.inj heq
      simp at h₁ h₂

theorem split_at_first {a : α} {xs₁ xs₂ ys₁ ys₂ : List α} (h₁ : a ∉ xs₁) (h₂ : a ∉ xs₂)
    (h : xs₁ ++ a :: ys₁ = xs₂ ++ a :: ys₂) : xs₁ = xs₂ ∧ ys₁ = ys₂ := by
  have hreverse := congrArg List.reverse h
  simp only [List.reverse_append, List.reverse_cons, List.append_assoc, List.singleton_append] at hreverse
  have hsplit := split_at_last (by simpa using h₁) (by simpa using h₂) hreverse
  simpa [and_comm] using hsplit

theorem getLast?_filter_eq_some {p : α → Bool} {l : List α} {a : α} (h : (l.filter p).getLast? = some a) :
    ∃ front back, l = front ++ a :: back ∧ p a = true ∧ ∀ b ∈ back, p b = false := by
  induction l with
  | nil => cases h
  | cons x l ih =>
    cases hrest : (l.filter p).getLast? with
    | none =>
      have hnone : l.filter p = [] := List.getLast?_eq_none_iff.mp hrest
      by_cases hx : p x = true
      · rw [List.filter_cons_of_pos hx, hnone] at h
        cases h
        refine ⟨[], l, rfl, hx, fun b hb => ?_⟩
        simpa using List.filter_eq_nil_iff.mp hnone b hb
      · rw [List.filter_cons_of_neg hx, hnone] at h
        cases h
    | some b =>
      have hsame : b = a := by
        by_cases hx : p x = true
        · rw [List.filter_cons_of_pos hx, List.getLast?_cons, hrest] at h
          simpa using h
        · rw [List.filter_cons_of_neg hx, hrest] at h
          simpa using h
      obtain ⟨front, back, rfl, ha, hback⟩ := ih (by rw [hrest, hsame])
      exact ⟨x :: front, back, rfl, ha, hback⟩

end Wardroom.Library
