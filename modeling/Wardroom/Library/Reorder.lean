import Mathlib

/-! # Lists that are equal up to order and a relation of their elements -/

namespace Wardroom.Library

variable {α β : Type} {R : α → α → Prop} {l l' : List α}

/-- The elements of one list, in another order, stand in the relation to those of the other list. -/
def Reorders (R : α → α → Prop) (l l' : List α) : Prop := ∃ m, l.Perm m ∧ List.Forall₂ R m l'

namespace Reorders

theorem flatMap (h : Reorders R l l') {f : α → List β} (hf : ∀ a b, R a b → (f a).Perm (f b)) :
    (l.flatMap f).Perm (l'.flatMap f) := by
  obtain ⟨m, hperm, hm⟩ := h
  apply (hperm.flatMap_right f).trans
  clear hperm
  induction hm with
  | nil => exact .nil
  | cons hab _ ih =>
    rw [List.flatMap_cons, List.flatMap_cons]
    exact (hf _ _ hab).append ih

end Reorders

end Wardroom.Library
