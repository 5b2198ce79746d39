import Mathlib.Data.List.Infix

/-! # Where a pattern stands in a text that is read by windows

A window that starts one element less than the pattern's length before the end of what has
been read shows exactly the occurrences that end past it.
-/

namespace Wardroom.Library.Occurrences

variable {α : Type} {pattern text more body : List α} {p offset stop : Nat}

/-- The pattern stands at a place of the text. -/
def At (pattern text : List α) (p : Nat) : Prop := ∃ before after, text = before ++ pattern ++ after ∧ before.length = p

/-- It stands somewhere in the first elements of the text. -/
def Within (pattern text : List α) (stop : Nat) : Prop := ∃ p, At pattern text p ∧ p + pattern.length ≤ stop

theorem infix_iff : pattern <:+: text ↔ ∃ p, At pattern text p := by
  constructor
  · rintro ⟨before, after, h⟩
    exact ⟨before.length, before, after, h.symm, rfl⟩
  · rintro ⟨_, before, after, h, -⟩
    exact ⟨before, after, h.symm⟩

theorem At.le (h : At pattern text p) : p + pattern.length ≤ text.length := by
  obtain ⟨before, after, rfl, rfl⟩ := h
  simp

theorem at_append (h : p + pattern.length ≤ text.length) : At pattern (text ++ more) p ↔ At pattern text p := by
  constructor
  · rintro ⟨before, after, heq, rfl⟩
    rw [List.append_eq_append_iff] at heq
    rcases heq with ⟨rest, hlong, rfl⟩ | ⟨rest, rfl, -⟩
    · have hlength := congrArg List.length hlong
      simp only [List.length_append] at hlength
      have hnone : rest = [] := List.eq_nil_of_length_eq_zero (by omega)
      subst hnone
      exact ⟨before, [], by simpa using hlong.symm, rfl⟩
    · exact ⟨before, rest, rfl, rfl⟩
  · rintro ⟨before, after, rfl, rfl⟩
    exact ⟨before, after ++ more, by simp, rfl⟩

theorem at_drop (start : Nat) (h : start ≤ text.length) : At pattern (text.drop start) p ↔ At pattern text (start + p) := by
  have hsplit := List.take_append_drop start text
  have hfront : (text.take start).length = start := List.length_take_of_le h
  constructor
  · rintro ⟨before, after, hdrop, rfl⟩
    refine ⟨text.take start ++ before, after, ?_, by rw [List.length_append, hfront]⟩
    rw [List.append_assoc, List.append_assoc, ← List.append_assoc before, ← hdrop, hsplit]
  · rintro ⟨before, after, rfl, hlength⟩
    refine ⟨before.drop start, after, ?_, by rw [List.length_drop]; omega⟩
    rw [List.append_assoc, List.drop_append_of_le_length (by omega), List.append_assoc]

theorem at_window {start : Nat} (h : start ≤ text.length) (hbody : body <+: text.drop start) :
    At pattern body p ↔ At pattern text (start + p) ∧ p + pattern.length ≤ body.length := by
  obtain ⟨rest, hrest⟩ := hbody
  rw [← at_drop start h, ← hrest]
  constructor
  · intro hat
    exact ⟨(at_append hat.le).mpr hat, hat.le⟩
  · rintro ⟨hat, hstop⟩
    exact (at_append hstop).mp hat

/-- A window that overlaps what has been read by one element less than the pattern has shows the occurrences that end
past it, and no others. -/
theorem infix_window_iff (hpattern : pattern ≠ []) (hoffset : offset ≤ text.length)
    (hbody : body <+: text.drop (offset - (pattern.length - 1))) :
    pattern <:+: body ↔ ∃ p, At pattern text p ∧ offset < p + pattern.length ∧
      p + pattern.length ≤ max offset (offset - (pattern.length - 1) + body.length) := by
  have hpos : 0 < pattern.length := List.length_pos_of_ne_nil hpattern
  have hstart : offset - (pattern.length - 1) ≤ text.length := by omega
  rw [infix_iff]
  constructor
  · rintro ⟨q, hat⟩
    obtain ⟨hthere, hfits⟩ := (at_window hstart hbody).mp hat
    exact ⟨_, hthere, by omega, by omega⟩
  · rintro ⟨p, hat, hpast, hstop⟩
    have hplace : offset - (pattern.length - 1) + (p - (offset - (pattern.length - 1))) = p := by omega
    refine ⟨p - (offset - (pattern.length - 1)), (at_window hstart hbody).mpr ⟨?_, by omega⟩⟩
    rwa [hplace]

end Wardroom.Library.Occurrences
