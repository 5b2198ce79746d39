import Mathlib.Data.List.Basic

/-! # Logs that account for a view

A reader holds a view of some state and follows a log. The log accounts for the
step from one state to another when it only grew, and the reader who applies the
new entries ends up with the new view. Views are compared up to a relation that
applying an entry respects.
-/

namespace Wardroom.Library.Replay

variable {σ ε δ : Type}

/-- What a reader of the entries makes of a view. -/
def replay (apply : σ → ε → σ) (view : σ) (entries : List ε) : σ := entries.foldl apply view

/-- The log of `d'` continues that of `d`, and its new entries turn the one view into the other. -/
def Accounts (apply : σ → ε → σ) (R : σ → σ → Prop) (log : δ → List ε) (view : δ → σ)
    (d d' : δ) : Prop :=
  ∃ entries, log d' = log d ++ entries ∧ R (replay apply (view d) entries) (view d')

variable {apply : σ → ε → σ} {R : σ → σ → Prop} {log : δ → List ε} {view : δ → σ} {d d' d'' : δ}

theorem replay_append (s : σ) (es fs : List ε) :
    replay apply s (es ++ fs) = replay apply (replay apply s es) fs := List.foldl_append

theorem replay_respects (happly : ∀ s t e, R s t → R (apply s e) (apply t e)) {s t : σ}
    (h : R s t) (es : List ε) : R (replay apply s es) (replay apply t es) := by
  induction es generalizing s t with
  | nil => exact h
  | cons e es ih => exact ih (happly s t e h)

theorem Accounts.of_unlogged (hlog : log d' = log d) (h : R (view d) (view d')) :
    Accounts apply R log view d d' :=
  ⟨[], by rw [hlog, List.append_nil], h⟩

theorem Accounts.of_entry {e : ε} (hlog : log d' = log d ++ [e])
    (h : R (apply (view d) e) (view d')) : Accounts apply R log view d d' :=
  ⟨[e], hlog, h⟩

theorem Accounts.trans (happly : ∀ s t e, R s t → R (apply s e) (apply t e))
    (htrans : ∀ s t u, R s t → R t u → R s u) (h : Accounts apply R log view d d')
    (h' : Accounts apply R log view d' d'') : Accounts apply R log view d d'' := by
  obtain ⟨es, hlog, hview⟩ := h
  obtain ⟨fs, hlog', hview'⟩ := h'
  refine ⟨es ++ fs, ?_, ?_⟩
  · rw [hlog', hlog, List.append_assoc]
  · rw [replay_append]
    exact htrans _ _ _ (replay_respects happly hview fs) hview'

end Wardroom.Library.Replay
