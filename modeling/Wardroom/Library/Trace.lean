import Mathlib.Data.List.Basic

/-! # Runs of a step function

A run folds a step over a list of actions. `Meets G s as` says that every
action of the run satisfies the guard `G` in the state it is taken in.
-/

namespace Wardroom.Library.Trace

variable {σ α : Type} (step : σ → α → σ)

def run (s : σ) (as : List α) : σ := as.foldl step s

def Meets (G : σ → α → Prop) : σ → List α → Prop
  | _, [] => True
  | s, a :: as => G s a ∧ Meets G (step s a) as

instance decidableMeets (G : σ → α → Prop) [∀ s a, Decidable (G s a)] :
    ∀ s as, Decidable (Meets step G s as)
  | _, [] => isTrue trivial
  | s, a :: as =>
    have := decidableMeets G (step s a) as
    inferInstanceAs (Decidable (_ ∧ _))

variable {step} {G H : σ → α → Prop} {I : σ → Prop}

@[simp] theorem run_nil (s : σ) : run step s [] = s := rfl

@[simp] theorem run_cons (s : σ) (a : α) (as : List α) :
    run step s (a :: as) = run step (step s a) as := rfl

theorem run_append (s : σ) (as bs : List α) :
    run step s (as ++ bs) = run step (run step s as) bs := List.foldl_append

@[simp] theorem meets_nil (s : σ) : Meets step G s [] := trivial

@[simp] theorem meets_cons (s : σ) (a : α) (as : List α) :
    Meets step G s (a :: as) ↔ G s a ∧ Meets step G (step s a) as := Iff.rfl

theorem meets_append (s : σ) (as bs : List α) :
    Meets step G s (as ++ bs) ↔ Meets step G s as ∧ Meets step G (run step s as) bs := by
  induction as generalizing s with
  | nil => simp
  | cons a as ih => simp [ih, and_assoc]

theorem meets_of_forall (h : ∀ s a, G s a) (s : σ) (as : List α) : Meets step G s as := by
  induction as generalizing s with
  | nil => trivial
  | cons a as ih => exact ⟨h s a, ih _⟩

theorem meets_of_splits {s : σ} {as : List α}
    (h : ∀ before a after, as = before ++ a :: after → G (run step s before) a) : Meets step G s as := by
  induction as generalizing s with
  | nil => trivial
  | cons a as ih =>
    refine ⟨h [] a as rfl, ih fun before b after hsplit => ?_⟩
    exact h (a :: before) b after (congrArg (a :: ·) hsplit)

theorem Meets.mono (hGH : ∀ s a, G s a → H s a) {s : σ} {as : List α}
    (h : Meets step G s as) : Meets step H s as := by
  induction as generalizing s with
  | nil => trivial
  | cons a as ih => exact ⟨hGH s a h.1, ih h.2⟩

/-- An invariant that every guarded step preserves holds wherever a guarded run ends. -/
theorem invariant_run (hstep : ∀ s a, I s → G s a → I (step s a)) {s : σ} {as : List α}
    (hs : I s) (h : Meets step G s as) : I (run step s as) := by
  induction as generalizing s with
  | nil => exact hs
  | cons a as ih => exact ih (hstep s a hs h.1) h.2

theorem invariant_of_step (hstep : ∀ s a, I s → I (step s a)) {s : σ} (hs : I s) (as : List α) :
    I (run step s as) :=
  invariant_run (fun s a hI (_ : True) => hstep s a hI) hs
    (meets_of_forall (fun _ _ => trivial) s as)

/-- The actions of a run that satisfy `p` in the state they are taken in. -/
def taken (step : σ → α → σ) (p : σ → α → Bool) : σ → List α → List α
  | _, [] => []
  | s, a :: as => if p s a then a :: taken step p (step s a) as else taken step p (step s a) as

theorem taken_sublist (p : σ → α → Bool) (s : σ) (as : List α) : (taken step p s as).Sublist as := by
  induction as generalizing s with
  | nil => exact .slnil
  | cons a as ih =>
    unfold taken
    cases p s a with
    | true => exact (ih _).cons_cons a
    | false => exact (ih _).cons a

/-- What grows by one observation at each selected step records the selected actions in order. -/
theorem observed_run {β : Type} (p : σ → α → Bool) (observe : σ → List β) (f : α → β)
    (hI : ∀ s a, I s → I (step s a))
    (hstep : ∀ s a, I s → observe (step s a) = observe s ++ if p s a then [f a] else [])
    {s : σ} (hs : I s) (as : List α) :
    observe (run step s as) = observe s ++ (taken step p s as).map f := by
  induction as generalizing s with
  | nil => simp [taken]
  | cons a as ih =>
    rw [run_cons, ih (hI s a hs), hstep s a hs, List.append_assoc]
    cases hp : p s a <;> simp [taken, hp]

/-- A step that keeps the states it has left, the latest first. -/
def recorded (step : σ → α → σ) (s : σ × List σ) (a : α) : σ × List σ := (step s.1 a, s.1 :: s.2)

/-- A guard on the present state is met by the recorded run where it is met by the run. -/
theorem meets_recorded {s : σ × List σ} {as : List α} (h : Meets step G s.1 as) :
    Meets (recorded step) (fun s a => G s.1 a) s as := by
  induction as generalizing s with
  | nil => trivial
  | cons a as ih => exact ⟨h.1, ih h.2⟩

/-- What an invariant gives at each step of a guarded run holds at each of its steps. -/
theorem meets_of_invariant {P : σ → α → Prop} (hstep : ∀ s a, I s → G s a → I (step s a))
    (hP : ∀ s a, I s → G s a → P s a) {s : σ} {as : List α} (hs : I s) (h : Meets step G s as) :
    Meets step P s as := by
  induction as generalizing s with
  | nil => trivial
  | cons a as ih => exact ⟨hP s a hs h.1, ih (hstep s a hs h.1) h.2⟩

end Wardroom.Library.Trace
