import Wardroom.Library.Trace

/-! # A lease that several uses share

A use takes the lease before it opens, opens or fails later, and is closed once
it was open. Of those that are open the last to be closed gives the lease up.
A use that fails does nothing about it.
-/

namespace Wardroom.Library

namespace Trace

variable {σ τ α β : Type}

def tellings (step : σ → α → σ) (tell : σ → α → β) : σ → List α → List β
  | _, [] => []
  | s, a :: as => tell s a :: tellings step tell (step s a) as

theorem meets_tellings {step : σ → α → σ} {tell : σ → α → β} {step' : τ → β → τ} {view : σ → τ} {I : σ → Prop}
    {G : σ → α → Prop} {H : τ → β → Prop} (hI : ∀ s a, I s → I (step s a))
    (hview : ∀ s a, I s → view (step s a) = step' (view s) (tell s a))
    (hguard : ∀ s a, I s → (G s a ↔ H (view s) (tell s a))) {s : σ} (hs : I s) (as : List α) :
    Meets step G s as ↔ Meets step' H (view s) (tellings step tell s as) := by
  induction as generalizing s with
  | nil => exact Iff.rfl
  | cons a as ih =>
    rw [tellings, meets_cons, meets_cons, hguard s a hs, ih (hI s a hs), hview s a hs]

end Trace

inductive Use where
  | opening | opened | over
  deriving DecidableEq, Repr

structure SharedLease where
  uses : List Use
  held : Bool
  deriving DecidableEq, Repr

inductive LeaseEvent where
  | take
  | opens (i : Nat)
  | fails (i : Nat)
  | closes (i : Nat)
  | idle
  deriving DecidableEq, Repr

namespace SharedLease

def step (l : SharedLease) : LeaseEvent → SharedLease
  | .take => ⟨l.uses ++ [.opening], true⟩
  | .opens i => { l with uses := l.uses.set i .opened }
  | .fails i => { l with uses := l.uses.set i .over }
  | .closes i => ⟨l.uses.set i .over, l.held && (l.uses.set i .over).contains .opened⟩
  | .idle => l

/-- The event can happen to the use it is about. -/
def Enabled (l : SharedLease) : LeaseEvent → Prop
  | .opens i | .fails i => l.uses[i]? = some .opening
  | .closes i => l.uses[i]? = some .opened
  | .take | .idle => True

/-- The lease is held under every use that is open, and not when all of them are over. -/
structure Good (l : SharedLease) : Prop where
  held : .opened ∈ l.uses → l.held = true
  givenUp : l.uses ≠ [] → (∀ u ∈ l.uses, u = .over) → l.held = false

/-- A use opens under a lease that is held. One that fails leaves another, or no lease. -/
def Safe (l : SharedLease) : LeaseEvent → Prop
  | .opens _ => l.held = true
  | .fails i => l.held = true → ∃ u ∈ l.uses.set i .over, u ≠ .over
  | .take | .closes _ | .idle => True

instance (l : SharedLease) : DecidablePred (Safe l) := fun e => by
  cases e <;> unfold Safe <;> infer_instance

variable {l : SharedLease} {i : Nat}

theorem good_nil (held : Bool) : Good ⟨[], held⟩ :=
  ⟨fun hopened => (List.not_mem_nil hopened).elim, fun hnonempty => (hnonempty rfl).elim⟩

theorem opened_of_set_over (h : .opened ∈ l.uses.set i .over) : .opened ∈ l.uses := by
  rcases List.mem_or_eq_of_mem_set h with hmem | hbad
  · exact hmem
  · cases hbad

theorem good_take : Good (l.step .take) := by
  refine ⟨fun _ => rfl, fun _ hover => ?_⟩
  have hbad := hover .opening (List.mem_append_right _ (List.mem_singleton.mpr rfl))
  cases hbad

theorem good_opens_iff (henabled : l.Enabled (.opens i)) : Good (l.step (.opens i)) ↔ l.held = true := by
  obtain ⟨hi, -⟩ := List.getElem?_eq_some_iff.mp henabled
  have hopened : .opened ∈ l.uses.set i .opened := List.mem_set hi _
  constructor
  · intro hgood
    exact hgood.held hopened
  · intro hheld
    refine ⟨fun _ => hheld, fun _ hover => ?_⟩
    have hbad := hover .opened hopened
    cases hbad

theorem good_fails_iff (hgood : Good l) (henabled : l.Enabled (.fails i)) :
    Good (l.step (.fails i)) ↔ l.Safe (.fails i) := by
  obtain ⟨hi, -⟩ := List.getElem?_eq_some_iff.mp henabled
  have hnonempty : l.uses.set i .over ≠ [] := List.ne_nil_of_mem (List.mem_set hi _)
  constructor
  · intro hgood' hheld
    by_contra hnone
    push Not at hnone
    have hfree : l.held = false := hgood'.givenUp hnonempty hnone
    rw [hheld] at hfree
    cases hfree
  · intro hsafe
    refine ⟨fun hopened => hgood.held (opened_of_set_over hopened), fun _ hover => ?_⟩
    cases hheld : l.held with
    | false => exact hheld
    | true =>
      obtain ⟨u, hu, hleft⟩ := hsafe hheld
      exact (hleft (hover u hu)).elim

theorem good_closes (hgood : Good l) : Good (l.step (.closes i)) := by
  constructor
  · intro hopened
    change (l.held && (l.uses.set i .over).contains .opened) = true
    rw [hgood.held (opened_of_set_over hopened), Bool.true_and, List.contains_iff_mem]
    exact hopened
  · intro _ hover
    change (l.held && (l.uses.set i .over).contains .opened) = false
    rw [Bool.and_eq_false_iff]
    right
    rw [Bool.eq_false_iff, ne_eq, List.contains_iff_mem]
    intro hopened
    have hbad := hover .opened hopened
    cases hbad

theorem good_step_iff (hgood : Good l) {e : LeaseEvent} (henabled : l.Enabled e) : Good (l.step e) ↔ l.Safe e := by
  cases e with
  | take => exact iff_of_true good_take trivial
  | opens i => exact good_opens_iff henabled
  | fails i => exact good_fails_iff hgood henabled
  | closes i => exact iff_of_true (good_closes hgood) trivial
  | idle => exact iff_of_true hgood trivial

theorem good_run_iff (hgood : Good l) {es : List LeaseEvent} (henabled : Trace.Meets step Enabled l es) :
    Trace.Meets step (fun l e => Good (l.step e)) l es ↔ Trace.Meets step Safe l es := by
  induction es generalizing l with
  | nil => exact Iff.rfl
  | cons e es ih =>
    rw [Trace.meets_cons, Trace.meets_cons, good_step_iff hgood henabled.1]
    refine and_congr_right fun hsafe => ?_
    exact ih ((good_step_iff hgood henabled.1).mpr hsafe) henabled.2

end SharedLease
end Wardroom.Library
