import Mathlib.Logic.Relation
import Wardroom.Library.Trace

/-! # A file that is replaced under a lock file

A call creates a lock file that must not exist, looks at the file, reads it,
decides what it shall hold, writes that to a draft of its own, renames the draft
over the file, and removes the lock. Its steps interleave with those of other
calls, and it may stop for good before any of them. The file only ever holds
what some call decided on what the file held before; the lock of a call that
stopped inside stays.
-/

namespace Wardroom.Library.LockedFile
open Trace (run)

/-- Why a call threw. -/
inductive Refusal (ε : Type) where
  /-- `EEXIST`. -/
  | locked
  /-- `ENOENT`. -/
  | missing
  | refused (reason : ε)
  deriving DecidableEq, Repr

/-- What a call does next. -/
inductive Phase (υ ε : Type) where
  /-- It creates the lock file. -/
  | locking
  /-- It looks whether the file exists. -/
  | looking
  | reading
  /-- It creates its draft. -/
  | creating (content : List υ)
  | writing (left : List υ)
  | replacing
  /-- It removes its draft, which has been renamed. -/
  | cleaning
  | unlocking (refusal : Option (Refusal ε))
  | ended (refusal : Option (Refusal ε))
  | crashed
  deriving DecidableEq, Repr

/-- Between the lock file and its removal. -/
def Phase.inside {υ ε : Type} : Phase υ ε → Bool
  | .locking | .ended _ | .crashed => false
  | _ => true

def Phase.isLive {υ ε : Type} : Phase υ ε → Bool
  | .ended _ | .crashed => false
  | _ => true

/-- Not beyond the lock, or over without success. -/
def Phase.fails {υ ε : Type} : Phase υ ε → Bool
  | .locking | .ended (some _) | .crashed => true
  | _ => false

inductive Event (α : Type) where
  | begin (call : Nat) (update : α)
  | advance (call : Nat)
  /-- A write comes `n` units further. -/
  | part (call n : Nat)
  | crash (call : Nat)

/-- The drafts have the names of their calls. -/
structure Files (α υ ε : Type) where
  lock : Bool := false
  file : Option (List υ) := none
  drafts : Nat → Option (List υ) := fun _ => none
  calls : Nat → Option (α × Phase υ ε) := fun _ => none

variable {α υ ε : Type} (allow : α → Except ε Unit) (plan : α → Option (List υ) → Except ε (List υ))

namespace Files

def move (s : Files α υ ε) (i : Nat) (a : α) (phase : Phase υ ε) : Files α υ ε :=
  { s with calls := Function.update s.calls i (some (a, phase)) }

def draft (s : Files α υ ε) (i : Nat) (content : Option (List υ)) : Files α υ ε :=
  { s with drafts := Function.update s.drafts i content }

end Files

@[simp] theorem Files.move_self (s : Files α υ ε) (i : Nat) (a : α) (phase : Phase υ ε) :
    (s.move i a phase).calls i = some (a, phase) := Function.update_self _ _ _

@[simp] theorem Files.move_of_ne {i j : Nat} (h : j ≠ i) (s : Files α υ ε) (a : α) (phase : Phase υ ε) :
    (s.move i a phase).calls j = s.calls j := Function.update_of_ne h _ _

/-- What a call makes of its decision. -/
def decided : Except ε (List υ) → Phase υ ε
  | .ok content => .creating content
  | .error reason => .unlocking (some (.refused reason))

/-- The next step of a call on the files. -/
def advance (s : Files α υ ε) (i : Nat) (a : α) : Phase υ ε → Files α υ ε
  | .locking =>
    if s.lock then s.move i a (.ended (some .locked)) else { s with lock := true }.move i a .looking
  | .looking => s.move i a (if s.file.isSome then .reading else decided (plan a none))
  | .reading =>
    match s.file with
    | some content => s.move i a (decided (plan a (some content)))
    | none => s.move i a (.unlocking (some .missing))
  | .creating content => (s.draft i (some [])).move i a (.writing content)
  | .writing left => (s.draft i ((s.drafts i).map fun written => written ++ left)).move i a .replacing
  | .replacing =>
    match s.drafts i with
    | some content => ({ s with file := some content }.draft i none).move i a .cleaning
    | none => s.move i a (.unlocking (some .missing))
  | .cleaning => (s.draft i none).move i a (.unlocking none)
  | .unlocking refusal =>
    if s.lock then { s with lock := false }.move i a (.ended refusal) else s.move i a (.ended (some .missing))
  | .ended _ => s
  | .crashed => s

def step (s : Files α υ ε) : Event α → Files α υ ε
  | .begin i a =>
    match s.calls i, allow a with
    | some _, _ => s
    | none, .ok _ => s.move i a .locking
    | none, .error reason => s.move i a (.ended (some (.refused reason)))
  | .advance i =>
    match s.calls i with
    | some (a, phase) => advance plan s i a phase
    | none => s
  | .part i n =>
    match s.calls i with
    | some (a, .writing left) =>
      (s.draft i ((s.drafts i).map fun written => written ++ left.take n)).move i a (.writing (left.drop n))
    | _ => s
  | .crash i =>
    match s.calls i with
    | some (a, phase) => if phase.isLive then s.move i a .crashed else s
    | none => s

/-- No call is between its lock and the end of it. -/
def Quiet (s : Files α υ ε) : Prop := ∀ i a phase, s.calls i = some (a, phase) → phase.inside = false

/-- The same without the call `i`. -/
def QuietBut (s : Files α υ ε) (i : Nat) : Prop :=
  ∀ j a phase, j ≠ i → s.calls j = some (a, phase) → phase.inside = false

/-- What is known of a call in a phase, with what the file and its draft hold. -/
def Holds (file draft : Option (List υ)) (a : α) : Phase υ ε → Prop
  | .locking | .looking | .reading => allow a = .ok ()
  | .creating content => allow a = .ok () ∧ plan a file = .ok content
  | .writing left => allow a = .ok () ∧ ∃ written, draft = some written ∧ plan a file = .ok (written ++ left)
  | .replacing => allow a = .ok () ∧ ∃ content, draft = some content ∧ plan a file = .ok content
  | .cleaning | .unlocking _ => allow a = .ok ()
  | .ended _ | .crashed => True

/-- One call at a time is inside, and then the lock exists. -/
structure Sound (s : Files α υ ε) : Prop where
  locked : ∀ i a phase, s.calls i = some (a, phase) → phase.inside = true → s.lock = true
  alone : ∀ i a phase, s.calls i = some (a, phase) → phase.inside = true → QuietBut s i
  holds : ∀ i a phase, s.calls i = some (a, phase) → Holds allow plan s.file (s.drafts i) a phase

variable {allow plan} {s t : Files α υ ε} {i : Nat} {a : α} {phase : Phase υ ε}

theorem Holds.outside {file draft file' draft' : Option (List υ)} (h : Holds allow plan file draft a phase)
    (hphase : phase.inside = false) : Holds allow plan file' draft' a phase := by
  cases phase with
  | locking => exact h
  | ended refusal => trivial
  | crashed => trivial
  | _ => cases hphase

theorem holds_decided {file draft : Option (List υ)} (hallow : allow a = .ok ()) :
    Holds allow plan file draft a (decided (plan a file)) := by
  cases hplan : plan a file with
  | ok content => exact ⟨hallow, hplan⟩
  | error reason => exact hallow

theorem Sound.quiet (h : Sound allow plan s) (hlock : s.lock = false) : Quiet s := by
  intro j b other hcall
  by_contra hinside
  have hlocked := h.locked j b other hcall (Bool.not_eq_false _ ▸ hinside)
  rw [hlock] at hlocked
  cases hlocked

/-- One call moves on. The others notice nothing, or are all outside. -/
theorem Sound.move (h : Sound allow plan s) (hcalls : t.calls = Function.update s.calls i (some (a, phase)))
    (hdrafts : ∀ j, j ≠ i → t.drafts j = s.drafts j)
    (hothers : QuietBut s i ∨ t.file = s.file ∧ t.lock = s.lock ∧ phase.inside = false)
    (hlock : phase.inside = true → t.lock = true)
    (hholds : Holds allow plan t.file (t.drafts i) a phase) : Sound allow plan t := by
  have hself {b : α} {other : Phase υ ε} (hcall : t.calls i = some (b, other)) : b = a ∧ other = phase := by
    rw [hcalls, Function.update_self] at hcall
    cases hcall
    exact ⟨rfl, rfl⟩
  have hother {j : Nat} (hne : j ≠ i) : t.calls j = s.calls j := by
    rw [hcalls, Function.update_of_ne hne]
  constructor
  case locked =>
    intro j b other hcall hinside
    by_cases hj : j = i
    · subst hj
      obtain ⟨rfl, rfl⟩ := hself hcall
      exact hlock hinside
    · rw [hother hj] at hcall
      rcases hothers with hquiet | hsame
      · rw [hquiet j b other hj hcall] at hinside
        cases hinside
      · rw [hsame.2.1]
        exact h.locked j b other hcall hinside
  case alone =>
    intro j b other hcall hinside k c third hk hthird
    by_cases hj : j = i
    · subst hj
      obtain ⟨rfl, rfl⟩ := hself hcall
      rw [hother hk] at hthird
      rcases hothers with hquiet | hsame
      · exact hquiet k c third hk hthird
      · rw [hsame.2.2] at hinside
        cases hinside
    · rw [hother hj] at hcall
      rcases hothers with hquiet | hsame
      · rw [hquiet j b other hj hcall] at hinside
        cases hinside
      · by_cases hki : k = i
        · subst hki
          obtain ⟨rfl, rfl⟩ := hself hthird
          exact hsame.2.2
        · rw [hother hki] at hthird
          exact h.alone j b other hcall hinside k c third hk hthird
  case holds =>
    intro j b other hcall
    by_cases hj : j = i
    · subst hj
      obtain ⟨rfl, rfl⟩ := hself hcall
      exact hholds
    · rw [hother hj] at hcall
      have hbefore := h.holds j b other hcall
      rcases hothers with hquiet | hsame
      · exact hbefore.outside (hquiet j b other hj hcall)
      · rw [hsame.1, hdrafts j hj]
        exact hbefore

theorem sound_advance (h : Sound allow plan s) (hcall : s.calls i = some (a, phase)) :
    Sound allow plan (advance plan s i a phase) := by
  have hholds := h.holds i a phase hcall
  have hothers := h.alone i a phase hcall
  have hlock := h.locked i a phase hcall
  have hdraft (content : Option (List υ)) (j : Nat) (hne : j ≠ i) : (s.draft i content).drafts j = s.drafts j :=
    Function.update_of_ne hne _ _
  cases phase with
  | locking =>
    rw [advance]
    split_ifs with hlocked
    · exact h.move rfl (fun _ _ => rfl) (.inr ⟨rfl, rfl, rfl⟩) (fun hinside => nomatch hinside) trivial
    · have hquiet := h.quiet (Bool.not_eq_true _ ▸ hlocked)
      exact h.move rfl (fun _ _ => rfl) (.inl fun j b other _ => hquiet j b other) (fun _ => rfl) hholds
  | looking =>
    refine h.move rfl (fun _ _ => rfl) (.inl (hothers rfl)) (fun _ => hlock rfl) ?_
    change Holds allow plan s.file (s.drafts i) a (if s.file.isSome then .reading else decided (plan a none))
    cases hfile : s.file with
    | none => exact holds_decided hholds
    | some content => exact hholds
  | reading =>
    rw [advance]
    cases hfile : s.file with
    | none => exact h.move rfl (fun _ _ => rfl) (.inl (hothers rfl)) (fun _ => hlock rfl) hholds
    | some content =>
      refine h.move rfl (fun _ _ => rfl) (.inl (hothers rfl)) (fun _ => hlock rfl) ?_
      change Holds allow plan s.file _ a _
      rw [hfile]
      exact holds_decided hholds
  | creating content =>
    have hnew : (s.draft i (some [])).drafts i = some [] := Function.update_self i _ _
    exact h.move rfl (hdraft _) (.inl (hothers rfl)) (fun _ => hlock rfl) ⟨hholds.1, [], hnew, hholds.2⟩
  | writing left =>
    obtain ⟨hallow, written, hwritten, hplan⟩ := hholds
    have hnew : (s.draft i ((s.drafts i).map fun written => written ++ left)).drafts i = some (written ++ left) := by
      rw [hwritten]
      exact Function.update_self i _ _
    exact h.move rfl (hdraft _) (.inl (hothers rfl)) (fun _ => hlock rfl) ⟨hallow, written ++ left, hnew, hplan⟩
  | replacing =>
    obtain ⟨hallow, content, hcontent, hplan⟩ := hholds
    rw [advance, hcontent]
    exact h.move rfl (hdraft _) (.inl (hothers rfl)) (fun _ => hlock rfl) hallow
  | cleaning =>
    exact h.move rfl (hdraft _) (.inl (hothers rfl)) (fun _ => hlock rfl) hholds
  | unlocking refusal =>
    rw [advance]
    split_ifs
    · exact h.move rfl (fun _ _ => rfl) (.inl (hothers rfl)) (fun hinside => nomatch hinside) trivial
    · exact h.move rfl (fun _ _ => rfl) (.inl (hothers rfl)) (fun hinside => nomatch hinside) trivial
  | ended refusal => exact h
  | crashed => exact h

theorem sound_part (h : Sound allow plan s) (n : Nat) {left : List υ} (hcall : s.calls i = some (a, .writing left)) :
    Sound allow plan
      ((s.draft i ((s.drafts i).map fun written => written ++ left.take n)).move i a (.writing (left.drop n))) := by
  have hothers := h.alone i a _ hcall rfl
  have hlock := h.locked i a _ hcall rfl
  obtain ⟨hallow, written, hwritten, hplan⟩ := h.holds i a _ hcall
  refine h.move rfl (fun j hne => Function.update_of_ne hne _ _) (.inl hothers) (fun _ => hlock)
    ⟨hallow, written ++ left.take n, ?_, ?_⟩
  · change Function.update s.drafts i _ i = _
    rw [Function.update_self, hwritten]
    rfl
  · rw [List.append_assoc, List.take_append_drop]
    exact hplan

theorem sound_step (h : Sound allow plan s) (e : Event α) : Sound allow plan (step allow plan s e) := by
  cases e with
  | begin i a =>
    rw [step]
    cases hcall : s.calls i with
    | some call => exact h
    | none =>
      cases hallow : allow a with
      | ok _ => exact h.move rfl (fun _ _ => rfl) (.inr ⟨rfl, rfl, rfl⟩) (fun hinside => nomatch hinside) hallow
      | error reason => exact h.move rfl (fun _ _ => rfl) (.inr ⟨rfl, rfl, rfl⟩) (fun hinside => nomatch hinside) trivial
  | advance i =>
    rw [step]
    cases hcall : s.calls i with
    | none => exact h
    | some call => exact sound_advance h hcall
  | part i n =>
    rw [step]
    split
    · next a left hcall => exact sound_part h n hcall
    · exact h
  | crash i =>
    rw [step]
    cases hcall : s.calls i with
    | none => exact h
    | some call =>
      dsimp only
      split_ifs
      · exact h.move rfl (fun _ _ => rfl) (.inr ⟨rfl, rfl, rfl⟩) (fun hinside => nomatch hinside) trivial
      · exact h

variable (allow plan) in
theorem sound_init : Sound allow plan ({} : Files α υ ε) where
  locked _ _ _ hcall := nomatch hcall
  alone _ _ _ hcall := nomatch hcall
  holds _ _ _ hcall := nomatch hcall

variable (allow plan) in
theorem sound_run (events : List (Event α)) : Sound allow plan (run (step allow plan) {} events) :=
  Trace.invariant_of_step (I := Sound allow plan) (fun _ e h => sound_step h e) (sound_init allow plan) events

variable (allow plan) in
/-- An admitted call decided on the content when the file held what it held. -/
def Replaces (old new : Option (List υ)) : Prop :=
  ∃ a content, allow a = .ok () ∧ plan a old = .ok content ∧ new = some content

theorem advance_file (h : Sound allow plan s) (hcall : s.calls i = some (a, phase)) :
    (advance plan s i a phase).file = s.file ∨ Replaces allow plan s.file (advance plan s i a phase).file := by
  have hholds := h.holds i a phase hcall
  cases phase with
  | locking =>
    left
    rw [advance]
    split_ifs
    · rfl
    · rfl
  | reading =>
    left
    rw [advance]
    split
    · rfl
    · rfl
  | replacing =>
    right
    obtain ⟨hallow, content, hcontent, hplan⟩ := hholds
    rw [advance, hcontent]
    exact ⟨a, content, hallow, hplan, rfl⟩
  | unlocking refusal =>
    left
    rw [advance]
    split_ifs
    · rfl
    · rfl
  | _ => exact .inl rfl

theorem step_file (h : Sound allow plan s) (e : Event α) :
    (step allow plan s e).file = s.file ∨ Replaces allow plan s.file (step allow plan s e).file := by
  cases e with
  | begin i a =>
    left
    rw [step]
    split
    · rfl
    · rfl
    · rfl
  | advance i =>
    rw [step]
    cases hcall : s.calls i with
    | none => exact .inl rfl
    | some call => exact advance_file h hcall
  | part i n =>
    left
    rw [step]
    split
    · rfl
    · rfl
  | crash i =>
    left
    rw [step]
    cases s.calls i with
    | none => rfl
    | some call =>
      dsimp only
      split_ifs
      · rfl
      · rfl

/-- Along a run the file goes through a chain of decisions, each on what it held before. -/
theorem run_file (h : Sound allow plan s) (events : List (Event α)) :
    Relation.ReflTransGen (Replaces allow plan) s.file (run (step allow plan) s events).file := by
  induction events generalizing s with
  | nil => exact .refl
  | cons e events ih =>
    have hrest := ih (sound_step h e)
    rcases step_file h e with hsame | hreplaces
    · rw [hsame] at hrest
      exact hrest
    · exact .head hreplaces hrest

variable (allow plan) in
theorem run_file_decided (events : List (Event α)) {content : List υ}
    (hfile : (run (step allow plan) {} events).file = some content) :
    ∃ a old, allow a = .ok () ∧ plan a old = .ok content := by
  have hchain := run_file (sound_init allow plan) events
  rw [hfile] at hchain
  cases hchain with
  | tail _ hlast =>
    obtain ⟨a, content', hallow, hplan, heq⟩ := hlast
    cases heq
    exact ⟨a, _, hallow, hplan⟩

/-- The lock is there, and nobody is inside to remove it. -/
structure Stuck (s : Files α υ ε) : Prop where
  locked : s.lock = true
  quiet : Quiet s

theorem step_crash (hcall : s.calls i = some (a, phase)) (hinside : phase.inside = true) :
    step allow plan s (.crash i) = s.move i a .crashed := by
  have hlive : phase.isLive = true := by
    cases phase with
    | ended refusal => cases hinside
    | crashed => cases hinside
    | _ => rfl
  rw [step, hcall]
  exact if_pos hlive

/-- A crash inside leaves the lock, and nobody inside. -/
theorem Sound.stuck (h : Sound allow plan s) (hcall : s.calls i = some (a, phase)) (hinside : phase.inside = true) :
    Stuck (s.move i a .crashed) := by
  refine ⟨h.locked i a phase hcall hinside, fun j b other hother => ?_⟩
  by_cases hj : j = i
  · subst hj
    rw [Files.move_self] at hother
    cases hother
    rfl
  · rw [Files.move_of_ne hj] at hother
    exact h.alone i a phase hcall hinside j b other hj hother

/-- The step leaves the lock and the file, and no call it moves comes further than the lock. -/
inductive Barred (s : Files α υ ε) : Files α υ ε → Prop where
  | same : Barred s s
  | moved (i : Nat) (a : α) (phase : Phase υ ε) (hfails : phase.fails = true) : Barred s (s.move i a phase)

variable (allow plan) in
theorem barred_step (h : Stuck s) (e : Event α) : Barred s (step allow plan s e) := by
  cases e with
  | begin i a =>
    rw [step]
    split
    · exact .same
    · exact .moved i a .locking rfl
    · exact .moved i a _ rfl
  | advance i =>
    rw [step]
    cases hcall : s.calls i with
    | none => exact .same
    | some call =>
      have houtside := h.quiet i call.1 call.2 hcall
      obtain ⟨a, phase⟩ := call
      cases phase with
      | locking =>
        dsimp only
        rw [advance, if_pos h.locked]
        exact .moved i a _ rfl
      | ended refusal => exact .same
      | crashed => exact .same
      | _ => cases houtside
  | part i n =>
    rw [step]
    split
    · next a left hcall => cases h.quiet i a _ hcall
    · exact .same
  | crash i =>
    rw [step]
    cases s.calls i with
    | none => exact .same
    | some call =>
      dsimp only
      split_ifs
      · exact .moved i call.1 .crashed rfl
      · exact .same

theorem Barred.file (hbarred : Barred s t) : t.file = s.file := by cases hbarred <;> rfl

theorem Barred.stuck (hbarred : Barred s t) (h : Stuck s) : Stuck t := by
  cases hbarred with
  | same => exact h
  | moved i a phase hfails =>
    refine ⟨h.locked, fun j b other hother => ?_⟩
    by_cases hj : j = i
    · subst hj
      rw [Files.move_self] at hother
      cases hother
      cases phase with
      | locking => rfl
      | ended refusal => rfl
      | crashed => rfl
      | _ => cases hfails
    · rw [Files.move_of_ne hj] at hother
      exact h.quiet j b other hother

theorem Barred.fails (hbarred : Barred s t) {j : Nat}
    (h : ∀ b other, s.calls j = some (b, other) → other.fails = true) {b : α} {other : Phase υ ε}
    (hother : t.calls j = some (b, other)) : other.fails = true := by
  cases hbarred with
  | same => exact h b other hother
  | moved i a phase hfails =>
    by_cases hj : j = i
    · subst hj
      rw [Files.move_self] at hother
      cases hother
      exact hfails
    · rw [Files.move_of_ne hj] at hother
      exact h b other hother

variable (allow plan) in
theorem stuck_run (h : Stuck s) (events : List (Event α)) :
    (run (step allow plan) s events).file = s.file ∧
      ∀ j, (∀ b other, s.calls j = some (b, other) → other.fails = true) →
        ∀ b other, (run (step allow plan) s events).calls j = some (b, other) → other.fails = true := by
  induction events generalizing s with
  | nil => exact ⟨rfl, fun _ hfails => hfails⟩
  | cons e events ih =>
    have hbarred := barred_step allow plan h e
    obtain ⟨hfile, hlater⟩ := ih (hbarred.stuck h)
    exact ⟨hfile.trans hbarred.file, fun j hfails => hlater j fun b other => hbarred.fails hfails⟩

end Wardroom.Library.LockedFile
