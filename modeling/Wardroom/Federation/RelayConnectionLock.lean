import Wardroom.Library.Trace

/-! # The lock of an outbound relay connection

Several processes create, read and remove one file, a call at a time. The file
remembers which acquisition created it, which the processes do not see.
-/

namespace Wardroom.Federation.RelayConnectionLock
open Wardroom.Library

/-- The call that an acquisition makes next. -/
inductive Phase where
  /-- `openSync(path, "wx")`. -/
  | opening (alreadyReclaimed : Bool)
  /-- The file is there, and still empty. -/
  | writing
  /-- `readLockRecord`. -/
  | reading (alreadyReclaimed : Bool)
  /-- `isPidAlive`. -/
  | probing (pid : Nat) (alreadyReclaimed : Bool)
  /-- `unlinkSync` of a lock that counts as stale. -/
  | unlinking
  /-- The release function has been returned; it unlinks. -/
  | holding
  | released
  | refused
  deriving DecidableEq

structure Contender where
  pid : Nat
  phase : Phase
  live : Bool
  deriving DecidableEq

/-- A record is read only once it has been written. -/
structure LockFile where
  creator : Option Nat
  record : Option Nat
  deriving DecidableEq

structure LockState where
  contenders : List Contender
  file : Option LockFile
  deriving DecidableEq

inductive LockEvent where
  /-- A process begins to acquire. -/
  | start (pid : Nat)
  /-- The i-th acquisition makes its call; `others` tells whether an unrelated process has the pid. -/
  | advance (i : Nat) (others : Bool)
  /-- `writeFileSync` of the i-th acquisition throws. -/
  | writeFails (i : Nat)
  | crash (pid : Nat)

namespace LockState

def enter (s : LockState) (i : Nat) (c : Contender) (phase : Phase) : LockState :=
  { s with contenders := s.contenders.set i { c with phase := phase } }

def isPidAlive (s : LockState) (pid : Nat) (others : Bool) : Bool :=
  others || s.contenders.any fun c => c.live && c.pid = pid

/-- A lock that nobody holds is reclaimed once. -/
def reclaim (s : LockState) (i : Nat) (c : Contender) (alreadyReclaimed : Bool) : LockState :=
  s.enter i c (if alreadyReclaimed then .refused else .unlinking)

def act (s : LockState) (i : Nat) (c : Contender) (others : Bool) : LockState :=
  match c.phase with
  | .opening alreadyReclaimed =>
    if s.file = none then { s.enter i c .writing with file := some ⟨some i, none⟩ }
    else s.enter i c (.reading alreadyReclaimed)
  | .writing =>
    { s.enter i c .holding with
      file := s.file.map fun f => if f.creator = some i then { f with record := some c.pid } else f }
  | .reading alreadyReclaimed =>
    match s.file.bind LockFile.record with
    | some pid => s.enter i c (.probing pid alreadyReclaimed)
    | none => s.reclaim i c alreadyReclaimed
  | .probing pid alreadyReclaimed =>
    if s.isPidAlive pid others then s.enter i c .refused else s.reclaim i c alreadyReclaimed
  | .unlinking => { s.enter i c (.opening true) with file := none }
  | .holding => { s.enter i c .released with file := none }
  | .released => s
  | .refused => s

/-- A process that is not live makes no call. -/
def step (s : LockState) : LockEvent → LockState
  | .start pid => { s with contenders := s.contenders ++ [⟨pid, .opening false, true⟩] }
  | .advance i others =>
    match s.contenders[i]? with
    | some c => if c.live then s.act i c others else s
    | none => s
  | .writeFails i =>
    match s.contenders[i]? with
    | some c => if c.live ∧ c.phase = .writing then s.enter i c .refused else s
    | none => s
  | .crash pid =>
    { s with contenders := s.contenders.map fun c => if c.pid = pid then { c with live := false } else c }

/-- The live acquisition in place `i` is in this phase. -/
def At (s : LockState) (i : Nat) (phase : Phase) : Prop :=
  ∃ c, s.contenders[i]? = some c ∧ c.live = true ∧ c.phase = phase

def Holds (s : LockState) (i : Nat) : Prop := s.At i .holding

/-- It has created the file, and has neither given up nor released. -/
def Owns (s : LockState) (i : Nat) : Prop := s.At i .writing ∨ s.At i .holding

def Exclusive (s : LockState) : Prop := ∀ i j, s.Holds i → s.Holds j → i = j

/-- At most one acquisition holds the lock after the step, and a release removes no other's file. -/
def Safe (s : LockState) (event : LockEvent) : Prop :=
  (s.step event).Exclusive ∧
    ∀ i others, event = .advance i others → s.Holds i → ∀ f ∈ s.file, f.creator = some i

/-- A lock that is removed as stale is not that of a live acquisition. -/
def RemovesStale (s : LockState) : LockEvent → Prop
  | .advance i _ => s.At i .unlinking → ∀ f ∈ s.file, ∀ j ∈ f.creator, ¬s.Owns j
  | _ => True

instance (s : LockState) (i : Nat) (phase : Phase) : Decidable (s.At i phase) :=
  decidable_of_iff (∃ c ∈ s.contenders[i]?, c.live = true ∧ c.phase = phase) Iff.rfl

instance (s : LockState) (i : Nat) : Decidable (s.Holds i) := inferInstanceAs (Decidable (s.At i _))

instance (s : LockState) (i : Nat) : Decidable (s.Owns i) := inferInstanceAs (Decidable (_ ∨ _))

instance (s : LockState) : (event : LockEvent) → Decidable (s.RemovesStale event)
  | .advance _ _ => inferInstanceAs (Decidable (_ → _))
  | .start _ | .writeFails _ | .crash _ => isTrue trivial

/-- The file is that of every acquisition that owns it. -/
def Owned (s : LockState) : Prop := ∀ i, s.Owns i → ∃ f, s.file = some f ∧ f.creator = some i

/-- A process comes to the lock that others have left, if any. -/
def initial (record : Option (Option Nat)) : LockState := ⟨[], record.map fun r => ⟨none, r⟩⟩

section Phases
variable {s : LockState} {i j : Nat} {c : Contender} {phase other : Phase}

theorem at_of_live (hc : s.contenders[i]? = some c) (hlive : c.live = true) : s.At i c.phase :=
  ⟨c, hc, hlive, rfl⟩

theorem at_enter (h : (s.enter i c phase).At j other) : j = i ∧ other = phase ∨ j ≠ i ∧ s.At j other := by
  obtain ⟨d, hd, hlive, rfl⟩ := h
  by_cases hij : j = i
  · subst hij
    have hlt : j < s.contenders.length := by
      simpa [enter] using (List.getElem?_eq_some_iff.mp hd).1
    left
    rw [enter, List.getElem?_set_self hlt] at hd
    cases hd
    exact ⟨rfl, rfl⟩
  · right
    rw [enter, List.getElem?_set_ne (Ne.symm hij)] at hd
    exact ⟨hij, d, hd, hlive, rfl⟩

theorem owns_enter (hne : phase ≠ .writing) (hne' : phase ≠ .holding) (h : (s.enter i c phase).Owns j) :
    j ≠ i ∧ s.Owns j := by
  rcases h with h | h
  · rcases at_enter h with ⟨-, hphase⟩ | ⟨hij, hat⟩
    · exact absurd hphase.symm hne
    · exact ⟨hij, .inl hat⟩
  · rcases at_enter h with ⟨-, hphase⟩ | ⟨hij, hat⟩
    · exact absurd hphase.symm hne'
    · exact ⟨hij, .inr hat⟩

theorem owns_enter_any (h : (s.enter i c phase).Owns j) : j = i ∨ j ≠ i ∧ s.Owns j := by
  rcases h with h | h
  · rcases at_enter h with ⟨hij, -⟩ | ⟨hij, hat⟩
    · exact .inl hij
    · exact .inr ⟨hij, .inl hat⟩
  · rcases at_enter h with ⟨hij, -⟩ | ⟨hij, hat⟩
    · exact .inl hij
    · exact .inr ⟨hij, .inr hat⟩

/-- Whoever owns a file that is not shared is its creator. -/
theorem Owned.unique (h : s.Owned) (hi : s.Owns i) (hj : s.Owns j) : i = j := by
  obtain ⟨f, hf, hcreator⟩ := h i hi
  obtain ⟨g, hg, hother⟩ := h j hj
  obtain rfl : f = g := Option.some.inj (hf.symm.trans hg)
  exact Option.some.inj (hcreator.symm.trans hother)

theorem Owned.exclusive (h : s.Owned) : s.Exclusive := fun _ _ hi hj => h.unique (.inr hi) (.inr hj)

/-- The file stays, and nobody becomes its owner. -/
theorem Owned.enter (h : s.Owned) (hne : phase ≠ .writing) (hne' : phase ≠ .holding) :
    (s.enter i c phase).Owned := fun j hj => h j (owns_enter hne hne' hj).2

theorem Owned.reclaim (h : s.Owned) (alreadyReclaimed : Bool) : (s.reclaim i c alreadyReclaimed).Owned := by
  unfold LockState.reclaim
  cases alreadyReclaimed with
  | false => exact h.enter (by decide) (by decide)
  | true => exact h.enter (by decide) (by decide)

theorem owned_act (h : s.Owned) (hc : s.contenders[i]? = some c) (hlive : c.live = true) (others : Bool)
    (hstale : s.At i .unlinking → ∀ f ∈ s.file, ∀ j ∈ f.creator, ¬s.Owns j) :
    (s.act i c others).Owned := by
  have hat := at_of_live hc hlive
  unfold act
  cases hphase : c.phase with
  | opening alreadyReclaimed =>
    dsimp only
    split_ifs with hfile
    · intro j hj
      rcases owns_enter_any hj with rfl | ⟨-, howns⟩
      · exact ⟨_, rfl, rfl⟩
      · obtain ⟨f, hf, -⟩ := h j howns
        rw [hfile] at hf
        cases hf
    · exact h.enter (by simp) (by simp)
  | writing =>
    intro j hj
    have howns : s.Owns j := by
      rcases owns_enter_any hj with rfl | ⟨-, howns⟩
      · exact .inl (hphase ▸ hat)
      · exact howns
    obtain ⟨f, hf, hcreator⟩ := h j howns
    refine ⟨if f.creator = some i then { f with record := some c.pid } else f, ?_, ?_⟩
    · change s.file.map _ = _
      rw [hf]
      rfl
    · split_ifs
      · exact hcreator
      · exact hcreator
  | reading alreadyReclaimed =>
    dsimp only
    cases s.file.bind LockFile.record with
    | none => exact h.reclaim alreadyReclaimed
    | some pid => exact h.enter (by simp) (by simp)
  | probing pid alreadyReclaimed =>
    dsimp only
    split_ifs
    · exact h.enter (by decide) (by decide)
    · exact h.reclaim alreadyReclaimed
  | unlinking =>
    intro j hj
    have howns := (owns_enter (by simp) (by simp) hj).2
    obtain ⟨f, hf, hcreator⟩ := h j howns
    exact absurd howns (hstale (hphase ▸ hat) f hf j hcreator)
  | holding =>
    intro j hj
    obtain ⟨hij, howns⟩ := owns_enter (by decide) (by decide) hj
    exact absurd (h.unique howns (.inr (hphase ▸ hat))) hij
  | released => exact h
  | refused => exact h

theorem at_start {pid : Nat} (h : (s.step (.start pid)).At i phase) : phase = .opening false ∨ s.At i phase := by
  obtain ⟨c, hc, hlive, rfl⟩ := h
  by_cases hlt : i < s.contenders.length
  · right
    exact ⟨c, (List.getElem?_append_left hlt).symm.trans hc, hlive, rfl⟩
  · left
    change (s.contenders ++ [_])[i]? = some c at hc
    rw [List.getElem?_append_right (Nat.le_of_not_lt hlt)] at hc
    rw [List.mem_singleton.mp (List.mem_of_getElem? hc)]

theorem at_crash {pid : Nat} (h : (s.step (.crash pid)).At i phase) : s.At i phase := by
  obtain ⟨c, hc, hlive, rfl⟩ := h
  change (s.contenders.map _)[i]? = some c at hc
  rw [List.getElem?_map, Option.map_eq_some_iff] at hc
  obtain ⟨d, hd, rfl⟩ := hc
  by_cases hpid : d.pid = pid
  · rw [if_pos hpid] at hlive
    cases hlive
  · rw [if_neg hpid] at hlive ⊢
    exact ⟨d, hd, hlive, rfl⟩

theorem owned_step {event : LockEvent} (h : s.Owned) (hstale : s.RemovesStale event) : (s.step event).Owned := by
  cases event with
  | start pid =>
    intro j hj
    refine h j ?_
    rcases hj with hj | hj
    · exact .inl ((at_start hj).resolve_left (by decide))
    · exact .inr ((at_start hj).resolve_left (by decide))
  | advance i others =>
    unfold step
    dsimp only
    cases hc : s.contenders[i]? with
    | none => exact h
    | some c =>
      by_cases hlive : c.live = true
      · simp only [if_pos hlive]
        exact owned_act h hc hlive others hstale
      · simp only [if_neg hlive]
        exact h
  | writeFails i =>
    unfold step
    dsimp only
    cases hc : s.contenders[i]? with
    | none => exact h
    | some c =>
      dsimp only
      split_ifs
      · exact h.enter (by decide) (by decide)
      · exact h
  | crash pid =>
    intro j hj
    refine h j ?_
    rcases hj with hj | hj
    · exact .inl (at_crash hj)
    · exact .inr (at_crash hj)

end Phases

theorem owned_initial (record : Option (Option Nat)) : (initial record).Owned := by
  rintro i (⟨c, hc, -⟩ | ⟨c, hc, -⟩)
  · cases hc
  · cases hc

/-- In a run in which no lock of a live acquisition is removed as stale, at most one acquisition holds
the lock at a time, and no release removes the lock of another. -/
theorem lock_exclusive (record : Option (Option Nat)) (events : List LockEvent)
    (h : Trace.Meets step RemovesStale (initial record) events) :
    Trace.Meets step Safe (initial record) events := by
  refine Trace.meets_of_invariant (I := Owned) (fun s event => owned_step) ?_ (owned_initial record) h
  intro s event howned hstale
  refine ⟨(owned_step howned hstale).exclusive, ?_⟩
  rintro i others - hholds f hf
  obtain ⟨g, hg, hcreator⟩ := howned i (.inr hholds)
  obtain rfl : g = f := Option.some.inj (hg.symm.trans hf)
  exact hcreator

/-- The first process dies before it has written its record; the second takes over the lock. -/
theorem lock_exclusive_reclaimed :
    Trace.Meets step Safe (initial none)
      [.start 7, .advance 0 false, .crash 7, .start 8, .advance 1 false, .advance 1 false, .advance 1 false,
        .advance 1 false, .advance 1 false, .advance 1 false] :=
  lock_exclusive none _ (by decide)

/-- The second process reads the lock of the first before its record is written, and removes it. -/
theorem lock_shared :
    ¬Trace.Meets step Safe (initial none)
      [.start 7, .start 8, .advance 0 false, .advance 1 false, .advance 1 false, .advance 1 false,
        .advance 1 false, .advance 1 false, .advance 0 false] := by
  intro h
  obtain ⟨-, -, -, -, -, -, -, -, ⟨hlast, -⟩, -⟩ := h
  exact absurd (hlast 0 1 (by decide) (by decide)) (by decide)

end LockState
end Wardroom.Federation.RelayConnectionLock
