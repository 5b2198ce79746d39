import Wardroom.Rotation.Service

/-! # The outcome of a rotation

A rotation that has come to its end stays there, and a worker that has been
swapped is never recorded as anything else, while no other call of the rotation
comes in where a commit waits.
-/

namespace Wardroom.Rotation
open Wardroom.Library Wardroom.Storage

def RotationState.terminal : RotationState → Bool
  | .committed => true
  | .cancelled => true
  | .rolledBack => true
  | _ => false

namespace CommitPhase

def launches : CommitPhase → Option RotationRuntime
  | .launching prior => some prior
  | _ => none

def inspects : CommitPhase → Option RotationRuntime
  | .inspecting _ launched => some launched
  | _ => none

def withdraws : CommitPhase → Option RotationRuntime
  | .withdrawing replacement _ => some replacement
  | _ => none

/-- The replacement that a commit under way has still to do with. -/
def holds : CommitPhase → Option String
  | .inspecting _ launched => some launched.runtimeId
  | .withdrawing replacement _ => some replacement.runtimeId
  | _ => none

end CommitPhase

def Rotations.state (s : Rotations) : Option RotationState := s.audit.map RotationAudit.state

/-- One end, that a swap agrees with, and no replacement left when it is rolled back. -/
structure Consistent (s : Rotations) : Prop where
  recorded : ∀ state, s.state = some state → ∃ before, s.log = before ++ [.recorded state]
  final : ∀ before state after, s.log = before ++ .recorded state :: after → state.terminal = true →
    ∀ e ∈ after, e = .recorded state
  kept : ∀ before after, s.log = before ++ .swapped :: after →
    ∀ e ∈ after, e = .recorded .cleanupPending ∨ e = .recorded .committed
  cleared : s.state = some .rolledBack → ∀ r ∈ s.running, ∃ call ∈ s.commits, call.phase.holds = some r

/-- A commit goes on from an await in the state that it has read, and a replacement that is not taken can be
found and ended. -/
def Undisturbed (s : Rotations) : Rotations.RotationEvent → Prop
  | .launched i (.error failure) _ => ∀ call ∈ s.commits[i]?, ∀ _prior ∈ call.phase.launches,
    s.state = some .acknowledged ∧ failure.2 = []
  | .inspected i outcome _ _ => ∀ call ∈ s.commits[i]?, ∀ launched ∈ call.phase.inspects,
    s.state = some .acknowledged ∧ ((outcome.toOption.getD none).isSome = true ∨ launched.runtimeId ∉ s.running)
  | .terminated i outcome _ => ∀ call ∈ s.commits[i]?,
    (∀ replacement ∈ call.phase.withdraws,
      s.state = some .acknowledged ∧ (outcome.toBool = true ∨ replacement.runtimeId ∉ s.running)) ∧
    (call.phase = .cleaning → outcome.toBool = true ∨ s.state ≠ some .committed)
  | _ => True

instance (s : Rotations) : ∀ e, Decidable (Undisturbed s e)
  | .launched i (.error _) _ => inferInstanceAs (Decidable (∀ call ∈ s.commits[i]?, ∀ _ ∈ call.phase.launches, _))
  | .launched _ (.ok _) _ => isTrue trivial
  | .inspected i _ _ _ => inferInstanceAs (Decidable (∀ call ∈ s.commits[i]?, ∀ _ ∈ call.phase.inspects, _))
  | .terminated i _ _ => inferInstanceAs (Decidable (∀ call ∈ s.commits[i]?, (∀ _ ∈ call.phase.withdraws, _) ∧ (_ → _)))
  | .prepare .. | .acknowledge .. | .commit .. | .cancel .. | .exited _ | .other _ => isTrue trivial

/-- The records of a rotation, and the state they end with. -/
inductive History : List Entry → RotationState → Prop
  | prepared : History [.recorded .prepared] .prepared
  | acknowledged : History [.recorded .prepared, .recorded .acknowledged] .acknowledged
  | cancelled (log : List Entry) (state : RotationState) (before : History log state)
      (live : state = .prepared ∨ state = .acknowledged) : History (log ++ [.recorded .cancelled]) .cancelled
  | rolledBack : History [.recorded .prepared, .recorded .acknowledged, .recorded .rolledBack] .rolledBack
  | swapped : History [.recorded .prepared, .recorded .acknowledged, .swapped, .recorded .cleanupPending]
      .cleanupPending
  | retried (log : List Entry) (before : History log .cleanupPending) :
      History (log ++ [.recorded .cleanupPending]) .cleanupPending
  | committed (log : List Entry) (state : RotationState) (before : History log state)
      (swapped : state = .cleanupPending ∨ state = .committed) : History (log ++ [.recorded .committed]) .committed

namespace History
variable {log : List Entry} {state : RotationState}

theorem log_prepared (h : History log .prepared) : log = [.recorded .prepared] := by
  cases h
  rfl

theorem log_acknowledged (h : History log .acknowledged) : log = [.recorded .prepared, .recorded .acknowledged] := by
  cases h
  rfl

theorem recorded (h : History log state) : ∃ before, log = before ++ [.recorded state] := by
  cases h with
  | prepared => exact ⟨[], rfl⟩
  | acknowledged => exact ⟨[.recorded .prepared], rfl⟩
  | cancelled log _ _ _ => exact ⟨log, rfl⟩
  | rolledBack => exact ⟨[.recorded .prepared, .recorded .acknowledged], rfl⟩
  | swapped => exact ⟨[.recorded .prepared, .recorded .acknowledged, .swapped], rfl⟩
  | retried log _ => exact ⟨log, rfl⟩
  | committed log _ _ _ => exact ⟨log, rfl⟩

theorem mem_cleanup (h : History log .cleanupPending) (e : Entry) (he : e ∈ log) :
    e = .recorded .prepared ∨ e = .recorded .acknowledged ∨ e = .swapped ∨ e = .recorded .cleanupPending := by
  generalize hstate : RotationState.cleanupPending = state at h
  induction h with
  | swapped => simpa using he
  | retried log _ ih =>
    rcases List.mem_append.mp he with hold | hnew
    · exact ih hold rfl
    · exact .inr (.inr (.inr (List.mem_singleton.mp hnew)))
  | _ => cases hstate

theorem mem_swapped (h : History log state) (hswapped : state = .cleanupPending ∨ state = .committed) (e : Entry)
    (he : e ∈ log) : e = .recorded .prepared ∨ e = .recorded .acknowledged ∨ e = .swapped ∨
      e = .recorded .cleanupPending ∨ e = .recorded .committed := by
  induction h with
  | swapped =>
    rcases mem_cleanup .swapped e he with h | h | h | h
    · exact .inl h
    · exact .inr (.inl h)
    · exact .inr (.inr (.inl h))
    · exact .inr (.inr (.inr (.inl h)))
  | retried log _ ih =>
    rcases List.mem_append.mp he with hold | hnew
    · exact ih (.inl rfl) hold
    · exact .inr (.inr (.inr (.inl (List.mem_singleton.mp hnew))))
  | committed log state _ hstate ih =>
    rcases List.mem_append.mp he with hold | hnew
    · exact ih hstate hold
    · exact .inr (.inr (.inr (.inr (List.mem_singleton.mp hnew))))
  | _ => rcases hswapped with h | h <;> cases h

/-- What may come after an entry. -/
def Precedes (e e' : Entry) : Prop :=
  (∀ state : RotationState, state.terminal = true → e = .recorded state → e' = .recorded state) ∧
    (e = .swapped → e' = .recorded .cleanupPending ∨ e' = .recorded .committed)

theorem precedes_open {e e' : Entry} (hstate : ∀ state : RotationState, e = .recorded state → state.terminal = false)
    (hswapped : e ≠ .swapped) : Precedes e e' := by
  refine ⟨fun state hterminal he => ?_, fun he => absurd he hswapped⟩
  rw [hstate state he] at hterminal
  cases hterminal

theorem pairwise (h : History log state) : log.Pairwise Precedes := by
  have hprepared (e : Entry) : Precedes (.recorded .prepared) e :=
    precedes_open (fun _ he => by cases he; rfl) fun he => nomatch he
  have hacknowledged (e : Entry) : Precedes (.recorded .acknowledged) e :=
    precedes_open (fun _ he => by cases he; rfl) fun he => nomatch he
  have hcleanup (e : Entry) : Precedes (.recorded .cleanupPending) e :=
    precedes_open (fun _ he => by cases he; rfl) fun he => nomatch he
  have hcommitted : Precedes (.recorded .committed) (.recorded .committed) :=
    ⟨fun _ _ he => he, fun he => nomatch he⟩
  have hswapped (e : Entry) (he : e = .recorded .cleanupPending ∨ e = .recorded .committed) : Precedes .swapped e :=
    ⟨fun _ _ h => (nomatch h), fun _ => he⟩
  induction h with
  | prepared => exact List.pairwise_singleton _ _
  | acknowledged => simp [hprepared]
  | cancelled log state before hlive ih =>
    refine List.pairwise_append.mpr ⟨ih, List.pairwise_singleton _ _, fun e he e' _ => ?_⟩
    rcases hlive with rfl | rfl
    · rw [before.log_prepared, List.mem_singleton] at he
      exact he ▸ hprepared e'
    · rw [before.log_acknowledged] at he
      rcases List.mem_cons.mp he with rfl | he
      · exact hprepared e'
      · exact List.mem_singleton.mp he ▸ hacknowledged e'
  | rolledBack => simp [hprepared, hacknowledged]
  | swapped => simp [hprepared, hacknowledged, hswapped]
  | retried log before ih =>
    refine List.pairwise_append.mpr ⟨ih, List.pairwise_singleton _ _, fun e he e' he' => ?_⟩
    rw [List.mem_singleton.mp he']
    rcases before.mem_cleanup e he with rfl | rfl | rfl | rfl
    · exact hprepared _
    · exact hacknowledged _
    · exact hswapped _ (.inl rfl)
    · exact hcleanup _
  | committed log state before hstate ih =>
    refine List.pairwise_append.mpr ⟨ih, List.pairwise_singleton _ _, fun e he e' he' => ?_⟩
    rw [List.mem_singleton.mp he']
    rcases before.mem_swapped hstate e he with rfl | rfl | rfl | rfl | rfl
    · exact hprepared _
    · exact hacknowledged _
    · exact hswapped _ (.inr rfl)
    · exact hcleanup _
    · exact hcommitted

theorem precedes_of_split (h : History log state) {before after : List Entry} {e : Entry}
    (hsplit : log = before ++ e :: after) : ∀ e' ∈ after, Precedes e e' := by
  have hpairwise := h.pairwise
  rw [hsplit] at hpairwise
  exact (List.pairwise_cons.mp (List.pairwise_append.mp hpairwise).2.1).1

end History

theorem bind_ok {ε α β : Type} {x : Except ε α} {f : α → Except ε β} {b : β} (h : x >>= f = .ok b) :
    ∃ a, x = .ok a ∧ f a = .ok b := by
  cases x with
  | error e => cases h
  | ok a => exact ⟨a, rfl, h⟩

namespace Rotations
variable {s s' : Rotations}

theorem prepare_ok {channelId actorSessionId rotationId nonce at' : String} {view : View}
    (h : s.prepare channelId actorSessionId rotationId nonce at' view = .ok s') :
    ∃ audit : RotationAudit, audit.state = .prepared ∧ s' = s.insert audit := by
  obtain ⟨-, -, h⟩ := bind_ok h
  obtain ⟨target, -, h⟩ := bind_ok h
  split_ifs at h
  · cases h
  · cases h
    exact ⟨_, rfl, rfl⟩

theorem requireAudit_ok {audit : RotationAudit} (h : s.requireAudit = .ok audit) : s.audit = some audit := by
  unfold requireAudit at h
  split at h
  · cases h
  · cases h
    assumption

theorem acknowledge_ok {sessionId nonce at' : String} {view : View}
    (h : s.acknowledge sessionId nonce at' view = .ok s') :
    s.state = some .prepared ∧ s' = s.update fun audit => { audit with state := .acknowledged, updatedAt := at' } := by
  obtain ⟨audit, haudit, h⟩ := bind_ok h
  split_ifs at h with hinvalid
  · cases h
  obtain ⟨current, -, h⟩ := bind_ok h
  split_ifs at h
  · cases h
  cases h
  rw [not_or, not_not] at hinvalid
  refine ⟨?_, rfl⟩
  unfold state
  rw [requireAudit_ok haudit, Option.map_some, hinvalid.1]

theorem cancel_ok {reason at' : String} {view : View} (h : s.cancel reason at' view = .ok s') :
    (s.state = some .prepared ∨ s.state = some .acknowledged) ∧ s' = s.update fun audit =>
      { audit with state := .cancelled, reason := some (Text.trim reason), updatedAt := at' } := by
  obtain ⟨audit, haudit, h⟩ := bind_ok h
  obtain ⟨-, -, h⟩ := bind_ok h
  dsimp only at h
  by_cases hblank : Text.trim reason = ""
  · rw [if_pos hblank] at h
    cases h
  rw [if_neg hblank] at h
  by_cases hlive : audit.state ≠ .prepared ∧ audit.state ≠ .acknowledged
  · rw [if_pos hlive] at h
    cases h
  rw [if_neg hlive] at h
  cases h
  refine ⟨?_, rfl⟩
  unfold state
  rw [requireAudit_ok haudit, Option.map_some, Option.some.injEq, Option.some.injEq]
  by_contra hnot
  exact hlive (not_or.mp hnot)

theorem commit_ok {actorSessionId : String} {view : View} {call : CommitCall}
    (h : s.commit actorSessionId view = .ok call) : s.state.isSome = true ∧
      (call.phase = .cleaning → s.state = some .cleanupPending) := by
  obtain ⟨audit, haudit, h⟩ := bind_ok h
  have hstate : s.state = some audit.state := by
    unfold state
    rw [requireAudit_ok haudit]
    rfl
  obtain ⟨-, -, h⟩ := bind_ok h
  dsimp only at h
  by_cases hactor : audit.actorSessionId ≠ actorSessionId
  · rw [if_pos hactor] at h
    cases h
  rw [if_neg hactor] at h
  by_cases hcleanup : audit.state = .cleanupPending
  · rw [if_pos hcleanup] at h
    cases h
    exact ⟨by rw [hstate]; rfl, fun _ => by rw [hstate, hcleanup]⟩
  rw [if_neg hcleanup] at h
  by_cases hready : audit.state ≠ .acknowledged
  · rw [if_pos hready] at h
    cases h
  rw [if_neg hready] at h
  obtain ⟨prior, -, h⟩ := bind_ok h
  split_ifs at h
  · cases h
  cases h
  exact ⟨by rw [hstate]; rfl, fun hphase => nomatch hphase⟩

theorem update_of_state {before after : RotationState} (patch : RotationAudit → RotationAudit)
    (hbefore : s.state = some before) (hafter : ∀ audit, (patch audit).state = after) :
    (s.update patch).state = some after ∧ (s.update patch).log = s.log ++ [.recorded after] ∧
      (s.update patch).commits = s.commits ∧ (s.update patch).running = s.running := by
  obtain ⟨audit, haudit, -⟩ := Option.map_eq_some_iff.mp hbefore
  unfold update
  rw [haudit]
  refine ⟨congrArg some (hafter audit), ?_, rfl, rfl⟩
  simp only [hafter]

end Rotations

/-- The rotation has swapped its worker. -/
def RotationState.swapped (state : RotationState) : Prop := state = .cleanupPending ∨ state = .committed

/-- What has been recorded is in order, and a replacement runs for a commit that still has to do with it. -/
structure Orderly (s : Rotations) : Prop where
  history : s.state = none ∧ s.log = [] ∧ s.running = [] ∧ s.commits = [] ∨
    ∃ state, s.state = some state ∧ History s.log state
  cleaning : ∀ call ∈ s.commits, call.phase = .cleaning → ∃ state, s.state = some state ∧ state.swapped
  held : ∀ state, s.state = some state → ¬ state.swapped → ∀ r ∈ s.running,
    ∃ call ∈ s.commits, call.phase.holds = some r

namespace Orderly
variable {s s' : Rotations}

theorem log_of_state (h : Orderly s) {state : RotationState} (hstate : s.state = some state) : History s.log state := by
  rcases h.history with ⟨hnone, -⟩ | ⟨state', hstate', hhistory⟩
  · rw [hnone] at hstate
    cases hstate
  · rw [hstate] at hstate'
    cases hstate'
    exact hhistory

theorem state_of_mem (h : Orderly s) {call : CommitCall} (hcall : call ∈ s.commits) : ∃ state, s.state = some state := by
  rcases h.history with ⟨-, -, -, hnone⟩ | ⟨state, hstate, -⟩
  · rw [hnone] at hcall
    cases hcall
  · exact ⟨state, hstate⟩

/-- A record is written, and the calls are as they were. -/
theorem record (h : Orderly s) {before after : RotationState} {patch : RotationAudit → RotationAudit}
    (hbefore : s.state = some before) (hafter : ∀ audit, (patch audit).state = after)
    (hhistory : History (s.log ++ [.recorded after]) after) (hswapped : before.swapped ↔ after.swapped) :
    Orderly (s.update patch) := by
  obtain ⟨hstate, hlog, hcommits, hrunning⟩ := Rotations.update_of_state _ hbefore hafter
  refine ⟨.inr ⟨after, hstate, hlog ▸ hhistory⟩, fun call hcall hcleaning => ?_, fun state hs hopen => ?_⟩
  · rw [hcommits] at hcall
    obtain ⟨state, hold, hstateSwapped⟩ := h.cleaning call hcall hcleaning
    rw [hbefore] at hold
    cases hold
    exact ⟨after, hstate, hswapped.mp hstateSwapped⟩
  · rw [hstate] at hs
    cases hs
    rw [hrunning, hcommits]
    exact h.held before hbefore fun hb => hopen (hswapped.mp hb)

/-- A commit moves on, and what it holds stays held while the worker has not been swapped. -/
theorem move (h : Orderly s) {i : Nat} {call call' : CommitCall} (hi : s.commits[i]? = some call)
    {running : List String}
    (hcleaning : call'.phase = .cleaning → ∃ state, s.state = some state ∧ state.swapped)
    (hheld : (∃ state, s.state = some state ∧ ¬ state.swapped) → ∀ r ∈ running,
      (r ∈ s.running ∧ call.phase.holds ≠ some r) ∨ call'.phase.holds = some r) :
    Orderly (({ s with running := running } : Rotations).setCommit i call') := by
  have hlt := (List.getElem?_eq_some_iff.mp hi).1
  obtain ⟨state, hstate⟩ := h.state_of_mem (List.mem_of_getElem? hi)
  refine ⟨.inr ⟨state, hstate, h.log_of_state hstate⟩, fun c hc hphase => ?_, fun state' hs hopen r hr => ?_⟩
  · rcases List.mem_or_eq_of_mem_set hc with hold | rfl
    · exact h.cleaning c hold hphase
    · exact hcleaning hphase
  · change s.state = some state' at hs
    rcases hheld ⟨state', hs, hopen⟩ r hr with ⟨hrunning, hother⟩ | hown
    · obtain ⟨c, hc, hholds⟩ := h.held state' hs hopen r hrunning
      obtain ⟨j, hj⟩ := List.mem_iff_getElem?.mp hc
      have hji : i ≠ j := by
        rintro rfl
        rw [hi] at hj
        cases hj
        exact hother hholds
      refine ⟨c, List.mem_of_getElem? (i := j) ?_, hholds⟩
      change (s.commits.set i call')[j]? = some c
      rw [List.getElem?_set_ne hji]
      exact hj
    · exact ⟨call', List.mem_set hlt call', hown⟩

theorem rollBack (h : Orderly s) {i : Nat} {call : CommitCall} (hi : s.commits[i]? = some call)
    (hstate : s.state = some .acknowledged) {error at' : String}
    (hended : ∀ r ∈ s.running, call.phase.holds ≠ some r) : Orderly (s.rollBack i call error at') := by
  have hlog := (h.log_of_state hstate).log_acknowledged
  have hopen : ¬ RotationState.swapped .acknowledged := by rintro (h | h) <;> cases h
  have hclosed : ¬ RotationState.swapped .rolledBack := by rintro (h | h) <;> cases h
  have hrecorded : Orderly (s.update fun audit =>
      { audit with state := .rolledBack, reason := some error, updatedAt := at' }) :=
    h.record hstate (fun _ => rfl) (by rw [hlog]; exact .rolledBack) ⟨fun hs => absurd hs hopen, fun hs => absurd hs hclosed⟩
  obtain ⟨-, -, hcommits, hrunning⟩ := Rotations.update_of_state (fun audit =>
    { audit with state := .rolledBack, reason := some error, updatedAt := at' }) hstate fun _ => rfl
  refine hrecorded.move (hcommits ▸ hi) (fun hphase => nomatch hphase) fun _ r hr => .inl ⟨hr, hended r ?_⟩
  rw [← hrunning]
  exact hr

theorem prepare (h : Orderly s) (hnone : s.audit = none) {audit : RotationAudit} (haudit : audit.state = .prepared) :
    Orderly (s.insert audit) := by
  have hstate : s.state = none := by
    unfold Rotations.state
    rw [hnone]
    rfl
  rcases h.history with ⟨-, hlog, hrunning, hcommits⟩ | ⟨state, hsome, -⟩
  · refine ⟨.inr ⟨.prepared, congrArg some haudit, ?_⟩, fun call hcall => ?_, fun state _ _ r hr => ?_⟩
    · change History (s.log ++ [.recorded audit.state]) .prepared
      rw [hlog, haudit]
      exact .prepared
    · change call ∈ s.commits at hcall
      rw [hcommits] at hcall
      cases hcall
    · change r ∈ s.running at hr
      rw [hrunning] at hr
      cases hr
  · rw [hstate] at hsome
    cases hsome

theorem acknowledge (h : Orderly s) (hstate : s.state = some .prepared) (at' : String) :
    Orderly (s.update fun audit => { audit with state := .acknowledged, updatedAt := at' }) := by
  refine h.record hstate (fun _ => rfl) ?_ ⟨fun hs => ?_, fun hs => ?_⟩
  · rw [(h.log_of_state hstate).log_prepared]
    exact .acknowledged
  · rcases hs with hs | hs <;> cases hs
  · rcases hs with hs | hs <;> cases hs

theorem cancel (h : Orderly s) (hlive : s.state = some .prepared ∨ s.state = some .acknowledged)
    (reason at' : String) : Orderly (s.update fun audit =>
      { audit with state := .cancelled, reason := some (Text.trim reason), updatedAt := at' }) := by
  have hclosed : ¬ RotationState.swapped .cancelled := by rintro (h | h) <;> cases h
  rcases hlive with hstate | hstate
  · refine h.record hstate (fun _ => rfl) (.cancelled _ _ (h.log_of_state hstate) (.inl rfl))
      ⟨fun hs => ?_, fun hs => absurd hs hclosed⟩
    rcases hs with hs | hs <;> cases hs
  · refine h.record hstate (fun _ => rfl) (.cancelled _ _ (h.log_of_state hstate) (.inr rfl))
      ⟨fun hs => ?_, fun hs => absurd hs hclosed⟩
    rcases hs with hs | hs <;> cases hs

theorem commit (h : Orderly s) {call : CommitCall} (hstate : s.state.isSome = true)
    (hcleaning : call.phase = .cleaning → s.state = some .cleanupPending) :
    Orderly { s with commits := s.commits ++ [call] } := by
  refine ⟨?_, fun c hc hphase => ?_, fun state hs hopen r hr => ?_⟩
  · rcases h.history with ⟨hnone, -⟩ | hsome
    · rw [hnone] at hstate
      cases hstate
    · exact .inr hsome
  · rcases List.mem_append.mp hc with hold | hnew
    · exact h.cleaning c hold hphase
    · rw [List.mem_singleton.mp hnew] at hphase
      exact ⟨_, hcleaning hphase, .inl rfl⟩
  · obtain ⟨c, hc, hholds⟩ := h.held state hs hopen r hr
    exact ⟨c, List.mem_append_left _ hc, hholds⟩

theorem launched (h : Orderly s) {i : Nat} {call : CommitCall} (hi : s.commits[i]? = some call) {prior : RotationRuntime}
    (hphase : call.phase = .launching prior) (outcome : Except (String × List String) RotationRuntime) (at' : String)
    (hundisturbed : ∀ failure, outcome = .error failure → s.state = some .acknowledged ∧ failure.2 = []) :
    Orderly (s.launched i call prior outcome at') := by
  have hholds : call.phase.holds = none := by rw [hphase]; rfl
  cases outcome with
  | error failure =>
    obtain ⟨hstate, hleft⟩ := hundisturbed failure rfl
    have hsame : ({ s with running := s.running ++ failure.2 } : Rotations) = s := by rw [hleft, List.append_nil]
    change Orderly (Rotations.rollBack { s with running := s.running ++ failure.2 } i call failure.1 at')
    rw [hsame]
    refine h.rollBack hi hstate fun r _ hr => ?_
    rw [hholds] at hr
    cases hr
  | ok launched =>
    refine h.move hi (fun hc => nomatch hc) fun _ r hr => ?_
    rcases List.mem_append.mp hr with hold | hnew
    · refine .inl ⟨hold, fun hr => ?_⟩
      rw [hholds] at hr
      cases hr
    · exact .inr (congrArg some (List.mem_singleton.mp hnew).symm)

/-- The swap and its record. -/
theorem swap (h : Orderly s) (hstate : s.state = some .acknowledged) {world : World}
    (patch : RotationAudit → RotationAudit) (hafter : ∀ audit, (patch audit).state = .cleanupPending) (i : Nat)
    (call' : CommitCall) :
    Orderly ((({ s with world := world, log := s.log ++ [.swapped] } : Rotations).update patch).setCommit i call') := by
  obtain ⟨hnew, hlog, -, -⟩ := Rotations.update_of_state (s := { s with world := world, log := s.log ++ [.swapped] })
    patch hstate hafter
  refine ⟨.inr ⟨.cleanupPending, hnew, ?_⟩, fun _ _ _ => ⟨.cleanupPending, hnew, .inl rfl⟩, fun state hs hopen => ?_⟩
  · change History (Rotations.update _ patch).log .cleanupPending
    rw [hlog, (h.log_of_state hstate).log_acknowledged]
    exact .swapped
  · cases Option.some.inj (hnew.symm.trans hs)
    exact absurd (.inl rfl) hopen

/-- The inspection ends with the swap, or the replacement is not taken. -/
theorem inspected (h : Orderly s) {i : Nat} {call : CommitCall} (hi : s.commits[i]? = some call)
    {prior launched : RotationRuntime} (hphase : call.phase = .inspecting prior launched)
    (outcome : Except String (Option RotationRuntime)) (view : View) (at' : String)
    (hstate : s.state = some .acknowledged)
    (hfound : (outcome.toOption.getD none).isSome = true ∨ launched.runtimeId ∉ s.running) :
    Orderly (s.inspected i call prior launched outcome view at') := by
  have hholds : call.phase.holds = some launched.runtimeId := by rw [hphase]; rfl
  have hlost (hgone : launched.runtimeId ∉ s.running) (r : String) (hr : r ∈ s.running) : call.phase.holds ≠ some r := by
    intro hown
    rw [hholds] at hown
    cases hown
    exact hgone hr
  have hwithdraw (replacement : RotationRuntime) (hsame : replacement.runtimeId = launched.runtimeId) (error : String) :
      Orderly (s.setCommit i { call with phase := .withdrawing replacement error }) := by
    refine h.move hi (fun hc => nomatch hc) fun _ r hr => ?_
    by_cases hown : call.phase.holds = some r
    · rw [hholds] at hown
      exact .inr ((congrArg some hsame).trans hown)
    · exact .inl ⟨hr, hown⟩
  match outcome with
  | .error error => exact h.rollBack hi hstate (hlost (hfound.resolve_left Bool.false_ne_true))
  | .ok none => exact h.rollBack hi hstate (hlost (hfound.resolve_left Bool.false_ne_true))
  | .ok (some runtime) =>
    unfold Rotations.inspected
    dsimp only
    split_ifs
    · split
      case h_1 error world _ =>
        have hmoved := hwithdraw { runtime with runtimeId := launched.runtimeId } rfl (failureMessage error)
        exact ⟨hmoved.history, hmoved.cleaning, hmoved.held⟩
      case h_2 world _ => exact h.swap hstate _ (fun _ => rfl) i _
    · exact hwithdraw _ (by rfl) _

/-- A runtime that has ended is not running. -/
theorem ended (h : Orderly s) (runtimeId : String) :
    Orderly { s with running := s.running.filter (· ≠ runtimeId) } := by
  refine ⟨?_, h.cleaning, fun state hs hopen r hr => h.held state hs hopen r (List.mem_filter.mp hr).1⟩
  rcases h.history with ⟨hnone, hlog, hrunning, hcommits⟩ | hsome
  · exact .inl ⟨hnone, hlog, by rw [hrunning]; rfl, hcommits⟩
  · exact .inr hsome

theorem terminated (h : Orderly s) {i : Nat} {call : CommitCall} (hi : s.commits[i]? = some call)
    (outcome : Except String Unit) (at' : String)
    (hwithdrawn : ∀ replacement, call.phase.withdraws = some replacement →
      s.state = some .acknowledged ∧ (outcome.toBool = true ∨ replacement.runtimeId ∉ s.running))
    (hcleaned : call.phase = .cleaning → outcome.toBool = true ∨ s.state ≠ some .committed) :
    Orderly (s.terminated i call outcome at') := by
  have hclean (after : RotationState) (hafter : after.swapped) (hphase : call.phase = .cleaning)
      (hhistory : ∀ state, s.state = some state → state.swapped → History (s.log ++ [.recorded after]) after)
      (patch : RotationAudit → RotationAudit) (hpatch : ∀ audit, (patch audit).state = after) :
      Orderly ((s.update patch).setCommit i { call with phase := .done }) := by
    obtain ⟨state, hstate, hswapped⟩ := h.cleaning call (List.mem_of_getElem? hi) hphase
    have hrecorded : Orderly (s.update patch) :=
      h.record hstate hpatch (hhistory state hstate hswapped) ⟨fun _ => hafter, fun _ => hswapped⟩
    obtain ⟨-, -, hcommits, -⟩ := Rotations.update_of_state _ hstate hpatch
    refine hrecorded.move (hcommits ▸ hi) (fun hphase => nomatch hphase) fun _ r hr => .inl ⟨hr, fun hown => ?_⟩
    rw [hphase] at hown
    cases hown
  unfold Rotations.terminated
  split
  case h_1 replacement error hphase =>
    have hholds : call.phase.holds = some replacement.runtimeId := by rw [hphase]; rfl
    obtain ⟨hstate, -⟩ := hwithdrawn replacement (by rw [hphase]; rfl)
    refine (h.ended replacement.runtimeId).rollBack hi hstate fun r hr hown => ?_
    rw [hholds] at hown
    cases hown
    simpa using (List.mem_filter.mp hr).2
  case h_2 replacement error failure hphase =>
    have hholds : call.phase.holds = some replacement.runtimeId := by rw [hphase]; rfl
    obtain ⟨hstate, hgone⟩ := hwithdrawn replacement (by rw [hphase]; rfl)
    refine h.rollBack hi hstate fun r hr hown => hgone.elim (fun hok => nomatch hok) fun hgone => ?_
    rw [hholds] at hown
    cases hown
    exact hgone hr
  case h_3 hphase =>
    exact hclean .committed (.inr rfl) hphase (fun state hstate hswapped =>
      .committed _ state (h.log_of_state hstate) hswapped) _ fun _ => rfl
  case h_4 error hphase =>
    refine hclean .cleanupPending (.inl rfl) hphase (fun state hstate hswapped => ?_) _ fun _ => rfl
    rcases hswapped with rfl | rfl
    · exact .retried _ (h.log_of_state hstate)
    · exact (hcleaned hphase).elim (fun hok => nomatch hok) fun hopen => absurd hstate hopen
  · exact h

theorem step (h : Orderly s) (e : Rotations.RotationEvent) (hundisturbed : Undisturbed s e) : Orderly (s.step e) := by
  cases e with
  | prepare channelId actorSessionId rotationId nonce at' view =>
    rw [Rotations.step]
    split_ifs with hsome
    · exact h
    have hnone : s.audit = none := by rwa [Bool.not_eq_true, Option.isSome_eq_false_iff, Option.isNone_iff_eq_none] at hsome
    cases hcall : s.prepare channelId actorSessionId rotationId nonce at' view with
    | error _ => exact h
    | ok s' =>
      obtain ⟨audit, haudit, rfl⟩ := Rotations.prepare_ok hcall
      exact h.prepare hnone haudit
  | acknowledge sessionId nonce at' view =>
    rw [Rotations.step]
    cases hcall : s.acknowledge sessionId nonce at' view with
    | error _ => exact h
    | ok s' =>
      obtain ⟨hstate, rfl⟩ := Rotations.acknowledge_ok hcall
      exact h.acknowledge hstate at'
  | commit actorSessionId view =>
    rw [Rotations.step]
    cases hcall : s.commit actorSessionId view with
    | error _ => exact h
    | ok call =>
      obtain ⟨hstate, hcleaning⟩ := Rotations.commit_ok hcall
      exact h.commit hstate hcleaning
  | cancel reason at' view =>
    rw [Rotations.step]
    cases hcall : s.cancel reason at' view with
    | error _ => exact h
    | ok s' =>
      obtain ⟨hlive, rfl⟩ := Rotations.cancel_ok hcall
      exact h.cancel hlive reason at'
  | launched i outcome at' =>
    rw [Rotations.step]
    cases hi : s.commits[i]? with
    | none => exact h
    | some call =>
      rw [Option.elim_some]
      split
      case h_1 prior hphase =>
        refine h.launched hi hphase outcome at' ?_
        rintro failure rfl
        exact hundisturbed call hi prior (by rw [hphase]; rfl)
      · exact h
  | inspected i outcome view at' =>
    rw [Rotations.step]
    cases hi : s.commits[i]? with
    | none => exact h
    | some call =>
      rw [Option.elim_some]
      split
      case h_1 prior launched hphase =>
        obtain ⟨hstate, hfound⟩ := hundisturbed call hi launched (by rw [hphase]; rfl)
        exact h.inspected hi hphase outcome view at' hstate hfound
      · exact h
  | terminated i outcome at' =>
    rw [Rotations.step]
    cases hi : s.commits[i]? with
    | none => exact h
    | some call => exact h.terminated hi outcome at' (hundisturbed call hi).1 (hundisturbed call hi).2
  | exited runtimeId => exact h.ended runtimeId
  | other world => exact ⟨h.history, h.cleaning, h.held⟩

theorem initial (world : World) : Orderly (Rotations.initial world) :=
  ⟨.inl ⟨rfl, rfl, rfl, rfl⟩, fun _ hcall => (List.not_mem_nil hcall).elim, fun _ _ _ _ hr => (List.not_mem_nil hr).elim⟩

end Orderly

theorem Orderly.consistent {s : Rotations} (h : Orderly s) : Consistent s := by
  rcases h.history with ⟨hnone, hlog, -, -⟩ | ⟨state, hstate, hhistory⟩
  · refine ⟨fun state hstate => ?_, fun before state after hsplit => ?_, fun before after hsplit => ?_, fun hrolled => ?_⟩
    · rw [hnone] at hstate
      cases hstate
    · rw [hlog] at hsplit
      simp at hsplit
    · rw [hlog] at hsplit
      simp at hsplit
    · rw [hnone] at hrolled
      cases hrolled
  · refine ⟨fun state' hstate' => ?_, fun before state' after hsplit hterminal e he => ?_,
      fun before after hsplit e he => ?_, fun hrolled => h.held _ hrolled ?_⟩
    · rw [hstate] at hstate'
      cases hstate'
      exact hhistory.recorded
    · exact (hhistory.precedes_of_split hsplit e he).1 state' hterminal rfl
    · exact (hhistory.precedes_of_split hsplit e he).2 rfl
    · rintro (h | h) <;> cases h

/-- While a commit goes on undisturbed, the rotation comes to one end. -/
theorem rotation_consistent (world : World) {events : List Rotations.RotationEvent}
    (h : Trace.Meets Rotations.step Undisturbed (.initial world) events) :
    Consistent (Trace.run Rotations.step (.initial world) events) :=
  Orderly.consistent (Trace.invariant_run (I := Orderly) (fun _ e hs hundisturbed => hs.step e hundisturbed)
    (.initial world) h)

namespace Sample

def launch : RotationLaunchConfig := ⟨"provider", some "model", some "high", "options"⟩

def worker (runtimeId sessionId : String) (generation : Nat) : RotationRuntime :=
  ⟨runtimeId, sessionId, generation, "running", some "thread", some .idle, .worker, launch⟩

def view : View := ⟨some (worker "runtime-old" "old" 4), some .planner⟩

def session (id : String) : Domain.Session := ⟨id, "t", none, none, some .worker, none, none, .runtime, none, none⟩

def world : World := .initial { Database.empty with
  sessions := ⟨[session "old", session "new"], by decide⟩
  channels := ⟨[⟨"c", none, "t", none, .active, none, .all, .open⟩], by decide⟩
  memberships := ⟨[⟨"c", "old", "t", none, none, some .worker⟩], by decide⟩ } tally tally

def launched : List Rotations.RotationEvent :=
  [.prepare "c" "planner" "rotation" "nonce" "t" view, .acknowledge "old" "nonce" "t" view, .commit "planner" view,
    .launched 0 (.ok (worker "runtime-new" "new" 1)) "t"]

def swapped : List Rotations.RotationEvent :=
  launched ++ [.inspected 0 (.ok (some (worker "runtime-new" "new" 1))) view "t", .terminated 0 (.ok ()) "t"]

/-- The planner cancels while the replacement is inspected. -/
def cancelled : List Rotations.RotationEvent :=
  launched ++ [.cancel "changed my mind" "t" view, .inspected 0 (.ok (some (worker "runtime-new" "new" 1))) view "t"]

end Sample

theorem rotation_consistent_swapped :
    Trace.Meets Rotations.step Undisturbed (.initial Sample.world) Sample.swapped ∧
      Consistent (Trace.run Rotations.step (.initial Sample.world) Sample.swapped) := by
  have hundisturbed : Trace.Meets Rotations.step Undisturbed (.initial Sample.world) Sample.swapped := by
    decide +kernel
  exact ⟨hundisturbed, rotation_consistent Sample.world hundisturbed⟩

theorem cancelled_and_swapped : ¬ ∀ world events,
    Consistent (Trace.run Rotations.step (.initial world) events) := by
  intro h
  have hlog : (Trace.run Rotations.step (.initial Sample.world) Sample.cancelled).log =
      [.recorded .prepared, .recorded .acknowledged] ++ .recorded .cancelled ::
        [.swapped, .recorded .cleanupPending] := by
    decide +kernel
  have hfinal := (h Sample.world Sample.cancelled).final _ _ _ hlog rfl .swapped (List.mem_cons_self ..)
  cases hfinal

end Wardroom.Rotation
