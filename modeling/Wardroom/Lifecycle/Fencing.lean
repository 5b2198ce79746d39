import Wardroom.Library.Trace
import Wardroom.Lifecycle.Coordination
import Std.Data.String.ToNat

/-! # Fencing off a coordinator that lost its claim

Every statement of a suspension or a resume names the coordinator that makes
it. A claim that is granted puts its coordinator into the row of the channel
and counts the epoch of the row up; until a coordinator is granted a claim of
its own again, its statements are refused.
-/

namespace Wardroom.Storage
open Wardroom.Library Wardroom.Domain Wardroom.Lifecycle

/-- What a statement does; the statements of a resume carry the fence token of their claim. -/
inductive StoreOperation where
  | claimSuspend (blueprint : ResumableChannelBlueprint)
  | capture (blueprint : ResumableChannelBlueprint)
  | renewSuspend
  | recordMemberOutcome (priorSessionId : String) (outcome : StopOutcome) (error : Option String)
  | releaseSuspend
  | markSuspended
  | claimResume (generation : Nat)
  | renewResume (token : String)
  | recordResumeLaunch (token : String) (record : ResumeMemberRecord)
  | setResumeProviderPhase (token priorSessionId : String) (generation : Nat) (phase : ProviderPhase)
  | clearResumeLaunches (token : String) (generation : Nat)
  | installResumedMember (token : String) (record : ResumeMemberRecord)
  | rollbackResumedMembers (token : String) (generation : Nat)
  | acknowledge (token priorSessionId deliveryId : String)
  | saveResumeResult (token : String) (result : List MemberResumeOutcome)
  | markActive (token : String)
  | releaseResume (token : String)

def StoreOperation.token : StoreOperation → Option String
  | renewResume token | recordResumeLaunch token _ | setResumeProviderPhase token _ _ _
  | clearResumeLaunches token _ | installResumedMember token _ | rollbackResumedMembers token _
  | acknowledge token _ _ | saveResumeResult token _ | markActive token | releaseResume token =>
    some token
  | _ => none

def StoreOperation.claims : StoreOperation → Bool
  | claimSuspend _ | claimResume _ => true
  | _ => false

/-- A statement of a coordinator, at a reading of the clock. -/
structure StoreCall where
  now : Nat
  ownerId : String
  idempotencyKey : String
  operation : StoreOperation

namespace ChannelBlueprintRow

def suspendToken (r : ChannelBlueprintRow) : Option String :=
  r.ownerId.bind fun ownerId => r.idempotencyKey.map fun key => fenceToken ownerId key r.fenceEpoch

/-- The row is under an unexpired lease with the given fence. -/
def fences (r : ChannelBlueprintRow) (now : Nat) (token : String) : Bool :=
  r.suspendToken = some token && r.state = .suspending &&
      r.leaseUntil.any (fun lease => now < lease) ||
    r.resumeToken = some token && r.state = .resuming &&
      r.resumeLeaseUntil.any fun lease => now < lease

end ChannelBlueprintRow

namespace LifecycleTables

def verifySuspendFenceToken (t : LifecycleTables) (now : Nat)
    (channelId idempotencyKey ownerId token : String) : Bool :=
  t.currentSuspendFenceToken channelId idempotencyKey ownerId = some token &&
    (t.row channelId).any fun r => r.suspendingBy idempotencyKey ownerId &&
      r.leaseUntil.any fun lease => now < lease

def verifyFenceToken (t : LifecycleTables) (now : Nat) (token : String) : Bool :=
  t.blueprints.rows.any fun r => r.fences now token

def fencedBy (t : LifecycleTables) (channelId : String) (now : Nat) (token : String) : Bool :=
  (t.row channelId).any fun r => r.fences now token

/-- What a statement answers, and the tables after it; `releaseResume` answers nothing. -/
def perform (channelId : String) (t : LifecycleTables) (call : StoreCall) :
    Option Bool × LifecycleTables :=
  let key := call.idempotencyKey
  let attempt (token : String) : Attempt := ⟨channelId, key, call.ownerId, token⟩
  let answered (outcome : Bool × LifecycleTables) := (some outcome.1, outcome.2)
  match call.operation with
  | .claimSuspend blueprint =>
    answered (t.claimSuspend call.now channelId key blueprint call.ownerId)
  | .capture blueprint => answered (t.capture channelId blueprint call.ownerId)
  | .renewSuspend => answered (t.renewSuspend call.now channelId key call.ownerId)
  | .recordMemberOutcome priorSessionId outcome error =>
    answered (t.recordMemberOutcome channelId priorSessionId outcome call.ownerId error)
  | .releaseSuspend => answered (t.releaseSuspend channelId key call.ownerId)
  | .markSuspended => answered (t.markSuspended channelId key call.ownerId)
  | .claimResume generation =>
    answered (t.claimResume call.now channelId key generation call.ownerId)
  | .renewResume token => answered (t.renewResume call.now (attempt token))
  | .recordResumeLaunch token record => answered
    (t.recordResumeLaunch call.now (attempt token) { record with channelId := channelId })
  | .setResumeProviderPhase token priorSessionId generation phase =>
    answered (t.setResumeProviderPhase call.now (attempt token) priorSessionId generation phase)
  | .clearResumeLaunches token generation =>
    answered (t.clearResumeLaunches call.now (attempt token) generation)
  | .installResumedMember token record => answered
    (t.installResumedMember call.now (attempt token) { record with channelId := channelId })
  | .rollbackResumedMembers token generation =>
    answered (t.rollbackResumedMembers call.now (attempt token) generation)
  | .acknowledge token priorSessionId deliveryId =>
    answered (t.acknowledge call.now (attempt token) priorSessionId deliveryId)
  | .saveResumeResult token result =>
    answered (t.saveResumeResult call.now (attempt token) result)
  | .markActive token => answered (t.markResumed call.now (attempt token))
  | .releaseResume token => (none, (t.releaseResume call.now (attempt token)).2)

def performed (channelId : String) (t : LifecycleTables) (call : StoreCall) : LifecycleTables :=
  (t.perform channelId call).2

def Granted (channelId : String) (t : LifecycleTables) (call : StoreCall) : Prop :=
  call.operation.claims = true ∧ (t.perform channelId call).1 = some true

/-- The statement is not confirmed, and it changes nothing. -/
def Refused (channelId : String) (t : LifecycleTables) (call : StoreCall) : Prop :=
  (t.perform channelId call).1 ≠ some true ∧ t.performed channelId call = t

/-- The row is the operation of the caller: its suspension, or its resume under its token. -/
def Holds (r : ChannelBlueprintRow) (call : StoreCall) : Prop :=
  (call.operation.token = none ∧ r.state = .suspending ∧ r.ownerId = some call.ownerId) ∨
    ∃ token, call.operation.token = some token ∧
      r.resumeCurrent call.idempotencyKey call.ownerId token call.now = true

/-- No claim was granted between two rows: epochs and owners stay, an operation at most ends. -/
structure Continues (r r' : ChannelBlueprintRow) : Prop where
  fenceEpoch : r'.fenceEpoch = r.fenceEpoch
  resumeEpoch : r'.resumeEpoch = r.resumeEpoch
  suspending : r'.state = .suspending → r.state = .suspending ∧ r'.ownerId = r.ownerId
  resuming : r'.state = .resuming → r.state = .resuming ∧ r'.resumeOwnerId = r.resumeOwnerId

/-- The row as a granted suspend claim leaves it. -/
structure TakenToSuspend (call : StoreCall) (r : Option ChannelBlueprintRow)
    (r' : ChannelBlueprintRow) : Prop where
  state : r'.state = .suspending
  ownerId : r'.ownerId = some call.ownerId
  fenceEpoch : r'.fenceEpoch = (r.map ChannelBlueprintRow.fenceEpoch).getD 0 + 1
  resumeEpoch : r'.resumeEpoch = (r.map ChannelBlueprintRow.resumeEpoch).getD 0

/-- The row as a granted resume claim leaves it. -/
structure TakenToResume (call : StoreCall) (r r' : ChannelBlueprintRow) : Prop where
  state : r'.state = .resuming
  resumeOwnerId : r'.resumeOwnerId = some call.ownerId
  fenceEpoch : r'.fenceEpoch = r.fenceEpoch
  resumeEpoch : r'.resumeEpoch = r.resumeEpoch + 1

/-- What a statement can do to the row of its channel. -/
inductive Turn (channelId : String) (t : LifecycleTables) (call : StoreCall) : Prop where
  | refused (h : Refused channelId t call)
  | suspends (r' : ChannelBlueprintRow) (blueprint : ResumableChannelBlueprint)
      (operation : call.operation = .claimSuspend blueprint) (granted : Granted channelId t call)
      (row : (t.performed channelId call).row channelId = some r')
      (taken : TakenToSuspend call (t.row channelId) r')
  | resumes (r r' : ChannelBlueprintRow) (generation : Nat)
      (operation : call.operation = .claimResume generation) (granted : Granted channelId t call)
      (row : t.row channelId = some r)
      (row' : (t.performed channelId call).row channelId = some r')
      (taken : TakenToResume call r r')
  | held (r r' : ChannelBlueprintRow) (claims : call.operation.claims = false)
      (row : t.row channelId = some r)
      (row' : (t.performed channelId call).row channelId = some r') (holds : Holds r call)
      (continues : Continues r r')

section Turns

variable {channelId : String} {t : LifecycleTables} {call : StoreCall}

theorem holds_of_attempt (token : String) (htoken : call.operation.token = some token)
    (hcurrent : t.resumeAttemptCurrent call.now
      ⟨channelId, call.idempotencyKey, call.ownerId, token⟩ = true) :
    ∃ r, t.row channelId = some r ∧ Holds r call := by
  obtain ⟨r, hrow, hr⟩ := Option.any_eq_true _ _ |>.mp hcurrent
  exact ⟨r, hrow, .inr ⟨token, htoken, hr⟩⟩

theorem turn_guarded {c : Bool} {outcome : Bool × LifecycleTables}
    (hclaims : call.operation.claims = false)
    (hperform : t.perform channelId call =
      (some (if c then outcome else (false, t)).1, (if c then outcome else (false, t)).2))
    (hholds : c = true → ∃ r, t.row channelId = some r ∧ Holds r call)
    (houtcome : outcome.2.blueprints = t.blueprints) : Turn channelId t call := by
  cases c with
  | false =>
    refine .refused ⟨?_, ?_⟩
    · rw [hperform]
      simp
    · unfold performed
      rw [hperform]
      rfl
  | true =>
    obtain ⟨r, hrow, hr⟩ := hholds rfl
    refine .held r r hclaims hrow ?_ hr ⟨rfl, rfl, fun h => ⟨h, rfl⟩, fun h => ⟨h, rfl⟩⟩
    unfold performed row
    rw [hperform]
    change outcome.2.blueprints.find? channelId = _
    rw [houtcome]
    exact hrow

variable {f : ChannelBlueprintRow → ChannelBlueprintRow}

theorem updateWhere_refused (t : LifecycleTables) {channelId : String} {p : ChannelBlueprintRow → Bool}
    (h : (t.row channelId).any p = false) :
    t.updateWhere channelId p f = (false, t) := by
  unfold LifecycleTables.updateWhere
  rw [h]
  rfl

theorem turn_update {p : ChannelBlueprintRow → Bool}
    {answer : Option Bool} (hclaims : call.operation.claims = false)
    (hperform : t.perform channelId call = (answer, (t.updateWhere channelId p f).2))
    (hanswer : answer = some (t.updateWhere channelId p f).1 ∨ answer = none)
    (hholds : ∀ r, p r = true → Holds r call)
    (hcontinues : ∀ r, p r = true → Continues r (r.amended f)) : Turn channelId t call := by
  by_cases hp : (t.row channelId).any p = true
  · obtain ⟨r, hrow, hr⟩ := (Option.any_eq_true _ _).mp hp
    refine .held r (r.amended f) hclaims hrow ?_ (hholds r hr) (hcontinues r hr)
    unfold performed
    rw [hperform]
    change (t.updateWhere channelId p f).2.row channelId = _
    rw [row_updateWhere, hrow, Option.map_some, if_pos hr]
  · have hrefused := updateWhere_refused t (f := f) (Bool.eq_false_iff.mpr hp)
    refine .refused ⟨?_, ?_⟩
    · rw [hperform]
      rw [hrefused] at hanswer
      rcases hanswer with h | h <;> simp [h]
    · unfold performed
      rw [hperform, hrefused]

variable {token : String}

theorem turn_resumeUpdate
    {answer : Option Bool} (hclaims : call.operation.claims = false)
    (htoken : call.operation.token = some token)
    (hperform : t.perform channelId call = (answer, (t.updateWhere channelId
      (fun r => r.resumeCurrent call.idempotencyKey call.ownerId token call.now) f).2))
    (hanswer : answer = some (t.updateWhere channelId
      (fun r => r.resumeCurrent call.idempotencyKey call.ownerId token call.now) f).1 ∨ answer = none)
    (hcontinues : ∀ r, Continues r (r.amended f)) : Turn channelId t call :=
  turn_update hclaims hperform hanswer (fun _ hr => .inr ⟨token, htoken, hr⟩) fun r _ => hcontinues r

variable {r : ChannelBlueprintRow}

theorem holds_of_suspending (key : String)
    (htoken : call.operation.token = none) (hr : r.suspendingBy key call.ownerId = true) : Holds r call := by
  obtain ⟨hstate, -, howner⟩ := ChannelBlueprintRow.suspendingBy_iff.mp hr
  exact .inl ⟨htoken, hstate, howner⟩

theorem turn_claimSuspend {blueprint : ResumableChannelBlueprint}
    (hoperation : call.operation = .claimSuspend blueprint) : Turn channelId t call := by
  have hperform : t.perform channelId call =
      (some (t.claimSuspend call.now channelId call.idempotencyKey blueprint call.ownerId).1,
        (t.claimSuspend call.now channelId call.idempotencyKey blueprint call.ownerId).2) := by
    unfold perform
    rw [hoperation]
  have hclaims : call.operation.claims = true := by rw [hoperation]; rfl
  have hperformed : t.performed channelId call =
      (t.claimSuspend call.now channelId call.idempotencyKey blueprint call.ownerId).2 := by
    unfold performed
    rw [hperform]
  unfold claimSuspend at hperform hperformed
  cases hrow : t.row channelId with
  | none =>
    rw [hrow] at hperform hperformed
    refine .suspends _ blueprint hoperation ⟨hclaims, by rw [hperform]⟩
      (by rw [hperformed]; exact row_upsert t _) ?_
    rw [hrow]
    exact ⟨rfl, rfl, rfl, rfl⟩
  | some r =>
    rw [hrow] at hperform hperformed
    by_cases hr : r.suspendable call.idempotencyKey call.now = true
    · have hany : (t.row channelId).any
          (fun r => r.suspendable call.idempotencyKey call.now) = true := by
        rw [hrow]
        exact hr
      have hchanged := t.changed_updateWhere channelId
        (fun r => r.suspendable call.idempotencyKey call.now)
        (claimed call.idempotencyKey call.ownerId call.now)
      rw [hany] at hchanged
      have hgranted : (t.perform channelId call).1 = some true := by
        rw [hperform]
        dsimp only
        split
        · rfl
        · rw [hchanged]
      have hrow' : (t.performed channelId call).row channelId =
          some (r.amended (claimed call.idempotencyKey call.ownerId call.now)) := by
        have h := t.row_updateWhere channelId
          (fun r => r.suspendable call.idempotencyKey call.now)
          (claimed call.idempotencyKey call.ownerId call.now)
        rw [hrow, Option.map_some, if_pos hr] at h
        rw [hperformed]
        dsimp only
        split <;> exact h
      refine .suspends _ blueprint hoperation ⟨hclaims, hgranted⟩ hrow' ?_
      rw [hrow]
      exact ⟨rfl, rfl, rfl, rfl⟩
    · have hany : (t.row channelId).any
          (fun r => r.suspendable call.idempotencyKey call.now) = false := by
        rw [hrow]
        exact Bool.eq_false_iff.mpr hr
      have hrefused := updateWhere_refused t
        (f := claimed call.idempotencyKey call.ownerId call.now) hany
      rw [hrefused] at hperform hperformed
      refine .refused ⟨?_, hperformed⟩
      rw [hperform]
      simp

/-- The row as a granted resume claim writes it. -/
def reclaimed (call : StoreCall) (generation : Nat) (r : ChannelBlueprintRow) : ChannelBlueprintRow :=
  { r with
    state := .resuming, resumeKey := some call.idempotencyKey, resumeOwnerId := some call.ownerId
    resumeLeaseUntil := some (call.now + leaseDurationMs), resumeEpoch := r.resumeEpoch + 1
    resumeRecoveryKnown := true, generation := generation }

theorem turn_claimResume {generation : Nat} (hoperation : call.operation = .claimResume generation) :
    Turn channelId t call := by
  have hperform : t.perform channelId call =
      (some (t.updateWhere channelId (fun r => r.resumable call.idempotencyKey generation call.now)
          (reclaimed call generation)).1,
        (t.updateWhere channelId (fun r => r.resumable call.idempotencyKey generation call.now)
          (reclaimed call generation)).2) := by
    unfold perform
    rw [hoperation]
    rfl
  have hclaims : call.operation.claims = true := by rw [hoperation]; rfl
  by_cases hp : (t.row channelId).any
      (fun r => r.resumable call.idempotencyKey generation call.now) = true
  · obtain ⟨r, hrow, hr⟩ := (Option.any_eq_true _ _).mp hp
    have hgranted : (t.perform channelId call).1 = some true := by
      rw [hperform, changed_updateWhere, hp]
    refine .resumes r (r.amended (reclaimed call generation)) generation hoperation
      ⟨hclaims, hgranted⟩ hrow ?_ ⟨rfl, rfl, rfl, rfl⟩
    unfold performed
    rw [hperform]
    dsimp only
    rw [row_updateWhere, hrow, Option.map_some, if_pos hr]
  · have hrefused := updateWhere_refused t (f := reclaimed call generation)
      (Bool.eq_false_iff.mpr hp)
    rw [hrefused] at hperform
    refine .refused ⟨?_, ?_⟩
    · rw [hperform]
      simp
    · unfold performed
      rw [hperform]

/-- Every statement is refused, is a claim that is granted, or is made by the holder of the row. -/
theorem turn (channelId : String) (t : LifecycleTables) (call : StoreCall) :
    Turn channelId t call := by
  obtain ⟨now, ownerId, key, operation⟩ := call
  have hends {r : ChannelBlueprintRow} {f : ChannelBlueprintRow → ChannelBlueprintRow}
      (h : Continues r (f r)) : Continues r (r.amended f) := ⟨h.1, h.2, h.3, h.4⟩
  cases operation with
  | claimSuspend blueprint => exact turn_claimSuspend rfl
  | claimResume generation => exact turn_claimResume rfl
  | capture blueprint =>
    refine turn_update rfl rfl (.inl rfl) (fun r hr => .inl ⟨rfl, ?_⟩) fun r _ =>
      hends ⟨rfl, rfl, fun h => ⟨h, rfl⟩, fun h => ⟨h, rfl⟩⟩
    simpa using hr
  | renewSuspend =>
    refine turn_update rfl rfl (.inl rfl) (fun r hr => holds_of_suspending key rfl ?_) fun r _ =>
      hends ⟨rfl, rfl, fun h => ⟨h, rfl⟩, fun h => ⟨h, rfl⟩⟩
    exact (Bool.and_eq_true_iff.mp hr).1
  | recordMemberOutcome priorSessionId outcome error =>
    refine turn_guarded (c := (t.row channelId).any fun r =>
        r.ownerId = some ownerId && r.state = .suspending) rfl rfl (fun hc => ?_) rfl
    obtain ⟨r, hrow, hr⟩ := (Option.any_eq_true _ _).mp hc
    have hr' : r.ownerId = some ownerId ∧ r.state = .suspending := by simpa using hr
    exact ⟨r, hrow, .inl ⟨rfl, hr'.symm⟩⟩
  | releaseSuspend =>
    exact turn_update rfl rfl (.inl rfl) (fun r hr => holds_of_suspending key rfl hr) fun r _ =>
      hends ⟨rfl, rfl, fun h => ⟨h, rfl⟩, fun h => ⟨h, rfl⟩⟩
  | markSuspended =>
    exact turn_update rfl rfl (.inl rfl) (fun r hr => holds_of_suspending key rfl hr) fun r _ =>
      hends ⟨rfl, rfl, nofun, nofun⟩
  | renewResume token =>
    exact turn_resumeUpdate rfl rfl rfl (.inl rfl) fun r =>
      hends ⟨rfl, rfl, fun h => ⟨h, rfl⟩, fun h => ⟨h, rfl⟩⟩
  | markActive token =>
    exact turn_resumeUpdate rfl rfl rfl (.inl rfl) fun r => hends ⟨rfl, rfl, nofun, nofun⟩
  | releaseResume token =>
    exact turn_resumeUpdate rfl rfl rfl (.inr rfl) fun r => hends ⟨rfl, rfl, nofun, nofun⟩
  | recordResumeLaunch token record =>
    exact turn_guarded rfl rfl (fun hc => holds_of_attempt token rfl hc) rfl
  | setResumeProviderPhase token priorSessionId generation phase =>
    exact turn_guarded rfl rfl (fun hc => holds_of_attempt token rfl hc) rfl
  | clearResumeLaunches token generation =>
    exact turn_guarded rfl rfl (fun hc => holds_of_attempt token rfl hc) rfl
  | installResumedMember token record =>
    exact turn_guarded rfl rfl (fun hc => holds_of_attempt token rfl hc) rfl
  | rollbackResumedMembers token generation =>
    exact turn_guarded rfl rfl (fun hc => holds_of_attempt token rfl hc) rfl
  | acknowledge token priorSessionId deliveryId =>
    refine turn_guarded rfl rfl (fun hc => holds_of_attempt token rfl hc) ?_
    split <;> rfl
  | saveResumeResult token result =>
    exact turn_guarded rfl rfl (fun hc => holds_of_attempt token rfl hc) rfl

/-- No operation that the row is in belongs to the coordinator. -/
def LockedOut (channelId ownerId : String) (t : LifecycleTables) : Prop :=
  ∀ r, t.row channelId = some r →
    (r.state = .suspending → r.ownerId ≠ some ownerId) ∧
    (r.state = .resuming → r.resumeOwnerId ≠ some ownerId)

variable {ownerId : String}

theorem not_holds_of_lockedOut (h : LockedOut channelId ownerId t)
    (howner : call.ownerId = ownerId) (hrow : t.row channelId = some r) :
    ¬Holds r call := by
  intro hr
  obtain ⟨hsuspending, hresuming⟩ := h r hrow
  rcases hr with ⟨-, hstate, hown⟩ | ⟨token, -, hcurrent⟩
  · exact hsuspending hstate (howner ▸ hown)
  · obtain ⟨hstate, -, hown, -⟩ := ChannelBlueprintRow.resumeCurrent_iff.mp hcurrent
    exact hresuming hstate (howner ▸ hown)

theorem refused_of_lockedOut (h : LockedOut channelId ownerId t)
    (howner : call.ownerId = ownerId) : Granted channelId t call ∨ Refused channelId t call := by
  cases turn channelId t call with
  | refused hrefused => exact .inr hrefused
  | suspends r' blueprint operation granted row taken => exact .inl granted
  | resumes r r' generation operation granted row row' taken => exact .inl granted
  | held r r' claims row row' holds continues =>
    exact absurd holds (not_holds_of_lockedOut h howner row)

theorem lockedOut_of_granted (hother : call.ownerId ≠ ownerId)
    (h : Granted channelId t call) : LockedOut channelId ownerId (t.performed channelId call) := by
  intro r' hrow'
  cases turn channelId t call with
  | refused hrefused => exact absurd h.2 hrefused.1
  | held _ _ claims => exact absurd h.1 (by simp [claims])
  | suspends r₁ blueprint operation granted row taken =>
    obtain rfl : r₁ = r' := Option.some.inj (row.symm.trans hrow')
    refine ⟨fun _ hown => hother ?_, fun hstate => ?_⟩
    · exact Option.some.inj (taken.ownerId.symm.trans hown)
    · exact absurd (taken.state.symm.trans hstate) (by decide)
  | resumes r r₁ generation operation granted row row' taken =>
    obtain rfl : r₁ = r' := Option.some.inj (row'.symm.trans hrow')
    refine ⟨fun hstate => ?_, fun _ hown => hother ?_⟩
    · exact absurd (taken.state.symm.trans hstate) (by decide)
    · exact Option.some.inj (taken.resumeOwnerId.symm.trans hown)

theorem lockedOut_performed (h : LockedOut channelId ownerId t)
    (hown : ¬(call.ownerId = ownerId ∧ Granted channelId t call)) :
    LockedOut channelId ownerId (t.performed channelId call) := by
  cases turn channelId t call with
  | refused hrefused =>
    rw [hrefused.2]
    exact h
  | suspends r' blueprint operation granted row taken =>
    exact lockedOut_of_granted (fun howner => hown ⟨howner, granted⟩) granted
  | resumes r r' generation operation granted row row' taken =>
    exact lockedOut_of_granted (fun howner => hown ⟨howner, granted⟩) granted
  | held r r₁ claims row row' holds continues =>
    intro r' hrow'
    obtain rfl : r₁ = r' := Option.some.inj (row'.symm.trans hrow')
    obtain ⟨hsuspending, hresuming⟩ := h r row
    refine ⟨fun hstate => ?_, fun hstate => ?_⟩
    · obtain ⟨hbefore, hsame⟩ := continues.suspending hstate
      rw [hsame]
      exact hsuspending hbefore
    · obtain ⟨hbefore, hsame⟩ := continues.resuming hstate
      rw [hsame]
      exact hresuming hbefore

/-- The row of the channel stays, and its epochs do not decrease. -/
def EpochsGrow (channelId : String) (t t' : LifecycleTables) : Prop :=
  ∀ r, t.row channelId = some r → ∃ r', t'.row channelId = some r' ∧
    r.fenceEpoch ≤ r'.fenceEpoch ∧ r.resumeEpoch ≤ r'.resumeEpoch

theorem epochsGrow_performed : EpochsGrow channelId t (t.performed channelId call) := by
  intro r hrow
  cases turn channelId t call with
  | refused hrefused =>
    rw [hrefused.2]
    exact ⟨r, hrow, le_rfl, le_rfl⟩
  | suspends r' blueprint operation granted row taken =>
    have hfence := taken.fenceEpoch
    have hresume := taken.resumeEpoch
    rw [hrow] at hfence hresume
    exact ⟨r', row, by simp [hfence], by simp [hresume]⟩
  | resumes r₁ r' generation operation granted row row' taken =>
    obtain rfl : r₁ = r := Option.some.inj (row.symm.trans hrow)
    exact ⟨r', row', taken.fenceEpoch.ge, by simp [taken.resumeEpoch]⟩
  | held r₁ r' claims row row' holds continues =>
    obtain rfl : r₁ = r := Option.some.inj (row.symm.trans hrow)
    exact ⟨r', row', continues.fenceEpoch.ge, continues.resumeEpoch.ge⟩

theorem epochsGrow_run (calls : List StoreCall) :
    EpochsGrow channelId t (Trace.run (performed channelId) t calls) := by
  refine Trace.invariant_of_step (I := EpochsGrow channelId t) (fun t' call h r hrow => ?_)
    (fun r hrow => ⟨r, hrow, le_rfl, le_rfl⟩) calls
  obtain ⟨r', hrow', hfence, hresume⟩ := h r hrow
  have hstep : EpochsGrow channelId t' (t'.performed channelId call) := epochsGrow_performed
  obtain ⟨r'', hrow'', hfence', hresume'⟩ := hstep r' hrow'
  exact ⟨r'', hrow'', hfence.trans hfence', hresume.trans hresume'⟩

theorem colon_not_mem_toString (n : Nat) : ':' ∉ (toString n).toList := by
  intro h
  rw [Nat.toString_eq_repr, Nat.toList_repr] at h
  exact absurd (Nat.isDigit_of_mem_toDigits (by decide) (by decide) h) (by decide)

theorem split_at_colon {x x' z z' : List Char} (hx : ':' ∉ x) (hx' : ':' ∉ x')
    (h : x ++ ':' :: z = x' ++ ':' :: z') : x = x' ∧ z = z' := by
  induction x generalizing x' with
  | nil =>
    cases x' with
    | nil => exact ⟨rfl, (List.cons.inj h).2⟩
    | cons c x' => exact absurd (List.mem_cons.mpr (.inl (List.cons.inj h).1)) hx'
  | cons c x ih =>
    cases x' with
    | nil => exact absurd (List.mem_cons.mpr (.inl (List.cons.inj h).1.symm)) hx
    | cons c' x' =>
      obtain ⟨hc, h⟩ := List.cons.inj h
      obtain ⟨hxs, hz⟩ := ih (fun hmem => hx (List.mem_cons_of_mem _ hmem))
        (fun hmem => hx' (List.mem_cons_of_mem _ hmem)) h
      exact ⟨by rw [hc, hxs], hz⟩

theorem fenceToken_toList (ownerId key : String) (epoch : Nat) :
    (fenceToken ownerId key epoch).toList =
      ownerId.toList ++ ':' :: (key.toList ++ ':' :: (toString epoch).toList) := by
  simp [fenceToken]

theorem epoch_of_fenceToken {o o' k k' : String} {e e' : Nat}
    (h : fenceToken o k e = fenceToken o' k' e') :
    e = e' ∧ o.toList ++ ':' :: k.toList = o'.toList ++ ':' :: k'.toList := by
  have hlist := congrArg String.toList h
  rw [fenceToken_toList, fenceToken_toList] at hlist
  have hreverse := congrArg List.reverse hlist
  have hsplit (o k : String) (e : Nat) :
      (o.toList ++ ':' :: (k.toList ++ ':' :: (toString e).toList)).reverse =
        (toString e).toList.reverse ++ ':' :: (o.toList ++ ':' :: k.toList).reverse := by
    simp
  rw [hsplit, hsplit] at hreverse
  have hcolon (e : Nat) : ':' ∉ (toString e).toList.reverse := by
    rw [List.mem_reverse]
    exact colon_not_mem_toString e
  obtain ⟨hepoch, hparts⟩ := split_at_colon (hcolon e) (hcolon e') hreverse
  have hrepr : Nat.repr e = Nat.repr e' := String.toList_injective (List.reverse_injective hepoch)
  exact ⟨Nat.repr_injective hrepr, List.reverse_injective hparts⟩

theorem fenceToken_inj {o o' k k' : String} {e e' : Nat} (ho : ':' ∉ o.toList)
    (ho' : ':' ∉ o'.toList) (h : fenceToken o k e = fenceToken o' k' e') :
    o = o' ∧ k = k' ∧ e = e' := by
  obtain ⟨he, hparts⟩ := epoch_of_fenceToken h
  obtain ⟨howner, hkey⟩ := split_at_colon ho ho' hparts
  exact ⟨String.toList_injective howner, String.toList_injective hkey, he⟩

theorem token_of_fences {now : Nat}
    (h : r.fences now token = true) :
    (r.state = .suspending ∧ r.suspendToken = some token) ∨
      (r.state = .resuming ∧ r.resumeToken = some token) := by
  unfold ChannelBlueprintRow.fences at h
  simp only [Bool.or_eq_true, Bool.and_eq_true, decide_eq_true_eq] at h
  rcases h with ⟨⟨htoken, hstate⟩, -⟩ | ⟨⟨htoken, hstate⟩, -⟩
  · exact .inl ⟨hstate, htoken⟩
  · exact .inr ⟨hstate, htoken⟩

theorem fences_unique {now : Nat} {token token' : String}
    (h : r.fences now token = true) (h' : r.fences now token' = true) : token = token' := by
  rcases token_of_fences h with ⟨hstate, ht⟩ | ⟨hstate, ht⟩ <;>
    rcases token_of_fences h' with ⟨hstate', ht'⟩ | ⟨hstate', ht'⟩
  · exact Option.some.inj (ht.symm.trans ht')
  · exact absurd (hstate.symm.trans hstate') (by decide)
  · exact absurd (hstate.symm.trans hstate') (by decide)
  · exact Option.some.inj (ht.symm.trans ht')

theorem fencedBy_unique {now : Nat} {token token' : String}
    (h : t.fencedBy channelId now token = true) (h' : t.fencedBy channelId now token' = true) :
    token = token' := by
  obtain ⟨r, hrow, hr⟩ := (Option.any_eq_true _ _).mp h
  obtain ⟨r', hrow', hr'⟩ := (Option.any_eq_true _ _).mp h'
  obtain rfl : r = r' := Option.some.inj (hrow.symm.trans hrow')
  exact fences_unique hr hr'

theorem verifyFenceToken_iff {now : Nat} :
    t.verifyFenceToken now token = true ↔ ∃ channelId, t.fencedBy channelId now token = true := by
  unfold verifyFenceToken fencedBy row
  rw [List.any_eq_true]
  constructor
  · rintro ⟨r, hmem, hr⟩
    exact ⟨r.channelId, by rw [Table.find?_of_mem hmem]; exact hr⟩
  · rintro ⟨channelId, h⟩
    obtain ⟨r, hrow, hr⟩ := (Option.any_eq_true _ _).mp h
    exact ⟨r, (Table.find?_some hrow).1, hr⟩

/-- The row has left the epoch of a resume token behind. -/
def ResumeSpent (channelId token : String) (t : LifecycleTables) : Prop :=
  ∃ o k e r, token = fenceToken o k e ∧ t.row channelId = some r ∧ e < r.resumeEpoch

/-- The row has left the epoch of a suspension token behind. -/
def SuspendSpent (channelId token : String) (t : LifecycleTables) : Prop :=
  ∃ o k e r, token = fenceToken o k e ∧ t.row channelId = some r ∧ e < r.fenceEpoch

variable {t' : LifecycleTables}

theorem resumeSpent_of_epochsGrow
    (h : ResumeSpent channelId token t) (hgrow : EpochsGrow channelId t t') :
    ResumeSpent channelId token t' := by
  obtain ⟨o, k, e, r, htoken, hrow, he⟩ := h
  obtain ⟨r', hrow', -, hresume⟩ := hgrow r hrow
  exact ⟨o, k, e, r', htoken, hrow', he.trans_le hresume⟩

theorem suspendSpent_of_epochsGrow
    (h : SuspendSpent channelId token t) (hgrow : EpochsGrow channelId t t') :
    SuspendSpent channelId token t' := by
  obtain ⟨o, k, e, r, htoken, hrow, he⟩ := h
  obtain ⟨r', hrow', hfence, -⟩ := hgrow r hrow
  exact ⟨o, k, e, r', htoken, hrow', he.trans_le hfence⟩

theorem refused_of_resumeSpent (h : ResumeSpent channelId token t)
    (htoken : call.operation.token = some token) : Refused channelId t call := by
  obtain ⟨o, k, e, r, rfl, hrow, he⟩ := h
  cases turn channelId t call with
  | refused hrefused => exact hrefused
  | suspends r' blueprint operation granted row taken =>
    rw [operation] at htoken
    cases htoken
  | resumes r₁ r' generation operation granted row row' taken =>
    rw [operation] at htoken
    cases htoken
  | held r₁ r' claims row row' holds continues =>
    obtain rfl : r₁ = r := Option.some.inj (row.symm.trans hrow)
    rcases holds with ⟨hnone, -⟩ | ⟨token, hsome, hcurrent⟩
    · exact absurd (hnone.symm.trans htoken) (by simp)
    · obtain rfl := Option.some.inj (hsome.symm.trans htoken)
      obtain ⟨-, hkey, howner, hresume, -⟩ := ChannelBlueprintRow.resumeCurrent_iff.mp hcurrent
      rw [ChannelBlueprintRow.resumeToken, howner, hkey] at hresume
      exact absurd (epoch_of_fenceToken (Option.some.inj hresume)).1 he.ne'

theorem not_verifySuspend_of_suspendSpent (h : SuspendSpent channelId token t)
    (now : Nat) (key ownerId : String) :
    t.verifySuspendFenceToken now channelId key ownerId token = false := by
  obtain ⟨o, k, e, r, rfl, hrow, he⟩ := h
  refine Bool.eq_false_iff.mpr fun hverified => ?_
  have hcurrent : t.currentSuspendFenceToken channelId key ownerId = some (fenceToken o k e) := by
    unfold verifySuspendFenceToken at hverified
    exact of_decide_eq_true (Bool.and_eq_true_iff.mp hverified).1
  unfold currentSuspendFenceToken at hcurrent
  rw [hrow] at hcurrent
  obtain ⟨r', hr', htoken⟩ := Option.map_eq_some_iff.mp hcurrent
  obtain rfl : r = r' := Option.some.inj (Option.filter_eq_some_iff.mp hr').1
  exact absurd (epoch_of_fenceToken htoken).1 he.ne'

theorem resumeSpent_of_granted {token key ownerId : String} {now generation : Nat}
    (htoken : t.currentResumeFenceToken now channelId key ownerId = some token)
    (hgrow : EpochsGrow channelId t t') (hclaim : call.operation = .claimResume generation)
    (hgranted : Granted channelId t' call) :
    ResumeSpent channelId token (t'.performed channelId call) := by
  unfold currentResumeFenceToken at htoken
  obtain ⟨r, hr, rfl⟩ := Option.map_eq_some_iff.mp htoken
  obtain ⟨r', hrow', -, hresume⟩ := hgrow r (Option.filter_eq_some_iff.mp hr).1
  cases turn channelId t' call with
  | refused hrefused => exact absurd hgranted.2 hrefused.1
  | held _ _ claims => exact absurd hgranted.1 (by simp [claims])
  | suspends _ _ operation =>
    rw [hclaim] at operation
    cases operation
  | resumes r₁ r₂ generation operation granted row row' taken =>
    obtain rfl : r₁ = r' := Option.some.inj (row.symm.trans hrow')
    exact ⟨ownerId, key, r.resumeEpoch, r₂, rfl, row', by rw [taken.resumeEpoch]; omega⟩

theorem suspendSpent_of_granted {token key ownerId : String} {blueprint : ResumableChannelBlueprint}
    (htoken : t.currentSuspendFenceToken channelId key ownerId = some token)
    (hgrow : EpochsGrow channelId t t') (hclaim : call.operation = .claimSuspend blueprint)
    (hgranted : Granted channelId t' call) :
    SuspendSpent channelId token (t'.performed channelId call) := by
  unfold currentSuspendFenceToken at htoken
  obtain ⟨r, hr, rfl⟩ := Option.map_eq_some_iff.mp htoken
  obtain ⟨r', hrow', hfence, -⟩ := hgrow r (Option.filter_eq_some_iff.mp hr).1
  cases turn channelId t' call with
  | refused hrefused => exact absurd hgranted.2 hrefused.1
  | held _ _ claims => exact absurd hgranted.1 (by simp [claims])
  | resumes _ _ _ operation =>
    rw [hclaim] at operation
    cases operation
  | suspends r₂ blueprint operation granted row taken =>
    have hepoch := taken.fenceEpoch
    rw [hrow'] at hepoch
    exact ⟨ownerId, key, r.fenceEpoch, r₂, rfl, row, by
      rw [hepoch]
      simpa using Nat.lt_succ_of_le hfence⟩

end Turns

/-- No call of the run is a claim that is granted to the coordinator. -/
def Idle (channelId ownerId : String) : LifecycleTables → List StoreCall → Prop :=
  Trace.Meets (performed channelId) fun t call => ¬(call.ownerId = ownerId ∧ Granted channelId t call)

/-- What the statements on one channel guarantee from any tables on, under any clock. -/
structure Fencing (channelId : String) (t : LifecycleTables) : Prop where
  /-- Of two tokens that are verified, one is the current fence of another channel. -/
  oneToken : ∀ now token token', t.verifyFenceToken now token = true →
    t.verifyFenceToken now token' = true → token ≠ token' →
      ∃ other ≠ channelId, t.fencedBy other now token = true ∨ t.fencedBy other now token' = true
  /-- The token of the channel says who holds it, where owner ids have no colon. -/
  oneHolder : ∀ now o k e o' k' e', t.fencedBy channelId now (fenceToken o k e) = true →
    t.fencedBy channelId now (fenceToken o' k' e') = true →
      e = e' ∧ (':' ∉ o.toList → ':' ∉ o'.toList → o = o' ∧ k = k')
  epochs : ∀ calls, EpochsGrow channelId t (Trace.run (performed channelId) t calls)
  /-- Once another coordinator was granted a claim, a coordinator is refused until it is granted
  one itself. -/
  oldOwner : ∀ claim ownerId calls call, Granted channelId t claim → claim.ownerId ≠ ownerId →
    Idle channelId ownerId (t.performed channelId claim) calls → call.ownerId = ownerId →
      Granted channelId (Trace.run (performed channelId) t (claim :: calls)) call ∨
        Refused channelId (Trace.run (performed channelId) t (claim :: calls)) call
  /-- The token of a resume is refused for good once the resume was claimed again. -/
  oldResumeToken : ∀ now key ownerId token before claim generation calls call,
    t.currentResumeFenceToken now channelId key ownerId = some token →
      claim.operation = .claimResume generation →
        Granted channelId (Trace.run (performed channelId) t before) claim →
          call.operation.token = some token →
            Refused channelId (Trace.run (performed channelId) t (before ++ claim :: calls)) call
  /-- The token of a suspension is not verified again once the suspension was claimed again. -/
  oldSuspendToken : ∀ key ownerId token before claim blueprint calls now key' ownerId',
    t.currentSuspendFenceToken channelId key ownerId = some token →
      claim.operation = .claimSuspend blueprint →
        Granted channelId (Trace.run (performed channelId) t before) claim →
          (Trace.run (performed channelId) t (before ++ claim :: calls)).verifySuspendFenceToken
            now channelId key' ownerId' token = false

theorem fencing (channelId : String) (t : LifecycleTables) : Fencing channelId t where
  oneToken now token token' h h' hne := by
    obtain ⟨c, hc⟩ := verifyFenceToken_iff.mp h
    obtain ⟨c', hc'⟩ := verifyFenceToken_iff.mp h'
    by_cases hown : c = channelId
    · by_cases hown' : c' = channelId
      · rw [hown] at hc
        rw [hown'] at hc'
        exact absurd (fencedBy_unique hc hc') hne
      · exact ⟨c', hown', .inr hc'⟩
    · exact ⟨c, hown, .inl hc⟩
  oneHolder now o k e o' k' e' h h' := by
    have htext := fencedBy_unique h h'
    refine ⟨(epoch_of_fenceToken htext).1, fun ho ho' => ?_⟩
    obtain ⟨howner, hkey, -⟩ := fenceToken_inj ho ho' htext
    exact ⟨howner, hkey⟩
  epochs := epochsGrow_run
  oldOwner claim ownerId calls call hgranted hother hidle howner := by
    have hout : LockedOut channelId ownerId
        (Trace.run (performed channelId) (t.performed channelId claim) calls) :=
      Trace.invariant_run (fun s call hs hnot => lockedOut_performed hs hnot)
        (lockedOut_of_granted hother hgranted) hidle
    rw [Trace.run_cons]
    exact refused_of_lockedOut hout howner
  oldResumeToken now key ownerId token before claim generation calls call htoken hclaim hgranted
      hcall := by
    have hspent := resumeSpent_of_granted htoken (epochsGrow_run before) hclaim hgranted
    rw [Trace.run_append, Trace.run_cons]
    exact refused_of_resumeSpent (resumeSpent_of_epochsGrow hspent (epochsGrow_run calls)) hcall
  oldSuspendToken key ownerId token before claim blueprint calls now key' ownerId' htoken hclaim
      hgranted := by
    have hspent := suspendSpent_of_granted htoken (epochsGrow_run before) hclaim hgranted
    rw [Trace.run_append, Trace.run_cons]
    exact not_verifySuspend_of_suspendSpent (suspendSpent_of_epochsGrow hspent (epochsGrow_run calls))
      now key' ownerId'

/-- A store in which another channel is being suspended under the same key. -/
def twoChannels : LifecycleTables :=
  { empty with blueprints := Table.ofRows [⟨"d", emptyBlueprint "d" "d" "t", .suspending, some "k",
      some "a", some 60000, 0, 1, true, none, none, none, 0, true⟩] }

/-- The first owner loses its suspension, resumes the channel, and gives its old token. -/
def lostAndResumed : List StoreCall :=
  [⟨0, "a", "k", .claimSuspend (emptyBlueprint "c" "c" "t")⟩,
    ⟨30000, "b", "k", .claimSuspend (emptyBlueprint "c" "c" "t")⟩, ⟨30000, "b", "k", .markSuspended⟩,
    ⟨30000, "a", "k", .claimResume 1⟩,
    ⟨30000, "a", "k", .recordResumeLaunch "a:k:1" ⟨"c", "s", "s", "r", 1, none, none⟩⟩]

/-- Two tokens are verified at a time, and the old owner's claim and old token are accepted. -/
theorem oldOwner_accepted :
    let reached (n : Nat) := Trace.run (performed "c") twoChannels (lostAndResumed.take n)
    (reached 1).currentSuspendFenceToken "c" "k" "a" = some "a:k:1" ∧
    (reached 2).currentSuspendFenceToken "c" "k" "b" = some "b:k:2" ∧
    (reached 2).verifyFenceToken 30000 "a:k:1" = true ∧
    (reached 2).verifyFenceToken 30000 "b:k:2" = true ∧
    (reached 3).perform "c" ⟨30000, "a", "k", .claimResume 1⟩ = (some true, reached 4) ∧
    ((reached 4).perform "c" ⟨30000, "a", "k",
      .recordResumeLaunch "a:k:1" ⟨"c", "s", "s", "r", 1, none, none⟩⟩).1 = some true ∧
    (reached 4).launches.rows = [] ∧ (reached 5).launches.rows ≠ [] := by
  refine ⟨?_, ?_, ?_, ?_, ?_, ?_, ?_, ?_⟩
  · decide +kernel
  · decide +kernel
  · decide +kernel
  · decide +kernel
  · refine Prod.ext ?_ rfl
    decide +kernel
  · decide +kernel
  · decide +kernel
  · decide +kernel

end LifecycleTables
end Wardroom.Storage
