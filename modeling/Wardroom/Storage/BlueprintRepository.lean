import Wardroom.Lifecycle.Blueprints
import Wardroom.Library.Table
import Mathlib.Data.List.Sort
import Mathlib.Data.String.Basic

/-! # The lifecycle tables of a store

One row for each channel holds its blueprint, the state of its suspension and
the leases under which a coordinator suspends or resumes it. Every statement
takes the reading of the clock, in milliseconds, under which it runs.
-/

namespace Wardroom.Storage
open Wardroom.Library Wardroom.Domain Wardroom.Lifecycle

inductive BlueprintState where
  | suspending | suspended | resuming | active
  deriving DecidableEq, Repr

structure ChannelBlueprintRow where
  channelId : String
  blueprint : ResumableChannelBlueprint
  state : BlueprintState
  idempotencyKey : Option String := none
  ownerId : Option String := none
  leaseUntil : Option Nat := none
  generation : Nat := 0
  fenceEpoch : Nat := 0
  suspendKeyKnown : Bool := true
  resumeKey : Option String := none
  resumeOwnerId : Option String := none
  resumeLeaseUntil : Option Nat := none
  resumeEpoch : Nat := 0
  resumeRecoveryKnown : Bool := true
  deriving DecidableEq

inductive StopOutcome where
  | stopped | failed
  deriving DecidableEq, Repr

structure MemberOutcomeRow where
  channelId : String
  priorSessionId : String
  outcome : StopOutcome
  error : Option String
  deriving DecidableEq, Repr

def MemberOutcomeRow.key (r : MemberOutcomeRow) : String × String := (r.channelId, r.priorSessionId)

structure ResumeMemberRecord where
  channelId : String
  priorSessionId : String
  sessionId : String
  runtimeId : String
  generation : Nat
  role : Option SessionRole
  provider : Option ProviderConversationRef
  deriving DecidableEq

def ResumeMemberRecord.key (r : ResumeMemberRecord) : String × String :=
  (r.channelId, r.priorSessionId)

inductive ProviderPhase where
  | launched | providerResuming | providerResumed
  deriving DecidableEq, Repr

structure ResumeLaunchRow extends ResumeMemberRecord where
  providerPhase : ProviderPhase
  deriving DecidableEq

def ResumeLaunchRow.launchKey (r : ResumeLaunchRow) : String × String × Nat :=
  (r.channelId, r.priorSessionId, r.generation)

inductive ResumeOutcome where
  | resumed | failed | rolledBack
  deriving DecidableEq, Repr

structure MemberResumeOutcome where
  priorSessionId : String
  sessionId : Option String
  runtimeId : Option String
  generation : Nat
  outcome : ResumeOutcome
  error : Option String
  deriving DecidableEq, Repr

structure ResumeResultRow where
  channelId : String
  idempotencyKey : String
  result : List MemberResumeOutcome
  deriving DecidableEq, Repr

def ResumeResultRow.key (r : ResumeResultRow) : String × String := (r.channelId, r.idempotencyKey)

structure QueuedCanonicalDelivery where
  channelId : String
  deliveryId : String
  cursor : Nat
  event : Json
  deriving DecidableEq

def QueuedCanonicalDelivery.key (d : QueuedCanonicalDelivery) : String × String :=
  (d.channelId, d.deliveryId)

structure DeliveryAcknowledgement where
  channelId : String
  priorSessionId : String
  deliveryId : String
  deriving DecidableEq, Repr

structure LifecycleTables where
  blueprints : Table ChannelBlueprintRow.channelId
  outcomes : Table MemberOutcomeRow.key
  launches : Table ResumeLaunchRow.launchKey
  resumedMembers : Table ResumeMemberRecord.key
  results : Table ResumeResultRow.key
  deliveries : Table QueuedCanonicalDelivery.key
  acknowledgements : Table (id : DeliveryAcknowledgement → DeliveryAcknowledgement)

def leaseDurationMs : Nat := 30000

def suspendLeaseHeartbeatMs : Nat := max 1 (leaseDurationMs / 3)

/-- The text of a fence: its owner, the key of the operation and the epoch of the claim. -/
def fenceToken (ownerId idempotencyKey : String) (epoch : Nat) : String :=
  ownerId ++ ":" ++ idempotencyKey ++ ":" ++ toString epoch

namespace ChannelBlueprintRow

def suspendingBy (r : ChannelBlueprintRow) (idempotencyKey ownerId : String) : Bool :=
  r.state = .suspending && r.idempotencyKey = some idempotencyKey && r.ownerId = some ownerId

/-- The condition under which a suspension may be claimed. -/
def suspendable (r : ChannelBlueprintRow) (idempotencyKey : String) (now : Nat) : Bool :=
  r.state = .active ||
  r.state = .suspended && r.suspendKeyKnown && r.idempotencyKey = some idempotencyKey ||
  r.state = .suspending && r.suspendKeyKnown && r.idempotencyKey = some idempotencyKey &&
    r.leaseUntil.all fun lease => lease ≤ now

/-- The condition under which a resume may be claimed. -/
def resumable (r : ChannelBlueprintRow) (idempotencyKey : String) (generation now : Nat) : Bool :=
  r.state = .suspended ||
  r.state = .resuming && r.resumeRecoveryKnown && r.resumeKey = some idempotencyKey &&
    r.generation = generation && r.resumeLeaseUntil.any fun lease => lease ≤ now

def resumeToken (r : ChannelBlueprintRow) : Option String :=
  r.resumeOwnerId.bind fun ownerId => r.resumeKey.map fun key => fenceToken ownerId key r.resumeEpoch

/-- The attempt is the one the row is in, and its lease has not run out. -/
def resumeCurrent (r : ChannelBlueprintRow) (idempotencyKey ownerId token : String) (now : Nat) :
    Bool :=
  r.state = .resuming && r.resumeKey = some idempotencyKey && r.resumeOwnerId = some ownerId &&
    r.resumeToken = some token && r.resumeLeaseUntil.any fun lease => now < lease

/-- The row after a change of columns other than its key. -/
def amended (f : ChannelBlueprintRow → ChannelBlueprintRow) (r : ChannelBlueprintRow) :
    ChannelBlueprintRow :=
  { f r with channelId := r.channelId }

variable {r : ChannelBlueprintRow} {idempotencyKey ownerId token : String} {generation now : Nat}

theorem suspendingBy_iff : r.suspendingBy idempotencyKey ownerId = true ↔
    r.state = .suspending ∧ r.idempotencyKey = some idempotencyKey ∧ r.ownerId = some ownerId := by
  simp [suspendingBy, and_assoc]

theorem resumeCurrent_iff : r.resumeCurrent idempotencyKey ownerId token now = true ↔
    r.state = .resuming ∧ r.resumeKey = some idempotencyKey ∧ r.resumeOwnerId = some ownerId ∧
      r.resumeToken = some token ∧ ∃ lease, r.resumeLeaseUntil = some lease ∧ now < lease := by
  simp [resumeCurrent, and_assoc, Option.any_eq_true]

end ChannelBlueprintRow

namespace LifecycleTables

def empty : LifecycleTables := ⟨.empty, .empty, .empty, .empty, .empty, .empty, .empty⟩

def row (t : LifecycleTables) (channelId : String) : Option ChannelBlueprintRow :=
  t.blueprints.find? channelId

def read (t : LifecycleTables) (channelId : String) : Option ResumableChannelBlueprint :=
  (t.row channelId).map ChannelBlueprintRow.blueprint

def outcome (t : LifecycleTables) (channelId priorSessionId : String) : Option MemberOutcomeRow :=
  t.outcomes.find? (channelId, priorSessionId)

/-- `UPDATE channel_blueprints SET … WHERE channel_id=? AND p`, with whether it changed a row. -/
def updateWhere (t : LifecycleTables) (channelId : String) (p : ChannelBlueprintRow → Bool)
    (f : ChannelBlueprintRow → ChannelBlueprintRow) : Bool × LifecycleTables :=
  if (t.row channelId).any p then
    (true, { t with
      blueprints := t.blueprints.update (fun r => r.channelId = channelId)
        (ChannelBlueprintRow.amended f) fun _ => rfl })
  else (false, t)

/-- `INSERT … ON CONFLICT(channel_id) DO UPDATE SET blueprint_json`. -/
def putBlueprint (t : LifecycleTables) (channelId : String)
    (blueprint : ResumableChannelBlueprint) : LifecycleTables :=
  match t.row channelId with
  | none => { t with blueprints := t.blueprints.upsert ⟨channelId, blueprint, .active, none, none,
      none, 0, 0, true, none, none, none, 0, true⟩ }
  | some _ => (t.updateWhere channelId (fun _ => true) fun r => { r with blueprint := blueprint }).2

/-- Drop the members whose session is not among the given ones, with their outcomes. -/
def retainMembers (t : LifecycleTables) (channelId : String) (activeSessionIds : List String) :
    LifecycleTables :=
  match t.read channelId with
  | none => t
  | some blueprint =>
    let removed := (blueprint.members.filter fun m => m.priorSessionId ∉ activeSessionIds).map
      ResumableMemberBlueprint.priorSessionId
    if removed = [] then t
    else
      let t := (t.updateWhere channelId (fun _ => true) fun r =>
        { r with blueprint := blueprint.retaining activeSessionIds }).2
      { t with
        outcomes := t.outcomes.delete fun r => r.channelId = channelId && r.priorSessionId ∈ removed }

def capture (t : LifecycleTables) (channelId : String) (blueprint : ResumableChannelBlueprint)
    (ownerId : String) : Bool × LifecycleTables :=
  t.updateWhere channelId (fun r => r.state = .suspending && r.ownerId = some ownerId)
    fun r => { r with blueprint := blueprint }

/-- The row as a suspension takes it over. -/
def claimed (idempotencyKey ownerId : String) (now : Nat) (r : ChannelBlueprintRow) :
    ChannelBlueprintRow :=
  { r with
    state := .suspending, ownerId := some ownerId, idempotencyKey := some idempotencyKey
    suspendKeyKnown := true, leaseUntil := some (now + leaseDurationMs)
    fenceEpoch := r.fenceEpoch + 1 }

def claimSuspend (t : LifecycleTables) (now : Nat) (channelId idempotencyKey : String)
    (blueprint : ResumableChannelBlueprint) (ownerId : String) : Bool × LifecycleTables :=
  match t.row channelId with
  | none =>
    (true, { t with blueprints := t.blueprints.upsert ⟨channelId, blueprint, .suspending,
      some idempotencyKey, some ownerId, some (now + leaseDurationMs), 0, 1, true, none, none, none,
      0, true⟩ })
  | some current =>
    let (changed, t) := t.updateWhere channelId (fun r => r.suspendable idempotencyKey now)
      (claimed idempotencyKey ownerId now)
    if changed && current.state = .active then
      (true, { t with outcomes := t.outcomes.delete fun r => r.channelId = channelId })
    else (changed, t)

def renewSuspend (t : LifecycleTables) (now : Nat) (channelId idempotencyKey ownerId : String) :
    Bool × LifecycleTables :=
  t.updateWhere channelId
    (fun r => r.suspendingBy idempotencyKey ownerId && r.leaseUntil.any fun lease => now < lease)
    fun r => { r with leaseUntil := some (now + leaseDurationMs) }

def currentSuspendFenceToken (t : LifecycleTables) (channelId idempotencyKey ownerId : String) :
    Option String :=
  ((t.row channelId).filter fun r => r.suspendingBy idempotencyKey ownerId).map fun r =>
    fenceToken ownerId idempotencyKey r.fenceEpoch

def releaseSuspend (t : LifecycleTables) (channelId idempotencyKey ownerId : String) :
    Bool × LifecycleTables :=
  t.updateWhere channelId (fun r => r.suspendingBy idempotencyKey ownerId)
    fun r => { r with leaseUntil := none }

def memberStopped (t : LifecycleTables) (channelId priorSessionId : String) : Bool :=
  (t.outcome channelId priorSessionId).any fun r => r.outcome = .stopped

def suspensionComplete (t : LifecycleTables) (channelId : String) : Bool :=
  let total := ((t.read channelId).map fun b => b.members.length).getD 0
  let stopped := (t.outcomes.select fun r => r.channelId = channelId && r.outcome = .stopped).length
  0 < total && total = stopped

def suspendIdempotencyKey (t : LifecycleTables) (channelId : String) : Option String :=
  ((t.row channelId).filter fun r =>
    (r.state = .suspending || r.state = .suspended) && r.suspendKeyKnown).bind
      ChannelBlueprintRow.idempotencyKey

def recordMemberOutcome (t : LifecycleTables) (channelId priorSessionId : String)
    (outcome : StopOutcome) (ownerId : String) (error : Option String) : Bool × LifecycleTables :=
  if (t.row channelId).any fun r => r.ownerId = some ownerId && r.state = .suspending then
    (true, { t with outcomes := t.outcomes.upsert ⟨channelId, priorSessionId, outcome, error⟩ })
  else (false, t)

def markSuspended (t : LifecycleTables) (channelId idempotencyKey ownerId : String) :
    Bool × LifecycleTables :=
  t.updateWhere channelId (fun r => r.suspendingBy idempotencyKey ownerId)
    fun r => { r with state := .suspended, leaseUntil := none }

def claimResume (t : LifecycleTables) (now : Nat) (channelId idempotencyKey : String)
    (generation : Nat) (ownerId : String) : Bool × LifecycleTables :=
  t.updateWhere channelId (fun r => r.resumable idempotencyKey generation now) fun r =>
    { r with
      state := .resuming, resumeKey := some idempotencyKey, resumeOwnerId := some ownerId
      resumeLeaseUntil := some (now + leaseDurationMs), resumeEpoch := r.resumeEpoch + 1
      resumeRecoveryKnown := true, generation := generation }

def currentResumeFenceToken (t : LifecycleTables) (now : Nat)
    (channelId idempotencyKey ownerId : String) : Option String :=
  ((t.row channelId).filter fun r => r.state = .resuming && r.resumeKey = some idempotencyKey &&
    r.resumeOwnerId = some ownerId && r.resumeLeaseUntil.any fun lease => now < lease).map fun r =>
      fenceToken ownerId idempotencyKey r.resumeEpoch

/-- One resume attempt of one coordinator, as its statements name it. -/
structure Attempt where
  channelId : String
  idempotencyKey : String
  ownerId : String
  token : String
  deriving DecidableEq, Repr

def resumeAttemptCurrent (t : LifecycleTables) (now : Nat) (a : Attempt) : Bool :=
  (t.row a.channelId).any fun r => r.resumeCurrent a.idempotencyKey a.ownerId a.token now

/-- A statement of a resume that is skipped once its attempt is not the current one. -/
def whenCurrent (t : LifecycleTables) (now : Nat) (a : Attempt)
    (f : LifecycleTables → LifecycleTables) : Bool × LifecycleTables :=
  if t.resumeAttemptCurrent now a then (true, f t) else (false, t)

def renewResume (t : LifecycleTables) (now : Nat) (a : Attempt) : Bool × LifecycleTables :=
  t.updateWhere a.channelId (fun r => r.resumeCurrent a.idempotencyKey a.ownerId a.token now)
    fun r => { r with resumeLeaseUntil := some (now + leaseDurationMs) }

def resumeResult (t : LifecycleTables) (channelId idempotencyKey : String) :
    Option (List MemberResumeOutcome) :=
  (t.results.find? (channelId, idempotencyKey)).map ResumeResultRow.result

def saveResumeResult (t : LifecycleTables) (now : Nat) (a : Attempt)
    (result : List MemberResumeOutcome) : Bool × LifecycleTables :=
  t.whenCurrent now a fun t =>
    { t with results := t.results.upsert ⟨a.channelId, a.idempotencyKey, result⟩ }

def recordResumeLaunch (t : LifecycleTables) (now : Nat) (a : Attempt)
    (record : ResumeMemberRecord) : Bool × LifecycleTables :=
  t.whenCurrent now a fun t => { t with launches := t.launches.upsert ⟨record, .launched⟩ }

theorem launchKey_phase (phase : ProviderPhase) (r : ResumeLaunchRow) :
    ({ r with providerPhase := phase } : ResumeLaunchRow).launchKey = r.launchKey := rfl

/-- The phase is set on the launch of the member, where there is one. -/
def setResumeProviderPhase (t : LifecycleTables) (now : Nat) (a : Attempt)
    (priorSessionId : String) (generation : Nat) (phase : ProviderPhase) : Bool × LifecycleTables :=
  if t.resumeAttemptCurrent now a then
    (t.launches.has (a.channelId, priorSessionId, generation), { t with
      launches := t.launches.update
        (fun r => r.launchKey = (a.channelId, priorSessionId, generation))
        (fun r => { r with providerPhase := phase }) (launchKey_phase phase) })
  else (false, t)

/-- `ORDER BY prior_session_id`. -/
def resumeLaunches (t : LifecycleTables) (channelId : String) (generation : Nat) :
    List ResumeLaunchRow :=
  (t.launches.select fun r => r.channelId = channelId && r.generation = generation).insertionSort
    fun a b => a.priorSessionId ≤ b.priorSessionId

def clearResumeLaunches (t : LifecycleTables) (now : Nat) (a : Attempt) (generation : Nat) :
    Bool × LifecycleTables :=
  t.whenCurrent now a fun t => { t with
    launches := t.launches.delete fun r => r.channelId = a.channelId && r.generation = generation }

def markResumed (t : LifecycleTables) (now : Nat) (a : Attempt) : Bool × LifecycleTables :=
  t.updateWhere a.channelId (fun r => r.resumeCurrent a.idempotencyKey a.ownerId a.token now)
    fun r => { r with state := .active, resumeOwnerId := none, resumeLeaseUntil := none }

def installResumedMember (t : LifecycleTables) (now : Nat) (a : Attempt)
    (record : ResumeMemberRecord) : Bool × LifecycleTables :=
  t.whenCurrent now a fun t => { t with resumedMembers := t.resumedMembers.upsert record }

def rollbackResumedMembers (t : LifecycleTables) (now : Nat) (a : Attempt) (generation : Nat) :
    Bool × LifecycleTables :=
  t.whenCurrent now a fun t => { t with
    resumedMembers := t.resumedMembers.delete fun r =>
      r.channelId = a.channelId && r.generation = generation }

def releaseResume (t : LifecycleTables) (now : Nat) (a : Attempt) : Bool × LifecycleTables :=
  t.updateWhere a.channelId (fun r => r.resumeCurrent a.idempotencyKey a.ownerId a.token now)
    fun r => { r with
      state := .suspended, resumeKey := none, resumeOwnerId := none, resumeLeaseUntil := none }

/-- `ORDER BY cursor, delivery_id`. -/
def deliveryOrder (a b : QueuedCanonicalDelivery) : Prop :=
  a.cursor < b.cursor ∨ a.cursor = b.cursor ∧ a.deliveryId ≤ b.deliveryId

instance : DecidableRel deliveryOrder := fun _ _ => inferInstanceAs (Decidable (_ ∨ _))

/-- The deliveries past a cursor that the member has not acknowledged. -/
def pendingAfter (t : LifecycleTables) (now : Nat) (a : Attempt) (cursor : Nat)
    (priorSessionId : String) : List QueuedCanonicalDelivery :=
  if t.resumeAttemptCurrent now a then
    (t.deliveries.select fun d => d.channelId = a.channelId && cursor < d.cursor &&
      !t.acknowledgements.has ⟨a.channelId, priorSessionId, d.deliveryId⟩).insertionSort deliveryOrder
  else []

/-- Whether the acknowledgement is new. -/
def acknowledge (t : LifecycleTables) (now : Nat) (a : Attempt)
    (priorSessionId deliveryId : String) : Bool × LifecycleTables :=
  if t.resumeAttemptCurrent now a then
    match t.acknowledgements.insert? ⟨a.channelId, priorSessionId, deliveryId⟩ with
    | some acknowledgements => (true, { t with acknowledgements := acknowledgements })
    | none => (false, t)
  else (false, t)

/-- The state and the generation that `status` reports; none for an absent row. -/
def status (t : LifecycleTables) (channelId : String) : Option (BlueprintState × Nat) :=
  (t.row channelId).map fun r => (r.state, r.generation)

section Rows

variable (t : LifecycleTables) (channelId : String) (p : ChannelBlueprintRow → Bool)
  (f : ChannelBlueprintRow → ChannelBlueprintRow)

theorem changed_updateWhere : (t.updateWhere channelId p f).1 = (t.row channelId).any p := by
  unfold updateWhere
  by_cases h : (t.row channelId).any p = true
  · rw [if_pos h, h]
  · rw [if_neg h]
    exact (Bool.eq_false_iff.mpr h).symm

theorem row_updateWhere : (t.updateWhere channelId p f).2.row channelId =
    (t.row channelId).map fun r => if p r then r.amended f else r := by
  unfold updateWhere
  by_cases h : (t.row channelId).any p = true
  · rw [if_pos h]
    have hkey (r : ChannelBlueprintRow) : (r.amended f).channelId = r.channelId := rfl
    change (t.blueprints.update _ (ChannelBlueprintRow.amended f) hkey).find? channelId = _
    rw [Table.find?_rewrite (Table.rows_update _ _ _ _) hkey]
    unfold row
    cases hr : t.blueprints.find? channelId with
    | none => rfl
    | some r =>
      have hp : p r = true := by
        unfold row at h
        rw [hr] at h
        exact h
      simp [hp, (Table.find?_some hr).2]
  · rw [if_neg h]
    cases hr : t.row channelId with
    | none => rfl
    | some r =>
      rw [hr] at h
      have hp : ¬p r = true := h
      simp [hp]

theorem updateWhere_others : (t.updateWhere channelId p f).2 =
    { t with blueprints := (t.updateWhere channelId p f).2.blueprints } := by
  unfold updateWhere
  by_cases h : (t.row channelId).any p = true
  · rw [if_pos h]
  · rw [if_neg h]

@[simp] theorem outcomes_updateWhere : (t.updateWhere channelId p f).2.outcomes = t.outcomes := by
  rw [updateWhere_others]

theorem row_upsert (r : ChannelBlueprintRow) :
    ({ t with blueprints := t.blueprints.upsert r } : LifecycleTables).row r.channelId = some r := by
  unfold row
  rw [Table.find?_upsert, if_pos rfl]

end Rows

end LifecycleTables
end Wardroom.Storage
