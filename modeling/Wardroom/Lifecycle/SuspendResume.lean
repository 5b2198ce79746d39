import Wardroom.Lifecycle.Coordination
import Mathlib.Data.List.Infix

/-! # Suspending and resuming a channel under a claim

A suspension captures the blueprint under its claim and stops the members one
after another. A resume launches the members of the blueprint as one
generation, or takes back what it launched.
-/

namespace Wardroom.Lifecycle
open Wardroom.Library Wardroom.Domain Wardroom.Storage Task

structure LaunchInput where
  channelId : String
  priorSessionId : String
  generation : Nat
  launch : AllowlistedLaunchConfig
  layout : LayoutMetadata
  adapterKind : String

structure LaunchedMember where
  sessionId : String
  runtimeId : String

structure RuntimeGenerationPort where
  launch : LaunchInput → LifecycleTask LaunchedMember
  stop : String → LifecycleTask Unit
  stopGeneration : String → Nat → LifecycleTask Unit
  activeGenerations : LifecycleWorld → List (String × Nat) → List (String × Nat)

structure ProviderConversationPort where
  stop : ProviderConversationRef → LifecycleTask Unit
  stopRollback : ProviderConversationRef → LifecycleTask Unit
  resume : ProviderConversationRef → Nat → LifecycleTask Unit
  validateResume : ProviderConversationRef → Except Failure Unit

structure Ports where
  channelId : String
  ownerId : String
  runtime : RuntimeGenerationPort
  provider : ProviderConversationPort

def resumeLaunch (member : ResumableMemberBlueprint) : AllowlistedLaunchConfig :=
  match member.provider with
  | none => member.launch
  | some ref =>
    if ref.runtimeOwned ∧ ref.described "provider" = some "claude" then
      ⟨member.launch.executable, "--resume" :: ref.conversationId :: member.launch.args,
        member.launch.cwd, none⟩
    else if ref.runtimeOwned ∧ ref.described "provider" = some "codex" then
      ⟨member.launch.executable, "resume" :: ref.conversationId :: member.launch.args,
        member.launch.cwd, none⟩
    else if ref.described "provider" = some "claude" then
      ⟨"claude", ["--resume", ref.conversationId], member.launch.cwd, none⟩
    else member.launch

def suspendLeaseLost : Failure := .runtime "suspend lease lost"

def resumeLeaseLost : Failure := .runtime "resume lease lost"

/-- `/durably proven|not owned/`. -/
def toleratedStop (error : Failure) : Bool :=
  decide ("durably proven".toList <:+: error.message.toList) ||
    decide ("not owned".toList <:+: error.message.toList)

/-- A stop whose error says that nothing was owned counts as done. -/
def tolerating (stop : LifecycleTask Unit) : LifecycleTask Unit :=
  stop.tryCatch fun error => if toleratedStop error then pure () else fail error

/-- A statement that has to change its row. -/
def holding (renewal : LifecycleTask Bool) (lost : Failure) : LifecycleTask Unit := do
  let held ← renewal
  require held lost

/-- Run an operation while a heartbeat renews its lease; afterwards the lease must still be held. -/
def withLease {α : Type} (renewal : Renewal) (renew : LifecycleTask Bool) (lost : Failure)
    (operation : LifecycleTask α) : LifecycleTask α := do
  holding renew lost
  act (.startHeartbeat renewal)
  let outcome ← attempt do
    let result ← operation
    let isLost ← leaseLost
    if isLost then fail lost
    else do
      holding renew lost
      pure result
  act .stopHeartbeat
  ofExcept outcome

def withSuspendLease {α : Type} (key : String) (operation : LifecycleTask α) : LifecycleTask α :=
  withLease (.suspend key) (update (.renewSuspend key)) suspendLeaseLost operation

def withResumeLease {α : Type} (key token : String) (operation : LifecycleTask α) :
    LifecycleTask α :=
  withLease (.resume key token) (update (.renewResume key token)) resumeLeaseLost operation

namespace DurableChannelLifecycle

/-- The fence of a teardown is taken, and found current. -/
def assertTeardownFence (ports : Ports) (key : String) : LifecycleTask Unit := do
  let w ← look
  require (w.tables.currentSuspendFenceToken ports.channelId key ports.ownerId).isSome
    suspendLeaseLost
  holding (update (.renewSuspend key)) suspendLeaseLost

def stopProvider (ports : Ports) (key : String) (member : ResumableMemberBlueprint) :
    LifecycleTask Unit :=
  match member.provider with
  | none => pure ()
  | some ref => withSuspendLease key do
    assertTeardownFence ports key
    tolerating (ports.provider.stop ref)

def stopMember (ports : Ports) (key : String) (member : ResumableMemberBlueprint) :
    LifecycleTask Unit := do
  holding (update (.renewSuspend key)) suspendLeaseLost
  withSuspendLease key do
    assertTeardownFence ports key
    tolerating (ports.runtime.stopGeneration member.priorSessionId member.processGeneration)
  stopProvider ports key member
  holding (update (.recordStopped member.priorSessionId)) suspendLeaseLost

/-- A member that is recorded stopped and has nothing running is passed over. -/
def suspendMember (ports : Ports) (key : String) (activeGenerations : List (String × Nat))
    (member : ResumableMemberBlueprint) : LifecycleTask Unit := do
  let w ← lookLocked
  if w.tables.memberStopped ports.channelId member.priorSessionId ∧
      (member.priorSessionId, member.processGeneration) ∉ activeGenerations then pure ()
  else (stopMember ports key member).tryCatch fun error => do
    act (.recordFailed key member.priorSessionId error.message)
    fail error

/-- The members are stopped under a claim that was granted. -/
def suspendClaimed (ports : Ports) (key : String) (blueprint : ResumableChannelBlueprint)
    (activeGenerations : List (String × Nat)) : LifecycleTask ResumableChannelBlueprint := do
  holding (update (.capture blueprint)) suspendLeaseLost
  forEach (suspendMember ports key activeGenerations) blueprint.members
  holding (update (.markSuspended key)) suspendLeaseLost
  let w ← look
  pure ((w.tables.read ports.channelId).getD blueprint)

def refusedSuspend : Failure := .runtime "suspend claim is owned by another coordinator"

def suspend (ports : Ports) (key : String) (blueprint : ResumableChannelBlueprint) :
    LifecycleTask ResumableChannelBlueprint := do
  ofExcept (validateBlueprint blueprint)
  let w ← look
  let existing := w.tables.read ports.channelId
  let existingSuspendKey := w.tables.suspendIdempotencyKey ports.channelId
  let activeGenerations := ports.runtime.activeGenerations w
    (blueprint.members.map fun m => (m.priorSessionId, m.processGeneration))
  if existingSuspendKey.any fun existingKey => existingKey ≠ key then
    fail (.runtime "suspend idempotency key mismatch")
  else if existingSuspendKey.isSome ∧ existing.any fun b => b ≠ blueprint then
    fail (.runtime "suspend blueprint mismatch")
  else do
    let w ← look
    match existing.filter fun _ => existingSuspendKey = some key &&
        w.tables.suspensionComplete ports.channelId && activeGenerations.isEmpty with
    | some complete => pure complete
    | none => do
      let claimed ← update (.claimSuspend key blueprint)
      if claimed then suspendClaimed ports key blueprint activeGenerations
      else fail refusedSuspend

/-- Take down what an earlier attempt at the generation launched. -/
def stopAbandoned (ports : Ports) (key token : String) (item : ResumeLaunchRow) :
    LifecycleTask Unit :=
  if item.providerPhase = .providerResuming then
    fail (.runtime "resume recovery is ambiguous at provider boundary")
  else withResumeLease key token do
    ports.runtime.stop item.runtimeId
    match item.provider with
    | some ref =>
      if item.providerPhase = .providerResumed then ports.provider.stopRollback ref else pure ()
    | none => pure ()

def recoverAbandoned (ports : Ports) (key token : String) (generation : Nat) : LifecycleTask Unit := do
  let w ← lookLocked
  let abandoned := w.tables.resumeLaunches ports.channelId generation
  forEach (stopAbandoned ports key token) abandoned
  if abandoned.isEmpty then pure ()
  else do
    withResumeLease key token (act (.rollbackGeneration generation))
    act (.clearAbandoned key token generation)

/-- A runtime of the generation that no launch record names is stopped as well. -/
def reconcileMember (ports : Ports) (key token : String) (generation : Nat)
    (member : ResumableMemberBlueprint) : LifecycleTask Unit :=
  tolerating (withResumeLease key token
    (ports.runtime.stopGeneration member.priorSessionId generation))

def launchMember (ports : Ports) (key token : String) (generation : Nat)
    (member : ResumableMemberBlueprint) : LifecycleTask ResumeMemberRecord := do
  match member.provider with
  | some ref => if ref.runtimeOwned then pure () else ofExcept (ports.provider.validateResume ref)
  | none => pure ()
  let fresh ← withResumeLease key token (ports.runtime.launch
    ⟨ports.channelId, member.priorSessionId, generation, resumeLaunch member, member.layout,
      member.adapterKind⟩)
  pure ⟨ports.channelId, member.priorSessionId, fresh.sessionId, fresh.runtimeId, generation,
    member.role, member.provider⟩

/-- Record a launch and bring its provider conversation back. -/
def settleLaunch (ports : Ports) (key token : String) (generation : Nat)
    (member : ResumableMemberBlueprint) (record : ResumeMemberRecord) : LifecycleTask Unit := do
  holding (update (.recordResumeLaunch key token record)) resumeLeaseLost
  match member.provider with
  | none => pure ()
  | some ref => do
    holding (update (.setResumeProviderPhase key token member.priorSessionId generation
      .providerResuming)) resumeLeaseLost
    if ref.runtimeOwned then pure ()
    else withResumeLease key token (ports.provider.resume ref generation)
    holding (update (.setResumeProviderPhase key token member.priorSessionId generation
      .providerResumed)) resumeLeaseLost

/-- The launches so far, and how the loop over the members ended. -/
def launchMembers (ports : Ports) (key token : String) (generation : Nat) :
    List ResumableMemberBlueprint → List ResumeMemberRecord →
      LifecycleTask (List ResumeMemberRecord × Except Failure Unit)
  | [], launched => pure (launched, .ok ())
  | member :: members, launched => do
    match ← attempt (launchMember ports key token generation member) with
    | .error error => pure (launched, .error error)
    | .ok record =>
      match ← attempt (settleLaunch ports key token generation member record) with
      | .error error => pure (launched ++ [record], .error error)
      | .ok () => launchMembers ports key token generation members (launched ++ [record])

def resumedOutcome (record : ResumeMemberRecord) : MemberResumeOutcome :=
  ⟨record.priorSessionId, some record.sessionId, some record.runtimeId, record.generation, .resumed,
    none⟩

/-- `delivery.deliver` always answers true. -/
def deliverQueued (key token : String) (member : ResumableMemberBlueprint)
    (delivery : QueuedCanonicalDelivery) : LifecycleTask Unit :=
  withResumeLease key token
    (holding (update (.acknowledge key token member.priorSessionId delivery.deliveryId))
      resumeLeaseLost)

def drainMember (ports : Ports) (key token : String) (member : ResumableMemberBlueprint) :
    LifecycleTask Unit := do
  let w ← lookLocked
  let cursor := (CursorCodec.decode member.lastAcknowledgedDeliveryCursor).getD 0
  forEach (deliverQueued key token member)
    (w.tables.pendingAfter w.now ⟨ports.channelId, key, ports.ownerId, token⟩ cursor
      member.priorSessionId)

def finishResume (ports : Ports) (key token : String) (generation : Nat)
    (blueprint : ResumableChannelBlueprint) (launched : List ResumeMemberRecord) :
    LifecycleTask (List MemberResumeOutcome) := do
  act (.installResumedMembers key token launched)
  withResumeLease key token (act (.reattachMembers launched))
  forEach (drainMember ports key token) blueprint.members
  let result := launched.map resumedOutcome
  act (.completeResume key token generation result)
  pure result

def succeeded (x : LifecycleTask Unit) : LifecycleTask Bool := do
  match ← attempt x with
  | .ok () => pure true
  | .error _ => pure false

/-- Stop the launches of a failed resume, the last one first; whether all of it worked. -/
def tearDown (ports : Ports) (key token : String) (durable : List ResumeLaunchRow) :
    List ResumeMemberRecord → LifecycleTask Bool
  | [] => pure true
  | item :: items => do
    let stopped ← succeeded (withResumeLease key token (ports.runtime.stop item.runtimeId))
    let row := durable.find? fun candidate => candidate.priorSessionId = item.priorSessionId
    let rolledBack ← match item.provider with
      | some ref =>
        if row.any fun candidate => candidate.providerPhase = .providerResumed then
          succeeded (withResumeLease key token (ports.provider.stopRollback ref))
        else pure true
      | none => pure true
    let rest ← tearDown ports key token durable items
    pure (stopped && rolledBack && rest)

def rollBackResume (ports : Ports) (key token : String) (generation : Nat)
    (launched : List ResumeMemberRecord) (error : Failure) :
    LifecycleTask (List MemberResumeOutcome) := do
  let w ← lookLocked
  let durable := w.tables.resumeLaunches ports.channelId generation
  let tornDown ← tearDown ports key token durable launched.reverse
  if tornDown ∧ durable.all fun item => item.providerPhase ≠ .providerResuming then do
    withResumeLease key token (act (.rollbackGeneration generation))
    act (.abandonResume key token generation)
    fail error
  else fail error

def resumeClaimed (ports : Ports) (key token : String) (generation : Nat)
    (blueprint : ResumableChannelBlueprint) : LifecycleTask (List MemberResumeOutcome) := do
  recoverAbandoned ports key token generation
  forEach (reconcileMember ports key token generation) blueprint.members
  let (launched, outcome) ← launchMembers ports key token generation blueprint.members []
  tryCatch (rollBackResume ports key token generation launched) do
    ofExcept outcome
    finishResume ports key token generation blueprint launched

def resume (ports : Ports) (key : String) (generation : Nat) :
    LifecycleTask (List MemberResumeOutcome) := do
  let w ← look
  match w.tables.read ports.channelId with
  | none => fail (.runtime "missing resumable blueprint")
  | some blueprint => do
    ofExcept (validateBlueprint blueprint)
    let claimed ← update (.claimResume key generation)
    if claimed then do
      let w ← lookLocked
      match w.tables.currentResumeFenceToken w.now ports.channelId key ports.ownerId with
      | none => fail resumeLeaseLost
      | some token => resumeClaimed ports key token generation blueprint
    else do
      let w ← look
      match w.tables.resumeResult ports.channelId key with
      | some completed => pure completed
      | none => fail (.runtime "resume is in progress")

end DurableChannelLifecycle
end Wardroom.Lifecycle
