import Wardroom.Library.Task
import Wardroom.Runtime.Service
import Wardroom.Storage.BlueprintRepository

/-! # The world in which channels are suspended and resumed

A coordinator is one suspend or resume call of one channel. It reads and writes
the lifecycle tables and the daemon one call at a time. Only a call to the
machine takes time; while the coordinator waits for it, its heartbeat renews
the lease it works under.
-/

namespace Wardroom.Lifecycle
open Wardroom.Library Wardroom.Domain Wardroom.Storage Wardroom.Runtime Prog

/-- The lease that a heartbeat renews. -/
inductive Renewal where
  | suspend (idempotencyKey : String)
  | resume (idempotencyKey token : String)
  deriving DecidableEq, Repr

/-- A running interval of one coordinator. -/
structure Heartbeat where
  ownerId : String
  renewal : Renewal
  nextBeat : Nat
  leaseLost : Bool
  deriving DecidableEq, Repr

/-- A call to the runtime service, with whether it returned. -/
inductive RuntimeCall where
  | launch (request : RuntimeCreateRequest) (returned : Bool)
  | terminate (runtimeId : String) (generation : Nat) (returned : Bool)

/-- What the machine does at each call to it, and how long it takes. -/
structure Machine where
  launch : Nat → LaunchAnswer
  terminate : Nat → TerminateAnswer
  converse : Nat → Except Failure Unit
  elapsed : Nat → Nat

structure LifecycleWorld where
  daemon : Daemon
  tables : LifecycleTables
  now : Nat
  /-- The sessions that each generation reattached. -/
  resumed : List (Nat × List String)
  heartbeats : Table Heartbeat.ownerId
  machine : Machine
  asked : Nat
  runtimeCalls : List RuntimeCall

/-- Who suspends or resumes: the channel, the owner id of the lifecycle and the actor of the call. -/
structure Coordinator where
  channelId : String
  ownerId : String
  actor : RuntimeActor
  options : RuntimeServiceOptions

abbrev Effect (α : Type) := Prog LifecycleWorld Failure α

namespace LifecycleWorld

def importOpen (w : LifecycleWorld) : Bool := w.daemon.store.importSession.isSome

/-- The sessions that a generation reattached. -/
def resumedIn (w : LifecycleWorld) (generation : Nat) : List String :=
  ((w.resumed.find? fun entry => entry.1 = generation).map Prod.snd).getD []

end LifecycleWorld

/-- The statements that say whether they changed their row. -/
inductive Update where
  | claimSuspend (idempotencyKey : String) (blueprint : ResumableChannelBlueprint)
  | capture (blueprint : ResumableChannelBlueprint)
  | renewSuspend (idempotencyKey : String)
  | recordStopped (priorSessionId : String)
  | markSuspended (idempotencyKey : String)
  | claimResume (idempotencyKey : String) (generation : Nat)
  | renewResume (idempotencyKey token : String)
  | recordResumeLaunch (idempotencyKey token : String) (record : ResumeMemberRecord)
  | setResumeProviderPhase (idempotencyKey token priorSessionId : String) (generation : Nat)
      (phase : ProviderPhase)
  | acknowledge (idempotencyKey token priorSessionId deliveryId : String)

inductive Act where
  | ensureChannelBlueprint
  | retainMembers (activeSessionIds : List String)
  | ensureBlueprint (member : ResumableMemberBlueprint)
  | recordFailed (idempotencyKey priorSessionId message : String)
  | clearAbandoned (idempotencyKey token : String) (generation : Nat)
  | installResumedMembers (idempotencyKey token : String) (records : List ResumeMemberRecord)
  | completeResume (idempotencyKey token : String) (generation : Nat)
      (result : List MemberResumeOutcome)
  | abandonResume (idempotencyKey token : String) (generation : Nat)
  | reopenChannel
  | setSessionProviderThreadId (sessionId providerThreadId : String)
  | reattachMembers (records : List ResumeMemberRecord)
  | rollbackGeneration (generation : Nat)
  | terminate (runtimeId : String) (generation : Nat)
  | converse (ref : ProviderConversationRef) (generation : Nat)
  | startHeartbeat (renewal : Renewal)
  | stopHeartbeat

/-- One call of a coordinator; a look answers with the world as it is. -/
inductive Call where
  | look
  | lookLocked
  | update (u : Update)
  | act (a : Act)
  | launch (request : RuntimeCreateRequest)
  | leaseLost

def Call.Reply : Call → Type
  | .look => LifecycleWorld
  | .lookLocked => LifecycleWorld
  | .update _ => Bool
  | .act _ => Unit
  | .launch _ => RuntimeResponse
  | .leaseLost => Bool

abbrev LifecycleTask (α : Type) := Task Call Call.Reply Failure α

def look : LifecycleTask LifecycleWorld := Task.perform Call.look

/-- A look inside a transaction of the store. -/
def lookLocked : LifecycleTask LifecycleWorld := Task.perform Call.lookLocked

def update (u : Update) : LifecycleTask Bool := Task.perform (Call.update u)

def act (a : Act) : LifecycleTask Unit := Task.perform (Call.act a)

def launch (request : RuntimeCreateRequest) : LifecycleTask RuntimeResponse :=
  Task.perform (Call.launch request)

def leaseLost : LifecycleTask Bool := Task.perform Call.leaseLost

/-- The store's own transactions cannot open while an import holds one. -/
def locked {α : Type} (x : Effect α) : Effect α := fun w =>
  if w.importOpen then (.error (.sqlite "cannot start a transaction within a transaction"), w) else x w

/-- A statement, with whether it changed a row. -/
def onTables (f : Nat → LifecycleTables → Bool × LifecycleTables) : Effect Bool := fun w =>
  (.ok (f w.now w.tables).1, { w with tables := (f w.now w.tables).2 })

/-- Statements of one transaction, taken back together when one of them finds its lease lost. -/
def inTransaction (f : Nat → LifecycleTables → Except Failure LifecycleTables) : Effect Unit :=
  fun w =>
    match f w.now w.tables with
    | .ok tables => (.ok (), { w with tables := tables })
    | .error e => (.error e, w)

/-- The outcome of a statement without which its transaction throws. -/
def demand (outcome : Bool × LifecycleTables) : Except Failure LifecycleTables :=
  if outcome.1 then .ok outcome.2 else .error (.runtime "resume lease lost")

def onDaemon {α : Type} (x : Action α) : Effect α := fun w =>
  ((x w.daemon).1, { w with daemon := (x w.daemon).2 })

/-- The heartbeat of a coordinator renews its lease; a renewal that finds no lease is remembered. -/
def renew (channelId : String) (h : Heartbeat) : Effect Bool :=
  match h.renewal with
  | .suspend key => locked (onTables fun now t => t.renewSuspend now channelId key h.ownerId)
  | .resume key token =>
    locked (onTables fun now t => t.renewResume now ⟨channelId, key, h.ownerId, token⟩)

def beat (channelId : String) (h : Heartbeat) (w : LifecycleWorld) : LifecycleWorld :=
  let at' := max w.now h.nextBeat
  let (renewed, w) := renew channelId h { w with now := at' }
  let lost := match renewed with
    | .ok true => false
    | _ => true
  let h := { h with nextBeat := at' + suspendLeaseHeartbeatMs, leaseLost := h.leaseLost || lost }
  { w with heartbeats := w.heartbeats.upsert h }

/-- The beats of a coordinator that are due by a point in time; `n` bounds their number. -/
def beats (who : Coordinator) (target : Nat) : Nat → LifecycleWorld → LifecycleWorld
  | 0, w => w
  | n + 1, w =>
    match w.heartbeats.find? who.ownerId with
    | none => w
    | some h => if h.nextBeat ≤ target then beats who target n (beat who.channelId h w) else w

/-- The coordinator waits for the machine. -/
def await (who : Coordinator) : Effect Unit := fun w =>
  let target := w.now + w.machine.elapsed w.asked
  let w := beats who target (w.machine.elapsed w.asked / suspendLeaseHeartbeatMs + 1) w
  (.ok (), { w with now := max w.now target, asked := w.asked + 1 })

def runtimeCall {α : Type} (who : Coordinator) (entry : Bool → RuntimeCall) (x : Action α) :
    Effect α := do
  let w ← read
  let outcome := x w.daemon
  modify fun w => { w with
    daemon := outcome.2, runtimeCalls := w.runtimeCalls ++ [entry outcome.1.isOk] }
  await who
  ofExcept outcome.1

/-- Members that are gone from the channel join it again. -/
def reattachMember (record : ResumeMemberRecord) : Effect Unit := do
  let w ← read
  if (w.daemon.db.currentSession record.sessionId).isSome then pure ()
  else do
    let _ ← onDaemon (onStore (insertSession { id := record.sessionId, role := record.role }))
    pure ()
  let w ← read
  if w.daemon.db.isActiveMember record.channelId record.sessionId then pure ()
  else do
    let _ ← onDaemon (onStore (insertMembership record.channelId record.sessionId record.role))
    pure ()
  modify fun w => { w with
    resumed := (record.generation, w.resumedIn record.generation ++ [record.sessionId]) ::
      w.resumed.filter fun entry => entry.1 ≠ record.generation }

def reattachMembers : List ResumeMemberRecord → Effect Unit
  | [] => pure ()
  | record :: records => do
    reattachMember record
    reattachMembers records

def endResumed : List String → Effect Unit
  | [] => pure ()
  | sessionId :: sessionIds => do
    let w ← read
    if w.daemon.db.sessionLive sessionId then do
      let _ ← onDaemon (onStore (markSessionEnded sessionId))
      pure ()
    else pure ()
    endResumed sessionIds

/-- End the sessions that a generation reattached. -/
def rollbackGeneration (generation : Nat) : Effect Unit := do
  let w ← read
  endResumed (w.resumedIn generation)
  modify fun w => { w with resumed := w.resumed.filter fun entry => entry.1 ≠ generation }

/-- Install members one after another; the first lost lease takes all of them back. -/
def installMembers (now : Nat) (a : LifecycleTables.Attempt) :
    List ResumeMemberRecord → LifecycleTables → Except Failure LifecycleTables
  | [], t => .ok t
  | record :: records, t => do
    let t ← demand (t.installResumedMember now a record)
    installMembers now a records t

/-- The first statement that finds the attempt gone ends the transaction, which keeps what came
before it. -/
def abandon (now : Nat) (a : LifecycleTables.Attempt) (generation : Nat) (t : LifecycleTables) :
    LifecycleTables :=
  let (rolledBack, t) := t.rollbackResumedMembers now a generation
  if rolledBack then
    let (cleared, t) := t.clearResumeLaunches now a generation
    if cleared then (t.releaseResume now a).2 else t
  else t

namespace Coordinator

/-- The resume attempt that a coordinator names in its statements. -/
def attempt (who : Coordinator) (idempotencyKey token : String) : LifecycleTables.Attempt :=
  ⟨who.channelId, idempotencyKey, who.ownerId, token⟩

def statement (who : Coordinator) :
    Update → Nat → LifecycleTables → Bool × LifecycleTables
  | .claimSuspend key blueprint, now, t => t.claimSuspend now who.channelId key blueprint who.ownerId
  | .capture blueprint, _, t => t.capture who.channelId blueprint who.ownerId
  | .renewSuspend key, now, t => t.renewSuspend now who.channelId key who.ownerId
  | .recordStopped priorSessionId, _, t =>
    t.recordMemberOutcome who.channelId priorSessionId .stopped who.ownerId none
  | .markSuspended key, _, t => t.markSuspended who.channelId key who.ownerId
  | .claimResume key generation, now, t => t.claimResume now who.channelId key generation who.ownerId
  | .renewResume key token, now, t => t.renewResume now (who.attempt key token)
  | .recordResumeLaunch key token record, now, t =>
    t.recordResumeLaunch now (who.attempt key token) record
  | .setResumeProviderPhase key token priorSessionId generation phase, now, t =>
    t.setResumeProviderPhase now (who.attempt key token) priorSessionId generation phase
  | .acknowledge key token priorSessionId deliveryId, now, t =>
    t.acknowledge now (who.attempt key token) priorSessionId deliveryId

/-- The lifecycle tables after a write that belongs to no claim. -/
def ensuring (who : Coordinator) (suspendedAt : String) (member : ResumableMemberBlueprint)
    (t : LifecycleTables) : LifecycleTables :=
  let blueprint := (t.read who.channelId).getD
    (emptyBlueprint who.channelId who.channelId suspendedAt)
  t.putBlueprint who.channelId (blueprint.withMember member)

end Coordinator

def execAct (who : Coordinator) : Act → Effect Unit
  | .ensureChannelBlueprint => do
    let w ← read
    match w.tables.read who.channelId with
    | some _ => pure ()
    | none => do
      let suspendedAt ← onDaemon (onStore now)
      let blueprint := emptyBlueprint who.channelId who.channelId suspendedAt
      modify fun w => { w with tables := w.tables.putBlueprint who.channelId blueprint }
  | .retainMembers activeSessionIds => locked (modify fun w =>
    { w with tables := w.tables.retainMembers who.channelId activeSessionIds })
  | .ensureBlueprint member => do
    let suspendedAt ← onDaemon (onStore now)
    modify fun w => { w with tables := who.ensuring suspendedAt member w.tables }
  | .recordFailed key priorSessionId message => locked (modify fun w =>
    let t := (w.tables.recordMemberOutcome who.channelId priorSessionId .failed who.ownerId
      (some message)).2
    { w with tables := (t.releaseSuspend who.channelId key who.ownerId).2 })
  | .clearAbandoned key token generation => locked (inTransaction fun now t => do
    let t ← demand (t.rollbackResumedMembers now (who.attempt key token) generation)
    demand (t.clearResumeLaunches now (who.attempt key token) generation))
  | .installResumedMembers key token records => locked (inTransaction fun now t =>
    installMembers now (who.attempt key token) records t)
  | .completeResume key token generation result => locked (inTransaction fun now t => do
    let t ← demand (t.clearResumeLaunches now (who.attempt key token) generation)
    let t ← demand (t.saveResumeResult now (who.attempt key token) result)
    demand (t.markResumed now (who.attempt key token)))
  | .abandonResume key token generation => locked (modify fun w =>
    { w with tables := abandon w.now (who.attempt key token) generation w.tables })
  | .reopenChannel => do
    let _ ← onDaemon (onStore (Storage.reopenChannel who.channelId))
    pure ()
  | .setSessionProviderThreadId sessionId providerThreadId => do
    let _ ← onDaemon (onStore (Storage.setSessionProviderThreadId sessionId providerThreadId))
    pure ()
  | .reattachMembers records => reattachMembers records
  | .rollbackGeneration generation => rollbackGeneration generation
  | .terminate runtimeId generation => do
    let w ← read
    runtimeCall who (.terminate runtimeId generation)
      (Runtime.terminate (w.machine.terminate w.asked) runtimeId generation who.actor)
  | .converse _ _ => do
    let w ← read
    await who
    ofExcept (w.machine.converse w.asked)
  | .startHeartbeat renewal => modify fun w =>
    let h : Heartbeat := ⟨who.ownerId, renewal, w.now + suspendLeaseHeartbeatMs, false⟩
    { w with heartbeats := w.heartbeats.upsert h }
  | .stopHeartbeat => modify fun w => { w with
    heartbeats := w.heartbeats.delete fun h => h.ownerId = who.ownerId }

/-- What a call does, made by a coordinator. -/
def exec (who : Coordinator) : (k : Call) → Effect k.Reply
  | .look => read
  | .lookLocked => locked read
  | .update u => locked (onTables (who.statement u))
  | .act a => execAct who a
  | .launch request => do
    let w ← read
    runtimeCall who (.launch request)
      (create who.options (w.machine.launch w.asked) request who.actor)
  | .leaseLost => do
    let w ← read
    pure ((w.heartbeats.find? who.ownerId).any Heartbeat.leaseLost)

end Wardroom.Lifecycle
