import Wardroom.Runtime.Native.Messages
import Wardroom.Runtime.Replies.FinalReply

/-! # The jobs that wait for the answer of a provider

A direct message to a provider runtime leaves a job behind: the source event,
who waits for the answer, and where the transcripts of the provider ended when
the message was sent.
-/

namespace Wardroom.Storage
open Wardroom.Library Wardroom.Domain

structure RuntimeIdentity where
  provider : Option String
  providerThreadId : Option String
  machineId : String
  effectiveHome : Option String

/-- The identity of the newest live runtime of a session that has not ended. -/
def Daemon.activeRuntimeIdentityForSession (d : Daemon) (sessionId : String) : Option RuntimeIdentity :=
  match (d.db.currentSession sessionId).filter fun s => s.endedAt.isNone with
  | none => none
  | some session =>
    (((d.runtimes.select fun r => r.sessionId = sessionId && r.endedAt.isNone &&
        r.state ∈ [.running, .recovering, .creating]).insertionSort fun a b =>
      b.generation < a.generation ∨ a.generation = b.generation ∧ b.createdAt ≤ a.createdAt).head?).map fun r =>
        ⟨(d.binding r.runtimeId).map RuntimeBinding.adapterKind, r.providerThreadId.or session.providerThreadId,
          r.machineId, r.effectiveHome⟩

/-- A log-delivered participant has no runtime by design. -/
def Database.logDelivered (db : Database) (sessionId : String) : Bool :=
  (db.currentSession sessionId).any fun s => s.deliveryMode = .log

end Wardroom.Storage

namespace Wardroom.Runtime
open Wardroom.Library Wardroom.Domain Wardroom.Storage

inductive JobState where
  | pending
  | published
  | skipped
  | failed
  deriving DecidableEq, Repr

structure ProviderReplyJob where
  sourceEventId : String
  sourceCursor : Nat
  sourceBody : String
  channelId : String
  sourceSenderSessionId : String
  providerSessionId : String
  runtimeId : String
  generation : Nat
  adapterKind : String
  providerThreadId : Option String
  scanState : ProviderReplyScanState
  state : JobState
  replyEventId : Option String
  outcomeReason : Option String
  createdAt : String
  deriving DecidableEq, Repr

abbrev Jobs := Table ProviderReplyJob.sourceEventId

/-- The columns that name rows of other tables. -/
def ProviderReplyJob.references (job : ProviderReplyJob) (d : Daemon) : Bool :=
  d.db.channels.has job.channelId && d.db.sessions.has job.sourceSenderSessionId &&
    d.db.sessions.has job.providerSessionId && d.runtimes.has job.runtimeId

/-- `INSERT OR IGNORE`: a second job of an event changes nothing. -/
def enqueue (d : Daemon) (jobs : Jobs) (job : ProviderReplyJob) : Except Failure Jobs :=
  match jobs.insert? job with
  | none => .ok jobs
  | some jobs' =>
    if job.references d = true then .ok jobs' else .error (.sqlite "FOREIGN KEY constraint failed")

theorem mem_enqueue {d : Daemon} {jobs jobs' : Jobs} {job j : ProviderReplyJob}
    (h : enqueue d jobs job = .ok jobs') (hj : j ∈ jobs'.rows) : j ∈ jobs.rows ∨ j = job := by
  unfold enqueue at h
  cases hinsert : jobs.insert? job with
  | none =>
    rw [hinsert] at h
    cases h
    exact .inl hj
  | some inserted =>
    rw [hinsert] at h
    dsimp only at h
    split_ifs at h
    cases h
    rw [(Table.insert?_eq_some.mp hinsert).2, List.mem_append, List.mem_singleton] at hj
    exact hj

/-- What a send remembers of the provider it is about to type into. -/
structure ReplyScan where
  adapterKind : String
  providerThreadId : Option String
  state : ProviderReplyScanState
  deriving DecidableEq, Repr

/-- Direct channel messages of a log participant, or in a channel that writes upstream, but for the
prompt of a launch. -/
def shouldBridgeProviderReply (db : Database) (request : SendRequest) (plan : SendPlan) : Bool :=
  plan.target.kind = some "direct" && Text.given request.channelId &&
    (db.logDelivered plan.actor.sessionId ||
      ((request.channelId.bind db.currentChannel).any fun c => c.coordinationPolicy = .leadUpstream)) &&
    !isText (request.correlation.bind fun c => c.member "purpose") "sessionLaunchPrompt"

/-- The scan state of the recipient, taken before the delivery. -/
def replyScan (d : Daemon) (transcripts : Transcripts) (request : SendRequest) (plan : SendPlan)
    (recipient : String) : Option ReplyScan :=
  if shouldBridgeProviderReply d.db request plan = true ∧ d.db.logDelivered recipient = false then
    match d.activeRuntimeIdentityForSession recipient with
    | none => none
    | some identity =>
      match identity.provider.filter supportsProviderFinalReply with
      | none => none
      | some provider => some ⟨provider, identity.providerThreadId,
          captureProviderReplyScanState transcripts provider identity.providerThreadId identity.effectiveHome⟩
  else none

end Wardroom.Runtime
