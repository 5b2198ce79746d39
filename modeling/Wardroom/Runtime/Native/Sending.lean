import Wardroom.Library.Trace
import Wardroom.Runtime.Native.LeadBroadcast
import Wardroom.Runtime.Native.SendEffects
import Wardroom.Runtime.Replies.Jobs

/-! # Sends that wait for the hosts of their recipients

A send runs up to its commit without a pause. Then it submits the message to
one runtime after the other, and everything else may run while a host has not
answered. At the end it records what became of the message, and leaves a job for
the answer of a provider.
-/

namespace Wardroom.Runtime
open Wardroom.Library Wardroom.Domain Wardroom.Storage Prog

inductive SendProgress where
  /-- The recipients whose turn has not come. -/
  | submitting (rest : List String)
  /-- The host of a recipient has not answered. -/
  | awaiting (recipient : String) (runtime : Runtime) (rest : List String)
  /-- The deliveries are recorded, or could not be. -/
  | settled (recorded : Bool) (outcome : Except Failure SendResponse)

/-- A send after its commit. -/
structure Delivering where
  accepted : AcceptedSend
  channelId : Option String
  /-- The recipients that were log-delivered when the send looked. -/
  logged : List String
  scan : Option ReplyScan
  statuses : RecipientStatuses
  /-- What the hosts answered, oldest first; nothing for a submission that failed. -/
  answers : List (String × Option Host.DeliveryOutcome)
  progress : SendProgress

namespace Delivering

def start (d : Daemon) (transcripts : Transcripts) (request : SendRequest) (accepted : AcceptedSend) : Delivering where
  accepted := accepted
  channelId := request.channelId
  logged := accepted.plan.recipients.filter d.db.logDelivered
  scan := accepted.plan.target.sessionId.bind (replyScan d transcripts request accepted.plan)
  statuses := accepted.plan.routing.statuses
  answers := []
  progress := .submitting accepted.plan.recipients

def plan (send : Delivering) : SendPlan := send.accepted.plan

def event (send : Delivering) : Json := send.accepted.receipt.event

def messageId (send : Delivering) : String := eventId send.event

def runtime (send : Delivering) (recipient : String) : Option Runtime :=
  (send.plan.routing.runtimes.find? fun r => r.1 = recipient).map Prod.snd

/-- A submission that did not throw counts as delivered. -/
def answered (send : Delivering) (recipient : String) (outcome : Option Host.DeliveryOutcome) (rest : List String) :
    Delivering :=
  { send with
    statuses := putStatus send.statuses recipient (if outcome.isSome then .delivered else .undeliverable)
    answers := send.answers ++ [(recipient, outcome)]
    progress := .submitting rest }

/-- The job that a delivered direct message leaves, with the time it is created. -/
def job (send : Delivering) (createdAt : String) : Option ProviderReplyJob :=
  match send.plan.target.sessionId, send.scan, send.channelId.filter fun id => id ≠ "" with
  | some recipient, some scan, some channelId =>
    if send.plan.target.kind = some "direct" ∧ statusOf send.statuses recipient = some .delivered then
      (send.runtime recipient).map fun runtime =>
        { sourceEventId := send.messageId
          sourceCursor := send.accepted.receipt.receipt.cursor
          sourceBody := ((send.event.member "body").bind Json.extractText).getD ""
          channelId := channelId
          sourceSenderSessionId := send.plan.actor.sessionId
          providerSessionId := recipient
          runtimeId := runtime.runtimeId
          generation := runtime.generation
          adapterKind := scan.adapterKind
          providerThreadId := scan.providerThreadId
          scanState := scan.state
          state := .pending
          replyEventId := none
          outcomeReason := none
          createdAt := createdAt }
    else none
  | _, _, _ => none

end Delivering

/-- The journal gained rows that are neither messages nor deliveries. -/
def QuietGrowth (db db' : Database) : Prop :=
  ∃ rows, db'.changes.rows = db.changes.rows ++ rows ∧ ∀ c ∈ rows, Change.isMessage c = false

/-- The daemon moved on without a message or a delivery. -/
structure Unsaid (d d' : Daemon) : Prop where
  transactionDepth : d'.store.transactionDepth = d.store.transactionDepth
  uuids : d'.store.uuids = d.store.uuids
  draws : d.store.draws ≤ d'.store.draws
  changes : QuietGrowth d.db d'.db

/-- What everything but the sends may do to the daemon at any moment. -/
structure Meanwhile where
  change : Daemon → Daemon
  unsaid : ∀ d, Unsaid d (change d)

structure Sends where
  daemon : Daemon
  sends : List Delivering
  jobs : Jobs

inductive SendEvent where
  | send (caller : Caller) (request : SendRequest) (transcripts : Transcripts)
  | lead (caller : Caller) (request : LeadBroadcastRequest) (channelId : String) (transcripts : Transcripts)
  | submit (i : Nat)
  | answer (i : Nat) (answer : HostAnswer)
  | other (meanwhile : Meanwhile)

namespace Sends

def initial (d : Daemon) : Sends := ⟨d, [], .empty⟩

def setSend (s : Sends) (i : Nat) (send : Delivering) : Sends := { s with sends := s.sends.set i send }

/-- A send up to its first submission; one that throws before its commit leaves nothing behind. -/
def accept (s : Sends) (caller : Caller) (request : SendRequest) (transcripts : Transcripts) : Sends :=
  match acceptSend caller request s.daemon with
  | (.error _, d) => { s with daemon := d }
  | (.ok accepted, d) =>
    { s with daemon := d, sends := s.sends ++ [.start s.daemon transcripts request accepted] }

/-- The end of a send: its record, its job, its response. -/
def record (s : Sends) (i : Nat) (send : Delivering) : Sends :=
  match onStore (appendMessageDelivery send.messageId send.statuses) s.daemon with
  | (.error e, d) => { s with daemon := d }.setSend i { send with progress := .settled false (.error e) }
  | (.ok _, d) =>
    let response := send.accepted.respond send.statuses
    match send.job (d.store.clock d.store.ticks) with
    | none => { s with daemon := d }.setSend i { send with progress := .settled true response }
    | some job =>
      match enqueue d s.jobs job with
      | .error e => { s with daemon := d }.setSend i { send with progress := .settled true (.error e) }
      | .ok jobs => { s with daemon := d, jobs := jobs }.setSend i { send with progress := .settled true response }

/-- The next recipient of a send: one without a runtime is passed over, and so is one whose delivery
is refused before it reaches the host. -/
def submit (s : Sends) (i : Nat) (send : Delivering) : Sends :=
  match send.progress with
  | .submitting [] => s.record i send
  | .submitting (recipient :: rest) =>
    match send.runtime recipient with
    | none => s.setSend i { send with progress := .submitting rest }
    | some runtime =>
      match authorizeDelivery runtime.runtimeId runtime.generation send.messageId send.plan.actor s.daemon with
      | (.error _, d) => { s with daemon := d }.setSend i (send.answered recipient none rest)
      | (.ok runtime, d) => { s with daemon := d }.setSend i { send with progress := .awaiting recipient runtime rest }
  | _ => s

def answer (s : Sends) (i : Nat) (send : Delivering) (answer : HostAnswer) : Sends :=
  match send.progress with
  | .awaiting recipient runtime rest =>
    match hostAnswered runtime answer s.daemon with
    | (.ok outcome, d) => { s with daemon := d }.setSend i (send.answered recipient (some outcome) rest)
    | (.error _, d) => { s with daemon := d }.setSend i (send.answered recipient none rest)
  | _ => s

def step (s : Sends) : SendEvent → Sends
  | .send caller request transcripts => s.accept caller request transcripts
  | .lead caller request channelId transcripts =>
    match leadSend s.daemon caller request channelId with
    | none => s
    | some request => s.accept caller request transcripts
  | .submit i =>
    match s.sends[i]? with
    | none => s
    | some send => s.submit i send
  | .answer i hostAnswer =>
    match s.sends[i]? with
    | none => s
    | some send => s.answer i send hostAnswer
  | .other meanwhile => { s with daemon := meanwhile.change s.daemon }

end Sends

end Wardroom.Runtime
