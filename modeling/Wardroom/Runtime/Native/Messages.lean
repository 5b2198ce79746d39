import Wardroom.Runtime.Host.Codec
import Wardroom.Runtime.Native.Composition
import Wardroom.Storage.RuntimeRepository

/-! # Sending messages and controls

A send resolves its target, checks it, and commits the message, all before it
yields. It then submits the message to the runtime of each recipient and
records what became of it.
-/

namespace Wardroom.Runtime
open Wardroom.Library Wardroom.Domain Wardroom.Storage Prog

structure SendRequest where
  channelId : Option String := none
  senderSessionId : Option String := none
  target : Option MessageTarget := none
  body : String
  replyToEventId : Option Json := none
  correlation : Option Json := none
  attachmentReferences : Option (List String) := none

/-- The target of a request without one addresses nobody. -/
def SendRequest.requested (request : SendRequest) : MessageTarget :=
  request.target.getD ⟨some "here", none, none, some []⟩

def sendingSession (caller : Caller) (request : SendRequest) : Except Failure String := do
  let sessionId ← authenticated caller
  if Text.given request.senderSessionId ∧ request.senderSessionId ≠ some sessionId then
    .error (.runtime "senderSessionId does not match authenticated session")
  else .ok sessionId

/-- A broadcast addresses the roster of its channel, without the sender. -/
def broadcastTarget (db : Database) (sessionId channelId : String) : Except Failure MessageTarget :=
  if channelId = "" ∨ db.isActiveMember channelId sessionId = false then
    .error (.runtime "broadcast sender is not an active channel member")
  else if ((db.currentChannel channelId).any fun c => c.broadcastPolicy = .privileged) ∧
      db.sessionRole sessionId ≠ some .operator ∧ db.sessionRole sessionId ≠ some .planner then
    .error (.rooms "broadcastRestricted" ("channel " ++ channelId ++
      " restricts broadcasts to the operator and planner; send directly instead: " ++
      "rooms session send <target-session> --body <text>"))
  else .ok ⟨some "broadcast", none, none,
    some (((db.roster channelId).map Database.RosterEntry.sessionId).filter fun id => id ≠ sessionId)⟩

def resolveTarget (db : Database) (sessionId : String) (request : SendRequest) :
    Except Failure MessageTarget :=
  if request.requested.kind = some "broadcast" then
    broadcastTarget db sessionId (request.channelId.getD "")
  else .ok request.requested

def planners (db : Database) (channelId : String) : List Database.RosterEntry :=
  (db.roster channelId).filter fun m => m.role = some .planner

/-- The lead of a channel, or its owner where the channel does not have exactly one planner. -/
def upstreamSessionId (db : Database) (channel : Channel) : Option String :=
  match planners db channel.id with
  | [planner] => some planner.sessionId
  | _ => channel.ownerOperatorSessionId

/-- A worker writes to nobody but the upstream of the channel its request names. -/
def checkUpstream (db : Database) (sessionId : String) (request : SendRequest)
    (target : MessageTarget) : Except Failure Unit :=
  match (request.channelId.filter fun id => id ≠ "").bind db.currentChannel with
  | none => .ok ()
  | some channel =>
    if channel.coordinationPolicy = .leadUpstream ∧ db.sessionRole sessionId = some .worker then
      match (upstreamSessionId db channel).filter fun id => id ≠ "" with
      | none => .error (.rooms "upstreamUnavailable"
          ("channel " ++ channel.id ++ " has no active lead or owning operator"))
      | some upstream =>
        if target.kind ≠ some "direct" ∨ target.sessionId ≠ some upstream then
          .error (.rooms "upstreamRestricted" ("worker messages in channel " ++ channel.id ++
            " must target the active lead, or the owning operator when no lead exists"))
        else .ok ()
    else .ok ()

/-- Only a direct recipient has to share a channel with the sender. -/
def acceptedRecipients (db : Database) (sessionId : String) (target : MessageTarget) :
    Except Failure (List String) :=
  if target.kind = some "direct" then
    match target.sessionId with
    | none => .error (.sqlite "Provided value cannot be bound to SQLite parameter")
    | some recipient =>
      if (db.activeMembershipChannels recipient).any fun channelId =>
          channelId ∈ db.activeMembershipChannels sessionId then .ok [recipient]
      else .error (.rooms "unauthorizedRecipient"
        "direct recipients must share an active channel with the sender")
  else if target.sessionIds.getD [] = [] then
    .error (.rooms "noAcceptedRecipients" "message has no recipient other than sender")
  else .ok (target.sessionIds.getD [])

/-- What is known of the deliveries before the commit. -/
structure Routing where
  statuses : RecipientStatuses
  runtimes : List (String × Runtime)

def route (d : Daemon) (direct : Bool) : Routing → List String → Except Failure Routing
  | routing, [] => .ok routing
  | routing, recipient :: rest =>
    -- the log of the channel is the delivery of a log participant
    if (d.db.currentSession recipient).any fun s => s.deliveryMode = .log then
      route d direct { routing with statuses := putStatus routing.statuses recipient .delivered } rest
    else
      match d.deliveryRuntime recipient with
      | some runtime => route d direct
          ⟨putStatus routing.statuses recipient .queued, (recipient, runtime) :: routing.runtimes⟩ rest
      | none =>
        if direct then .error (.rooms "recipientUndeliverable"
          ("recipient session " ++ recipient ++ " has no live runtime"))
        else route d direct
          { routing with statuses := putStatus routing.statuses recipient .undeliverable } rest

structure SendPlan where
  actor : RuntimeActor
  target : MessageTarget
  recipients : List String
  routing : Routing

/-- Everything a send decides before it commits. -/
def planSend (d : Daemon) (caller : Caller) (request : SendRequest) : Except Failure SendPlan := do
  let sessionId ← sendingSession caller request
  let target ← resolveTarget d.db sessionId request
  checkUpstream d.db sessionId request target
  let recipients ← acceptedRecipients d.db sessionId target
  let routing ← route d (target.kind = some "direct") ⟨[], []⟩ recipients
  return ⟨⟨sessionId, (d.db.sessionRole sessionId).getD .worker, caller.credential.getD "native"⟩,
    target, recipients, routing⟩

def SendPlan.commitInput (plan : SendPlan) (request : SendRequest) : CanonicalMessageCommitInput where
  channelId := request.channelId
  senderSessionId := plan.actor.sessionId
  body := request.body
  target := some plan.target
  replyToEventId := request.replyToEventId
  correlation := request.correlation
  deliveryStatuses := some plan.routing.statuses
  attachmentReferences := request.attachmentReferences

structure AcceptedSend where
  plan : SendPlan
  receipt : CommitReceipt

/-- A send up to its commit. -/
def acceptSend (caller : Caller) (request : SendRequest) : Action AcceptedSend := do
  let d ← read
  let plan ← ofExcept (planSend d caller request)
  let receipt ← onStore (Application.commitMessage (plan.commitInput request))
  return ⟨plan, receipt⟩

/-- How the host of a runtime answers a submission. -/
inductive HostAnswer where
  | acknowledged (outcome : Host.DeliveryOutcome)
  | absent (error : Failure)
  | failed (error : Failure)
  deriving DecidableEq

abbrev Hosts := Runtime → String → HostAnswer

/-- What the host answered. A host that is gone takes its runtime with it. -/
def hostAnswered (runtime : Runtime) : HostAnswer → Action Host.DeliveryOutcome
  | .acknowledged outcome => pure outcome
  | .absent error => do
    markState runtime.runtimeId runtime.generation .crashed (some "runtime host is absent")
    fail error
  | .failed error => fail error

def deliverToRuntime (hosts : Hosts) (runtime : Runtime) (messageId : String) :
    Action Host.DeliveryOutcome :=
  hostAnswered runtime (hosts runtime messageId)

/-- The checks of a delivery, before anything is written to the host. -/
def authorizeDelivery (runtimeId : String) (generation : Nat) (messageId : String)
    (actor : RuntimeActor) : Action Runtime := do
  let runtime ← requireRuntime runtimeId
  let d ← read
  if runtime.generation ≠ generation then fail (.coded "staleRuntimeGeneration")
  else
    match (d.db.canonicalMessageSender messageId).filter fun id => id ≠ "" with
    | none => fail (.coded "runtimeUnauthorized")
    | some sender =>
      if actor.role ≠ .operator ∧ sender ≠ actor.sessionId then fail (.coded "runtimeUnauthorized")
      else if runtime.sessionId ∉ d.db.canonicalMessageRecipients messageId then
        fail (.coded "runtimeUnauthorized")
      else pure runtime

def deliverMessage (hosts : Hosts) (runtimeId : String) (generation : Nat) (messageId : String)
    (actor : RuntimeActor) : Action Host.DeliveryOutcome := do
  let runtime ← authorizeDelivery runtimeId generation messageId actor
  deliverToRuntime hosts runtime messageId

/-- A failed submission only marks its recipient. -/
def deliverAll (hosts : Hosts) (plan : SendPlan) (messageId : String) :
    RecipientStatuses → List String → Action RecipientStatuses
  | statuses, [] => pure statuses
  | statuses, recipient :: rest =>
    match plan.routing.runtimes.find? fun r => r.1 = recipient with
    | none => deliverAll hosts plan messageId statuses rest
    | some (_, runtime) => do
      let delivered ← succeeds (deliverMessage hosts runtime.runtimeId runtime.generation messageId
        plan.actor)
      deliverAll hosts plan messageId
        (putStatus statuses recipient (if delivered then .delivered else .undeliverable)) rest

structure SendResponse where
  event : Json
  cursor : Nat
  wasDeduplicated : Bool

/-- The event as the response shows it. -/
def deliveredEvent (event : Json) (statuses : RecipientStatuses) (delivered : List String) : Json :=
  (event.set "recipientStatuses" (statusesToJson statuses)).set "deliveredRecipientSessionIds"
    (.arr (delivered.map .str))

def eventId (event : Json) : String := ((event.member "id").bind Json.extractText).getD ""

/-- A send that nobody took throws, although its message stays. -/
def AcceptedSend.respond (accepted : AcceptedSend) (statuses : RecipientStatuses) : Except Failure SendResponse :=
  let plan := accepted.plan
  let delivered := plan.recipients.filter fun id => statusOf statuses id = some .delivered
  if delivered = [] then
    .error (.rooms (if plan.target.kind = some "broadcast" then "noAcceptedRecipients"
      else "recipientUndeliverable") "no recipient accepted delivery")
  else .ok ⟨deliveredEvent accepted.receipt.event statuses delivered,
    accepted.receipt.receipt.cursor, accepted.receipt.wasDeduplicated⟩

def completeSend (hosts : Hosts) (accepted : AcceptedSend) : Action SendResponse := do
  let messageId := eventId accepted.receipt.event
  let statuses ← deliverAll hosts accepted.plan messageId accepted.plan.routing.statuses
    accepted.plan.recipients
  onStore (appendMessageDelivery messageId statuses)
  ofExcept (accepted.respond statuses)

def send (hosts : Hosts) (caller : Caller) (request : SendRequest) : Action SendResponse := do
  let accepted ← acceptSend caller request
  completeSend hosts accepted

def commitControl (caller : Caller) (input : ControlInput) : Command ControlReceipt := do
  let actorId ← ofExcept (authenticated caller)
  let db ← database
  let context ← ofExcept (actorContext db actorId caller.credentialId
    (.runtime "control actor session is unavailable"))
  Application.commitControl input context

end Wardroom.Runtime
