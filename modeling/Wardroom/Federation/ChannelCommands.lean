import Wardroom.Federation.ChannelHome
import Wardroom.Runtime.Native.SendEffects
import Wardroom.Storage.Readers

/-! # The commands of a peer

A connected peer registers its sessions in a channel of this home, sends and
reads there, and leaves again. Every command acts under a session id that names
the authority of the peer. What a command does to the store it does before it
yields; the deliveries of a sent message follow.
-/

namespace Wardroom.Federation
open Wardroom.Library Wardroom.Library.JsonText Wardroom.Domain Wardroom.Storage Wardroom.Runtime Prog

inductive ChannelOperation where
  | register
  | leave
  | send
  | directSend
  | snapshot
  | messages
  deriving DecidableEq

/-- The authority that a handshake has authenticated. -/
structure AuthenticatedPeer where
  authorityId : JsString
  wellFormed : AUTHORITY_ID_PATTERN authorityId = true

structure ChannelCommand where
  homeAuthorityId : JsString
  operation : ChannelOperation
  actorSessionId : JsString
  payload : List UInt8

/-- The session that a command acts as. -/
def ChannelCommand.actor (command : ChannelCommand) (peer : AuthenticatedPeer) : JsString :=
  canonicalRemoteSession peer.authorityId command.actorSessionId

def AuthenticatedPeer.credentialId (peer : AuthenticatedPeer) : String :=
  sqlText (text "federation:" ++ peer.authorityId)

mutual

/-- A value of a payload, as the store takes it. -/
def jsonOf : Tree → Json
  | .null => .null
  | .bool b => .bool b
  | .number t => .num (sqlText t)
  | .string s => .str (sqlText s)
  | .array elements => .arr (jsonsOf elements)
  | .object members => .obj (jsonMembersOf members)

def jsonsOf : List Tree → List Json
  | [] => []
  | element :: elements => jsonOf element :: jsonsOf elements

def jsonMembersOf : List (JsString × Tree) → List (String × Json)
  | [] => []
  | (key, value) :: members => (sqlText key, jsonOf value) :: jsonMembersOf members

end

/-- What `/^federation:authority-[^:]+:(.+)$/` finds, or the id itself. -/
def visibleSession (canonicalSessionId : JsString) : JsString :=
  match strip (text "federation:authority-") canonicalSessionId with
  | none => canonicalSessionId
  | some rest =>
    let session := (rest.dropWhile fun c => c ≠ colon).drop 1
    if (rest.takeWhile fun c => c ≠ colon) ≠ [] ∧ session ≠ [] ∧
        session.all (fun c => c ∉ [0x0A, 0x0D, 0x2028, 0x2029]) = true then session
    else canonicalSessionId

def senderMark (canonicalSessionId : JsString) : JsString := text "@" ++ visibleSession canonicalSessionId

inductive ChannelReply where
  | registered (sessionId channelId : JsString) (registered idempotent : Bool) (cursor : Nat)
  | sent (event : Json) (cursor : Nat) (wasDeduplicated : Bool)
  | left (cursor : Nat)
  | snapshot (snapshot : Snapshot)
  | messages (page : MessagePage)

/-- What there is of a command when it first yields. -/
inductive Taken where
  | answered (reply : ChannelReply)
  | committed (receipt : CommitReceipt) (actor : RuntimeActor)

/-- The exception with the code and the message of a failure. -/
def CommandFailure.thrown (failure : CommandFailure) : Domain.Failure :=
  .rooms (sqlText failure.code) (sqlText failure.message)

def checked {α : Type} (outcome : Except CommandFailure α) : Action α :=
  ofExcept (outcome.mapError CommandFailure.thrown)

/-- The channel that a command names, where its session is live and a member. -/
def remoteChannel (db : Database) (actor : JsString) (payload : Tree) : Except CommandFailure JsString := do
  requireCommand (remoteSessionActive db (sqlText actor) = true) (text "remote session is not active")
  let channelId ← requiredString (payload.get (text "channelId")) "channelId" 256
  requireCommand (db.isActiveMember (sqlText channelId) (sqlText actor) = true)
    (text "remote session is not an active channel member")
  return channelId

def admittedChannel (db : Database) (peer : AuthenticatedPeer) (actor : JsString) (payload : Tree) :
    Except CommandFailure JsString := do
  let channelId ← remoteChannel db actor payload
  requireCommand (isFederatedPeerAdmitted db (sqlText channelId) (sqlText peer.authorityId) = true)
    (text "federation peer admission is not active")
  return channelId

def remoteMessage (channelId : Option String) (actor body : JsString) (target : MessageTarget) (payload : Tree) :
    CanonicalMessageCommitInput where
  channelId := channelId
  senderSessionId := sqlText actor
  body := sqlText body
  target := some target
  replyToEventId := (payload.get (text "replyToEventId")).map jsonOf
  correlation := (payload.get (text "correlation")).map jsonOf
  deliveryStatuses := none
  attachmentReferences := none

def takeRegister (peer : AuthenticatedPeer) (actor : JsString) (payload : Tree) : Action Taken := do
  let d ← read
  let channelId ← checked (requiredString (payload.get (text "channelId")) "channelId" 256)
  checked (requireCommand (isFederatedPeerAdmitted d.db (sqlText channelId) (sqlText peer.authorityId) = true)
    (text "federation peer is not admitted to this channel"))
  let registration ← onStore (Storage.registerSession (sqlText channelId) (sqlText actor) .worker
    (some peer.credentialId) none {})
  let d' ← read
  return .answered (.registered actor channelId (d.db.currentSession (sqlText actor)).isNone
    registration.idempotent d'.db.changes.latestCursor)

/-- Direct delivery is global across channels. -/
def takeDirectSend (peer : AuthenticatedPeer) (actor : JsString) (payload : Tree) : Action Taken := do
  let d ← read
  let targetSessionId ← checked (requiredString (payload.get (text "targetSessionId")) "targetSessionId" 512)
  checked (requireCommand (d.db.sessionLive (sqlText targetSessionId) = true)
    (text "unknown Rooms recipient session"))
  let body ← checked (storedBody (senderMark actor) payload)
  let receipt ← onStore (Application.commitMessage (remoteMessage none actor body
    ⟨some "direct", some (sqlText targetSessionId), none, some [sqlText targetSessionId]⟩ payload))
  return .committed receipt ⟨sqlText actor, .worker, peer.credentialId⟩

def takeLeave (peer : AuthenticatedPeer) (actor : JsString) (payload : Tree) : Action Taken := do
  let d ← read
  let channelId ← checked (remoteChannel d.db actor payload)
  let receipt ← onStore (Application.leave (sqlText channelId) (sqlText actor)
    ⟨peer.credentialId, sqlText actor, (d.db.sessionRole (sqlText actor)).getD .worker⟩)
  return .answered (.left receipt.cursor)

def takeSnapshot (peer : AuthenticatedPeer) (actor : JsString) (payload : Tree) : Action Taken := do
  let d ← read
  let channelId ← checked (admittedChannel d.db peer actor payload)
  let snapshot ← onStore (Storage.snapshot (sqlText channelId))
  return .answered (.snapshot snapshot)

def takeMessages (peer : AuthenticatedPeer) (actor : JsString) (payload : Tree) : Action Taken := do
  let d ← read
  let page ← checked (channelMessages d.db peer.authorityId actor payload)
  return .answered (.messages page)

def takeSend (peer : AuthenticatedPeer) (actor : JsString) (payload : Tree) : Action Taken := do
  let d ← read
  let channelId ← checked (admittedChannel d.db peer actor payload)
  let body ← checked (storedBody (senderMark actor) payload)
  let recipientIds := ((d.db.roster (sqlText channelId)).map Database.RosterEntry.sessionId).filter
    fun id => id ≠ sqlText actor
  let receipt ← onStore (Application.commitMessage (remoteMessage (some (sqlText channelId)) actor body
    ⟨some "broadcast", none, none, some recipientIds⟩ payload))
  return .committed receipt ⟨sqlText actor, (d.db.sessionRole (sqlText actor)).getD .worker, peer.credentialId⟩

def takeOperation (peer : AuthenticatedPeer) (actor : JsString) (payload : Tree) : ChannelOperation → Action Taken
  | .register => takeRegister peer actor payload
  | .directSend => takeDirectSend peer actor payload
  | .leave => takeLeave peer actor payload
  | .snapshot => takeSnapshot peer actor payload
  | .messages => takeMessages peer actor payload
  | .send => takeSend peer actor payload

/-- A command up to where it first yields; without a connected peer there is none. -/
def takeCommand (homeAuthorityId : JsString) (peer : Option AuthenticatedPeer) (command : ChannelCommand) :
    Action Taken :=
  match peer with
  | none => Prog.fail (.runtime "channel relay peer is not authenticated")
  | some peer =>
    if command.homeAuthorityId ≠ homeAuthorityId then Prog.fail (.runtime "channel is homed by another authority")
    else match decodePayload command.payload with
      | .error message => Prog.fail (.runtime (sqlText message))
      | .ok payload => takeOperation peer (command.actor peer) payload command.operation

/-- A runtime that does not run is passed over. -/
def deliverLocalRuntime (hosts : Hosts) (messageId recipient : String) (actor : RuntimeActor) : Action Unit :=
  Prog.tryCatch (do
    let d ← read
    if recipient ∉ d.db.canonicalMessageRecipients messageId then Prog.fail (.coded "runtimeUnauthorized")
    else match d.deliveryRuntime recipient with
      | none => Prog.fail (.coded "runtimeNotFound")
      | some runtime => do
        let _ ← deliverMessage hosts runtime.runtimeId runtime.generation messageId actor
        pure ())
    fun error => if error = .coded "runtimeNotFound" then pure () else Prog.fail error

/-- Federated recipients consume the event from their home. -/
def deliverLocalRuntimes (hosts : Hosts) (messageId : String) (actor : RuntimeActor) : List Json → Action Unit
  | [] => pure ()
  | .str recipient :: rest =>
    if "federation:".toList.isPrefixOf recipient.toList then deliverLocalRuntimes hosts messageId actor rest
    else do
      deliverLocalRuntime hosts messageId recipient actor
      deliverLocalRuntimes hosts messageId actor rest
  | _ :: _ => Prog.fail (.runtime "recipient.startsWith is not a function")

def deliveredRecipients (event : Json) : List Json :=
  match event.member "deliveredRecipientSessionIds" with
  | some (.arr ids) => ids
  | _ => []

/-- What follows of a command, and the answer to it. -/
def Taken.finish (hosts : Hosts) : Taken → Action ChannelReply
  | .answered reply => pure reply
  | .committed receipt actor => do
    deliverLocalRuntimes hosts (eventId receipt.event) actor (deliveredRecipients receipt.event)
    pure (.sent receipt.event receipt.receipt.cursor receipt.wasDeduplicated)

def handleChannel (hosts : Hosts) (homeAuthorityId : JsString) (peer : Option AuthenticatedPeer)
    (command : ChannelCommand) : Action ChannelReply := do
  let taken ← takeCommand homeAuthorityId peer command
  taken.finish hosts

end Wardroom.Federation
