import Wardroom.Runtime.Native.Messages
import Wardroom.Storage.Readers

/-! # Broadcasts to the leads of several channels

An operator names up to a hundred channels and a key. Each channel gets one
direct send to its lead, under a deduplication key of the operator, the key and
the channel, unless an earlier send under it was delivered.
-/

namespace Wardroom.Runtime
open Wardroom.Library Wardroom.Domain Wardroom.Storage

/-- What the regular expression of a federated session leaves, or the id itself. -/
def visibleRoomsSessionId (canonicalSessionId : String) : String :=
  let marker := "federation:authority-".toList
  let rest := canonicalSessionId.toList.drop marker.length
  let authority := rest.takeWhile fun c => c ≠ ':'
  let session := rest.drop (authority.length + 1)
  let plain (c : Char) : Bool := c.toNat ≠ 0x0a && c.toNat ≠ 0x0d && c.toNat ≠ 0x2028 && c.toNat ≠ 0x2029
  if marker.isPrefixOf canonicalSessionId.toList && !authority.isEmpty && !session.isEmpty && session.all plain then
    String.ofList session
  else canonicalSessionId

def stampRoomsProvenance (canonicalSessionId body : String) : String :=
  let stamp := "@" ++ visibleRoomsSessionId canonicalSessionId
  if body = stamp ∨ (stamp ++ " ").toList.isPrefixOf body.toList = true then body else stamp ++ " " ++ body

/-- The actor of the runtime calls must present a credential of its own connection. -/
def runtimeActor (db : Database) (caller : Caller) : Except Failure RuntimeActor :=
  match caller.credential.filter fun c => !Text.blank c with
  | none => .error (.runtime "runtime credential is required")
  | some credential =>
    match (caller.connection.credentialSession credential).filter fun id => id ≠ "" with
    | none => .error (.runtime "invalid or missing credential")
    | some sessionId =>
      if caller.connection.authenticatedSessionId ≠ some sessionId then
        .error (.runtime "invalid or missing credential")
      else match db.sessionRole sessionId with
        | none => .error (.runtime "runtime actor session is unavailable")
        | some role => .ok ⟨sessionId, role, credential⟩

structure LeadBroadcastRequest where
  idempotencyKey : String
  body : String
  channelIds : List String
  attachmentReferences : List String := []
  replyToEventId : Option Json := none

/-- The checks of the request as a whole, and the trimmed key. -/
def LeadBroadcastRequest.check (request : LeadBroadcastRequest) : Except Failure String :=
  let idempotencyKey := Text.trim request.idempotencyKey
  if idempotencyKey = "" ∨ 512 < idempotencyKey.utf8ByteSize then
    .error (.rooms "invalidIdempotencyKey" "idempotencyKey must be 1-512 bytes")
  else if Text.blank request.body = true then .error (.coded "emptyMessage")
  else if request.channelIds = [] ∨ 100 < request.channelIds.length ∨ ¬ request.channelIds.Nodup ∨
      request.channelIds.any Text.blank = true then
    .error (.rooms "invalidChannelIds" "channelIds must contain 1-100 distinct non-empty channel ids")
  else if 32 < request.attachmentReferences.length ∨
      (request.attachmentReferences.any fun value => Text.blank value || decide (2048 < value.utf8ByteSize)) = true then
    .error (.rooms "invalidAttachmentReferences"
      "attachmentReferences must contain at most 32 non-empty references of at most 2048 bytes")
  else .ok idempotencyKey

def leadDeduplicationKey (sessionId idempotencyKey channelId : String) : String :=
  "lead-broadcast:" ++ sessionId ++ ":" ++ idempotencyKey ++ ":" ++ channelId

/-- What becomes of one channel of the request. -/
inductive LeadTurn where
  | refused (status code message : String)
  | alreadySent (prior : Json)
  | send (leadSessionId : String) (request : SendRequest)

def leadRequest (actor : RuntimeActor) (request : LeadBroadcastRequest) (idempotencyKey channelId leadSessionId : String) :
    SendRequest where
  channelId := some channelId
  senderSessionId := some actor.sessionId
  target := some ⟨some "direct", some leadSessionId, none, some [leadSessionId]⟩
  body := stampRoomsProvenance actor.sessionId request.body
  replyToEventId := request.replyToEventId
  correlation := some (.obj [
    ("requestId", .str idempotencyKey),
    ("deduplicationKey", .str (leadDeduplicationKey actor.sessionId idempotencyKey channelId)),
    ("purpose", .str "leadScopedMultiChannelBroadcast"),
    ("originSessionId", .str actor.sessionId),
    ("targetSessionId", .str leadSessionId)])
  attachmentReferences := some request.attachmentReferences

/-- Somebody took the message. -/
def deliveredAlready (event : Json) : Bool :=
  match event.member "deliveredRecipientSessionIds" with
  | some (.arr (_ :: _)) => true
  | _ => false

/-- One turn of the loop over the channels, up to its send. -/
def leadTurn (d : Daemon) (actor : RuntimeActor) (request : LeadBroadcastRequest) (idempotencyKey channelId : String) :
    LeadTurn :=
  let unavailable (code : String) : LeadTurn :=
    .refused "unavailable" code ("channel " ++ channelId ++ " is unavailable")
  match d.db.currentChannel channelId with
  | none => unavailable "channelNotFound"
  | some channel =>
    if channel.lifecycleState ≠ .active then unavailable "channelClosed"
    else if actor.role ≠ .operator ∨ ¬(channel.ownerOperatorSessionId = some actor.sessionId ∨
        d.db.isActiveMemberAs channelId actor.sessionId .operator = true) then
      .refused "unauthorized" "channelAuthorizationRequired"
        ("caller is not an owning or active operator of " ++ channelId)
    else
      match (d.db.messageByDeduplicationKey (leadDeduplicationKey actor.sessionId idempotencyKey channelId)
          channelId).filter fun prior => deliveredAlready prior.1 with
      | some prior => .alreadySent prior.1
      | none =>
        match planners d.db channelId with
        | [lead] =>
          match d.deliveryRuntime lead.sessionId with
          | none => .refused "unavailable" "runtimeNotFound" "runtimeNotFound"
          | some _ => .send lead.sessionId (leadRequest actor request idempotencyKey channelId lead.sessionId)
        | leads => .refused "unavailable" (if leads = [] then "leadUnavailable" else "leadAmbiguous")
            ("channel " ++ channelId ++ " has " ++ toString leads.length ++ " current leads")

/-- The send that the request makes for one of its channels, if it makes one. -/
def leadSend (d : Daemon) (caller : Caller) (request : LeadBroadcastRequest) (channelId : String) :
    Option SendRequest :=
  match runtimeActor d.db caller, request.check with
  | .ok actor, .ok idempotencyKey =>
    if channelId ∈ request.channelIds then
      match leadTurn d actor request idempotencyKey channelId with
      | .send _ request => some request
      | _ => none
    else none
  | _, _ => none

end Wardroom.Runtime
