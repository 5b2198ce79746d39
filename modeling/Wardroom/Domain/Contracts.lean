import Wardroom.Library.Json

/-! # Records, changes and errors of a Rooms authority

Timestamps are the ISO texts of the daemon's clock. A change carries its
payload in typed form; only messages, whose correlation is whatever the caller
sent, and the records of a legacy import stay JSON.
-/

namespace Wardroom.Domain
open Wardroom.Library

inductive SessionRole where
  | operator | planner | worker | reviewer
  deriving DecidableEq, Repr

inductive SessionDeliveryMode where
  | runtime | log
  deriving DecidableEq, Repr

inductive ChannelBroadcastPolicy where
  | all | privileged
  deriving DecidableEq, Repr

inductive ChannelCoordinationPolicy where
  | open | leadUpstream
  deriving DecidableEq, Repr

inductive LifecycleState where
  | active | closed
  deriving DecidableEq, Repr

inductive DeliveryStatus where
  | delivered | queued | undeliverable
  deriving DecidableEq, Repr

inductive ThreadState where
  | open | resolved
  deriving DecidableEq, Repr

/-- A thrown exception: a Rooms command error with its code and message, an error raised by the
SQLite binding or by the JavaScript runtime, or one raised by a change listener. -/
inductive Failure where
  | rooms (code message : String)
  | sqlite (message : String)
  | runtime (message : String)
  | listener (message : String)
  deriving DecidableEq, Repr

/-- An error whose message is its code. -/
def Failure.coded (code : String) : Failure := .rooms code code

namespace CursorCodec

def digitValue (c : Char) : Option Nat :=
  if '0' ≤ c ∧ c ≤ '9' then some (c.toNat - '0'.toNat) else none

def digits (acc : Nat) : List Char → Option Nat
  | [] => some acc
  | c :: cs => (digitValue c).bind fun d => digits (10 * acc + d) cs

/-- Accepts `0` and the decimal numerals without a leading zero. -/
def decode (value : String) : Option Nat :=
  match value.toList with
  | [] => none
  | ['0'] => some 0
  | '0' :: _ => none
  | cs => digits 0 cs

end CursorCodec

structure Session where
  id : String
  registeredAt : String
  endedAt : Option String
  displayName : Option String
  role : Option SessionRole
  externalId : Option String
  providerThreadId : Option String
  deliveryMode : SessionDeliveryMode
  externalOwner : Option String
  externalAgentId : Option String
  deriving DecidableEq, Repr

structure Channel where
  id : String
  label : Option String
  registeredAt : String
  ownerOperatorSessionId : Option String
  lifecycleState : LifecycleState
  closedAt : Option String
  broadcastPolicy : ChannelBroadcastPolicy
  coordinationPolicy : ChannelCoordinationPolicy
  deriving DecidableEq, Repr

/-! The updates of a row keep its key. -/

theorem Session.id_endedAt (t : String) (s : Session) :
    Session.id { s with endedAt := some t } = s.id := rfl

theorem Session.id_reactivated (s : Session) :
    Session.id { s with endedAt := none, externalOwner := none, externalAgentId := none } = s.id :=
  rfl

theorem Session.id_role (r : SessionRole) (s : Session) :
    Session.id { s with role := some r } = s.id := rfl

theorem Channel.id_closed (t : String) (c : Channel) :
    Channel.id { c with lifecycleState := .closed, closedAt := some t } = c.id := rfl

structure Membership where
  channelId : String
  sessionId : String
  joinedAt : String
  leftAt : Option String
  sessionEndedAt : Option String
  role : Option SessionRole
  deriving DecidableEq, Repr

/-- The primary key of the membership table. -/
def Membership.key (m : Membership) : String × String × String := (m.channelId, m.sessionId, m.joinedAt)

theorem Membership.key_leftAt (t : String) (m : Membership) :
    Membership.key { m with leftAt := some t } = m.key := rfl

theorem Membership.key_sessionEndedAt (t : String) (m : Membership) :
    Membership.key { m with sessionEndedAt := some t } = m.key := rfl

theorem Membership.key_restored (m : Membership) :
    Membership.key { m with sessionEndedAt := none } = m.key := rfl

theorem Membership.key_role (r : SessionRole) (m : Membership) :
    Membership.key { m with role := some r } = m.key := rfl

/-- Active: neither left nor ended with its session or channel. -/
def Membership.active (m : Membership) : Bool := m.leftAt.isNone && m.sessionEndedAt.isNone

structure ThreadLifecycle where
  threadRootEventId : String
  channelId : String
  state : ThreadState
  resolvedAt : Option String
  resolvedBySessionId : Option String
  reopenedAt : Option String
  reopenedBySessionId : Option String
  updatedAt : Option String
  deriving DecidableEq, Repr

structure ImportBatch where
  sourceDigest : String
  sourceVersion : Int
  startedAt : String
  committedAt : Option String
  deriving DecidableEq, Repr

/-- An object from session id to delivery status, in insertion order. -/
abbrev RecipientStatuses := List (String × DeliveryStatus)

/-- The time fields of a legacy record are milliseconds or an ISO text. -/
inductive LegacyTime where
  | millis (n : Int)
  | text (s : String)
  deriving DecidableEq, Repr

structure LegacyChannel where
  id : String
  registeredAt : LegacyTime
  ownerOperatorSessionID : Option String
  lifecycleState : Option LifecycleState
  closedAt : Option LegacyTime
  deriving DecidableEq, Repr

structure LegacySession where
  id : String
  registeredAt : LegacyTime
  endedAt : Option LegacyTime
  displayName : Option String
  role : Option SessionRole
  deriving DecidableEq, Repr

structure LegacyMembership where
  channelID : String
  sessionID : String
  joinedAt : LegacyTime
  role : Option SessionRole
  deriving DecidableEq, Repr

structure LegacyMembershipEnd where
  channelID : String
  sessionID : String
  endedAt : LegacyTime
  deriving DecidableEq, Repr

/-- The payload of a canonical import event, by its kind. A message stays the JSON record the
importer was given; work records are opaque to the store. -/
inductive ImportRecord where
  | channel (value : LegacyChannel)
  | session (value : LegacySession)
  | sessionRoleAssignment (sessionID : String) (role : SessionRole)
  | channelOwnerAssignment (channelID : String) (ownerOperatorSessionID : String)
  | membership (value : LegacyMembership)
  | membershipEnded (value : LegacyMembershipEnd)
  | sessionEnded (sessionID : String) (endedAt : LegacyTime)
  | message (event : Json)
  | workerJoin (value : LegacyMembership)
  | workerTerminal (value : LegacyMembershipEnd)
  | channelClosed (id : String) (closedAt : Option LegacyTime)
  | workerAssignment (record : Json)
  | workerReplacement (record : Json)
  | workUnit (record : Json)
  | unsupported (kind : String)

structure CanonicalImportEvent where
  channelId : Option String
  record : ImportRecord
  occurredAt : String
  sourceOrdinal : Int

inductive Payload where
  | sessionRegistered (id registeredAt : String) (displayName : Option String)
      (role : Option SessionRole) (externalId : Option String) (deliveryMode : SessionDeliveryMode)
  | sessionDeliveryUpdated (id : String) (deliveryMode : SessionDeliveryMode)
  | sessionEnded (sessionId endedAt : String) (memberships : List (String × Option SessionRole))
  | sessionReactivated (sessionId reactivatedAt : String)
  | sessionRoleUpdated (channelId sessionId : String) (previousRole role : SessionRole)
      (replacedPlannerSessionIds : List String) (activeMembershipRolesUpdated : Bool)
  | channelRegistered (id registeredAt : String) (ownerOperatorSessionId : Option String)
  | channelClosed (id closedAt : String)
  | channelReopened (id reopenedAt : String)
  | channelLabelUpdated (id : String) (label : Option String)
  | channelBroadcastPolicyUpdated (id : String) (broadcastPolicy : ChannelBroadcastPolicy)
  | channelCoordinationPolicyUpdated (id : String) (coordinationPolicy : ChannelCoordinationPolicy)
  | membershipJoined (channelId sessionId joinedAt : String) (role : Option SessionRole)
  | membershipLeft (channelId sessionId leftAt : String) (role : Option SessionRole)
  | messageSent (event : Json)
  | messageDelivery (messageId : String) (recipientStatuses : RecipientStatuses)
      (deliveredRecipientSessionIds : List String) (occurredAt : String)
  | threadResolved (thread : ThreadLifecycle)
  | threadReopened (thread : ThreadLifecycle)
  | controlCommitted (id channelId senderSessionId kind : String) (payload : Json)
      (requestId occurredAt : String)
  | runtimeLifecycle (channelId sessionId runtimeId : String) (generation : Nat) (state : String)
      (endedAt : Option String) (role : Option SessionRole)
  | legacy (record : ImportRecord)

structure Change where
  cursor : Nat
  channelId : Option String
  payload : Payload
  occurredAt : String
  sourceOrdinal : Option Int

/-- The stored event of a `message.sent` row. -/
def Change.sent? (c : Change) : Option Json :=
  match c.payload with
  | .messageSent event => some event
  | _ => none

structure MutationReceipt where
  cursor : Nat
  didAppend : Bool
  changes : List Change

/-- A message target, with the members that callers supply and the store reads. -/
structure MessageTarget where
  kind : Option String
  sessionId : Option String
  sessionID : Option String
  sessionIds : Option (List String)
  deriving DecidableEq, Repr

def MessageTarget.toJson (t : MessageTarget) : Json :=
  Json.record [("kind", t.kind.map .str), ("sessionId", t.sessionId.map .str),
    ("sessionID", t.sessionID.map .str), ("sessionIds", t.sessionIds.map fun ids => .arr (ids.map .str))]

/-- The reply reference is unvalidated caller data, like the correlation. -/
structure CanonicalMessageCommitInput where
  channelId : Option String
  senderSessionId : String
  body : String
  target : Option MessageTarget
  replyToEventId : Option Json
  correlation : Option Json
  deliveryStatuses : Option RecipientStatuses
  attachmentReferences : Option (List String)

end Wardroom.Domain
