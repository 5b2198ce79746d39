import Wardroom.Library.Text
import Wardroom.Storage.Command

/-! # Messages, replies, threads and controls

A message is stored as the JSON event its commit built. A reply names its
parent by event id in one of two places; its thread root is taken from the
stored parent.
-/

namespace Wardroom.Storage
open Wardroom.Library Wardroom.Domain Prog

def replyEventId (value : Option Json) (field : String) : Except Failure (Option String) :=
  match value with
  | none => .ok none
  | some .null => .ok none
  | some (.str s) =>
    if Text.blank s ∨ 512 < s.utf8ByteSize then
      .error (.rooms "invalidReplyToEventId"
        (field ++ " must be a non-empty Rooms event id of at most 512 bytes"))
    else .ok (some s)
  | some _ =>
    .error (.rooms "invalidReplyToEventId"
      (field ++ " must be a non-empty Rooms event id of at most 512 bytes"))

structure ReplyMetadata where
  replyToEventId : Option String
  threadRootEventId : Option String
  correlation : Option Json

/-- The thread root a stored parent gives to its replies. -/
def replyRoot (replyToEventId : String) (parent : Json) : Except Failure String := do
  let parentReply ← replyEventId (parent.member "replyToEventId")
    ("reply parent " ++ replyToEventId ++ ".replyToEventId")
  let parentRoot ← replyEventId (parent.member "threadRootEventId")
    ("reply parent " ++ replyToEventId ++ ".threadRootEventId")
  if parentReply ≠ none ∧ parentRoot = none then
    .error (.rooms "invalidReplyParent"
      ("reply parent " ++ replyToEventId ++ " has no canonical thread root"))
  else .ok (parentRoot.getD replyToEventId)

/-- The parent that the two inputs agree on. -/
def requestedReply (replyToEventId correlation : Option Json) : Except Failure (Option String) := do
  let canonicalReply ← replyEventId replyToEventId "replyToEventId"
  let legacyReply ← replyEventId (correlation.bind fun c => c.member "replyToEventId")
    "correlation.replyToEventId"
  if canonicalReply ≠ none ∧ legacyReply ≠ none ∧ canonicalReply ≠ legacyReply then
    .error (.rooms "invalidReplyMetadata"
      "replyToEventId must equal correlation.replyToEventId when both are supplied")
  else .ok (canonicalReply.or legacyReply)

def resolveReplyMetadata (db : Database) (channelId : Option String)
    (replyToEventId correlation : Option Json) : Except Failure ReplyMetadata := do
  match ← requestedReply replyToEventId correlation with
  | none => .ok ⟨none, none, correlation⟩
  | some reply =>
    match db.messageRow reply with
    | none => .error (.rooms "staleReply" ("reply parent " ++ reply ++ " does not exist"))
    | some (row, parent) =>
      if row.channelId ≠ channelId then
        .error (.rooms "staleReply" ("reply parent " ++ reply ++ " belongs to another channel"))
      else do
        let threadRootEventId ← replyRoot reply parent
        if (db.threadRow threadRootEventId).any fun t => t.state = .resolved then
          .error (.rooms "threadResolved"
            ("thread " ++ threadRootEventId ++ " is resolved; reopen it before replying"))
        else .ok ⟨some reply, some threadRootEventId,
          some ((correlation.getD (.obj [])).set "replyToEventId" (.str reply))⟩

/-- The values that the driver takes for the one parameter of a statement. -/
def bindable : Json → Bool
  | .str _ => true
  | .num _ => true
  | _ => false

/-- An object or an array is taken for named parameters, of which the statement has none. -/
def bindFailure : Json → Failure
  | .obj ((name, _) :: _) => .sqlite ("Unknown named parameter '" ++ name ++ "'")
  | .arr (_ :: _) => .sqlite "Unknown named parameter '0'"
  | _ => .sqlite "Provided value cannot be bound to SQLite parameter 1."

/-- `json_extract(…) = ?` for a bound key. -/
def sqlEquals (stored key : Json) : Bool :=
  match key, stored with
  | .str k, v => v.extractText = some k
  | .num t, .num t' => t = t'
  | .num t, .bool b => t = if b then "1" else "0"
  | _, _ => false

def deduplicationKey (event : Json) : Option Json :=
  (event.member "correlation").bind fun c => c.member "deduplicationKey"

namespace Database

/-- The earliest stored message that carries the key, in whatever channel. -/
def deduplicationRow (db : Database) (key : Json) : Option (Change × Json) :=
  db.changes.sent.find? fun r => (deduplicationKey r.2).any fun k => sqlEquals k key

def deduplicationRowIn (db : Database) (channelId : String) (key : Json) : Option (Change × Json) :=
  db.changes.sent.find? fun r =>
    r.1.channelId = some channelId ∧ (deduplicationKey r.2).any fun k => sqlEquals k key

end Database

/-- An absent id names the property `undefined`. -/
def statusKey (id : Option String) : String := id.getD "undefined"

def statusOf (statuses : RecipientStatuses) (id : String) : Option DeliveryStatus :=
  match statuses with
  | [] => none
  | (k, v) :: rest => if k = id then some v else statusOf rest id

def putStatus (statuses : RecipientStatuses) (id : String) (status : DeliveryStatus) :
    RecipientStatuses :=
  match statuses with
  | [] => [(id, status)]
  | (k, v) :: rest => if k = id then (k, status) :: rest else (k, v) :: putStatus rest id status

def DeliveryStatus.toJson : DeliveryStatus → Json
  | .delivered => .str "delivered"
  | .queued => .str "queued"
  | .undeliverable => .str "undeliverable"

def statusesToJson (statuses : RecipientStatuses) : Json :=
  .obj (statuses.map fun s => (s.1, DeliveryStatus.toJson s.2))

def messageRecipients (target : Option MessageTarget) : List (Option String) :=
  match target with
  | none => []
  | some t => if t.kind = some "direct" then [t.sessionId] else (t.sessionIds.getD []).map some

/-- Without supplied statuses every recipient counts as delivered. -/
def messageStatuses (input : CanonicalMessageCommitInput) : RecipientStatuses :=
  input.deliveryStatuses.getD
    ((messageRecipients input.target).foldl (fun acc id => putStatus acc (statusKey id) .delivered) [])

def messageDelivered (input : CanonicalMessageCommitInput) : List (Option String) :=
  (messageRecipients input.target).filter fun id =>
    statusOf (messageStatuses input) (statusKey id) = some .delivered

def messageEvent (input : CanonicalMessageCommitInput) (reply : ReplyMetadata)
    (id occurredAt : String) : Json :=
  Json.record [
    ("id", some (.str id)),
    ("channelId", some (Json.ofOption input.channelId)),
    ("senderSessionId", some (.str input.senderSessionId)),
    ("body", some (.str input.body)),
    ("target", input.target.map MessageTarget.toJson),
    ("attachmentReferences", some (.arr ((input.attachmentReferences.getD []).map .str))),
    ("deliveredRecipientSessionIds", some (.arr ((messageDelivered input).map Json.ofOption))),
    ("recipientStatuses", some (statusesToJson (messageStatuses input))),
    ("correlation", reply.correlation),
    ("replyToEventId", some (Json.ofOption reply.replyToEventId)),
    ("threadRootEventId", some (Json.ofOption reply.threadRootEventId)),
    ("occurredAt", some (.str occurredAt))]

structure CommitReceipt where
  receipt : MutationReceipt
  event : Json
  wasDeduplicated : Bool

/-- A direct target must name a stored session under either spelling. -/
def recipientKnown (db : Database) (target : Option MessageTarget) : Bool :=
  target.all fun t =>
    if t.kind = some "direct" ∨ t.kind = some "directToSession" then
      (t.sessionId.or t.sessionID).any fun id => id ≠ "" ∧ (db.currentSession id).isSome
    else true

def activeKey (correlation : Option Json) : Option Json :=
  (correlation.bind fun c => c.member "deduplicationKey").filter Json.truthy

/-- An empty object or array leaves the parameter unbound, and the statement finds no row. -/
def priorMessage (db : Database) (key : Option Json) : Except Failure (Option (Change × Json)) :=
  match key with
  | none | some (.obj []) | some (.arr []) => .ok none
  | some key => if bindable key then .ok (db.deduplicationRow key) else .error (bindFailure key)

theorem priorMessage_some {db : Database} {key : Json} {prior : Option (Change × Json)}
    (h : priorMessage db (some key) = .ok prior) :
    bindable key = true ∧ prior = db.deduplicationRow key ∨ bindable key = false ∧ prior = none := by
  unfold priorMessage at h
  split at h
  · cases ‹some key = none›
  · cases ‹some key = some (.obj [])›
    exact .inr ⟨rfl, (Except.ok.inj h).symm⟩
  · cases ‹some key = some (.arr [])›
    exact .inr ⟨rfl, (Except.ok.inj h).symm⟩
  · cases ‹some key = some _›
    split at h
    · exact .inl ⟨‹_›, (Except.ok.inj h).symm⟩
    · cases h

theorem priorMessage_of_bindable (db : Database) {key : Json} (h : bindable key = true) :
    priorMessage db (some key) = .ok (db.deduplicationRow key) := by
  cases key with
  | str s => rfl
  | num t => rfl
  | _ => cases h

theorem deduplicationRow_of_prior {db : Database} {key : Option Json} {r : Change × Json}
    (h : priorMessage db key = .ok (some r)) :
    ∃ k, key = some k ∧ bindable k = true ∧ db.deduplicationRow k = some r := by
  cases key with
  | none => cases h
  | some k =>
    rcases priorMessage_some h with ⟨hbind, hrow⟩ | ⟨-, hnone⟩
    · exact ⟨k, rfl, hbind, hrow.symm⟩
    · cases hnone

def commitMessage (input : CanonicalMessageCommitInput) : Command CommitReceipt := write do
  let db ← database
  throwIf (recipientKnown db input.target = false)
    (.rooms "unknownSession" "unknown Rooms recipient session")
  let reply ← ofExcept (resolveReplyMetadata db input.channelId input.replyToEventId input.correlation)
  match ← ofExcept (priorMessage db (activeKey reply.correlation)) with
  | some (row, event) => return ⟨⟨row.cursor, false, []⟩, event, true⟩
  | none => do
    let uuid ← randomUUID
    let occurredAt ← now
    let event := messageEvent input reply ("event_" ++ uuid) occurredAt
    let receipt ← appendChange input.channelId (.messageSent event)
    return ⟨receipt, event, false⟩

/-- A missing or empty channel id searches every channel. -/
def messageById (db : Database) (eventId : String) (channelId : Option String) :
    Except Failure (Change × Json) :=
  if Text.blank eventId then .error (.coded "unknownMessage")
  else
    match if Text.given channelId then db.messageRowIn (channelId.getD "") eventId
        else db.messageRow eventId with
    | none => .error (.coded "unknownMessage")
    | some row => .ok row

def openThread (threadRootEventId channelId : String) : ThreadLifecycle :=
  ⟨threadRootEventId, channelId, .open, none, none, none, none, none⟩

def threadLifecycle (db : Database) (threadRootEventId : String) (channelId : Option String) :
    Except Failure ThreadLifecycle := do
  let root ← messageById db threadRootEventId channelId
  let reply ← replyEventId (root.2.member "replyToEventId")
    ("thread root " ++ threadRootEventId ++ ".replyToEventId")
  if reply ≠ none then
    .error (.rooms "notThreadRoot" (threadRootEventId ++ " is a reply, not a thread root"))
  else
    match root.2.member "channelId" with
    | some (.str rootChannelId) =>
      if rootChannelId = "" then
        .error (.rooms "threadChannelRequired" "thread lifecycle requires a channel message")
      else .ok ((db.threadRow threadRootEventId).getD (openThread threadRootEventId rootChannelId))
    | _ => .error (.rooms "threadChannelRequired" "thread lifecycle requires a channel message")

structure ThreadReceipt where
  receipt : MutationReceipt
  thread : ThreadLifecycle

/-- `INSERT … ON CONFLICT(thread_root_event_id) DO UPDATE`. -/
def upsertResolved (threadRootEventId channelId actorSessionId changedAt : String) : Command Unit := do
  let db ← database
  match db.messageThreads.insert? ⟨threadRootEventId, channelId, .resolved, some changedAt,
      some actorSessionId, none, none, some changedAt⟩ with
  | some threads => do
    references (db.channels.has channelId && db.sessions.has actorSessionId)
    modifyDatabase fun db => { db with messageThreads := threads }
  | none => modifyDatabase fun db => { db with
      messageThreads := db.messageThreads.update (fun t => t.threadRootEventId = threadRootEventId)
        (fun t => { t with state := .resolved, resolvedAt := some changedAt,
                           resolvedBySessionId := some actorSessionId,
                           updatedAt := some changedAt }) fun _ => rfl }

def setThreadState (threadRootEventId actorSessionId : String) (state : ThreadState)
    (channelId : Option String) : Command ThreadReceipt := write do
  let db ← database
  throwIf (db.sessionLive actorSessionId = false) (.coded "unknownSession")
  let current ← ofExcept (threadLifecycle db threadRootEventId channelId)
  throwIf (db.isActiveMember current.channelId actorSessionId = false) (.coded "notMember")
  if current.state = state then do
    let receipt ← unchanged
    return ⟨receipt, current⟩
  else do
    let changedAt ← now
    match state with
    | .resolved => upsertResolved threadRootEventId current.channelId actorSessionId changedAt
    | .open => modifyDatabase fun db => { db with
        messageThreads := db.messageThreads.update
          (fun t => t.threadRootEventId = threadRootEventId)
          (fun t => { t with state := .open, reopenedAt := some changedAt,
                             reopenedBySessionId := some actorSessionId,
                             updatedAt := some changedAt }) fun _ => rfl }
    let db ← database
    let thread ← ofExcept (threadLifecycle db threadRootEventId (some current.channelId))
    let receipt ← appendChange (some current.channelId)
      (if state = .resolved then .threadResolved thread else .threadReopened thread)
    return ⟨receipt, thread⟩

def resolveThread (threadRootEventId actorSessionId : String) (channelId : Option String) :
    Command ThreadReceipt :=
  setThreadState threadRootEventId actorSessionId .resolved channelId

def reopenThread (threadRootEventId actorSessionId : String) (channelId : Option String) :
    Command ThreadReceipt :=
  setThreadState threadRootEventId actorSessionId .open channelId

structure ControlInput where
  channelId : String
  senderSessionId : String
  kind : String
  payload : Json
  requestId : String

/-- The earliest control of the channel, the sender and the request. -/
def Database.controlRow (db : Database) (channelId senderSessionId requestId : String) :
    Option Change :=
  db.changes.rows.find? fun c => c.channelId = some channelId &&
    match c.payload with
    | .controlCommitted _ _ sender _ _ request _ => sender = senderSessionId && request = requestId
    | _ => false

structure ControlReceipt where
  receipt : MutationReceipt
  event : Payload
  wasDeduplicated : Bool

def commitControl (input : ControlInput) : Command ControlReceipt := write do
  let db ← database
  match db.controlRow input.channelId input.senderSessionId input.requestId with
  | some prior => return ⟨⟨prior.cursor, false, []⟩, prior.payload, true⟩
  | none => do
    let uuid ← randomUUID
    let occurredAt ← now
    let event := Payload.controlCommitted ("control_" ++ uuid) input.channelId input.senderSessionId
      input.kind input.payload input.requestId occurredAt
    let receipt ← appendChange (some input.channelId) event
    return ⟨receipt, event, false⟩

def appendMessageDelivery (messageId : String) (statuses : RecipientStatuses) : Command Unit := write do
  let db ← database
  match db.messageRow messageId with
  | none => fail (.coded "unknownMessage")
  | some (row, _) => do
    let occurredAt ← now
    let _ ← appendChange row.channelId (.messageDelivery messageId statuses
      ((statuses.filter fun s => s.2 = .delivered).map Prod.fst) occurredAt)
    pure ()

end Wardroom.Storage
