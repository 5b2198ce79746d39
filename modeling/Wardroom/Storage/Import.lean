import Wardroom.Library.IsoDate
import Wardroom.Storage.Messages

/-! # The import of a legacy journal

`begin` opens one transaction for the whole import and remembers which rows
exist; `append` applies an event and journals it; an event that throws rolls
everything back. Listeners hear nothing of an import.
-/

namespace Wardroom.Storage
open Wardroom.Library Wardroom.Domain Prog

def maxSafeInteger : Int := 9007199254740991

def iso : LegacyTime → Except Failure String
  | .text s => .ok s
  | .millis n =>
    match IsoDate.ofMillis n with
    | some s => .ok s
    | none => .error (.runtime "Invalid time value")

/-- The same conversion on a member of a message record; a value that is no number is kept. -/
def isoMember : Option Json → Except Failure (Option Json)
  | some (.num text) =>
    match (IsoDate.millisOfText text).bind IsoDate.ofMillis with
    | some s => .ok (some (.str s))
    | none => .error (.runtime "Invalid time value")
  | value => .ok value

def isoOptional : Option LegacyTime → Except Failure (Option String)
  | none => .ok none
  | some t => (iso t).map some

def itemsOr (value : Option Json) : Json := if Json.nullish value then .arr [] else value.getD .null

def importedTarget (value : Json) : Option Json :=
  let target := value.member "target"
  match target.bind fun t => t.member "kind" with
  | some (.str "directToSession") =>
    some (Json.record [("kind", some (.str "direct")),
      ("sessionId", target.bind fun t => t.member "sessionID")])
  | some (.str "broadcastToCurrentChannelMembers") =>
    some (Json.record [("kind", some (.str "broadcast")),
      ("sessionIds", some (itemsOr (value.member "deliveredRecipientSessionIDs")))])
  | _ => Json.coalesce target (some .null)

def importedChannel (value : Json) : Except Failure (Option String) :=
  match value.member "channelID" with
  | none => .ok none
  | some .null => .ok none
  | some (.str s) => .ok (some s)
  | some _ => .error (.sqlite "Provided value cannot be bound to SQLite parameter")

/-- The stored event of an imported message, with the reply fields spread over it. -/
def importedEvent (value : Json) (channelId : Option String) (occurredAt : Option Json)
    (reply : ReplyMetadata) : Json :=
  Json.record [
    ("id", value.member "id"),
    ("channelId", some (Json.ofOption channelId)),
    ("senderSessionId", value.member "senderSessionID"),
    ("body", value.member "body"),
    ("target", importedTarget value),
    ("deliveredRecipientSessionIds", some (itemsOr (value.member "deliveredRecipientSessionIDs"))),
    ("correlation", reply.correlation),
    ("occurredAt", occurredAt),
    ("replyToEventId", some (Json.ofOption reply.replyToEventId)),
    ("threadRootEventId", some (Json.ofOption reply.threadRootEventId))]

/-- `value.correlation ?? undefined`. -/
def importedCorrelation (value : Json) : Option Json :=
  if Json.nullish (value.member "correlation") then none else value.member "correlation"

/-- The key of the set of memberships that existed before the import. -/
def membershipText (channelId sessionId joinedAt : String) : String :=
  channelId ++ ":" ++ sessionId ++ ":" ++ joinedAt

def rollbackImport (w : World) : World :=
  match w.importSession with
  | none => w
  | some session => { w with db := session.before, importSession := none }

def importRollback : Command Unit := modify rollbackImport

def importBegin (sourceDigest : String) (sourceVersion : Int) : Command Unit := do
  throwIf (sourceDigest = "" ∨ sourceVersion < 1 ∨ maxSafeInteger < sourceVersion)
    (.coded "invalidImportSource")
  let w ← read
  throwIf (w.db.importBatches.has sourceDigest = true) (.coded "duplicateImport")
  throwIf (w.importSession.isSome ∨ 0 < w.transactionDepth)
    (.sqlite "cannot start a transaction within a transaction")
  let startedAt ← now
  let batches ← constrained
    (w.db.importBatches.insert? ⟨sourceDigest, sourceVersion, startedAt, none⟩)
    "UNIQUE constraint failed: import_batches.source_digest"
  modify fun w => { w with
    importSession := some ⟨w.db, w.db.channels.rows.map Channel.id, w.db.sessions.rows.map Session.id,
      w.db.memberships.rows.map fun m => membershipText m.channelId m.sessionId m.joinedAt⟩
    db := { w.db with importBatches := batches } }

def appendImportedChange (channelId : Option String) (payload : Payload)
    (event : CanonicalImportEvent) : Command Unit := do
  let db ← database
  references (db.channelReference channelId)
  modifyDatabase fun db => db.record channelId payload event.occurredAt (some event.sourceOrdinal)

def insertImportedMembership (value : LegacyMembership) : Command Unit := do
  let joinedAt ← ofExcept (iso value.joinedAt)
  let db ← database
  match db.memberships.insert? ⟨value.channelID, value.sessionID, joinedAt, none, none, value.role⟩ with
  | none => pure ()
  | some memberships => do
    references (db.channels.has value.channelID && db.sessions.has value.sessionID)
    modifyDatabase fun db => { db with memberships := memberships }

def endImportedMembership (session : ImportSession) (value : LegacyMembershipEnd) : Command Unit := do
  let endedAt ← ofExcept (iso value.endedAt)
  modifyDatabase fun db => { db with
    memberships := db.memberships.update
      (fun m => m.channelId = value.channelID && m.sessionId = value.sessionID && m.active &&
        !session.existingMemberships.contains (membershipText m.channelId m.sessionId m.joinedAt))
      (fun m => { m with leftAt := some endedAt }) (Membership.key_leftAt endedAt) }

/-- `INSERT OR IGNORE` of a channel: a present id is skipped before its references are checked. -/
def importChannel (value : LegacyChannel) : Command Unit := do
  let registeredAt ← ofExcept (iso value.registeredAt)
  let closedAt ← ofExcept (isoOptional value.closedAt)
  let db ← database
  match db.channels.insert? ⟨value.id, none, registeredAt, value.ownerOperatorSessionID,
      value.lifecycleState.getD .active, closedAt, .all, .open⟩ with
  | none => pure ()
  | some channels => do
    references (value.ownerOperatorSessionID.all fun owner => db.sessions.has owner)
    modifyDatabase fun db => { db with channels := channels }

def importSessionRow (value : LegacySession) : Command Unit := do
  let registeredAt ← ofExcept (iso value.registeredAt)
  let endedAt ← ofExcept (isoOptional value.endedAt)
  let db ← database
  match db.sessions.insert? ⟨value.id, registeredAt, endedAt, value.displayName, value.role,
      none, none, .runtime, none, none⟩ with
  | none => pure ()
  | some sessions => modifyDatabase fun db => { db with sessions := sessions }

def importMessage (value : Json) (event : CanonicalImportEvent) : Command Unit := do
  let channelId ← ofExcept (importedChannel value)
  let occurredAt ← ofExcept (isoMember (value.member "occurredAt"))
  let db ← database
  let reply ← ofExcept (resolveReplyMetadata db channelId
    (Json.coalesce (value.member "replyToEventId") (value.member "replyToEventID"))
    (importedCorrelation value))
  appendImportedChange channelId (.messageSent (importedEvent value channelId occurredAt reply)) event

/-- What an event does to the materialised tables; a message only journals itself. -/
def importEffect (session : ImportSession) (event : CanonicalImportEvent) : Command Unit :=
  match event.record with
  | .channel value => importChannel value
  | .session value => importSessionRow value
  | .sessionRoleAssignment sessionID role =>
    if session.existingSessions.contains sessionID then pure ()
    else modifyDatabase fun db => { db with
      sessions := db.sessions.update (fun s => s.id = sessionID)
        (fun s => { s with role := some role }) (Session.id_role role) }
  | .channelOwnerAssignment channelID owner =>
    if session.existingChannels.contains channelID then pure ()
    else do
      let db ← database
      references (!db.channels.has channelID || db.sessions.has owner)
      modifyDatabase fun db => { db with
        channels := db.channels.update (fun c => c.id = channelID)
          (fun c => { c with ownerOperatorSessionId := some owner }) fun _ => rfl }
  | .membership value => insertImportedMembership value
  | .membershipEnded value => endImportedMembership session value
  | .sessionEnded sessionID endedAt => do
    let ended ← ofExcept (iso endedAt)
    if session.existingSessions.contains sessionID then pure ()
    else modifyDatabase fun db => { db with
      sessions := db.sessions.update (fun s => s.id = sessionID)
        (fun s => { s with endedAt := some ended }) (Session.id_endedAt ended)
      memberships := db.memberships.update (fun m => m.sessionId = sessionID ∧ m.active)
        (fun m => { m with sessionEndedAt := some ended }) (Membership.key_sessionEndedAt ended) }
  | .message value => importMessage value event
  | .workerJoin value => insertImportedMembership value
  | .workerTerminal value => endImportedMembership session value
  | .channelClosed id closedAt =>
    if session.existingChannels.contains id then pure ()
    else do
      let closed ← ofExcept (iso (closedAt.getD (.text event.occurredAt)))
      modifyDatabase fun db => { db with
        channels := db.channels.update (fun c => c.id = id)
          (fun c => { c with lifecycleState := .closed, closedAt := some closed }) fun _ => rfl }
  | .workerAssignment _ => pure ()
  | .workerReplacement _ => pure ()
  | .workUnit _ => pure ()
  | .unsupported kind =>
    fail (.rooms "unsupportedImportEvent" ("unsupported legacy import event " ++ kind))

def ImportRecord.isMessage : ImportRecord → Bool
  | .message _ => true
  | _ => false

def importAppend (event : CanonicalImportEvent) : Command Unit :=
  onError (do
    let w ← read
    match w.importSession with
    | none => fail (.coded "importNotStarted")
    | some session => do
      throwIf (event.sourceOrdinal < 0 ∨ maxSafeInteger < event.sourceOrdinal)
        (.coded "invalidSourceOrdinal")
      importEffect session event
      if ImportRecord.isMessage event.record then pure ()
      else appendImportedChange event.channelId (.legacy event.record) event) rollbackImport

def importCommit : Command Unit := do
  let w ← read
  throwIf (w.importSession.isNone = true) (.coded "importNotStarted")
  let committedAt ← now
  modifyDatabase fun db => { db with
    importBatches := db.importBatches.update (fun b => b.committedAt = none)
      (fun b => { b with committedAt := some committedAt }) fun _ => rfl }
  modify fun w => { w with importSession := none }

end Wardroom.Storage
