import Wardroom.Storage.Messages

/-! # The schema migrations of a store and the backfill of reply metadata

Older stores kept the parent of a reply in the correlation alone. The backfill
reads every message in cursor order, settles its parent and its thread root, and
writes both back to the row. It works on the row list of the journal: the other
migration steps create and alter tables and leave the journal alone.
-/

namespace Wardroom.Storage
open Wardroom.Library Wardroom.Domain Prog

/-- `UPDATE changes SET payload=? WHERE cursor=?`, for the row of a message. -/
def Journal.setPayload (j : Journal) (cursor : Nat) (event : Json) : Journal where
  rows := j.rows.map fun c => if c.cursor = cursor then { c with payload := .messageSent event } else c
  ordered := by
    rw [List.pairwise_map]
    refine j.ordered.imp fun {a b} hab => ?_
    split_ifs <;> exact hab
  positive := by
    intro c hc
    obtain ⟨d, hd, rfl⟩ := List.mem_map.mp hc
    split_ifs <;> exact j.positive d hd

structure StoredMessage where
  cursor : Nat
  channelId : Option String
  event : Json
  id : String

/-- A plain error of the migration. -/
def migrationFailure (message : String) : Failure :=
  .runtime ("cannot migrate Rooms reply metadata: " ++ message)

def optionalReplyEventId (value : Option Json) (context : String) :
    Except Failure (Option String) :=
  match value with
  | none => .ok none
  | some .null => .ok none
  | some (.str s) =>
    if Text.blank s ∨ 512 < s.utf8ByteSize then
      .error (migrationFailure ("invalid reply event id on " ++ context))
    else .ok (some s)
  | some _ => .error (migrationFailure ("invalid reply event id on " ++ context))

def readMessage (row : Change) (payload : Json) : Except Failure StoredMessage :=
  if payload.isRecord = false then
    .error (migrationFailure ("message at cursor " ++ toString row.cursor ++
      " has an invalid payload"))
  else
    match payload.member "id" with
    | some (.str id) =>
      if Text.blank id then
        .error (migrationFailure ("message at cursor " ++ toString row.cursor ++ " has no event id"))
      else .ok ⟨row.cursor, row.channelId, payload, id⟩
    | _ => .error (migrationFailure ("message at cursor " ++ toString row.cursor ++
        " has no event id"))

def readMessages : List (Change × Json) → Except Failure (List StoredMessage)
  | [] => .ok []
  | (row, payload) :: rows => do
    let message ← readMessage row payload
    let messages ← readMessages rows
    return message :: messages

/-- The map from event id to message holds its entries in the order they were set. -/
def messageById? (byId : List StoredMessage) (id : String) : Option StoredMessage :=
  byId.find? fun m => m.id = id

def indexById (byId : List StoredMessage) : List StoredMessage →
    Except Failure (List StoredMessage)
  | [] => .ok byId
  | m :: ms =>
    if (messageById? byId m.id).isSome then
      .error (migrationFailure ("duplicate event id " ++ m.id))
    else indexById (byId ++ [m]) ms

/-- The thread roots settled so far, by event id. -/
abbrev ResolvedRoots := List (String × Option String)

/-- The parent a message names; the canonical field wins over the correlation. -/
def backfilledReply (m : StoredMessage) : Except Failure (Option String) := do
  let legacyReply ← optionalReplyEventId
    ((m.event.member "correlation").bind fun c => c.member "replyToEventId")
    ("event " ++ m.id ++ " correlation")
  if Json.nullish (m.event.member "replyToEventId") then .ok legacyReply
  else optionalReplyEventId (m.event.member "replyToEventId") ("event " ++ m.id)

/-- The thread root: that of the parent, or the parent itself. -/
def backfilledRoot (byId : List StoredMessage) (resolved : ResolvedRoots) (m : StoredMessage) :
    Option String → Except Failure (Option String)
  | none => .ok none
  | some canonicalReply =>
    match messageById? byId canonicalReply with
    | none => .error (migrationFailure
        ("event " ++ m.id ++ " references missing parent " ++ canonicalReply))
    | some parent =>
      if parent.channelId ≠ m.channelId then
        .error (migrationFailure
          ("event " ++ m.id ++ " references cross-channel parent " ++ canonicalReply))
      else
        match resolved.lookup parent.id with
        | none => .error (migrationFailure
            ("parent " ++ canonicalReply ++ " does not precede child " ++ m.id))
        | some threadRootEventId => .ok (some (threadRootEventId.getD parent.id))

/-- The event with its reply fields; a reply also mirrors its parent in the correlation, which is
made a record if it was none. -/
def migratedEvent (event : Json) (canonicalReply threadRootEventId : Option String) : Json :=
  let migrated := (event.set "replyToEventId" (Json.ofOption canonicalReply)).set
    "threadRootEventId" (Json.ofOption threadRootEventId)
  match canonicalReply with
  | none => migrated
  | some reply => migrated.set "correlation"
      (((event.member "correlation").getD (.obj [])).set "replyToEventId" (.str reply))

def backfillMessages (byId : List StoredMessage) : ResolvedRoots → List StoredMessage →
    Prog Journal Failure Unit
  | _, [] => pure ()
  | resolved, m :: ms => do
    let canonicalReply ← ofExcept (backfilledReply m)
    let threadRootEventId ← ofExcept (backfilledRoot byId resolved m canonicalReply)
    modify fun j => j.setPayload m.cursor (migratedEvent m.event canonicalReply threadRootEventId)
    backfillMessages byId ((m.id, threadRootEventId) :: resolved) ms

def backfillReplyMetadata : Prog Journal Failure Unit := do
  let changes ← read
  let messages ← ofExcept (readMessages changes.sent)
  let byId ← ofExcept (indexById [] messages)
  backfillMessages byId [] messages

/-- The part of a store that migrations of the journal touch. -/
structure VersionedStore where
  userVersion : Nat
  changes : Journal

def supportedSchemaVersion : Nat := 27

def replyMetadataVersion : Nat := 20

/-- The effect of a step on the journal. -/
def applyStep (version : Nat) : Prog VersionedStore Failure Unit := fun s =>
  if version = replyMetadataVersion then
    let outcome := backfillReplyMetadata s.changes
    (outcome.1, { s with changes := outcome.2 })
  else (.ok (), s)

def applySteps (current : Nat) : List Nat → Prog VersionedStore Failure Unit
  | [] => pure ()
  | version :: versions => do
    if current < version then do
      applyStep version
      modify fun s => { s with userVersion := version }
    applySteps current versions

def migrate : Prog VersionedStore Failure Unit := do
  let store ← read
  let current := store.userVersion
  if supportedSchemaVersion < current then
    fail (.rooms "roomsSchemaVersionMismatch" ("unsupported Rooms schema version " ++
      toString current ++ "; this Rooms build supports schema " ++ toString supportedSchemaVersion))
  else if current = supportedSchemaVersion then pure ()
  else
    atomically id (fun before _ => before)
      (applySteps current (List.range' 1 supportedSchemaVersion))

end Wardroom.Storage
