import Wardroom.Storage.Messages

/-! # Snapshots, replay and the readers of messages

Five readers report a message together with its delivery state. Each computes
that state in its own way.
-/

namespace Wardroom.Storage
open Wardroom.Library Wardroom.Domain

/-- Key equality of a map: arrays and objects are never the same key. -/
def sameValue : Option Json → Option Json → Bool
  | some (.str a), some (.str b) => a = b
  | some (.num a), some (.num b) => a = b
  | some (.bool a), some (.bool b) => a = b
  | some .null, some .null => true
  | none, none => true
  | _, _ => false

def putEvent (event : Json) : List Json → List Json
  | [] => [event]
  | e :: es =>
    if sameValue (e.member "id") (event.member "id") then event :: es else e :: putEvent event es

/-- Overwrite the two delivery fields of an event. -/
def deliver (statuses : RecipientStatuses) (delivered : List String) (event : Json) : Json :=
  (event.set "recipientStatuses" (statusesToJson statuses)).set "deliveredRecipientSessionIds"
    (.arr (delivered.map .str))

def hasId (id : String) (event : Json) : Bool := sameValue (event.member "id") (some (.str id))

def foldMessageEvent (messages : List Json) (row : Change) : List Json :=
  match row.payload with
  | .messageSent event => putEvent event messages
  | .messageDelivery id statuses delivered _ =>
    messages.map fun e => if hasId id e then deliver statuses delivered e else e
  | _ => messages

def foldMessageEvents (rows : List Change) : List Json := rows.foldl foldMessageEvent []

structure Snapshot where
  cursor : Nat
  channel : Channel
  sessions : List Session
  memberships : List Membership
  events : List Json

/-- Kind `message.%`. -/
def Change.isMessage (c : Change) : Bool :=
  match c.payload with
  | .messageSent _ => true
  | .messageDelivery _ _ _ _ => true
  | _ => false

/-- A cursor is bound as an integer of 64 bits; the driver refuses a larger one. -/
def bindCursor (n : Nat) : Except Failure Unit :=
  if n < 2 ^ 63 then .ok () else .error (.sqlite "BigInt value is too large to bind")

theorem bindCursor_of_lt {n : Nat} (h : n < 2 ^ 63) : bindCursor n = .ok () := if_pos h

theorem bindCursor_map {α : Type} {n : Nat} (h : n < 2 ^ 63) (rows : α) :
    ((bindCursor n).map fun _ => rows) = .ok rows := by
  rw [bindCursor_of_lt h]
  rfl

theorem bindCursor_map_ok {α : Type} {n : Nat} {rows found : α}
    (h : ((bindCursor n).map fun _ => rows) = .ok found) : n < 2 ^ 63 ∧ found = rows := by
  unfold bindCursor at h
  split at h
  · exact ⟨‹_›, (Except.ok.inj h).symm⟩
  · cases h

theorem bindCursor_all {α : Type} {requests : List (α × Nat)} (h : ∀ q ∈ requests, q.2 < 2 ^ 63) :
    (forM requests fun q => bindCursor q.2) = .ok () := by
  induction requests with
  | nil => rfl
  | cons q requests ih =>
    rw [List.forM_cons, bindCursor_of_lt (h q List.mem_cons_self)]
    exact ih fun r hr => h r (List.mem_cons_of_mem _ hr)

namespace Database

def snapshot (db : Database) (channelId : String) : Except Failure Snapshot :=
  match db.currentChannel channelId with
  | none => .error (.coded "channelNotFound")
  | some channel =>
    let memberships := db.activeMemberships channelId
    .ok { cursor := db.changes.latestCursor
          channel := channel
          sessions := memberships.filterMap fun m => db.currentSession m.sessionId
          memberships := memberships
          events := foldMessageEvents (db.changes.rows.filter fun c =>
            c.channelId = some channelId && Change.isMessage c) }

/-- `channel_id = ? OR channel_id IS NULL`, or every row when no channel is named. -/
def inScope (channelId : Option String) (c : Change) : Bool :=
  !Text.given channelId || c.channelId = channelId || c.channelId = none

def changesAfter (db : Database) (cursor : Nat) (channelId : Option String) : List Change :=
  db.changes.rows.filter fun c => cursor < c.cursor && inScope channelId c

def replay (db : Database) (afterCursor : String) (channelId : Option String) :
    Except Failure (List Change) :=
  match CursorCodec.decode afterCursor with
  | none => .error (.coded "invalidCursor")
  | some n => (bindCursor n).map fun _ => db.changesAfter n channelId

theorem replay_ok {db : Database} {afterCursor : String} {channelId : Option String} {changes : List Change}
    (h : db.replay afterCursor channelId = .ok changes) :
    ∃ n, CursorCodec.decode afterCursor = some n ∧ n < 2 ^ 63 ∧ changes = db.changesAfter n channelId := by
  unfold replay at h
  cases hn : CursorCodec.decode afterCursor with
  | none =>
    rw [hn] at h
    cases h
  | some n =>
    rw [hn] at h
    obtain ⟨hlt, hchanges⟩ := bindCursor_map_ok h
    exact ⟨n, rfl, hlt, hchanges⟩

theorem replay_of_lt (db : Database) {afterCursor : String} {n : Nat} (channelId : Option String)
    (hn : CursorCodec.decode afterCursor = some n) (hlt : n < 2 ^ 63) :
    db.replay afterCursor channelId = .ok (db.changesAfter n channelId) := by
  rw [replay, hn]
  exact bindCursor_map hlt _

/-- Rows of the channel whose payload has the id or the message id. Rows of other kinds that
match are left out: the fold over the history ignores them. -/
def messageHistory (db : Database) (channelId id : String) : List Change :=
  db.changes.rows.filter fun c => c.channelId = some channelId &&
    match c.payload with
    | .messageSent event => (event.member "id").bind Json.extractText = some id
    | .messageDelivery messageId _ _ _ => messageId = id
    | _ => false

def messageByDeduplicationKey (db : Database) (key channelId : String) : Option (Json × Nat) :=
  match db.deduplicationRowIn channelId (.str key) with
  | none => none
  | some (row, stored) =>
    match stored.member "id" with
    | some (.str id) =>
      if id = "" then none
      else (foldMessageEvents (db.messageHistory channelId id)).head?.map fun e => (e, row.cursor)
    | _ => none

structure ListedMessage where
  cursor : Nat
  channel : Option String
  message : Json
  occurredAt : String

def directTo (sessionId : String) (event : Json) : Bool :=
  let target := event.member "target"
  (target.bind fun t => t.member "kind").bind Json.extractText = some "direct" &&
    (target.bind fun t => t.member "sessionId").bind Json.extractText = some sessionId

/-- The first delivery change of a message, from the scan `deliveries.find(…)`. -/
def firstDelivery (db : Database) (event : Json) : Option (RecipientStatuses × List String) :=
  db.changes.rows.findSome? fun c =>
    match c.payload with
    | .messageDelivery id statuses delivered _ =>
      if hasId id event then some (statuses, delivered) else none
    | _ => none

def listMessages (db : Database) (sessionId afterCursor : String) (channelId : Option String) :
    Except Failure (List ListedMessage) :=
  match CursorCodec.decode afterCursor with
  | none => .error (.coded "invalidCursor")
  | some n =>
    (bindCursor n).map fun _ =>
      (db.changes.sent.filter fun r => n < r.1.cursor && directTo sessionId r.2 &&
        (!Text.given channelId || r.1.channelId = channelId)).map fun r =>
      { cursor := r.1.cursor
        channel := r.1.channelId
        message := match db.firstDelivery r.2 with
          | none => r.2
          | some (statuses, delivered) => deliver statuses delivered r.2
        occurredAt := r.1.occurredAt }

/-- The handler's `getRecipients`, which replays the journal and reads the stored event. -/
def getRecipients (db : Database) (eventId : String) : Json :=
  match (db.changesAfter 0 none).find? fun c => (Change.sent? c).any fun e => hasId eventId e with
  | none => .arr []
  | some row => itemsOf ((Change.sent? row).bind fun e => e.member "deliveredRecipientSessionIds")
where
  itemsOf (value : Option Json) : Json := if Json.nullish value then .arr [] else value.getD .null

/-- The handler's `getEvents` for one exact event id. -/
def getEvent (db : Database) (eventId : String) (channelId : Option String) : Except Failure Json :=
  (messageById db eventId channelId).map Prod.snd

end Database

/-- A snapshot is read in a transaction of its own, which the connection refuses inside another. -/
def snapshot (channelId : String) : Command Snapshot := fun w =>
  if 0 < w.transactionDepth ∨ w.importSession.isSome then
    (.error (.sqlite "cannot start a transaction within a transaction"), w)
  else (w.db.snapshot channelId, w)

end Wardroom.Storage
