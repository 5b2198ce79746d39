import Wardroom.Library.Paging
import Wardroom.Storage.Readers

/-! # The paged readers of messages

A page is the newest part of what the reader asked for. Its cursor is past
everything in the reader's scope, so that the next read does not meet the
unrelated changes again.
-/

namespace Wardroom.Storage
open Wardroom.Library Wardroom.Domain

/-- The values `json_each` enumerates at a path. -/
def eachValue : Option Json → List Json
  | none => []
  | some (.arr items) => items
  | some (.obj ms) => ms.map Prod.snd
  | some value => [value]

/-- `json_extract(…) = ?` for a session id. -/
def extracts (value : Option Json) (sessionId : String) : Bool :=
  value.bind Json.extractText = some sessionId

/-- The session sent the message, is its target or is among its recipients. -/
def takesPart (sessionId : String) (event : Json) : Bool :=
  let target := event.member "target"
  extracts (event.member "senderSessionId") sessionId ||
    extracts (target.bind fun t => t.member "sessionId") sessionId ||
    (eachValue (event.member "deliveredRecipientSessionIds")).any (fun v => extracts (some v) sessionId) ||
    (eachValue (target.bind fun t => t.member "sessionIds")).any fun v => extracts (some v) sessionId

structure PageOptions where
  afterCursor : Option String := none
  channelId : Option String := none
  sessionId : Option String := none
  limit : Option Int := none

structure EventPage where
  events : List Json
  cursor : Nat
  oldestCursor : Option Nat
  hasMore : Bool

def PageOptions.after (options : PageOptions) : Except Failure Nat :=
  match CursorCodec.decode (options.afterCursor.getD "0") with
  | none => .error (.coded "invalidCursor")
  | some n => .ok n

/-- A limit that is no whole number is refused like one out of range. -/
def PageOptions.checkedLimit (options : PageOptions) : Except Failure Nat :=
  let limit := options.limit.getD 50
  if limit < 1 ∨ 500 < limit then .error (.coded "invalidLimit") else .ok limit.toNat

/-- `latest LEFT JOIN relevant`. -/
def leftJoin {α : Type} (relevant : List α) (latest : Nat) : List (Option α × Nat) :=
  if relevant.isEmpty then [(none, latest)] else relevant.map fun r => (some r, latest)

namespace Database

/-- The page that two sub-queries make: the newest change in scope, and the newest relevant
messages, of which one more than the limit is asked for. -/
def newestPage (db : Database) (inScope : Change → Bool) (relevant : Json → Bool) (n limit : Nat) : EventPage :=
  let latest := Paging.latest Change.cursor (Paging.after Change.cursor (db.changes.rows.filter inScope) n) n
  let found := (db.changes.sent.filter fun r => n < r.1.cursor && inScope r.1 && relevant r.2).reverse
  let rows := leftJoin (found.take (limit + 1)) latest
  let relevant := rows.filterMap Prod.fst
  let hasMore := limit < relevant.length
  let page := (if hasMore then relevant.take limit else relevant).reverse
  { events := page.map Prod.snd
    cursor := (rows.head?.map Prod.snd).getD n
    oldestCursor := page.head?.map fun r => r.1.cursor
    hasMore := hasMore }

/-- Any channel when none is named. -/
def ofChannel (channelId : Option String) (c : Change) : Bool :=
  !Text.given channelId || c.channelId = channelId

def sessionMessages (db : Database) (sessionId : String) (options : PageOptions) : Except Failure EventPage := do
  let n ← options.after
  let limit ← options.checkedLimit
  bindCursor n
  return db.newestPage (ofChannel options.channelId) (takesPart sessionId) n limit

def channelMessages (db : Database) (channelId : String) (options : PageOptions) : Except Failure EventPage := do
  let n ← options.after
  let limit ← options.checkedLimit
  if Text.blank channelId then .error (.coded "invalidChannel")
  else do
    bindCursor n
    return db.newestPage (fun c => c.channelId = some channelId) (fun _ => true) n limit

/-- The messages of one channel alone, oldest first. -/
def replayChannelMessages (db : Database) (afterCursor channelId : String) (limit : Int) :
    Except Failure (List (Change × Json)) :=
  match CursorCodec.decode afterCursor with
  | none => .error (.coded "invalidCursor")
  | some n =>
    if Text.blank channelId then .error (.coded "invalidChannel")
    else if limit < 1 ∨ 100 < limit then .error (.coded "invalidLimit")
    else (bindCursor n).map fun _ =>
      (db.changes.sent.filter fun r => n < r.1.cursor && r.1.channelId = some channelId).take limit.toNat

/-- `channel_id IS ?` for the channel that a stored event names. -/
def eventChannelIs (channelId : Option Json) (c : Change) : Bool :=
  match channelId with
  | none => c.channelId = none
  | some .null => c.channelId = none
  | some (.str s) => c.channelId = some s
  | some _ => false

/-- The messages that answer one message, in the channel that message names. -/
def messageReplies (db : Database) (replyToEventId : String) (options : PageOptions) : Except Failure EventPage := do
  let n ← options.after
  let limit ← options.checkedLimit
  let (_, parent) ← messageById db replyToEventId options.channelId
  bindCursor n
  let answers (r : Change × Json) : Bool :=
    n < r.1.cursor && eventChannelIs (parent.member "channelId") r.1 &&
      extracts ((r.2.member "correlation").bind fun c => c.member "replyToEventId") replyToEventId &&
      (!Text.given options.sessionId || takesPart (options.sessionId.getD "") r.2)
  let rows := (db.changes.sent.filter answers).reverse.take (limit + 1)
  let hasMore := limit < rows.length
  let page := (if hasMore then rows.take limit else rows).reverse
  return { events := page.map Prod.snd
           cursor := db.changes.latestCursor
           oldestCursor := page.head?.map fun r => r.1.cursor
           hasMore := hasMore }

def messageCursor (db : Database) (eventId : String) (channelId : Option String) : Except Failure String :=
  let row := if Text.given channelId then db.messageRowIn (channelId.getD "") eventId else db.messageRow eventId
  match row with
  | none => .error (.coded "unknownMessage")
  | some (c, _) => .ok (toString c.cursor)

end Database

structure GetEventsRequest where
  afterCursor : Option String := none
  afterEventId : Option String := none
  eventId : Option String := none
  replyToEventId : Option String := none
  sessionId : Option String := none
  channelId : Option String := none
  limit : Option Int := none

namespace Database

/-- Without a session and a limit the whole channel is replayed. -/
def getEvents (db : Database) (request : GetEventsRequest) : Except Failure EventPage := do
  let afterCursor ← match request.afterCursor with
    | some cursor => .ok cursor
    | none =>
      if Text.given request.afterEventId then db.messageCursor (request.afterEventId.getD "") request.channelId
      else .ok "0"
  if Text.given request.eventId ∧ Text.given request.replyToEventId then
    .error (.rooms "invalidMessageQuery" "eventId and replyToEventId cannot be combined")
  else if Text.given request.eventId then do
    let (row, event) ← messageById db (request.eventId.getD "") request.channelId
    return ⟨[event], row.cursor, some row.cursor, false⟩
  else
    let options : PageOptions := ⟨some afterCursor, request.channelId, request.sessionId, request.limit⟩
    if Text.given request.replyToEventId then db.messageReplies (request.replyToEventId.getD "") options
    else if Text.given request.sessionId then db.sessionMessages (request.sessionId.getD "") options
    else if Text.given request.channelId ∧ request.limit.any (· ≠ 0) then
      db.channelMessages (request.channelId.getD "") options
    else do
      let changes ← db.replay afterCursor request.channelId
      return { events := changes.filterMap Change.sent?
               cursor := Paging.reached Change.cursor changes ((CursorCodec.decode afterCursor).getD 0)
               oldestCursor := none
               hasMore := false }

end Database
end Wardroom.Storage
