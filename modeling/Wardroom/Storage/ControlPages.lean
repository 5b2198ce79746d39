import Wardroom.Storage.MessagePages
import Wardroom.Storage.Apart

/-! # The readers of controls

`getControls` scans one channel. `channelControlPages` serves many channels with
one statement, whose joined rows are folded into a page for each channel.
-/

namespace Wardroom.Storage
open Wardroom.Library Wardroom.Domain

structure ControlPage where
  events : List Payload
  cursor : Nat
  hasMore : Bool

structure ControlRequest where
  channelId : String
  afterCursor : Option String

/-- The two records of an answer, by channel id. -/
structure ControlPages where
  controls : String → Option ControlPage
  errors : String → Option String

def ControlPages.none : ControlPages := ⟨fun _ => Option.none, fun _ => Option.none⟩

/-- The cursor of the first request that names a channel stands. -/
def uniqueRequests (requests : List ControlRequest) : List (String × String) :=
  requests.foldl (fun unique request =>
    let channelId := Text.trim request.channelId
    if channelId ≠ "" ∧ ∀ u ∈ unique, u.1 ≠ channelId then
      unique ++ [(channelId, request.afterCursor.getD "0")]
    else unique) []

/-- The requests whose cursor is one. -/
def validRequests (unique : List (String × String)) : List (String × Nat) :=
  unique.filterMap fun u => (CursorCodec.decode u.2).map fun n => (u.1, n)

/-- `LEFT JOIN`: one empty row where there is none. -/
def outer {α : Type} (rows : List α) : List (Option α) := if rows.isEmpty then [none] else rows.map some

structure ControlRow where
  channelId : String
  existing : Bool
  member : Option Membership
  control : Option Change
  eventCount : Nat

namespace Database

def controlsAfter (db : Database) (channelId : String) (n : Nat) : List Change :=
  Paging.after Change.cursor
    (db.changes.rows.filter fun c => controlPayload c.payload && c.channelId = some channelId) n

/-- The rows of one request: its controls up to the limit, each with the reader's membership. -/
def controlRows (db : Database) (sessionId : String) (limit : Nat) (request : String × Nat) : List ControlRow :=
  let ranked := db.controlsAfter request.1 request.2
  (outer (ranked.take limit)).flatMap fun control =>
    (outer (db.activeRows request.1 sessionId)).map fun member =>
      ⟨request.1, db.channels.has request.1, member, control, ranked.length⟩

end Database

/-- What a row adds to the page of its channel. -/
def foldControlRow (limit : Nat) (pages : ControlPages) (row : ControlRow) : ControlPages :=
  if row.existing = false then
    { controls := Function.update pages.controls row.channelId none
      errors := Function.update pages.errors row.channelId (some "channelNotFound") }
  else
    match row.member, row.control with
    | none, _ =>
      { controls := Function.update pages.controls row.channelId none
        errors := Function.update pages.errors row.channelId (some "controlReaderNotMember") }
    | some _, none => pages
    | some _, some control =>
      let prior := ((pages.controls row.channelId).map ControlPage.events).getD []
      { pages with
        controls := Function.update pages.controls row.channelId
          (some ⟨prior ++ [control.payload], control.cursor, limit < row.eventCount⟩) }

/-- The pages before any row was read. -/
def blankPages (unique : List (String × String)) : ControlPages where
  controls channelId := ((validRequests unique).find? fun q => q.1 = channelId).map fun q => ⟨[], q.2, false⟩
  errors channelId := (unique.find? fun u => u.1 = channelId).bind fun u =>
    if (CursorCodec.decode u.2).isNone then some "invalidCursor" else none

namespace Database

def channelControlPages (db : Database) (requests : List ControlRequest) (sessionId : String) (limit : Int) :
    Except Failure ControlPages :=
  let unique := uniqueRequests requests
  if unique.isEmpty then .ok .none
  else if 100 < unique.length then
    .error (.rooms "controlBatchTooLarge" "channel control batches are limited to 100 channels")
  else if Text.blank sessionId then .error (.rooms "invalidSession" "control reader session is required")
  else if limit < 1 ∨ 500 < limit then .error (.coded "invalidLimit")
  else do
    let valid := validRequests unique
    forM valid fun q => bindCursor q.2
    let rows := valid.flatMap (db.controlRows sessionId limit.toNat)
    return rows.foldl (foldControlRow limit.toNat) (blankPages unique)

/-- The handler's `getControls` for an authenticated session. -/
def getControls (db : Database) (sessionId channelId : String) (afterCursor : Option String) (limit : Option Int) :
    Except Failure ControlPage :=
  if db.isActiveMember channelId sessionId = false then
    .error (.runtime "control reader is not an active channel member")
  else do
    let after := afterCursor.getD "0"
    let limit := max 1 (min (limit.getD 100) 500)
    let changes ← db.replay after (some channelId)
    let changes := changes.filter fun c => controlPayload c.payload
    let selected := changes.take limit.toNat
    return { events := selected.map Change.payload
             cursor := Paging.reached Change.cursor selected ((CursorCodec.decode after).getD 0)
             hasMore := selected.length < changes.length }

end Database
end Wardroom.Storage
