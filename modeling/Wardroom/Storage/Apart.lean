import Wardroom.Library.Trace
import Wardroom.Storage.Frames

/-! # What the roster and the messages do not touch

A part of the database that only controls and admissions can change is the
same, and restored as the same, after every other operation.
-/

namespace Wardroom.Storage
open Wardroom.Library Wardroom.Domain Prog

def controlPayload : Payload → Bool
  | .controlCommitted .. => true
  | _ => false

/-- A part of the database beside its tables and beside every row that is no control. -/
structure Apart {β : Type} (part : Database → β) : Prop where
  tables : ∀ (db : Database) sessions channels memberships messageThreads importBatches,
    part { db with
      sessions := sessions
      channels := channels
      memberships := memberships
      messageThreads := messageThreads
      importBatches := importBatches } = part db
  rows : ∀ payload, controlPayload payload = false → Unmoved part payload

section Apart

variable {β : Type} {part : Database → β} {db db' : Database} {b : β}

theorem Apart.record (h : Apart part) {payload : Payload} (hpayload : controlPayload payload = false)
    (channelId : Option String) (at' : String) (ordinal : Option Int) :
    part (db.record channelId payload at' ordinal) = part db := h.rows payload hpayload db channelId at' ordinal

theorem Apart.joined (h : Apart part) {channelId sessionId : String} {role : Option SessionRole}
    (hjoined : Joined channelId sessionId role db db') : part db' = part db := by
  cases hjoined with
  | already => rfl
  | joined => exact (h.record rfl _ _ _).trans (h.tables db _ _ _ _ _)

theorem Apart.sessionInserted (h : Apart part) {input : SessionInput} (hinserted : SessionInserted input db db') :
    part db' = part db := by
  cases hinserted with
  | mk => exact (h.record rfl _ _ _).trans (h.tables db _ _ _ _ _)

theorem Apart.touched (h : Apart part) {sessionId : String} (htouched : Touched sessionId db db') :
    part db' = part db := by
  induction htouched with
  | same => rfl
  | columns _ _ _ _ _ ih => exact (h.tables _ _ _ _ _ _).trans ih
  | delivery _ _ _ ih => exact (h.record rfl _ _ _).trans ih

theorem Apart.registered (h : Apart part) {channelId sessionId : String} {role : SessionRole}
    {externalId : Option String} (hregistered : Registered channelId sessionId role externalId db db') :
    part db' = part db := by
  cases hregistered with
  | inserted _ _ _ hinserted hjoined => exact (h.joined hjoined).trans (h.sessionInserted hinserted)
  | found _ _ htouched hjoined => exact (h.joined hjoined).trans (h.touched htouched)

theorem Apart.changeRole (h : Apart part) (channelId sessionId : String) (role : SessionRole) :
    part (db.changeRole channelId sessionId role) = part db := by
  have hassign (db : Database) (id : String) (role : SessionRole) : part (db.assignRole id role) = part db :=
    h.tables db _ _ _ _ _
  have hdemote (ids : List String) (db : Database) :
      part (ids.foldl (fun db id => db.assignRole id .worker) db) = part db := by
    induction ids generalizing db with
    | nil => rfl
    | cons id ids ih => exact (ih _).trans (hassign db id .worker)
  exact (hassign _ sessionId role).trans (hdemote _ db)

/-- The effect of an operation on the roster, the threads and the messages. -/
theorem Apart.effect (h : Apart part) {w : World} {op : StoreOp} (hbeside : beside op = false)
    (himport : ∀ event, op ≠ .importAppend event) (heffect : StoreEffect op w db') : part db' = part w.db := by
  cases op with
  | insertSession input => exact h.sessionInserted heffect
  | registerSession channelId sessionId role externalId deliveryMode provenance => exact h.registered heffect
  | insertChannel id owner =>
    cases heffect with
    | mk => exact (h.record rfl _ _ _).trans (h.tables _ _ _ _ _ _)
  | insertMembership channelId sessionId role => exact h.joined heffect
  | leaveMembership channelId sessionId =>
    cases heffect with
    | mk => exact (h.record rfl _ _ _).trans (h.tables _ _ _ _ _ _)
  | markSessionEnded sessionId =>
    cases heffect with
    | mk => exact (h.record rfl _ _ _).trans (h.tables _ _ _ _ _ _)
  | reactivateOperatorSession sessionId =>
    cases heffect with
    | idle => exact h.tables _ _ _ _ _ _
    | mk => exact (h.record rfl _ _ _).trans (h.tables _ _ _ _ _ _)
  | closeChannel channelId =>
    cases heffect with
    | already => rfl
    | mk => exact (h.record rfl _ _ _).trans (h.tables _ _ _ _ _ _)
  | reopenChannel channelId =>
    cases heffect with
    | already => rfl
    | mk => exact (h.record rfl _ _ _).trans (h.tables _ _ _ _ _ _)
  | updateSessionRole channelId sessionId role =>
    cases heffect with
    | mk => exact (h.record rfl _ _ _).trans (h.changeRole _ _ _)
  | commitMessage input =>
    obtain ⟨receipt, hcommitted⟩ := heffect
    cases hcommitted with
    | duplicate => rfl
    | fresh => exact h.record rfl _ _ _
  | resolveThread root actor channelId =>
    cases heffect with
    | same => rfl
    | resolved => exact (h.record rfl _ _ _).trans (h.tables _ _ _ _ _ _)
    | reopened => exact (h.record rfl _ _ _).trans (h.tables _ _ _ _ _ _)
  | reopenThread root actor channelId =>
    cases heffect with
    | same => rfl
    | resolved => exact (h.record rfl _ _ _).trans (h.tables _ _ _ _ _ _)
    | reopened => exact (h.record rfl _ _ _).trans (h.tables _ _ _ _ _ _)
  | importBegin digest version => exact heffect.elim
  | importAppend event => exact absurd rfl (himport event)
  | importCommit => exact heffect.elim
  | importRollback => exact heffect.elim
  | _ => cases hbeside

theorem apart_closed (h : Apart part) (session : ImportSession) : ImportClosed session fun db => part db = b where
  insertChannel _ hI := (h.tables _ _ _ _ _ _).trans hI
  updateChannel _ _ hI := (h.tables _ _ _ _ _ _).trans hI
  insertSession _ hI := (h.tables _ _ _ _ _ _).trans hI
  updateSession _ _ hI := (h.tables _ _ _ _ _ _).trans hI
  insertMembership _ _ hI := (h.tables _ _ _ _ _ _).trans hI
  endMembership _ _ hI := (h.tables _ _ _ _ _ _).trans hI
  endSession _ _ hI := (h.tables _ _ _ _ _ _).trans hI

/-- The operations that may change such a part. -/
def touches : StoreOp → Bool
  | .grantFederatedChannelAdmission .. => true
  | .revokeFederatedChannelAdmission .. => true
  | .commitControl _ => true
  | _ => false

theorem Apart.beside (h : Apart part) {op : StoreOp} (hop : touches op = false) (hbeside : beside op = true)
    (w : World) : part (storeStep w op).db = part w.db := by
  have hchannels (db : Database) (channels : Table Channel.id) : part { db with channels := channels } = part db :=
    h.tables db _ _ _ _ _
  cases op with
  | updateChannelLabel channelId label =>
    exact updateChannelColumn_leaves _ _ _ _ channelId label hchannels (h.rows _ rfl) w
  | updateChannelBroadcastPolicy channelId policy =>
    exact updateChannelColumn_leaves _ _ _ _ channelId policy hchannels (h.rows _ rfl) w
  | updateChannelCoordinationPolicy channelId policy =>
    exact updateChannelColumn_leaves _ _ _ _ channelId policy hchannels (h.rows _ rfl) w
  | setSessionProviderThreadId id providerThreadId =>
    exact setSessionProviderThreadId_leaves id providerThreadId (fun db => h.tables db _ _ _ _ _) w
  | recordRuntimeLifecycle channelId sessionId runtimeId generation state endedAt =>
    exact recordRuntimeLifecycle_leaves channelId sessionId runtimeId generation state endedAt
      (fun _ => h.rows _ rfl) w
  | appendMessageDelivery messageId statuses =>
    exact appendMessageDelivery_leaves messageId statuses (fun _ _ => h.rows _ rfl) w
  | grantFederatedChannelAdmission => cases hop
  | revokeFederatedChannelAdmission => cases hop
  | commitControl => cases hop
  | _ => cases hbeside

theorem Apart.storeStep (h : Apart part) {w : World} (hrest : w.transactionDepth = 0) {op : StoreOp}
    (hop : touches op = false) (hI : Durable (fun db => part db = b) w) :
    Durable (fun db => part db = b) (storeStep w op) := by
  by_cases happend : ∃ event, op = .importAppend event
  · obtain ⟨event, rfl⟩ := happend
    exact hI.importAppend (I := fun db => part db = b) (fun _ hdb _ _ _ _ => (h.record rfl _ _ _).trans hdb)
      (fun _ hdb _ _ _ _ => (h.record rfl _ _ _).trans hdb) (apart_closed h) event
  have himport : ∀ event, op ≠ .importAppend event := fun event he => happend ⟨event, he⟩
  refine (storeStep_transition hrest op).reached.durable (fun db' hdb heffect => ?_)
    (fun _ _ hdb => (h.tables _ _ _ _ _ _).trans hdb) hI
  obtain ⟨heffect, hdb'⟩ := heffect
  cases hbeside : Storage.beside op with
  | false => exact (h.effect hbeside himport heffect).trans hdb
  | true => exact hdb' ▸ (h.beside hop hbeside w).trans hdb

end Apart

end Wardroom.Storage
