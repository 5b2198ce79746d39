import Wardroom.Storage.Import
import Wardroom.Storage.Effects

/-! # What an imported event does to the database

An accepted event changes at most one kind of row and adds one journal row; an
event that throws gives back the database the import began with.
-/

namespace Wardroom.Storage
open Wardroom.Library Wardroom.Domain Prog

/-- The memberships with the imported rows of one pair marked as left. -/
def Database.endImported (db : Database) (session : ImportSession) (value : LegacyMembershipEnd)
    (endedAt : String) : Database :=
  { db with
    memberships := db.memberships.update
      (fun m => m.channelId = value.channelID && m.sessionId = value.sessionID && m.active &&
        !session.existingMemberships.contains (membershipText m.channelId m.sessionId m.joinedAt))
      (fun m => { m with leftAt := some endedAt }) (Membership.key_leftAt endedAt) }

/-- The tables after an event that is no message, before its journal row. -/
inductive Materialised (session : ImportSession) (record : ImportRecord) (db : Database) :
    Database → Prop
  | nothing : Materialised session record db db
  | channels (channels : Table Channel.id) :
      Materialised session record db { db with channels := channels }
  | sessions (sessions : Table Session.id) :
      Materialised session record db { db with sessions := sessions }
  | joined (value : LegacyMembership) (joinedAt : String) (memberships : Table Membership.key)
      (hrecord : record = .membership value ∨ record = .workerJoin value)
      (hiso : iso value.joinedAt = .ok joinedAt)
      (hpresent : (db.channels.has value.channelID && db.sessions.has value.sessionID) = true)
      (hinsert : db.memberships.insert?
        ⟨value.channelID, value.sessionID, joinedAt, none, none, value.role⟩ = some memberships) :
      Materialised session record db { db with memberships := memberships }
  | ended (value : LegacyMembershipEnd) (endedAt : String)
      (hrecord : record = .membershipEnded value ∨ record = .workerTerminal value)
      (hiso : iso value.endedAt = .ok endedAt) :
      Materialised session record db (db.endImported session value endedAt)
  | sessionEnded (sessionID : String) (time : LegacyTime) (endedAt : String)
      (hrecord : record = .sessionEnded sessionID time) (hiso : iso time = .ok endedAt)
      (hnew : session.existingSessions.contains sessionID = false) :
      Materialised session record db (db.endSession sessionID endedAt)

variable {record : ImportRecord}

theorem Materialised.changes {session : ImportSession} {db db' : Database}
    (h : Materialised session record db db') : db'.changes = db.changes := by
  cases h <;> rfl

section Effects

variable (w : World) (session : ImportSession)

theorem importChannel_effect (value : LegacyChannel) (record : ImportRecord) :
    Ensures (importChannel value) w fun _ db' => Materialised session record w.db db' := by
  simp only [importChannel, Ensures, wp_bind, wp_ofExcept, wp_database]
  refine ⟨fun registeredAt _ => ⟨fun closedAt _ => ?_, fun _ _ => .refl _⟩, fun _ _ => .refl _⟩
  cases w.db.channels.insert? ⟨value.id, none, registeredAt, value.ownerOperatorSessionID,
      value.lifecycleState.getD .active, closedAt, .all, .open⟩ with
  | none => exact ⟨.nothing, .refl _⟩
  | some channels =>
    simp only [wp_bind, wp_references, wp_modifyDatabase]
    exact ⟨fun _ => ⟨.channels channels, ⟨rfl, rfl, rfl, le_rfl⟩⟩, fun _ => .refl _⟩

theorem importSessionRow_effect (value : LegacySession) (record : ImportRecord) :
    Ensures (importSessionRow value) w fun _ db' => Materialised session record w.db db' := by
  simp only [importSessionRow, Ensures, wp_bind, wp_ofExcept, wp_database]
  refine ⟨fun registeredAt _ => ⟨fun endedAt _ => ?_, fun _ _ => .refl _⟩, fun _ _ => .refl _⟩
  cases w.db.sessions.insert? ⟨value.id, registeredAt, endedAt, value.displayName, value.role,
      none, none, .runtime, none, none⟩ with
  | none => exact ⟨.nothing, .refl _⟩
  | some sessions => exact ⟨.sessions sessions, ⟨rfl, rfl, rfl, le_rfl⟩⟩

theorem insertImportedMembership_effect (value : LegacyMembership)
    (hrecord : record = .membership value ∨ record = .workerJoin value) :
    Ensures (insertImportedMembership value) w fun _ db' =>
      Materialised session record w.db db' := by
  simp only [insertImportedMembership, Ensures, wp_bind, wp_ofExcept, wp_database]
  refine ⟨fun joinedAt hiso => ?_, fun _ _ => .refl _⟩
  cases hinsert : w.db.memberships.insert?
      ⟨value.channelID, value.sessionID, joinedAt, none, none, value.role⟩ with
  | none => exact ⟨.nothing, .refl _⟩
  | some memberships =>
    simp only [wp_bind, wp_references, wp_modifyDatabase]
    exact ⟨fun hpresent => ⟨.joined value joinedAt memberships hrecord hiso hpresent hinsert,
      ⟨rfl, rfl, rfl, le_rfl⟩⟩, fun _ => .refl _⟩

theorem endImportedMembership_effect (value : LegacyMembershipEnd)
    (hrecord : record = .membershipEnded value ∨ record = .workerTerminal value) :
    Ensures (endImportedMembership session value) w fun _ db' =>
      Materialised session record w.db db' := by
  simp only [endImportedMembership, Ensures, wp_bind, wp_ofExcept, wp_modifyDatabase]
  exact ⟨fun endedAt hiso => ⟨.ended value endedAt hrecord hiso, ⟨rfl, rfl, rfl, le_rfl⟩⟩,
    fun _ _ => .refl _⟩

theorem importEffect_effect (event : CanonicalImportEvent)
    (hmessage : ImportRecord.isMessage event.record = false) :
    Ensures (importEffect session event) w fun _ db' =>
      Materialised session event.record w.db db' := by
  unfold importEffect
  cases hrecord : event.record with
  | channel value => exact importChannel_effect w session value _
  | session value => exact importSessionRow_effect w session value _
  | sessionRoleAssignment sessionID role =>
    simp only [Ensures, wp_ite, wp_pure, wp_modifyDatabase]
    exact ⟨fun _ => ⟨.nothing, .refl _⟩, fun _ => ⟨.sessions _, ⟨rfl, rfl, rfl, le_rfl⟩⟩⟩
  | channelOwnerAssignment channelID owner =>
    simp only [Ensures, wp_ite, wp_pure, wp_bind, wp_database, wp_references, wp_modifyDatabase]
    exact ⟨fun _ => ⟨.nothing, .refl _⟩,
      fun _ => ⟨fun _ => ⟨.channels _, ⟨rfl, rfl, rfl, le_rfl⟩⟩, fun _ => .refl _⟩⟩
  | membership value => exact insertImportedMembership_effect w session value (.inl rfl)
  | membershipEnded value => exact endImportedMembership_effect w session value (.inl rfl)
  | sessionEnded sessionID time =>
    simp only [Ensures, wp_bind, wp_ofExcept, wp_ite, wp_pure, wp_modifyDatabase]
    refine ⟨fun endedAt hiso => ⟨fun _ => ⟨.nothing, .refl _⟩, fun hnew => ?_⟩, fun _ _ => .refl _⟩
    exact ⟨.sessionEnded sessionID time endedAt rfl hiso (by simpa using hnew), ⟨rfl, rfl, rfl, le_rfl⟩⟩
  | message value => simp [hrecord, ImportRecord.isMessage] at hmessage
  | workerJoin value => exact insertImportedMembership_effect w session value (.inr rfl)
  | workerTerminal value => exact endImportedMembership_effect w session value (.inr rfl)
  | channelClosed id closedAt =>
    simp only [Ensures, wp_ite, wp_pure, wp_bind, wp_ofExcept, wp_modifyDatabase]
    exact ⟨fun _ => ⟨.nothing, .refl _⟩,
      fun _ => ⟨fun _ _ => ⟨.channels _, ⟨rfl, rfl, rfl, le_rfl⟩⟩, fun _ _ => .refl _⟩⟩
  | workerAssignment _ => exact ⟨.nothing, .refl _⟩
  | workerReplacement _ => exact ⟨.nothing, .refl _⟩
  | workUnit _ => exact ⟨.nothing, .refl _⟩
  | unsupported kind => exact Keeps.refl w

end Effects

/-- A property that the statements of an import keep: insertions of absent rows, and updates of
rows that the captured sets do not name. -/
structure ImportClosed (session : ImportSession) (I : Database → Prop) : Prop where
  insertChannel : ∀ {db : Database} {c : Channel} {channels : Table Channel.id},
    db.channels.insert? c = some channels → I db → I { db with channels := channels }
  updateChannel : ∀ {db : Database} {id : String} {assign : Channel → Channel}
    (hid : ∀ c, (assign c).id = c.id), ¬session.existingChannels.contains id = true → I db →
    I { db with channels := db.channels.update (fun c => c.id = id) assign hid }
  insertSession : ∀ {db : Database} {s : Session} {sessions : Table Session.id},
    db.sessions.insert? s = some sessions → I db → I { db with sessions := sessions }
  updateSession : ∀ {db : Database} {id : String} {assign : Session → Session}
    (hid : ∀ s, (assign s).id = s.id), ¬session.existingSessions.contains id = true → I db →
    I { db with sessions := db.sessions.update (fun s => s.id = id) assign hid }
  insertMembership : ∀ {db : Database} {m : Membership} {memberships : Table Membership.key},
    db.sessions.has m.sessionId = true → db.memberships.insert? m = some memberships → I db →
    I { db with memberships := memberships }
  endMembership : ∀ {db : Database} (value : LegacyMembershipEnd) (endedAt : String), I db →
    I (db.endImported session value endedAt)
  endSession : ∀ {db : Database} {id : String} (endedAt : String),
    ¬session.existingSessions.contains id = true → I db → I (db.endSession id endedAt)

section Closed

variable {I : Database → Prop} {session : ImportSession} {w : World}

theorem importChannel_closed (hI : ImportClosed session I) (h : I w.db) (value : LegacyChannel) :
    Ensures (importChannel value) w fun _ db' => I db' := by
  simp only [importChannel, Ensures, wp_bind, wp_ofExcept, wp_database]
  refine ⟨fun registeredAt _ => ⟨fun closedAt _ => ?_, fun _ _ => .refl _⟩, fun _ _ => .refl _⟩
  cases hinsert : w.db.channels.insert? ⟨value.id, none, registeredAt,
      value.ownerOperatorSessionID, value.lifecycleState.getD .active, closedAt, .all, .open⟩ with
  | none => exact ⟨h, .refl _⟩
  | some channels =>
    simp only [wp_bind, wp_references, wp_modifyDatabase]
    exact ⟨fun _ => ⟨hI.insertChannel hinsert h, ⟨rfl, rfl, rfl, le_rfl⟩⟩, fun _ => .refl _⟩

theorem importSessionRow_closed (hI : ImportClosed session I) (h : I w.db) (value : LegacySession) :
    Ensures (importSessionRow value) w fun _ db' => I db' := by
  simp only [importSessionRow, Ensures, wp_bind, wp_ofExcept, wp_database]
  refine ⟨fun registeredAt _ => ⟨fun endedAt _ => ?_, fun _ _ => .refl _⟩, fun _ _ => .refl _⟩
  cases hinsert : w.db.sessions.insert? ⟨value.id, registeredAt, endedAt, value.displayName,
      value.role, none, none, .runtime, none, none⟩ with
  | none => exact ⟨h, .refl _⟩
  | some sessions => exact ⟨hI.insertSession hinsert h, ⟨rfl, rfl, rfl, le_rfl⟩⟩

theorem insertImportedMembership_closed (hI : ImportClosed session I) (h : I w.db)
    (value : LegacyMembership) :
    Ensures (insertImportedMembership value) w fun _ db' => I db' := by
  simp only [insertImportedMembership, Ensures, wp_bind, wp_ofExcept, wp_database]
  refine ⟨fun joinedAt _ => ?_, fun _ _ => .refl _⟩
  cases hinsert : w.db.memberships.insert?
      ⟨value.channelID, value.sessionID, joinedAt, none, none, value.role⟩ with
  | none => exact ⟨h, .refl _⟩
  | some memberships =>
    simp only [wp_bind, wp_references, wp_modifyDatabase]
    refine ⟨fun hpresent => ⟨?_, ⟨rfl, rfl, rfl, le_rfl⟩⟩, fun _ => .refl _⟩
    exact hI.insertMembership (Bool.and_eq_true_iff.mp hpresent).2 hinsert h

theorem endImportedMembership_closed (hI : ImportClosed session I) (h : I w.db)
    (value : LegacyMembershipEnd) :
    Ensures (endImportedMembership session value) w fun _ db' => I db' := by
  simp only [endImportedMembership, Ensures, wp_bind, wp_ofExcept, wp_modifyDatabase]
  exact ⟨fun endedAt _ => ⟨hI.endMembership value endedAt h, ⟨rfl, rfl, rfl, le_rfl⟩⟩,
    fun _ _ => .refl _⟩

theorem importEffect_closed (hI : ImportClosed session I) (h : I w.db)
    (event : CanonicalImportEvent) (hmessage : ImportRecord.isMessage event.record = false) :
    Ensures (importEffect session event) w fun _ db' => I db' := by
  unfold importEffect
  cases hrecord : event.record with
  | channel value => exact importChannel_closed hI h value
  | session value => exact importSessionRow_closed hI h value
  | sessionRoleAssignment sessionID role =>
    simp only [Ensures, wp_ite, wp_pure, wp_modifyDatabase]
    exact ⟨fun _ => ⟨h, .refl _⟩,
      fun hnew => ⟨hI.updateSession (Session.id_role role) hnew h, ⟨rfl, rfl, rfl, le_rfl⟩⟩⟩
  | channelOwnerAssignment channelID owner =>
    simp only [Ensures, wp_ite, wp_pure, wp_bind, wp_database, wp_references, wp_modifyDatabase]
    exact ⟨fun _ => ⟨h, .refl _⟩, fun hnew =>
      ⟨fun _ => ⟨hI.updateChannel _ hnew h, ⟨rfl, rfl, rfl, le_rfl⟩⟩, fun _ => .refl _⟩⟩
  | membership value => exact insertImportedMembership_closed hI h value
  | membershipEnded value => exact endImportedMembership_closed hI h value
  | sessionEnded sessionID time =>
    simp only [Ensures, wp_bind, wp_ofExcept, wp_ite, wp_pure, wp_modifyDatabase]
    exact ⟨fun endedAt _ => ⟨fun _ => ⟨h, .refl _⟩,
      fun hnew => ⟨hI.endSession endedAt hnew h, ⟨rfl, rfl, rfl, le_rfl⟩⟩⟩, fun _ _ => .refl _⟩
  | message value => simp [hrecord, ImportRecord.isMessage] at hmessage
  | workerJoin value => exact insertImportedMembership_closed hI h value
  | workerTerminal value => exact endImportedMembership_closed hI h value
  | channelClosed id closedAt =>
    simp only [Ensures, wp_ite, wp_pure, wp_bind, wp_ofExcept, wp_modifyDatabase]
    exact ⟨fun _ => ⟨h, .refl _⟩, fun hnew =>
      ⟨fun closed _ => ⟨hI.updateChannel _ hnew h, ⟨rfl, rfl, rfl, le_rfl⟩⟩, fun _ _ => .refl _⟩⟩
  | workerAssignment _ => exact ⟨h, .refl _⟩
  | workerReplacement _ => exact ⟨h, .refl _⟩
  | workUnit _ => exact ⟨h, .refl _⟩
  | unsupported kind => exact Keeps.refl w

end Closed

/-- The database after an accepted event: its rows, and the one row of the journal. -/
inductive ImportAppended (session : ImportSession) (event : CanonicalImportEvent) (db : Database) :
    Database → Prop
  | message (value : Json) (channelId : Option String) (occurredAt : Option Json)
      (reply : ReplyMetadata) (hrecord : event.record = .message value)
      (hreply : resolveReplyMetadata db channelId
        (Json.coalesce (value.member "replyToEventId") (value.member "replyToEventID"))
        (importedCorrelation value) = .ok reply) :
      ImportAppended session event db (db.record channelId
        (.messageSent (importedEvent value channelId occurredAt reply)) event.occurredAt
        (some event.sourceOrdinal))
  | legacy (db₁ : Database) (hrows : Materialised session event.record db db₁) :
      ImportAppended session event db (db₁.record event.channelId (.legacy event.record)
        event.occurredAt (some event.sourceOrdinal))

/-- The state a rollback leaves: the database of before the import, and no import. -/
structure RolledBack (w w' : World) : Prop where
  db : w'.db = w.importSession.elim w.db ImportSession.before
  importSession : w'.importSession = none
  transactionDepth : w'.transactionDepth = w.transactionDepth

theorem rollbackImport_rolledBack {w w' : World} (h : Keeps w w')
    (hdb : w.importSession = none → w'.db = w.db) : RolledBack w (rollbackImport w') := by
  have himport := h.importSession
  unfold rollbackImport
  cases hw : w.importSession with
  | none =>
    rw [hw] at himport
    simp only [himport]
    exact ⟨by rw [hw]; exact hdb hw, himport, h.transactionDepth⟩
  | some session =>
    rw [hw] at himport
    simp only [himport]
    exact ⟨by rw [hw]; rfl, rfl, h.transactionDepth⟩

/-- The two ways to append: a message journals its stored event, and any other event has its effect
on the tables and journals its record. Whatever throws, the import is rolled back. -/
theorem wp_importAppend {w : World} {session : ImportSession}
    (hsession : w.importSession = some session) (event : CanonicalImportEvent)
    {P : Database → Prop}
    (hmessage : ∀ value channelId occurredAt reply, event.record = .message value →
      resolveReplyMetadata w.db channelId
        (Json.coalesce (value.member "replyToEventId") (value.member "replyToEventID"))
        (importedCorrelation value) = .ok reply →
      P (w.db.record channelId (.messageSent (importedEvent value channelId occurredAt reply))
        event.occurredAt (some event.sourceOrdinal)))
    (hlegacy : ImportRecord.isMessage event.record = false →
      Ensures (importEffect session event) w fun _ db' =>
        P (db'.record event.channelId (.legacy event.record) event.occurredAt
          (some event.sourceOrdinal))) :
    wp (importAppend event) (fun _ w' => Keeps w w' ∧ P w'.db) (fun _ w' => RolledBack w w') w := by
  simp only [importAppend, wp_onError, wp_bind, wp_read, hsession, wp_throwIf]
  have hback {w' : World} (h : Keeps w w') : RolledBack w (rollbackImport w') :=
    rollbackImport_rolledBack h fun hnone => by rw [hsession] at hnone; cases hnone
  refine ⟨fun _ => hback (.refl w), fun _ => ?_⟩
  cases hkind : ImportRecord.isMessage event.record with
  | true =>
    cases hrecord : event.record with
    | message value =>
      have heffect : importEffect session event = importMessage value event := by
        simp [importEffect, hrecord]
      rw [heffect]
      simp only [importMessage, appendImportedChange, wp_bind, wp_ofExcept, wp_database,
        wp_references, wp_modifyDatabase]
      refine ⟨fun channelId _ => ⟨fun occurredAt _ => ⟨fun reply hreply => ⟨fun _ => ?_,
        fun _ => hback (.refl w)⟩, fun _ _ => hback (.refl w)⟩, fun _ _ => hback (.refl w)⟩,
        fun _ _ => hback (.refl w)⟩
      exact ⟨⟨rfl, rfl, rfl, le_rfl⟩, hmessage value channelId occurredAt reply hrecord hreply⟩
    | _ => simp [hrecord, ImportRecord.isMessage] at hkind
  | false =>
    refine wp_mono (hlegacy hkind) ?_ fun _ _ hkeeps => hback hkeeps
    rintro _ w' ⟨hrows, hkeeps⟩
    simp only [Bool.false_eq_true, if_false, appendImportedChange, wp_bind, wp_database,
      wp_references, wp_modifyDatabase]
    exact ⟨fun _ => ⟨⟨hkeeps.transactionDepth, hkeeps.importSession, hkeeps.uuids, hkeeps.draws⟩,
      hrows⟩, fun _ => hback hkeeps⟩

theorem importAppend_effect (w : World) (event : CanonicalImportEvent) :
    wp (importAppend event)
      (fun _ w' => Keeps w w' ∧ ∃ session, w.importSession = some session ∧
        ImportAppended session event w.db w'.db)
      (fun _ w' => RolledBack w w') w := by
  cases hsession : w.importSession with
  | none =>
    simp only [importAppend, wp_onError, wp_bind, wp_read, hsession]
    exact rollbackImport_rolledBack (.refl w) fun _ => rfl
  | some session =>
    refine wp_mono (wp_importAppend hsession event (P := ImportAppended session event w.db) ?_ ?_)
      (fun _ _ h => ⟨h.1, session, rfl, h.2⟩) fun _ _ hback => hback
    · exact fun value channelId occurredAt reply hrecord hreply =>
        .message value channelId occurredAt reply hrecord hreply
    · exact fun hkind => (importEffect_effect w session event hkind).mono fun _ db' h => .legacy db' h

theorem importRollback_effect (w : World) : RolledBack w (importRollback w).2 :=
  rollbackImport_rolledBack (.refl w) fun _ => rfl

/-- An import begins on a store without one, and remembers the database it began with. -/
structure Began (w w' : World) : Prop where
  idle : w.importSession = none
  rest : w.transactionDepth = 0
  transactionDepth : w'.transactionDepth = w.transactionDepth
  db : ∃ batches, w'.db = { w.db with importBatches := batches }
  importSession : ∃ session, w'.importSession = some session ∧ session.before = w.db

theorem importBegin_effect (w : World) (sourceDigest : String) (sourceVersion : Int) :
    wp (importBegin sourceDigest sourceVersion) (fun _ w' => Began w w')
      (fun _ w' => w'.db = w.db ∧ Keeps w w') w := by
  simp only [importBegin, wp_bind, wp_throwIf, wp_read, wp_now, wp_constrained, wp_modify]
  refine ⟨fun _ => ⟨trivial, .refl w⟩, fun _ => ⟨fun _ => ⟨trivial, .refl w⟩, fun _ =>
    ⟨fun _ => ⟨trivial, .refl w⟩, fun hfree => ⟨fun batches _ => ?_,
      fun _ => ⟨trivial, ⟨rfl, rfl, rfl, le_rfl⟩⟩⟩⟩⟩⟩
  obtain ⟨himport, hdepth⟩ := not_or.mp hfree
  exact ⟨by simpa using himport, by omega, rfl, ⟨batches, rfl⟩, ⟨_, rfl, rfl⟩⟩

/-- A committed import keeps every row. -/
structure ImportCommitted (w w' : World) : Prop where
  transactionDepth : w'.transactionDepth = w.transactionDepth
  db : ∃ batches, w'.db = { w.db with importBatches := batches }
  importSession : w'.importSession = none

theorem importCommit_effect (w : World) :
    wp importCommit (fun _ w' => ImportCommitted w w') (fun _ w' => w' = w) w := by
  simp only [importCommit, wp_bind, wp_throwIf, wp_read, wp_now, wp_modifyDatabase, wp_modify]
  exact ⟨fun _ => trivial, fun _ => ⟨rfl, ⟨_, rfl⟩, rfl⟩⟩

end Wardroom.Storage
