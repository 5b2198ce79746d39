import Mathlib.Data.List.Forall2
import Wardroom.Storage.References

/-! # An import from begin to commit

While an import is open, the rows of before it stay as they are and in place:
an event inserts only absent keys, and updates only rows that the sets captured
at the begin do not name. Each accepted event leaves one journal row.
-/

namespace Wardroom.Storage
open Wardroom.Library Wardroom.Domain Prog

/-- The sets of an open import name the rows of the database it began with. -/
structure Remembers (session : ImportSession) : Prop where
  channels : session.existingChannels = session.before.channels.rows.map Channel.id
  sessions : session.existingSessions = session.before.sessions.rows.map Session.id
  memberships : session.existingMemberships =
    session.before.memberships.rows.map fun m => membershipText m.channelId m.sessionId m.joinedAt

/-- Every channel, session and membership of before is still there, unchanged and in place. -/
structure Frames (before db : Database) : Prop where
  channels : before.channels.rows <+: db.channels.rows
  sessions : before.sessions.rows <+: db.sessions.rows
  memberships : before.memberships.rows <+: db.memberships.rows

theorem Frames.record {before db : Database} (h : Frames before db) (channelId : Option String)
    (payload : Payload) (at' : String) (ordinal : Option Int) :
    Frames before (db.record channelId payload at' ordinal) :=
  ⟨h.channels, h.sessions, h.memberships⟩

section Guards

variable {session : ImportSession} {id : String}

theorem Remembers.channel_new (h : Remembers session)
    (hnew : ¬session.existingChannels.contains id = true) {c : Channel}
    (hc : c ∈ session.before.channels.rows) : c.id ≠ id := by
  rintro rfl
  rw [h.channels, List.contains_iff_mem] at hnew
  exact hnew (List.mem_map_of_mem hc)

theorem Remembers.session_new (h : Remembers session)
    (hnew : ¬session.existingSessions.contains id = true) {s : Session}
    (hs : s ∈ session.before.sessions.rows) : s.id ≠ id := by
  rintro rfl
  rw [h.sessions, List.contains_iff_mem] at hnew
  exact hnew (List.mem_map_of_mem hs)

theorem Remembers.member_new (h : Remembers session) (href : SessionsReferenced session.before)
    (hnew : ¬session.existingSessions.contains id = true) {m : Membership}
    (hm : m ∈ session.before.memberships.rows) : m.sessionId ≠ id := by
  intro heq
  obtain ⟨s, hs, hid⟩ := List.mem_map.mp ((Table.has_iff _ _).mp (href m hm))
  exact h.session_new hnew hs (hid.trans heq)

theorem Remembers.membership_named (h : Remembers session) {m : Membership}
    (hm : m ∈ session.before.memberships.rows) :
    session.existingMemberships.contains (membershipText m.channelId m.sessionId m.joinedAt) =
      true := by
  rw [h.memberships, List.contains_iff_mem]
  exact List.mem_map.mpr ⟨m, hm, rfl⟩

end Guards

theorem frames_closed {session : ImportSession} (hR : Remembers session)
    (href : SessionsReferenced session.before) : ImportClosed session (Frames session.before) where
  insertChannel hinsert hF :=
    ⟨Table.prefix_insert hF.channels hinsert, hF.sessions, hF.memberships⟩
  updateChannel _ hnew hF :=
    ⟨Table.prefix_rewrite rfl hF.channels fun _ hc => decide_eq_false (hR.channel_new hnew hc),
      hF.sessions, hF.memberships⟩
  insertSession hinsert hF :=
    ⟨hF.channels, Table.prefix_insert hF.sessions hinsert, hF.memberships⟩
  updateSession _ hnew hF :=
    ⟨hF.channels, Table.prefix_rewrite rfl hF.sessions
      fun _ hs => decide_eq_false (hR.session_new hnew hs), hF.memberships⟩
  insertMembership _ hinsert hF :=
    ⟨hF.channels, hF.sessions, Table.prefix_insert hF.memberships hinsert⟩
  endMembership value endedAt hF := by
    refine ⟨hF.channels, hF.sessions, Table.prefix_rewrite rfl hF.memberships fun m hm => ?_⟩
    rw [hR.membership_named hm, Bool.not_true, Bool.and_false]
  endSession endedAt hnew hF := by
    refine ⟨hF.channels, Table.prefix_rewrite rfl hF.sessions fun s hs => ?_,
      Table.prefix_rewrite rfl hF.memberships fun m hm => ?_⟩
    · exact decide_eq_false (hR.session_new hnew hs)
    · exact decide_eq_false fun h => hR.member_new href hnew hm h.1

inductive JournalRow (event : CanonicalImportEvent) : Change → Prop
  | message (cursor : Nat) (value : Json) (channelId : Option String) (occurredAt : Option Json)
      (reply : ReplyMetadata) (hrecord : event.record = .message value) :
      JournalRow event ⟨cursor, channelId, .messageSent (importedEvent value channelId occurredAt
        reply), event.occurredAt, some event.sourceOrdinal⟩
  | legacy (cursor : Nat) (hrecord : ImportRecord.isMessage event.record = false) :
      JournalRow event ⟨cursor, event.channelId, .legacy event.record, event.occurredAt,
        some event.sourceOrdinal⟩

/-- An accepted event keeps the frame and the batches, and leaves its row. -/
structure Accepted (session : ImportSession) (event : CanonicalImportEvent) (db db' : Database) :
    Prop where
  frames : Frames session.before db'
  journal : ∃ change, db'.changes.rows = db.changes.rows ++ [change] ∧ JournalRow event change
  importBatches : db'.importBatches = db.importBatches

theorem Materialised.importBatches {session : ImportSession} {record : ImportRecord}
    {db db' : Database} (h : Materialised session record db db') :
    db'.importBatches = db.importBatches := by
  cases h <;> rfl

theorem importAppend_accepted {w : World} {session : ImportSession}
    (hsession : w.importSession = some session) (hR : Remembers session)
    (href : SessionsReferenced session.before) (hF : Frames session.before w.db)
    (event : CanonicalImportEvent) :
    wp (importAppend event) (fun _ w' => Keeps w w' ∧ Accepted session event w.db w'.db)
      (fun _ w' => RolledBack w w') w := by
  refine wp_importAppend hsession event (fun value channelId occurredAt reply hrecord _ => ?_)
    fun hkind => ?_
  · exact ⟨hF.record _ _ _ _, ⟨_, rfl, .message _ value channelId occurredAt reply hrecord⟩, rfl⟩
  · refine wp_mono (wp_and (importEffect_effect w session event hkind)
      (importEffect_closed (frames_closed hR href) hF event hkind)) ?_ fun _ _ hkeeps => hkeeps.1
    rintro _ w' ⟨⟨hrows, hkeeps⟩, hframes, _⟩
    refine ⟨⟨hframes.record _ _ _ _, ⟨_, ?_, .legacy (w.db.changes.latestCursor + 1) hkind⟩,
      hrows.importBatches⟩, hkeeps⟩
    rw [Database.record_changes, hrows.changes, Journal.rows_append]

/-- The events one after the other; the caller may go on after one that throws. -/
def importEvents (w : World) (events : List CanonicalImportEvent) : World :=
  Trace.run (fun w event => (importAppend event w).2) w events

def SomeThrows (w : World) (events : List CanonicalImportEvent) : Prop :=
  ∃ before event after e, events = before ++ event :: after ∧
    (importAppend event (importEvents w before)).1 = .error e

structure Importing (before : Database) (sourceDigest : String)
    (events : List CanonicalImportEvent) (w : World) : Prop where
  session : ∃ session, w.importSession = some session ∧ session.before = before ∧
    Remembers session
  frames : Frames before w.db
  journal : ∃ rows, w.db.changes.rows = before.changes.rows ++ rows ∧
    List.Forall₂ JournalRow events rows
  batch : w.db.importBatches.has sourceDigest = true

/-- No import is open and the database is that of before. -/
structure Undone (before : Database) (w : World) : Prop where
  db : w.db = before
  importSession : w.importSession = none

theorem importBegin_importing (w : World) (sourceDigest : String) (sourceVersion : Int) :
    wp (importBegin sourceDigest sourceVersion) (fun _ w' => Importing w.db sourceDigest [] w')
      (fun _ _ => True) w := by
  simp only [importBegin, wp_bind, wp_throwIf, wp_read, wp_now, wp_constrained, wp_modify]
  refine ⟨fun _ => trivial, fun _ => ⟨fun _ => trivial, fun _ => ⟨fun _ => trivial, fun _ =>
    ⟨fun batches hinsert => ?_, fun _ => trivial⟩⟩⟩⟩
  refine ⟨⟨_, rfl, rfl, ⟨rfl, rfl, rfl⟩⟩,
    ⟨List.prefix_rfl, List.prefix_rfl, List.prefix_rfl⟩, ⟨[], (List.append_nil _).symm, .nil⟩, ?_⟩
  change batches.has sourceDigest = true
  rw [Table.has_iff, (Table.insert?_eq_some.mp hinsert).2, List.map_append]
  exact List.mem_append_right _ (List.mem_singleton_self _)

section Run

variable {before : Database} {sourceDigest : String} {events : List CanonicalImportEvent}
  {w : World}

/-- One more event is accepted, or everything is undone. -/
theorem Importing.append (href : SessionsReferenced before)
    (h : Importing before sourceDigest events w) (event : CanonicalImportEvent) :
    ((importAppend event w).1 = .ok () ∧
      Importing before sourceDigest (events ++ [event]) (importAppend event w).2) ∨
    ((∃ e, (importAppend event w).1 = .error e) ∧ Undone before (importAppend event w).2) := by
  obtain ⟨session, hsession, rfl, hR⟩ := h.session
  rcases cases_of_wp (importAppend_accepted hsession hR href h.frames event) with
    ⟨_, hok, hkeeps, haccepted⟩ | ⟨e, herror, hback⟩
  · obtain ⟨rows, hrows, hall⟩ := h.journal
    obtain ⟨change, hchange, hrow⟩ := haccepted.journal
    refine .inl ⟨hok, ⟨session, hkeeps.importSession.trans hsession, rfl, hR⟩, haccepted.frames,
      ⟨rows ++ [change], ?_, List.rel_append hall (.cons hrow .nil)⟩, ?_⟩
    · rw [hchange, hrows, List.append_assoc]
    · rw [haccepted.importBatches]
      exact h.batch
  · refine .inr ⟨⟨e, herror⟩, ?_, hback.importSession⟩
    rw [hback.db, hsession]
    rfl

theorem Undone.append (h : Undone before w) (event : CanonicalImportEvent) :
    Undone before (importAppend event w).2 := by
  rcases cases_of_wp (importAppend_effect w event) with
    ⟨_, _, _, session, hsession, _⟩ | ⟨_, _, hback⟩
  · rw [h.importSession] at hsession
    cases hsession
  · refine ⟨?_, hback.importSession⟩
    rw [hback.db, h.importSession]
    exact h.db

theorem Undone.importEvents (h : Undone before w) (events : List CanonicalImportEvent) :
    Undone before (importEvents w events) :=
  Trace.invariant_of_step (fun _ event hI => hI.append event) h events

/-- After any sequence of events the import has accepted all of them, or is undone; it is undone
exactly when one of them threw. -/
theorem Importing.run (href : SessionsReferenced before)
    (h : Importing before sourceDigest events w) (more : List CanonicalImportEvent) :
    (¬SomeThrows w more ∧ Importing before sourceDigest (events ++ more) (importEvents w more)) ∨
      (SomeThrows w more ∧ Undone before (importEvents w more)) := by
  induction more generalizing events w with
  | nil =>
    refine .inl ⟨?_, by simpa [importEvents] using h⟩
    rintro ⟨pre, event, post, _, hsplit, _⟩
    cases pre <;> cases hsplit
  | cons event more ih =>
    rcases h.append href event with ⟨hok, hnext⟩ | ⟨herror, hundone⟩
    · have hthrows : SomeThrows w (event :: more) ↔ SomeThrows (importAppend event w).2 more := by
        constructor
        · rintro ⟨pre, event', post, e, hsplit, hthrown⟩
          cases pre with
          | nil =>
            cases hsplit
            have hreturned : (importAppend event w).1 = .error e := hthrown
            rw [hok] at hreturned
            cases hreturned
          | cons first pre =>
            cases hsplit
            exact ⟨pre, event', post, e, rfl, hthrown⟩
        · rintro ⟨pre, event', post, e, rfl, hthrown⟩
          exact ⟨event :: pre, event', post, e, rfl, hthrown⟩
      have hrest := ih hnext
      rw [hthrows]
      rwa [List.append_assoc, List.singleton_append] at hrest
    · obtain ⟨e, he⟩ := herror
      exact .inr ⟨⟨[], event, more, e, rfl, he⟩, hundone.importEvents more⟩

theorem Undone.commit (h : Undone before w) :
    importCommit w = (.error (.coded "importNotStarted"), w) := by
  unfold importCommit
  change (throwIf (w.importSession.isNone = true) (.coded "importNotStarted") >>= _) w = _
  rw [h.importSession]
  rfl

theorem Importing.commit (h : Importing before sourceDigest events w) {w' : World}
    (hcommit : importCommit w = (.ok (), w')) :
    Frames before w'.db ∧ (∃ rows, w'.db.changes.rows = before.changes.rows ++ rows ∧
      List.Forall₂ JournalRow events rows) ∧ w'.db.importBatches.has sourceDigest = true := by
  have hwp : wp importCommit (fun _ w' => Frames before w'.db ∧
      (∃ rows, w'.db.changes.rows = before.changes.rows ++ rows ∧
        List.Forall₂ JournalRow events rows) ∧ w'.db.importBatches.has sourceDigest = true)
      (fun _ _ => True) w := by
    simp only [importCommit, wp_bind, wp_read, wp_throwIf, wp_now, wp_modifyDatabase, wp_modify]
    refine ⟨fun _ => trivial, fun _ => ⟨⟨h.frames.channels, h.frames.sessions,
      h.frames.memberships⟩, h.journal, ?_⟩⟩
    exact (Table.has_rewrite rfl (fun _ => by rfl) sourceDigest).trans h.batch
  have hpost := wp_of_ok hwp hcommit
  exact hpost

theorem importBegin_duplicate (h : w.db.importBatches.has sourceDigest = true)
    (sourceVersion : Int) : ∃ e, importBegin sourceDigest sourceVersion w = (.error e, w) := by
  by_cases hsource : sourceDigest = "" ∨ sourceVersion < 1 ∨ maxSafeInteger < sourceVersion
  · refine ⟨.coded "invalidImportSource", ?_⟩
    change Prog.bind (throwIf _ _) _ w = _
    unfold Prog.bind throwIf
    rw [if_pos hsource]
    rfl
  · refine ⟨.coded "duplicateImport", ?_⟩
    change Prog.bind (throwIf _ _) _ w = _
    unfold Prog.bind throwIf
    rw [if_neg hsource]
    change Prog.bind read _ w = _
    change (throwIf (w.db.importBatches.has sourceDigest = true) _ >>= _) w = _
    rw [h]
    rfl

end Run

/-- If an event throws, the database is that of before the import, also once a commit was tried. If
the import commits, every row of before is unchanged and in place, and each event left one journal
row; and the source is a duplicate from the begin on. -/
theorem import_atomic {w w₁ : World} (href : SessionsReferenced w.db) {sourceDigest : String}
    {sourceVersion : Int} (hbegin : importBegin sourceDigest sourceVersion w = (.ok (), w₁))
    (events : List CanonicalImportEvent) :
    (SomeThrows w₁ events → (importEvents w₁ events).db = w.db ∧
      (importCommit (importEvents w₁ events)).2.db = w.db) ∧
    (¬SomeThrows w₁ events → ∀ sourceVersion', ∃ e,
      importBegin sourceDigest sourceVersion' (importEvents w₁ events) =
        (.error e, importEvents w₁ events)) ∧
    ∀ w₂, importCommit (importEvents w₁ events) = (.ok (), w₂) →
      Frames w.db w₂.db ∧
      (∃ rows, w₂.db.changes.rows = w.db.changes.rows ++ rows ∧
        List.Forall₂ JournalRow events rows) ∧
      ∀ sourceVersion', ∃ e, importBegin sourceDigest sourceVersion' w₂ = (.error e, w₂) := by
  have hopen : Importing w.db sourceDigest [] w₁ := by
    have hpost := wp_of_ok (importBegin_importing w sourceDigest sourceVersion) hbegin
    exact hpost
  rcases hopen.run href events with ⟨hnone, himporting⟩ | ⟨hthrows, hundone⟩
  · refine ⟨fun h => absurd h hnone, fun _ => importBegin_duplicate himporting.batch, ?_⟩
    intro w₂ hcommit
    obtain ⟨hframes, hjournal, hbatch⟩ := himporting.commit hcommit
    exact ⟨hframes, hjournal, importBegin_duplicate hbatch⟩
  · refine ⟨fun _ => ⟨hundone.db, ?_⟩, fun h => absurd hthrows h, fun w₂ hcommit => ?_⟩
    · rw [hundone.commit]
      exact hundone.db
    · rw [hundone.commit] at hcommit
      cases hcommit

/-- An operator of a channel. -/
def enrolled : List StoreOp :=
  [.insertSession { id := "alice", role := some .operator }, .insertChannel "harbour" (some "alice"),
    .insertMembership "harbour" "alice" none]

/-- A source that names the operator, the channel and the membership, and brings a worker. -/
def manifest : List CanonicalImportEvent :=
  [⟨none, .session ⟨"alice", .text "1", none, none, some .operator⟩, "1", 0⟩,
    ⟨some "harbour", .channel ⟨"harbour", .text "1", some "alice", none, none⟩, "1", 1⟩,
    ⟨some "harbour", .membership ⟨"harbour", "alice", .text "1111", some .operator⟩, "1111", 2⟩,
    ⟨none, .session ⟨"bob", .text "1", none, none, some .worker⟩, "1", 3⟩]

theorem import_atomic_manifest :
    let w := Trace.run storeStep (.initial .empty tally tally) enrolled
    ∃ w₁ w₂, importBegin "source" 1 w = (.ok (), w₁) ∧
      importCommit (importEvents w₁ manifest) = (.ok (), w₂) ∧ Frames w.db w₂.db ∧
      (∃ rows, w₂.db.changes.rows = w.db.changes.rows ++ rows ∧ List.Forall₂ JournalRow manifest rows) ∧
      ∀ sourceVersion', ∃ e, importBegin "source" sourceVersion' w₂ = (.error e, w₂) := by
  have hbegin : importBegin "source" 1 (Trace.run storeStep (.initial .empty tally tally) enrolled) =
      (.ok (), (importBegin "source" 1 (Trace.run storeStep (.initial .empty tally tally) enrolled)).2) := rfl
  have hcommitted := (import_atomic (run_referenced tally tally enrolled) hbegin manifest).2.2 _ rfl
  exact ⟨_, _, rfl, rfl, hcommitted⟩

end Wardroom.Storage
