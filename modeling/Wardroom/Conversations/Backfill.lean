import Wardroom.Conversations.BackfillRewrites

/-! # The backfill of reply metadata against live commits

The migration settles every reply of an old journal in one pass. Its meaning is
what the live path would have stored for the same messages, one at a time. The
loop is first read as a list of settled reply fields; the journal it leaves, the
live replay and a second run are then all compared with that list.
-/

namespace Wardroom.Conversations
open Wardroom.Library Wardroom.Domain Wardroom.Storage Prog

/-- The tables of roots and the live store say the same of the messages seen so far. -/
structure Synced (earlier : List StoredMessage) (resolved : ResolvedRoots) (db : Database) :
    Prop where
  threads : db.messageThreads = .empty
  absent : ∀ id, messageById? earlier id = none →
    resolved.lookup id = none ∧ db.messageRow id = none
  present : ∀ id p, messageById? earlier id = some p → ∃ root row parent,
    resolved.lookup id = some root ∧ db.messageRow id = some (row, parent) ∧
      row.channelId = p.channelId ∧ replyRoot id parent = .ok (root.getD id) ∧
      ∀ r, root = some r → Nameable r

theorem synced_empty : Synced [] [] .empty :=
  ⟨rfl, fun _ _ => ⟨rfl, rfl⟩, fun _ _ h => by cases h⟩

theorem backfilledRoot_some {earlier later : List StoredMessage} {resolved : ResolvedRoots}
    (hlookup : ∀ id, messageById? earlier id = none → resolved.lookup id = none)
    {m : StoredMessage} {id : String} {root : Option String} :
    backfilledRoot (earlier ++ later) resolved m (some id) = .ok root ↔
      ∃ p r, messageById? earlier id = some p ∧ p.channelId = m.channelId ∧
        resolved.lookup id = some r ∧ root = some (r.getD id) := by
  simp only [backfilledRoot]
  constructor
  · intro h
    cases hfound : messageById? (earlier ++ later) id with
    | none =>
      rw [hfound] at h
      cases h
    | some p =>
      have hid := (messageById?_some hfound).2
      rw [hfound] at h
      dsimp only at h
      split_ifs at h with hchannel
      cases hresolved : resolved.lookup p.id with
      | none =>
        rw [hresolved] at h
        cases h
      | some r =>
        rw [hresolved] at h
        cases h
        rw [hid] at hresolved ⊢
        rw [messageById?_append] at hfound
        cases hearlier : messageById? earlier id with
        | none =>
          rw [hlookup id hearlier] at hresolved
          cases hresolved
        | some p' =>
          rw [hearlier] at hfound
          cases hfound
          exact ⟨p, r, rfl, not_not.mp hchannel, hresolved, rfl⟩
  · rintro ⟨p, r, hearlier, hchannel, hresolved, rfl⟩
    have hid := (messageById?_some hearlier).2
    have hfound : messageById? (earlier ++ later) id = some p := by
      rw [messageById?_append, hearlier]
      rfl
    rw [hfound]
    dsimp only
    rw [if_neg (not_not.mpr hchannel), hid, hresolved]

section Lockstep

variable {earlier later : List StoredMessage} {resolved : ResolvedRoots} {db : Database}
  {m : StoredMessage} {reply root : Option String}

theorem Synced.lookup_none (h : Synced earlier resolved db) (id : String)
    (hid : messageById? earlier id = none) : resolved.lookup id = none := (h.absent id hid).1

theorem Synced.nameable_root (h : Synced earlier resolved db) (hreply : backfilledReply m = .ok reply)
    (hroot : backfilledRoot (earlier ++ later) resolved m reply = .ok root) :
    (reply = none ↔ root = none) ∧ ∀ r, root = some r → Nameable r := by
  cases reply with
  | none =>
    cases hroot
    exact ⟨Iff.rfl, fun _ hr => by cases hr⟩
  | some id =>
    obtain ⟨p, r, hp, _, hr, rfl⟩ := (backfilledRoot_some h.lookup_none).mp hroot
    refine ⟨⟨fun hnone => (by cases hnone), fun hnone => (by cases hnone)⟩, ?_⟩
    rintro _ ⟨⟩
    obtain ⟨r', _, _, hr', _, _, _, hnameable⟩ := h.present id p hp
    cases hr.symm.trans hr'
    cases r with
    | some r => exact hnameable r rfl
    | none => exact backfilledReply_nameable hreply id rfl

/-- The live path resolves the parent and the root the backfill settled. -/
theorem Synced.resolve (h : Synced earlier resolved db) (hreply : backfilledReply m = .ok reply)
    (hroot : backfilledRoot (earlier ++ later) resolved m reply = .ok root)
    (hagree : Agree m.event) : ∃ correlation, resolveReplyMetadata db m.channelId
      (m.event.member "replyToEventId") (m.event.member "correlation") =
        .ok ⟨reply, root, correlation⟩ := by
  have hrequest := requestedReply_of_backfilled hreply hagree
  cases reply with
  | none =>
    cases hroot
    refine ⟨m.event.member "correlation", ?_⟩
    rw [resolveReplyMetadata, hrequest]
    rfl
  | some id =>
    obtain ⟨p, r, hp, hchannel, hr, rfl⟩ := (backfilledRoot_some h.lookup_none).mp hroot
    obtain ⟨r', row, parent, hr', hrow, hplace, hparent, _⟩ := h.present id p hp
    cases hr.symm.trans hr'
    have hopen (root : String) : db.threadRow root = none := by
      rw [Database.threadRow, h.threads]
      rfl
    refine ⟨some (((m.event.member "correlation").getD (.obj [])).set "replyToEventId" (.str id)), ?_⟩
    rw [resolveReplyMetadata, hrequest]
    simp only [bind, Except.bind, hrow, hplace.trans hchannel, hparent, hopen]
    rw [if_neg (not_not.mpr rfl), Option.any_none, if_neg Bool.false_ne_true]

theorem messageRow_record (db : Database) (channelId : Option String) (event : Json) (at' : String)
    (ordinal : Option Int) {id : String} (hid : event.member "id" = some (.str id)) (id' : String) :
    (db.record channelId (.messageSent event) at' ordinal).messageRow id' =
      (db.messageRow id').or (if id = id' then
        some (⟨db.changes.latestCursor + 1, channelId, .messageSent event, at', ordinal⟩, event)
        else none) := by
  unfold Database.messageRow
  rw [Database.record_changes, sent_append_message, List.find?_append, List.find?_singleton]
  simp [hid, Json.extractText]

/-- Both tables take the message that was just settled. -/
theorem Synced.push (h : Synced earlier resolved db) (hfresh : messageById? earlier m.id = none)
    {event : Json} (hid : event.member "id" = some (.str m.id))
    (hreply : event.member "replyToEventId" = some (Json.ofOption reply))
    (hroot : event.member "threadRootEventId" = some (Json.ofOption root))
    (hnameable : ∀ id, reply = some id → Nameable id) (hboth : reply = none ↔ root = none)
    (hroots : ∀ r, root = some r → Nameable r) (at' : String) (ordinal : Option Int) :
    Synced (earlier ++ [m]) ((m.id, root) :: resolved)
      (db.record m.channelId (.messageSent event) at' ordinal) := by
  refine ⟨h.threads, fun id hnone => ?_, fun id p hp => ?_⟩
  · rw [messageById?_append, Option.or_eq_none_iff] at hnone
    have hne : m.id ≠ id := by simpa [messageById?] using hnone.2
    obtain ⟨hlookup, hrow⟩ := h.absent id hnone.1
    rw [messageRow_record _ _ _ _ _ hid, hrow, if_neg hne, List.lookup_cons, hlookup,
      beq_eq_false_iff_ne.mpr (Ne.symm hne)]
    exact ⟨rfl, rfl⟩
  · rw [messageById?_append] at hp
    cases hearlier : messageById? earlier id with
    | some p' =>
      rw [hearlier] at hp
      cases hp
      have hne : id ≠ m.id := by
        rintro rfl
        rw [hfresh] at hearlier
        cases hearlier
      obtain ⟨r, row, parent, hr, hrow, hplace, hparent, hnamed⟩ := h.present id p hearlier
      refine ⟨r, row, parent, ?_, ?_, hplace, hparent, hnamed⟩
      · rw [List.lookup_cons, beq_eq_false_iff_ne.mpr hne]
        exact hr
      · rw [messageRow_record _ _ _ _ _ hid, hrow]
        rfl
    | none =>
      rw [hearlier, Option.none_or] at hp
      have hpm : p = m ∧ m.id = id := by
        have hfound := messageById?_some hp
        rw [List.mem_singleton] at hfound
        exact ⟨hfound.1, hfound.1 ▸ hfound.2⟩
      obtain ⟨rfl, rfl⟩ := hpm
      refine ⟨root, ⟨db.changes.latestCursor + 1, p.channelId, .messageSent event, at', ordinal⟩,
        event, List.lookup_cons_self, ?_, rfl, ?_, hroots⟩
      · rw [messageRow_record _ _ _ _ _ hid, (h.absent _ hearlier).2, if_pos rfl]
        rfl
      · have hfirst : replyEventId (some (Json.ofOption reply))
            ("reply parent " ++ p.id ++ ".replyToEventId") = .ok reply :=
          replyEventId_ok.mpr (Names.ofOption hnameable)
        have hsecond : replyEventId (some (Json.ofOption root))
            ("reply parent " ++ p.id ++ ".threadRootEventId") = .ok root :=
          replyEventId_ok.mpr (Names.ofOption hroots)
        simp only [replyRoot, hreply, hroot, hfirst, hsecond, bind, Except.bind]
        exact if_neg fun hbad => hbad.1 (hboth.mpr hbad.2)

/-- Live commits in cursor order store the settled fields. -/
theorem Synced.replay {ms : List StoredMessage} {rows : List (Change × Json)}
    {fields : List (Option String × Option String)} (h : Synced earlier resolved db)
    (hreads : List.Forall₂ Reads rows ms)
    (hnodup : ((earlier ++ ms).map StoredMessage.id).Nodup)
    (hfields : Backfilled (earlier ++ ms) resolved ms fields) (hagree : ∀ r ∈ rows, Agree r.2) :
    ∃ db', replayMessages db rows = .ok db' ∧
      replyLinks db'.changes.sent = replyLinks db.changes.sent ++ replyLinks (rewriteEvents rows fields) := by
  induction hreads generalizing earlier resolved db fields with
  | nil =>
    cases hfields
    exact ⟨db, rfl, (List.append_nil _).symm⟩
  | @cons r m rows ms hread _ ih =>
    cases hfields with
    | @cons _ _ _ reply root fields hreply hroot hrest =>
      have hevent := hagree r List.mem_cons_self
      rw [← hread.event] at hevent
      obtain ⟨correlation, hresolve⟩ := h.resolve hreply hroot hevent
      obtain ⟨hboth, hroots⟩ := h.nameable_root hreply hroot
      have hfresh : messageById? earlier m.id = none := by
        rw [List.map_append, List.nodup_append] at hnodup
        exact messageById?_none.mpr fun hm => hnodup.2.2 _ hm _ List.mem_cons_self rfl
      have hpush := h.push hfresh ((withReply_id r.2 ⟨reply, root, correlation⟩).trans hread.id)
        (withReply_replyToEventId _ _) (withReply_threadRootEventId _ _)
        (backfilledReply_nameable hreply) hboth hroots r.1.occurredAt r.1.sourceOrdinal
      rw [List.append_cons] at hnodup hrest
      obtain ⟨db', hreplay, hlinks⟩ := ih hpush hnodup hrest
        fun r' hr' => hagree r' (List.mem_cons_of_mem _ hr')
      refine ⟨db', ?_, ?_⟩
      · rw [hread.event, hread.channelId] at hresolve
        rw [hread.channelId] at hreplay
        rw [replayMessages, replayMessage, hresolve]
        exact hreplay
      · rw [hlinks, Database.record_changes, sent_append_message, replyLinks, List.map_append,
          List.append_assoc]
        simp [replyLinks, rewriteEvents, replyLink]

end Lockstep

theorem agree_of_replay {db db' : Database} {rows : List (Change × Json)}
    (h : replayMessages db rows = .ok db') : ∀ r ∈ rows, Agree r.2 := by
  induction rows generalizing db with
  | nil => exact fun _ hr => by cases hr
  | cons r rows ih =>
    obtain ⟨db₁, hmessage, hrest⟩ := ok_of_bind h
    obtain ⟨reply, hresolve, _⟩ := ok_of_bind hmessage
    obtain ⟨requested, hrequest, _⟩ := ok_of_bind hresolve
    intro r' hr'
    rcases List.mem_cons.mp hr' with rfl | hr'
    · exact agree_of_requestedReply hrequest
    · exact ih hrest r' hr'

theorem backfilled_iff_linkable {earlier ms : List StoredMessage} {resolved : ResolvedRoots}
    (hkeys : ∀ id, resolved.lookup id = none ↔ messageById? earlier id = none)
    (hnodup : ((earlier ++ ms).map StoredMessage.id).Nodup) :
    (∃ fields, Backfilled (earlier ++ ms) resolved ms fields) ↔ Linkable earlier ms := by
  induction ms generalizing earlier resolved with
  | nil => exact ⟨fun _ => trivial, fun _ => ⟨[], .nil⟩⟩
  | cons m ms ih =>
    have hkeys' (root : Option String) (id : String) :
        ((m.id, root) :: resolved).lookup id = none ↔ messageById? (earlier ++ [m]) id = none := by
      rw [messageById?_append, Option.or_eq_none_iff, ← hkeys, List.lookup_cons]
      by_cases hid : id = m.id
      · simp [hid, messageById?]
      · simp [beq_eq_false_iff_ne.mpr hid, messageById?, Ne.symm hid]
    have hnodup' : ((earlier ++ [m] ++ ms).map StoredMessage.id).Nodup := by
      rwa [← List.append_cons]
    have hlookup (id : String) (hid : messageById? earlier id = none) : resolved.lookup id = none :=
      (hkeys id).mpr hid
    constructor
    · rintro ⟨_, _ | ⟨hreply, hroot, hrest⟩⟩
      rw [List.append_cons] at hrest
      refine ⟨⟨_, hreply, ?_⟩, (ih (hkeys' _) hnodup').mp ⟨_, hrest⟩⟩
      rintro id rfl
      obtain ⟨p, r, hp, hchannel, _, _⟩ := (backfilledRoot_some hlookup).mp hroot
      obtain ⟨hmem, hid⟩ := messageById?_some hp
      exact ⟨p, hmem, hid, hchannel⟩
    · rintro ⟨⟨reply, hreply, hparent⟩, hrest⟩
      have hroot : ∃ root, backfilledRoot (earlier ++ m :: ms) resolved m reply = .ok root := by
        cases reply with
        | none => exact ⟨none, rfl⟩
        | some id =>
          obtain ⟨p, hp, rfl, hchannel⟩ := hparent id rfl
          have hfound : messageById? earlier p.id = some p := by
            rw [List.map_append, List.nodup_append] at hnodup
            exact messageById?_of_mem hnodup.1 hp
          cases hr : resolved.lookup p.id with
          | none =>
            rw [(hkeys p.id).mp hr] at hfound
            cases hfound
          | some r => exact ⟨_, (backfilledRoot_some hlookup).mpr ⟨p, r, hfound, hchannel, hr, rfl⟩⟩
      obtain ⟨root, hroot⟩ := hroot
      obtain ⟨fields, hfields⟩ := (ih (hkeys' root) hnodup').mpr hrest
      rw [← List.append_cons] at hfields
      exact ⟨_, .cons hreply hroot hfields⟩

theorem wellLinked_iff {j : Journal} :
    WellLinked j ↔ ∃ ms fields, List.Forall₂ Reads j.sent ms ∧
      (ms.map StoredMessage.id).Nodup ∧ Backfilled ms [] ms fields := by
  have hstart (ms : List StoredMessage) (hnodup : (ms.map StoredMessage.id).Nodup) :
      (∃ fields, Backfilled ([] ++ ms) [] ms fields) ↔ Linkable [] ms :=
    backfilled_iff_linkable (fun _ => ⟨fun _ => rfl, fun _ => rfl⟩) hnodup
  constructor
  · rintro ⟨ms, hread, hnodup, hlinkable⟩
    obtain ⟨fields, hfields⟩ := (hstart ms hnodup).mpr hlinkable
    exact ⟨ms, fields, readMessages_ok.mp hread, hnodup, hfields⟩
  · rintro ⟨ms, fields, hreads, hnodup, hfields⟩
    exact ⟨ms, readMessages_ok.mpr hreads, hnodup, (hstart ms hnodup).mp ⟨fields, hfields⟩⟩

theorem Backfilled.unique {byId ms : List StoredMessage} {resolved : ResolvedRoots}
    {fields fields' : List (Option String × Option String)} (h : Backfilled byId resolved ms fields)
    (h' : Backfilled byId resolved ms fields') : fields = fields' := by
  induction h generalizing fields' with
  | nil =>
    cases h'
    rfl
  | cons hreply hroot _ ih =>
    cases h' with
    | cons hreply' hroot' hrest' =>
      cases hreply.symm.trans hreply'
      cases hroot.symm.trans hroot'
      rw [ih hrest']

/-- The messages as a second run reads them. -/
def rewriteMessages (ms : List StoredMessage) (fields : List (Option String × Option String)) :
    List StoredMessage :=
  List.zipWith (fun m f => { m with event := migratedEvent m.event f.1 f.2 }) ms fields

theorem reads_rewrite {rows : List (Change × Json)} {ms : List StoredMessage}
    {fields : List (Option String × Option String)} (h : List.Forall₂ Reads rows ms)
    (hlength : ms.length = fields.length) :
    List.Forall₂ Reads (rewriteEvents rows fields) (rewriteMessages ms fields) := by
  induction h generalizing fields with
  | nil =>
    cases fields with
    | nil => exact .nil
    | cons => cases hlength
  | cons hread _ ih =>
    cases fields with
    | nil => cases hlength
    | cons f fields =>
      have hevent := congrArg (fun event => migratedEvent event f.1 f.2) hread.event
      exact .cons ⟨hread.cursor, hread.channelId, hevent, migratedEvent_isRecord,
        migratedEvent_id.trans hread.id, hread.named⟩ (ih (Nat.succ.inj hlength))

/-- The id and the channel under which a message is found. -/
def place (m : StoredMessage) : String × Option String := (m.id, m.channelId)

theorem place_rewrite {ms : List StoredMessage} {fields : List (Option String × Option String)}
    (hlength : ms.length = fields.length) (id : String) :
    (messageById? (rewriteMessages ms fields) id).map place = (messageById? ms id).map place := by
  induction ms generalizing fields with
  | nil => rfl
  | cons m ms ih =>
    cases fields with
    | nil => cases hlength
    | cons f fields =>
      have hrest := ih (Nat.succ.inj hlength)
      simp only [messageById?, rewriteMessages, List.zipWith_cons_cons, List.find?_cons] at hrest ⊢
      by_cases hid : m.id = id
      · simp [hid, place]
      · simpa [hid] using hrest

theorem ids_rewrite {ms : List StoredMessage} {fields : List (Option String × Option String)}
    (hlength : ms.length = fields.length) :
    (rewriteMessages ms fields).map StoredMessage.id = ms.map StoredMessage.id := by
  induction ms generalizing fields with
  | nil => rfl
  | cons m ms ih =>
    cases fields with
    | nil => cases hlength
    | cons f fields => exact congrArg (m.id :: ·) (ih (Nat.succ.inj hlength))

theorem backfilledRoot_congr {byId byId' : List StoredMessage}
    (h : ∀ id, (messageById? byId' id).map place = (messageById? byId id).map place)
    {m m' : StoredMessage} (hm : place m' = place m) (resolved : ResolvedRoots)
    (reply : Option String) :
    backfilledRoot byId' resolved m' reply = backfilledRoot byId resolved m reply := by
  have hid : m'.id = m.id := congrArg Prod.fst hm
  have hchannel : m'.channelId = m.channelId := congrArg Prod.snd hm
  cases reply with
  | none => rfl
  | some id =>
    have hfound := h id
    simp only [backfilledRoot]
    cases hp : messageById? byId id with
    | none =>
      rw [hp] at hfound
      rw [Option.map_eq_none_iff.mp hfound, hid]
    | some p =>
      rw [hp] at hfound
      obtain ⟨p', hp', hplace⟩ := Option.map_eq_some_iff.mp hfound
      have hpid : p'.id = p.id := congrArg Prod.fst hplace
      have hpchannel : p'.channelId = p.channelId := congrArg Prod.snd hplace
      rw [hp']
      simp only [hid, hchannel, hpid, hpchannel]

theorem Backfilled.rewrite {byId byId' ms : List StoredMessage} {resolved : ResolvedRoots}
    {fields : List (Option String × Option String)}
    (hplaces : ∀ id, (messageById? byId' id).map place = (messageById? byId id).map place)
    (h : Backfilled byId resolved ms fields) :
    Backfilled byId' resolved (rewriteMessages ms fields) fields := by
  induction h with
  | nil => exact .nil
  | cons hreply hroot _ ih =>
    exact .cons (backfilledReply_migrated hreply rfl)
      ((backfilledRoot_congr hplaces rfl _ _).trans hroot) ih

theorem rewriteRows_rewriteRows (rows : List Change)
    (fields : List (Option String × Option String)) :
    rewriteRows (rewriteRows rows fields) fields = rewriteRows rows fields := by
  induction rows generalizing fields with
  | nil => cases fields <;> rfl
  | cons c rows ih =>
    cases fields with
    | nil => rfl
    | cons f fields =>
      cases h : c.sent? with
      | none => simp only [rewriteRows, h, ih]
      | some event =>
        have hsent : (({ c with payload := .messageSent (migratedEvent event f.1 f.2) } : Change)).sent? =
            some (migratedEvent event f.1 f.2) := rfl
        simp only [rewriteRows, h, hsent, ih, migratedEvent_migratedEvent]

/-- Carry on with the remaining steps, or stop with the error. -/
def andThen (r : Except Failure Unit × VersionedStore) (next : Prog VersionedStore Failure Unit) :
    Except Failure Unit × VersionedStore :=
  match r with
  | (.ok _, s) => next s
  | (.error e, s) => (.error e, s)

theorem applySteps_cons_new {current v : Nat} (hv : current < v) (vs : List Nat)
    (s : VersionedStore) : applySteps current (v :: vs) s =
      andThen (applyStep v s) fun s' => applySteps current vs { s' with userVersion := v } := by
  simp only [applySteps, if_pos hv]
  change Prog.bind (applyStep v) _ s = _
  unfold Prog.bind andThen
  rcases applyStep v s with ⟨r, s'⟩
  cases r <;> rfl

theorem applySteps_cons_old {current v : Nat} (hv : ¬ current < v) (vs : List Nat)
    (s : VersionedStore) : applySteps current (v :: vs) s = applySteps current vs s := by
  simp only [applySteps, if_neg hv]

theorem applySteps_append (current : Nat) (vs ws : List Nat) (s : VersionedStore) :
    applySteps current (vs ++ ws) s = andThen (applySteps current vs s) (applySteps current ws) := by
  induction vs generalizing s with
  | nil => rfl
  | cons v vs ih =>
    rw [List.cons_append]
    by_cases hv : current < v
    · rw [applySteps_cons_new hv, applySteps_cons_new hv]
      rcases applyStep v s with ⟨r, s'⟩
      cases r with
      | ok => exact ih _
      | error => rfl
    · rw [applySteps_cons_old hv, applySteps_cons_old hv, ih]

theorem applySteps_idle (current : Nat) {vs : List Nat} (h : replyMetadataVersion ∉ vs)
    (s : VersionedStore) : ∃ version, applySteps current vs s = (.ok (), ⟨version, s.changes⟩) := by
  induction vs generalizing s with
  | nil => exact ⟨s.userVersion, rfl⟩
  | cons v vs ih =>
    rw [List.mem_cons, not_or] at h
    by_cases hv : current < v
    · obtain ⟨version, hrest⟩ := ih h.2 { s with userVersion := v }
      refine ⟨version, ?_⟩
      rw [applySteps_cons_new hv, applyStep, if_neg (Ne.symm h.1)]
      exact hrest
    · obtain ⟨version, hrest⟩ := ih h.2 s
      exact ⟨version, (applySteps_cons_old hv vs s).trans hrest⟩

theorem migrate_old {version : Nat} (hversion : version < replyMetadataVersion) (j : Journal) :
    migrate ⟨version, j⟩ =
      match backfillReplyMetadata j with
      | (.ok _, j') => (.ok (), ⟨supportedSchemaVersion, j'⟩)
      | (.error e, _) => (.error e, ⟨version, j⟩) := by
  have hsteps : List.range' 1 supportedSchemaVersion =
      List.range' 1 19 ++ ([20] ++ (List.range' 21 6 ++ [27])) := rfl
  have hstep : version < 20 := hversion
  have hlast : version < 27 := by omega
  have hnotNew : ¬ supportedSchemaVersion < version := by
    simp only [supportedSchemaVersion]
    omega
  have hnotCurrent : ¬ version = supportedSchemaVersion := by
    simp only [supportedSchemaVersion]
    omega
  have hbeforeIdle : replyMetadataVersion ∉ List.range' 1 19 := by decide
  have hafterIdle : replyMetadataVersion ∉ List.range' 21 6 := by decide
  obtain ⟨before, hbefore⟩ := applySteps_idle version hbeforeIdle ⟨version, j⟩
  have hrun : applySteps version (List.range' 1 supportedSchemaVersion) ⟨version, j⟩ =
      match backfillReplyMetadata j with
      | (.ok _, j') => (.ok (), ⟨supportedSchemaVersion, j'⟩)
      | (.error e, j') => (.error e, ⟨before, j'⟩) := by
    rw [hsteps, applySteps_append, hbefore]
    simp only [andThen]
    rw [List.singleton_append, applySteps_cons_new hstep, applyStep, if_pos (by rfl)]
    rcases backfillReplyMetadata j with ⟨r, j'⟩
    cases r with
    | error e => rfl
    | ok u =>
      obtain ⟨after, hafter⟩ := applySteps_idle version hafterIdle ⟨20, j'⟩
      simp only [andThen]
      rw [applySteps_append, hafter]
      simp only [andThen]
      rw [applySteps_cons_new hlast]
      rfl
  change (if supportedSchemaVersion < version then _ else if version = supportedSchemaVersion then _
    else _ : Prog VersionedStore Failure Unit) ⟨version, j⟩ = _
  rw [if_neg hnotNew, if_neg hnotCurrent]
  simp only [atomically, onError, hrun]
  rcases backfillReplyMetadata j with ⟨r, j'⟩
  cases r <;> rfl

theorem backfill_wellLinked {j : Journal} {ms : List StoredMessage}
    {fields : List (Option String × Option String)} (hreads : List.Forall₂ Reads j.sent ms)
    (hnodup : (ms.map StoredMessage.id).Nodup) (hfields : Backfilled ms [] ms fields) :
    ∃ j', backfillReplyMetadata j = (.ok (), j') ∧ j'.rows = rewriteRows j.rows fields := by
  rcases cases_of_wp (backfillReplyMetadata_spec j) with ⟨_, hok, hspec⟩ | ⟨_, _, hnone⟩
  · obtain ⟨ms', fields', hreads', _, hfields', hrows⟩ := hspec
    cases Except.ok.inj ((readMessages_ok.mpr hreads).symm.trans (readMessages_ok.mpr hreads'))
    cases hfields.unique hfields'
    exact ⟨_, Prod.ext hok rfl, hrows⟩
  · exact absurd ⟨ms, fields, hreads, hnodup, hfields⟩ hnone

theorem backfill_again {j j' : Journal} {ms : List StoredMessage}
    {fields : List (Option String × Option String)} (hreads : List.Forall₂ Reads j.sent ms)
    (hnodup : (ms.map StoredMessage.id).Nodup) (hfields : Backfilled ms [] ms fields)
    (hrows : j'.rows = rewriteRows j.rows fields) : backfillReplyMetadata j' = (.ok (), j') := by
  have hlength := hfields.length
  have hsent : j'.sent = rewriteEvents j.sent fields := by
    change sentOf j'.rows = _
    rw [hrows, sentOf_rewriteRows]
    rfl
  have hreads' : List.Forall₂ Reads j'.sent (rewriteMessages ms fields) := by
    rw [hsent]
    exact reads_rewrite hreads hlength
  have hnodup' : ((rewriteMessages ms fields).map StoredMessage.id).Nodup := by
    rwa [ids_rewrite hlength]
  obtain ⟨j'', hrun, hrows'⟩ :=
    backfill_wellLinked hreads' hnodup' (hfields.rewrite (place_rewrite hlength))
  have hsame : j'' = j' := by
    apply Journal.ext
    rw [hrows', hrows, rewriteRows_rewriteRows]
  rw [hrun, hsame]

theorem forall₂_keepsMembers {rows : List (Change × Json)} {ms : List StoredMessage}
    {fields : List (Option String × Option String)} (hreads : List.Forall₂ Reads rows ms)
    (hsettled : List.Forall₂ (fun m f => backfilledReply m = .ok f.1) ms fields) :
    List.Forall₂ (fun r f => KeepsMembers r.2 (migratedEvent r.2 f.1 f.2)) rows fields ↔
      ∀ r ∈ rows, ∀ id, r.2.member "replyToEventId" = some (.str id) → correlationIsRecord r.2 := by
  induction hreads generalizing fields with
  | nil =>
    cases hsettled
    exact ⟨fun _ _ hr => (by cases hr), fun _ => .nil⟩
  | @cons r m rows ms hread _ ih =>
    cases hsettled with
    | @cons _ f _ fields hreply hrest =>
      rw [List.forall₂_cons, ih hrest, List.forall_mem_cons]
      refine and_congr_left fun _ => ⟨fun hkeeps id hid => ?_, fun hroom => ?_⟩
      · have hsome : ∃ id', f.1 = some id' := by
          obtain ⟨canonical, legacy, hcanonical, _, heq⟩ := backfilledReply_ok.mp hreply
          rw [hread.event, hid] at hcanonical
          cases hcanonical with
          | nobody hnull => cases hnull
          | parent => exact ⟨id, heq⟩
        obtain ⟨id', hid'⟩ := hsome
        rw [hid'] at hkeeps
        exact correlationIsRecord_of_keepsMembers hkeeps
      · have hsettled := correlationIsRecord_of_settled hreply
        rw [hread.event] at hsettled
        exact keepsMembers_migratedEvent (hsettled hroom)

/-- A message of a legacy journal with the members given. -/
def legacyRow (j : Journal) (id : String) (rest : List (String × Json)) : Journal :=
  j.append none (.messageSent (.obj (("id", .str id) :: rest))) "1970-01-01T00:00:00.000Z" none

/-- Two roots, and a third message that names the one in its field and the other in its
correlation. -/
def conflictingJournal : Journal :=
  legacyRow (legacyRow (legacyRow .empty "event_a" []) "event_b" []) "event_c"
    [("replyToEventId", .str "event_a"), ("correlation", .obj [("replyToEventId", .str "event_b")])]

end Wardroom.Conversations
