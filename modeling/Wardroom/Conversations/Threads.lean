import Wardroom.Library.Trace
import Wardroom.Storage.Transitions

/-! # The structure of threads

A stored reply points at an earlier message of its channel and carries the root
of its thread. The root is computed from the stored parent alone, so that each
new row extends a forest in which every stored root is the one the parent chain
leads to.
-/

namespace Wardroom.Conversations
open Wardroom.Library Wardroom.Domain Wardroom.Storage

/-- Following parents from an event that is a reply ends at the message `root`. -/
inductive RootedAt (db : Database) : Json → String → Prop
  | parent {event parent : Json} {id : String} {row : Change}
      (hreply : event.member "replyToEventId" = some (.str id))
      (hparent : db.messageRow id = some (row, parent))
      (hroot : parent.member "replyToEventId" = some .null) : RootedAt db event id
  | ancestor {event parent : Json} {id root : String} {row : Change}
      (hreply : event.member "replyToEventId" = some (.str id))
      (hparent : db.messageRow id = some (row, parent))
      (hroot : RootedAt db parent root) : RootedAt db event root

namespace RootedAt

variable {db : Database} {event : Json} {root root' : String}

theorem isReply (h : RootedAt db event root) :
    ∃ id, event.member "replyToEventId" = some (.str id) := by
  cases h with
  | parent hreply => exact ⟨_, hreply⟩
  | ancestor hreply => exact ⟨_, hreply⟩

/-- The chain of parents is determined by the stored events, so it has one end. -/
theorem unique (h : RootedAt db event root) (h' : RootedAt db event root') : root = root' := by
  induction h with
  | @parent event parent id row hreply hparent hroot =>
    cases h' with
    | @parent _ _ id' row' hreply' hparent' _ =>
      simpa using hreply.symm.trans hreply'
    | @ancestor _ parent' id' _ row' hreply' hparent' hroot' =>
      have hid : id = id' := by simpa using hreply.symm.trans hreply'
      subst hid
      cases hparent.symm.trans hparent'
      obtain ⟨pid, hpid⟩ := hroot'.isReply
      cases hroot.symm.trans hpid
  | @ancestor event parent id root row hreply hparent hroot ih =>
    cases h' with
    | @parent _ parent' id' row' hreply' hparent' hroot' =>
      have hid : id = root' := by simpa using hreply.symm.trans hreply'
      subst hid
      cases hparent.symm.trans hparent'
      obtain ⟨pid, hpid⟩ := hroot.isReply
      cases hroot'.symm.trans hpid
    | @ancestor _ parent' id' _ row' hreply' hparent' hroot' =>
      have hid : id = id' := by simpa using hreply.symm.trans hreply'
      subst hid
      cases hparent.symm.trans hparent'
      exact ih hroot'

end RootedAt

/-- What a stored message row promises about its place in a thread. -/
structure Linked (db : Database) (row : Change) (event : Json) : Prop where
  /-- both fields are stored, and a message that is no reply has neither -/
  fields : ∃ reply root, event.member "replyToEventId" = some (Json.ofOption reply) ∧
    event.member "threadRootEventId" = some (Json.ofOption root) ∧ (reply = none → root = none)
  /-- the parent exists, in the same channel, at a smaller cursor -/
  parent : ∀ id, event.member "replyToEventId" = some (.str id) → ∃ prow pevent,
    db.messageRow id = some (prow, pevent) ∧ prow.channelId = row.channelId ∧
      prow.cursor < row.cursor
  /-- the stored root is the end of the parent chain, and is itself no reply -/
  root : ∀ id, event.member "replyToEventId" = some (.str id) → ∃ root,
    event.member "threadRootEventId" = some (.str root) ∧ RootedAt db event root ∧
      (∀ root', RootedAt db event root' → root' = root) ∧
      ∃ rrow revent, db.messageRow root = some (rrow, revent) ∧
        revent.member "replyToEventId" = some .null ∧ revent.member "threadRootEventId" = some .null
  /-- the correlation mirrors the parent -/
  mirror : ∀ id, event.member "replyToEventId" = some (.str id) →
    ((event.member "correlation").bind fun c => c.member "replyToEventId") = some (.str id)

def Threaded (db : Database) : Prop := ∀ r ∈ db.changes.sent, Linked db r.1 r.2

section Growth

variable {db db' : Database} {extra : List (Change × Json)}

theorem messageRow_grow (h : db'.changes.sent = db.changes.sent ++ extra) {id : String}
    {r : Change × Json} (hr : db.messageRow id = some r) : db'.messageRow id = some r := by
  unfold Database.messageRow at hr ⊢
  rw [h, List.find?_append, hr]
  rfl

theorem RootedAt.grow (h : db'.changes.sent = db.changes.sent ++ extra) {event : Json}
    {root : String} (hr : RootedAt db event root) : RootedAt db' event root := by
  induction hr with
  | parent hreply hparent hroot => exact .parent hreply (messageRow_grow h hparent) hroot
  | ancestor hreply hparent _ ih => exact .ancestor hreply (messageRow_grow h hparent) ih

theorem Linked.grow (h : db'.changes.sent = db.changes.sent ++ extra) {row : Change} {event : Json}
    (hl : Linked db row event) : Linked db' row event where
  fields := hl.fields
  parent id hid := by
    obtain ⟨prow, pevent, hrow, hplace⟩ := hl.parent id hid
    exact ⟨prow, pevent, messageRow_grow h hrow, hplace⟩
  root id hid := by
    obtain ⟨root, hstored, hrooted, _, rrow, revent, hrow, hnull⟩ := hl.root id hid
    have hrooted' := hrooted.grow h
    exact ⟨root, hstored, hrooted', fun _ hr => hr.unique hrooted', rrow, revent,
      messageRow_grow h hrow, hnull⟩
  mirror := hl.mirror

theorem Threaded.of_sent (h : db'.changes.sent = db.changes.sent) (hI : Threaded db) :
    Threaded db' := by
  intro r hr
  rw [h] at hr
  exact (hI r hr).grow (h.trans (List.append_nil _).symm)

end Growth

theorem mem_sent_of_messageRow {db : Database} {id : String} {r : Change × Json}
    (h : db.messageRow id = some r) : r ∈ db.changes.sent := List.mem_of_find?_eq_some h

theorem sent_mem_rows {j : Journal} {r : Change × Json} (h : r ∈ j.sent) : r.1 ∈ j.rows := by
  obtain ⟨c, hc, hr⟩ := List.mem_filterMap.mp h
  obtain ⟨event, _, rfl⟩ := Option.map_eq_some_iff.mp hr
  exact hc

theorem replyRoot_of_root {parent : Json} (hreply : parent.member "replyToEventId" = some .null)
    (hroot : parent.member "threadRootEventId" = some .null) (id : String) :
    replyRoot id parent = .ok id := by
  simp only [replyRoot, hreply, hroot]
  rfl

theorem eq_of_replyRoot {parent : Json} {stored root id : String}
    (hstored : parent.member "threadRootEventId" = some (.str stored))
    (h : replyRoot id parent = .ok root) : root = stored := by
  simp only [replyRoot, hstored] at h
  cases hreply : replyEventId (parent.member "replyToEventId")
      ("reply parent " ++ id ++ ".replyToEventId") with
  | error e =>
    rw [hreply] at h
    cases h
  | ok reply =>
    rw [hreply] at h
    by_cases hbad : Text.blank stored ∨ 512 < stored.utf8ByteSize
    · simp only [replyEventId, if_pos hbad] at h
      cases h
    · simp only [replyEventId, if_neg hbad] at h
      simpa [bind, Except.bind] using h.symm

theorem linked_append {db : Database} (hthreaded : Threaded db) {channelId : Option String}
    {replyToEventId correlation : Option Json} {reply : ReplyMetadata}
    (hresolved : Resolved db channelId replyToEventId correlation reply) {event : Json}
    (hreply : event.member "replyToEventId" = some (Json.ofOption reply.replyToEventId))
    (hroot : event.member "threadRootEventId" = some (Json.ofOption reply.threadRootEventId))
    (hcorrelation : event.member "correlation" = reply.correlation) (at' : String)
    (ordinal : Option Int) :
    Linked (db.record channelId (.messageSent event) at' ordinal)
      ⟨db.changes.latestCursor + 1, channelId, .messageSent event, at', ordinal⟩ event := by
  have hgrow : (db.record channelId (.messageSent event) at' ordinal).changes.sent =
      db.changes.sent ++ _ := sent_append_message db.changes channelId event at' ordinal
  cases hresolved with
  | root hnone =>
    have hnull (id : String) : event.member "replyToEventId" ≠ some (.str id) := by
      rw [hreply]
      simp [Json.ofOption]
    exact ⟨⟨none, none, hreply, hroot, fun _ => rfl⟩, fun id hid => (hnull id hid).elim,
      fun id hid => (hnull id hid).elim, fun id hid => (hnull id hid).elim⟩
  | reply parentId root row parent hrequest hparent hchannel hrootOf hopen =>
    have hmem := mem_sent_of_messageRow hparent
    have hparent' := messageRow_grow hgrow hparent
    have hlinked := hthreaded _ hmem
    refine ⟨⟨some parentId, some root, hreply, hroot, fun h => by cases h⟩, ?_, ?_, ?_⟩
    · intro id hid
      have heq : parentId = id := by simpa [Json.ofOption] using hreply.symm.trans hid
      subst heq
      exact ⟨row, parent, hparent', hchannel,
        Nat.lt_succ_of_le (Journal.cursor_le_latest (sent_mem_rows hmem))⟩
    · intro id hid
      have heq : parentId = id := by simpa [Json.ofOption] using hreply.symm.trans hid
      subst heq
      obtain ⟨preply, proot, hpreply, hproot, hnone⟩ := hlinked.fields
      cases preply with
      | none =>
        -- the parent is a root, and its id is the root of the reply
        rw [hnone rfl] at hproot
        rw [replyRoot_of_root hpreply hproot] at hrootOf
        cases hrootOf
        have hrooted := RootedAt.parent hid hparent' hpreply
        exact ⟨parentId, hroot, hrooted, fun _ hr => hr.unique hrooted, row, parent, hparent',
          hpreply, hproot⟩
      | some pid =>
        -- the parent is a reply, and hands on the root the invariant gives it
        obtain ⟨stored, hstored, hrooted, _, rrow, revent, hrrow, hnull⟩ := hlinked.root pid hpreply
        have heq := eq_of_replyRoot hstored hrootOf
        subst heq
        have hrooted' := RootedAt.ancestor hid hparent' (hrooted.grow hgrow)
        exact ⟨root, hroot, hrooted', fun _ hr => hr.unique hrooted', rrow, revent,
          messageRow_grow hgrow hrrow, hnull⟩
    · intro id hid
      have heq : parentId = id := by simpa [Json.ofOption] using hreply.symm.trans hid
      subst heq
      simp [hcorrelation]

/-- The journal grows by rows that are no messages, or by one message whose reply was resolved. -/
inductive Conversed (db : Database) : Database → Prop
  | quiet {db' : Database} (hrows : db.changes.rows <+: db'.changes.rows)
      (hsent : db'.changes.sent = db.changes.sent) : Conversed db db'
  | message {channelId : Option String} {replyToEventId correlation : Option Json}
      {reply : ReplyMetadata} {event : Json}
      (hresolved : Resolved db channelId replyToEventId correlation reply)
      (hreply : event.member "replyToEventId" = some (Json.ofOption reply.replyToEventId))
      (hroot : event.member "threadRootEventId" = some (Json.ofOption reply.threadRootEventId))
      (hcorrelation : event.member "correlation" = reply.correlation) (at' : String)
      (ordinal : Option Int) :
      Conversed db (db.record channelId (.messageSent event) at' ordinal)

theorem Conversed.prefix {db db' : Database} (h : Conversed db db') :
    db.changes.rows <+: db'.changes.rows := by
  cases h with
  | quiet hrows => exact hrows
  | message => exact List.prefix_append _ _

theorem Conversed.threaded {db db' : Database} (h : Conversed db db') (hI : Threaded db) :
    Threaded db' := by
  cases h with
  | quiet _ hsent => exact hI.of_sent hsent
  | @message channelId _ _ reply event hresolved hreply hroot hcorrelation at' ordinal =>
    intro r hr
    have hgrow := sent_append_message db.changes channelId event at' ordinal
    rw [Database.record_changes, hgrow, List.mem_append, List.mem_singleton] at hr
    rcases hr with hr | rfl
    · exact (hI r hr).grow hgrow
    · exact linked_append hI hresolved hreply hroot hcorrelation at' ordinal

/-- A reply is never appended under a root whose thread is resolved. -/
theorem Conversed.open {db db' : Database} (h : Conversed db db') {r : Change × Json}
    (hr : r ∈ db'.changes.sent) (hnew : r ∉ db.changes.sent) {root : String}
    (hroot : r.2.member "threadRootEventId" = some (.str root)) :
    ((db.threadRow root).any fun t => t.state = .resolved) = false := by
  cases h with
  | quiet _ hsent => exact absurd (hsent ▸ hr) hnew
  | @message channelId _ _ reply event hresolved _ hstored _ at' ordinal =>
    rw [Database.record_changes, sent_append_message, List.mem_append, List.mem_singleton] at hr
    rcases hr with hr | rfl
    · exact absurd hr hnew
    · cases hresolved with
      | root => simp [hstored, Json.ofOption] at hroot
      | reply id root' row parent _ _ _ _ hopen =>
        have heq : root' = root := by simpa [hstored, Json.ofOption] using hroot
        exact heq ▸ hopen

theorem conversed_of_committed {db db' : Database} {input : CanonicalMessageCommitInput}
    {r : CommitReceipt} (h : Committed input db r db') : Conversed db db' := by
  cases h with
  | duplicate => exact .quiet List.prefix_rfl rfl
  | fresh reply uuid occurredAt at' receipt _ hreply _ =>
    exact .message (resolved_of_ok hreply) (messageEvent_replyToEventId _ _ _ _)
      (messageEvent_threadRootEventId _ _ _ _) (messageEvent_correlation _ _ _ _) at' none

theorem conversed_of_threadChanged {db db' : Database} (h : ThreadChanged db db') :
    Conversed db db' := by
  cases h with
  | same => exact .quiet List.prefix_rfl rfl
  | resolved threads thread channelId at' =>
    exact .quiet (List.prefix_append _ _) (sent_append_other fun _ => by simp)
  | reopened threads thread channelId at' =>
    exact .quiet (List.prefix_append _ _) (sent_append_other fun _ => by simp)

theorem importedEvent_replyFields (value : Json) (channelId : Option String)
    (occurredAt : Option Json) (reply : ReplyMetadata) :
    (importedEvent value channelId occurredAt reply).member "replyToEventId" =
        some (Json.ofOption reply.replyToEventId) ∧
      (importedEvent value channelId occurredAt reply).member "threadRootEventId" =
        some (Json.ofOption reply.threadRootEventId) ∧
      (importedEvent value channelId occurredAt reply).member "correlation" =
        reply.correlation := by
  simp [importedEvent]

theorem conversed_of_importAppended {session : ImportSession} {event : CanonicalImportEvent}
    {db db' : Database} (h : ImportAppended session event db db') : Conversed db db' := by
  cases h with
  | message value channelId occurredAt reply _ hreply =>
    obtain ⟨hfield, hroot, hcorrelation⟩ :=
      importedEvent_replyFields value channelId occurredAt reply
    exact .message (resolved_of_ok hreply) hfield hroot hcorrelation _ _
  | legacy db₁ hrows =>
    refine .quiet ?_ ?_
    · rw [Database.record_changes, Journal.rows_append, hrows.changes]
      exact List.prefix_append _ _
    · rw [Database.record_changes, sent_append_other fun _ => by simp, hrows.changes]

/-- The operations that write messages and thread states, and those of an import. -/
inductive ThreadOp where
  | commitMessage (input : CanonicalMessageCommitInput)
  | resolveThread (threadRootEventId actorSessionId : String) (channelId : Option String)
  | reopenThread (threadRootEventId actorSessionId : String) (channelId : Option String)
  | importBegin (sourceDigest : String) (sourceVersion : Int)
  | importAppend (event : CanonicalImportEvent)
  | importCommit
  | importRollback

def threadStep (w : World) : ThreadOp → World
  | .commitMessage input => (commitMessage input w).2
  | .resolveThread root actor channelId => (resolveThread root actor channelId w).2
  | .reopenThread root actor channelId => (reopenThread root actor channelId w).2
  | .importBegin digest version => (importBegin digest version w).2
  | .importAppend event => (importAppend event w).2
  | .importCommit => (importCommit w).2
  | .importRollback => (importRollback w).2

theorem setThreadState_transition {w : World} (h : w.transactionDepth = 0) (root actor : String)
    (state : ThreadState) (channelId : Option String) :
    Transition (fun w => Conversed w.db) w (setThreadState root actor state channelId w).2 := by
  have hsettles : Settles (setThreadState root actor state channelId) w
      fun _ db' => ThreadChanged w.db db' :=
    write_settles rfl h (setThreadState_effect w root actor state channelId)
  exact (transition_of_settles hsettles).mono
    fun _ ⟨_, hdb⟩ => conversed_of_threadChanged hdb

theorem threadStep_transition {w : World} (h : w.transactionDepth = 0) (op : ThreadOp) :
    Transition (fun w => Conversed w.db) w (threadStep w op) := by
  cases op with
  | commitMessage input =>
    have hsettles : Settles (Storage.commitMessage input) w
        fun r db' => Committed input w.db r db' :=
      write_settles rfl h (commitMessage_effect w input)
    exact (transition_of_settles hsettles).mono
      fun _ ⟨_, hdb⟩ => conversed_of_committed hdb
  | resolveThread root actor channelId => exact setThreadState_transition h root actor .resolved channelId
  | reopenThread root actor channelId => exact setThreadState_transition h root actor .open channelId
  | importBegin digest version => exact importBegin_transition _ digest version
  | importAppend event =>
    exact (importAppend_transition event).mono
      fun _ ⟨_, _, hdb⟩ => conversed_of_importAppended hdb
  | importCommit => exact importCommit_transition _
  | importRollback => exact importRollback_transition _

/-- The state of every run: no transaction open, and every database that can come back threaded. -/
structure ThreadInvariant (w : World) : Prop where
  transactionDepth : w.transactionDepth = 0
  threaded : Durable Threaded w
  restores : Restores w

theorem threadStep_invariant {w : World} (h : ThreadInvariant w) (op : ThreadOp) :
    ThreadInvariant (threadStep w op) := by
  have hstep := threadStep_transition h.transactionDepth op
  exact ⟨hstep.transactionDepth.trans h.transactionDepth,
    hstep.durable (fun _ hI hE => hE.threaded hI)
      (fun db _ (hI : Threaded db) => hI.of_sent (show _ = db.changes.sent from rfl)) h.threaded,
    hstep.restores (fun _ hE => hE.prefix) h.restores⟩

theorem threadStep_open {w : World} (h : ThreadInvariant w) (op : ThreadOp) {r : Change × Json}
    (hr : r ∈ (threadStep w op).db.changes.sent) (hnew : r ∉ w.db.changes.sent) {root : String}
    (hroot : r.2.member "threadRootEventId" = some (.str root)) :
    ((w.db.threadRow root).any fun t => t.state = .resolved) = false := by
  cases threadStep_transition h.transactionDepth op with
  | refused hdb => exact absurd (hdb ▸ hr) hnew
  | effect hdb => exact hdb.open hr hnew hroot
  | began hbegan =>
    obtain ⟨batches, hdb⟩ := hbegan.db
    rw [hdb] at hr
    exact absurd hr hnew
  | committed hcommitted =>
    obtain ⟨batches, hdb⟩ := hcommitted.db
    rw [hdb] at hr
    exact absurd hr hnew
  | rolledBack hback =>
    rw [hback.db] at hr
    cases hsession : w.importSession with
    | none =>
      rw [hsession] at hr
      exact absurd hr hnew
    | some session =>
      rw [hsession] at hr
      have hsub : session.before.changes.sent.Sublist w.db.changes.sent :=
        (h.restores session hsession).sublist.filterMap _
      exact absurd (hsub.subset hr) hnew

/-- In every run from a store without messages the threads are well formed, and no reply joins a
thread that is resolved when it is appended. -/
theorem threads_wellFormed {w : World} (hrest : w.transactionDepth = 0)
    (hidle : w.importSession = none) (hempty : w.db.changes.sent = []) (ops : List ThreadOp) :
    Threaded (Trace.run threadStep w ops).db ∧
      ∀ op, ∀ r ∈ (threadStep (Trace.run threadStep w ops) op).db.changes.sent,
        r ∉ (Trace.run threadStep w ops).db.changes.sent →
        ∀ root, r.2.member "threadRootEventId" = some (.str root) →
          ∀ thread, (Trace.run threadStep w ops).db.threadRow root = some thread →
            thread.state ≠ .resolved := by
  have hnone : Threaded w.db := fun r hr => by
    rw [hempty] at hr
    cases hr
  have hstart : ThreadInvariant w :=
    ⟨hrest, ⟨hnone, fun s hs => by cases hidle.symm.trans hs⟩, fun s hs => by cases hidle.symm.trans hs⟩
  have hrun : ThreadInvariant (Trace.run threadStep w ops) :=
    Trace.invariant_of_step (fun w op (hw : ThreadInvariant w) => threadStep_invariant hw op)
      hstart ops
  refine ⟨hrun.threaded.1, fun op r hr hnew root hroot thread hthread hresolved => ?_⟩
  have hopen := threadStep_open hrun op hr hnew hroot
  rw [hthread] at hopen
  simp [hresolved] at hopen

def remark (replyToEventId : Option String) : CanonicalMessageCommitInput where
  channelId := some "harbour"
  senderSessionId := "alice"
  body := "aye"
  target := none
  replyToEventId := replyToEventId.map .str
  correlation := none
  deliveryStatuses := none
  attachmentReferences := none

def oneChannel : World :=
  let setUp : Command MutationReceipt := do
    let _ ← insertSession { id := "alice", role := some .operator }
    let _ ← insertChannel "harbour" (some "alice")
    insertMembership "harbour" "alice" (some .operator)
  (setUp (World.initial .empty tally tally)).2

theorem threads_wellFormed_nested_reply :
    Threaded (Trace.run threadStep oneChannel [.commitMessage (remark none),
      .commitMessage (remark (some "event_")), .commitMessage (remark (some "event_1")),
      .resolveThread "event_" "alice" none]).db :=
  (threads_wellFormed rfl rfl rfl _).1

end Wardroom.Conversations
