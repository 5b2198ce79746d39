import Wardroom.Library.Replay
import Wardroom.Library.Trace
import Wardroom.Rotation.Repository
import Wardroom.Storage.Operations
import Wardroom.Storage.Readers

/-! # Following the journal from a snapshot

A client holds the active memberships of a channel and applies the changes it
is told of. The journal tells of every operation of the store but three: the
swap of a rotated worker, the memberships that a reactivation restores, and the
membership records of an import.
-/

namespace Wardroom.Feeds
open Wardroom.Library Wardroom.Domain Wardroom.Storage Wardroom.Rotation

/-- The active memberships of a channel. -/
def present (channelId : String) (db : Database) : List Membership :=
  db.memberships.select fun m => m.channelId = channelId ∧ m.active

/-- Of the rows of its session, the one that joined last. -/
def newest (ms : List Membership) (m : Membership) : Bool :=
  ms.all fun n => n.sessionId = m.sessionId → n.joinedAt ≤ m.joinedAt

def recast (demoted : List String) (sessionId : String) (role : SessionRole) (m : Membership) :
    Membership :=
  if m.sessionId = sessionId then { m with role := some role }
  else if m.sessionId ∈ demoted then { m with role := some .worker }
  else m

/-- What a client of the channel makes of a change. A reactivation and a reopening name no
membership. -/
def applyChange (channelId : String) (ms : List Membership) (c : Change) : List Membership :=
  match c.payload with
  | .membershipJoined channel sessionId joinedAt role =>
    if channel = channelId then ms ++ [⟨channel, sessionId, joinedAt, none, none, role⟩] else ms
  | .membershipLeft channel sessionId _ _ =>
    if channel = channelId then ms.filter fun m => !(m.sessionId = sessionId && newest ms m) else ms
  | .sessionEnded sessionId _ _ => ms.filter fun m => m.sessionId ≠ sessionId
  | .sessionRoleUpdated _ sessionId _ role demoted _ => ms.map (recast demoted sessionId role)
  | .channelClosed channel _ => if channel = channelId then [] else ms
  | _ => ms

/-- The changes with a cursor in `(after, upTo]`. -/
def changesBetween (db : Database) (after upTo : Nat) : List Change :=
  db.changes.rows.filter fun c => after < c.cursor ∧ c.cursor ≤ upTo

theorem applyChange_other {channelId : String} {ms : List Membership} {c : Change}
    (h : rosterPayload c.payload = false) : applyChange channelId ms c = ms := by
  unfold applyChange
  cases hpayload : c.payload with
  | membershipJoined => simp [hpayload, rosterPayload] at h
  | membershipLeft => simp [hpayload, rosterPayload] at h
  | sessionEnded => simp [hpayload, rosterPayload] at h
  | sessionRoleUpdated => simp [hpayload, rosterPayload] at h
  | channelClosed => simp [hpayload, rosterPayload] at h
  | _ => rfl

theorem newest_perm {ms ns : List Membership} (h : ms.Perm ns) (m : Membership) :
    newest ms m = newest ns m := by
  unfold newest
  rw [Bool.eq_iff_iff, List.all_eq_true, List.all_eq_true]
  exact forall_congr' fun n => imp_congr_left h.mem_iff

/-- The order in which a client keeps its rows does not matter. -/
theorem applyChange_perm {channelId : String} (ms ns : List Membership) (c : Change)
    (h : ms.Perm ns) : (applyChange channelId ms c).Perm (applyChange channelId ns c) := by
  unfold applyChange
  cases c.payload with
  | membershipJoined channel sessionId joinedAt role =>
    by_cases hchannel : channel = channelId
    · simp only [if_pos hchannel]
      exact h.append_right _
    · simpa only [if_neg hchannel] using h
  | membershipLeft channel sessionId leftAt role =>
    by_cases hchannel : channel = channelId
    · simp only [if_pos hchannel, newest_perm h]
      exact h.filter _
    · simpa only [if_neg hchannel] using h
  | sessionEnded sessionId => exact h.filter _
  | sessionRoleUpdated => exact h.map _
  | channelClosed channel closedAt =>
    by_cases hchannel : channel = channelId
    · simp only [if_pos hchannel]
      exact .refl _
    · simpa only [if_neg hchannel] using h
  | _ => exact h

/-- The journal tells a client of the channel of the step from `db` to `db'`. -/
def Tells (channelId : String) (db db' : Database) : Prop :=
  Replay.Accounts (applyChange channelId) List.Perm (fun db => db.changes.rows) (present channelId)
    db db'

section Tells

variable {channelId : String} {db db' db'' : Database}

theorem Tells.refl (channelId : String) (db : Database) : Tells channelId db db :=
  Replay.Accounts.of_unlogged rfl (.refl _)

theorem Tells.trans (h : Tells channelId db db') (h' : Tells channelId db' db'') :
    Tells channelId db db'' :=
  Replay.Accounts.trans applyChange_perm (fun _ _ _ => List.Perm.trans) h h'

theorem tells_of_unlogged (hchanges : db'.changes = db.changes)
    (hpresent : present channelId db' = present channelId db) : Tells channelId db db' :=
  Replay.Accounts.of_unlogged (congrArg Journal.rows hchanges) (hpresent ▸ .refl _)

theorem tells_of_record {db₁ : Database} {channel : Option String} {payload : Payload}
    {at' : String} {ordinal : Option Int} (hchanges : db₁.changes = db.changes)
    (hpresent : ∀ cursor, applyChange channelId (present channelId db)
      ⟨cursor, channel, payload, at', ordinal⟩ = present channelId db₁) :
    Tells channelId db (db₁.record channel payload at' ordinal) := by
  refine Replay.Accounts.of_entry (e := ⟨db₁.changes.latestCursor + 1, channel, payload, at', ordinal⟩)
    ?_ ?_
  · simp only [Database.record_changes, Journal.rows_append, hchanges]
  · rw [hpresent]
    exact .refl _

end Tells

section Operations

variable {channelId : String} {db db' : Database}

theorem mem_present {m : Membership} :
    m ∈ present channelId db ↔
      m ∈ db.memberships.rows ∧ m.channelId = channelId ∧ m.active = true := by
  simp [present, Table.mem_select]

theorem present_congr (h : db'.memberships = db.memberships) :
    present channelId db' = present channelId db := by
  unfold present
  rw [h]

theorem tells_of_aside (h : Aside db db') : Tells channelId db db' := by
  cases h with
  | unlogged _ hmemberships hchanges => exact tells_of_unlogged hchanges (present_congr hmemberships)
  | logged _ hmemberships hchanges channel payload at' hpayload =>
    refine tells_of_record hchanges fun cursor => ?_
    rw [applyChange_other hpayload, present_congr hmemberships]

theorem present_ended {q : Membership → Bool} {f : Membership → Membership}
    (hrows : db'.memberships.rows = db.memberships.rows.map fun m => if q m then f m else m)
    (hf : ∀ m, (f m).active = false) :
    present channelId db' = (present channelId db).filter fun m => !q m := by
  unfold present Table.select
  rw [hrows]
  exact Table.filter_rewrite_off fun m => by simp [hf]

variable {channel sessionId : String}

theorem tells_of_joined {role : Option SessionRole}
    (h : Joined channel sessionId role db db') : Tells channelId db db' := by
  cases h with
  | already => exact .refl _ _
  | joined joinedAt at' memberships _ _ _ hinsert =>
    refine tells_of_record rfl fun cursor => ?_
    have hrows := (Table.insert?_eq_some.mp hinsert).2
    simp only [applyChange, present, Table.select, hrows, List.filter_append]
    by_cases hchannel : channel = channelId
    · simp [hchannel, Membership.active]
    · simp [hchannel]

theorem tells_of_left (h : Left channel sessionId db db') :
    Tells channelId db db' := by
  cases h with
  | mk joined leftAt at' hjoined =>
    refine tells_of_record rfl fun cursor => ?_
    have hended : present channelId (db.markLeft (channel, sessionId, joined.joinedAt) leftAt) =
        (present channelId db).filter fun m => !decide (m.key = (channel, sessionId, joined.joinedAt)) :=
      present_ended rfl fun m => by simp [Membership.active]
    rw [hended]
    by_cases hchannel : channel = channelId
    · subst hchannel
      simp only [applyChange, if_true]
      refine List.filter_congr fun m hm => ?_
      obtain ⟨hrow, hm, hactive⟩ := mem_present.mp hm
      obtain ⟨hjrow, hjchannel, hjsession, hjactive⟩ :=
        Database.mem_activeRows.mp (latestJoined_mem hjoined)
      congr 1
      rw [Bool.eq_iff_iff]
      simp only [Bool.and_eq_true, decide_eq_true_eq, Membership.key, Prod.mk.injEq, hm, true_and]
      refine and_congr_right fun hsession => ?_
      unfold newest
      rw [List.all_eq_true]
      constructor
      · -- the row that left is among those the client compares
        intro hnewest
        have hle := hnewest joined (mem_present.mpr ⟨hjrow, hjchannel, hjactive⟩)
        simp only [decide_eq_true_eq] at hle
        have hge := latestJoined_max hjoined m
          (Database.mem_activeRows.mpr ⟨hrow, hm, hsession, hactive⟩)
        exact le_antisymm hge (hle (hjsession.trans hsession.symm))
      · intro hsame n hn
        obtain ⟨hnrow, hnchannel, hnactive⟩ := mem_present.mp hn
        simp only [decide_eq_true_eq]
        intro hnsession
        rw [hsame]
        exact latestJoined_max hjoined n
          (Database.mem_activeRows.mpr ⟨hnrow, hnchannel, hnsession.trans hsession, hnactive⟩)
    · simp only [applyChange, if_neg hchannel]
      symm
      rw [List.filter_eq_self]
      intro m hm
      have hother : m.channelId ≠ channel := fun heq =>
        hchannel (heq.symm.trans (mem_present.mp hm).2.1)
      simp [Membership.key, hother]

theorem present_endSession (sessionId endedAt : String) :
    present channelId (db.endSession sessionId endedAt) =
      (present channelId db).filter fun m => m.sessionId ≠ sessionId := by
  have hended : present channelId (db.endSession sessionId endedAt) =
      (present channelId db).filter fun m => !decide (m.sessionId = sessionId ∧ m.active = true) :=
    present_ended rfl fun m => by simp [Membership.active]
  rw [hended]
  refine List.filter_congr fun m hm => ?_
  simp [(mem_present.mp hm).2.2]

theorem tells_of_sessionEnded {sessionId : String} (h : SessionEnded sessionId db db') :
    Tells channelId db db' := by
  cases h with
  | mk endedAt at' memberships =>
    refine tells_of_record rfl fun cursor => ?_
    rw [present_endSession]
    rfl

theorem tells_of_reactivated {sessionId : String} (h : Reactivated sessionId db db')
    (hnone : ∀ m ∈ db.memberships.rows, db.restorable sessionId m = false) :
    Tells channelId db db' := by
  have hrows : (db.reactivate sessionId).memberships = db.memberships := by
    apply Table.ext
    change List.map _ db.memberships.rows = _
    calc
      db.memberships.rows.map _ = db.memberships.rows.map id :=
        List.map_congr_left fun m hm => by simp [hnone m hm]
      _ = db.memberships.rows := List.map_id _
  cases h with
  | idle => exact tells_of_aside (.unlogged _ hrows rfl)
  | mk => exact tells_of_aside (.logged _ hrows rfl _ _ _ rfl)

theorem tells_of_channelClosed {channel : String} (h : ChannelClosed channel db db') :
    Tells channelId db db' := by
  cases h with
  | already => exact .refl _ _
  | mk closedAt at' =>
    refine tells_of_record rfl fun cursor => ?_
    have hended : present channelId (db.close channel closedAt) =
        (present channelId db).filter fun m => !decide (m.channelId = channel ∧ m.active = true) :=
      present_ended rfl fun m => by simp [Membership.active]
    rw [hended]
    by_cases hchannel : channel = channelId
    · simp only [applyChange, if_pos hchannel]
      symm
      rw [List.filter_eq_nil_iff]
      intro m hm
      obtain ⟨_, hm, hactive⟩ := mem_present.mp hm
      simp [hm, hactive, hchannel]
    · simp only [applyChange, if_neg hchannel]
      symm
      rw [List.filter_eq_self]
      intro m hm
      have hother : m.channelId ≠ channel := fun heq =>
        hchannel (heq.symm.trans (mem_present.mp hm).2.1)
      simp [hother]

theorem rerole_view (demoted : List String) (sessionId : String) (role : SessionRole)
    (m : Membership) :
    (rerole demoted sessionId role m).channelId = m.channelId ∧
      (rerole demoted sessionId role m).active = m.active := by
  unfold rerole
  split
  · exact ⟨rfl, rfl⟩
  · split <;> exact ⟨rfl, rfl⟩

theorem tells_of_roleUpdated {role : SessionRole}
    (h : RoleUpdated channel sessionId role db db') : Tells channelId db db' := by
  cases h with
  | mk before at' =>
    have hchanges : (db.changeRole channel sessionId role).changes = db.changes := by
      have hfold (ids : List String) (db : Database) :
          (ids.foldl (fun db id => db.assignRole id .worker) db).changes = db.changes := by
        induction ids generalizing db with
        | nil => rfl
        | cons id ids ih => exact ih _
      exact hfold _ _
    refine tells_of_record hchanges fun cursor => ?_
    unfold present Table.select
    simp only [applyChange, changeRole_rows, List.filter_map]
    have hview : ((fun m : Membership => decide (m.channelId = channelId ∧ m.active = true)) ∘
        rerole (db.demoted channel sessionId role) sessionId role) =
        fun m => decide (m.channelId = channelId ∧ m.active = true) := by
      funext m
      obtain ⟨hchannel, hactive⟩ := rerole_view (db.demoted channel sessionId role) sessionId role m
      simp only [Function.comp_apply, hchannel, hactive]
    rw [hview]
    refine List.map_congr_left fun m hm => ?_
    have hactive : m.active = true := (of_decide_eq_true (List.mem_filter.mp hm).2).2
    simp [recast, rerole, hactive]

theorem tells_of_touched {sessionId : String} (h : Touched sessionId db db') :
    Tells channelId db db' := by
  induction h with
  | same => exact .refl _ _
  | columns _ _ _ _ _ ih => exact ih.trans (tells_of_unlogged rfl rfl)
  | delivery _ mode at' ih => exact ih.trans (tells_of_aside (.logged _ rfl rfl _ _ _ rfl))

theorem tells_of_registered {role : SessionRole}
    {externalId : Option String} (h : Registered channel sessionId role externalId db db') :
    Tells channelId db db' := by
  cases h with
  | inserted input _ _ hinserted hjoined =>
    exact (tells_of_aside (.of_sessionInserted hinserted)).trans (tells_of_joined hjoined)
  | found _ _ htouched hjoined => exact (tells_of_touched htouched).trans (tells_of_joined hjoined)

end Operations

/-- The imported membership is new, and its channel and session are there. -/
def joinsUntold (db : Database) (value : LegacyMembership) : Prop :=
  ∃ joinedAt, iso value.joinedAt = .ok joinedAt ∧
    (db.channels.has value.channelID && db.sessions.has value.sessionID) = true ∧
    db.memberships.has (value.channelID, value.sessionID, joinedAt) = false

/-- The imported end meets an active membership of this very import. -/
def endsUntold (session : ImportSession) (db : Database) (value : LegacyMembershipEnd) : Prop :=
  (∃ endedAt, iso value.endedAt = .ok endedAt) ∧
    ∃ m ∈ db.memberships.rows, m.channelId = value.channelID ∧ m.sessionId = value.sessionID ∧
      m.active = true ∧
      session.existingMemberships.contains (membershipText m.channelId m.sessionId m.joinedAt) = false

/-- The record changes a membership row. Its own journal row is of a legacy kind, which no client
of the roster reads. -/
def recordUntold (session : ImportSession) (db : Database) : ImportRecord → Prop
  | .membership value => joinsUntold db value
  | .workerJoin value => joinsUntold db value
  | .membershipEnded value => endsUntold session db value
  | .workerTerminal value => endsUntold session db value
  | .sessionEnded sessionID time =>
    (∃ endedAt, iso time = .ok endedAt) ∧ session.existingSessions.contains sessionID = false ∧
      ∃ m ∈ db.memberships.rows, m.sessionId = sessionID ∧ m.active = true
  | _ => False

section Imports

variable {channelId : String} {session : ImportSession} {record : ImportRecord} {db db' : Database}

theorem present_kept {q : Membership → Bool} {f : Membership → Membership}
    (hrows : db'.memberships.rows = db.memberships.rows.map fun m => if q m then f m else m)
    (hf : ∀ m, (f m).active = false)
    (hq : ∀ m ∈ db.memberships.rows, m.active = true → q m = false) :
    present channelId db' = present channelId db := by
  rw [present_ended hrows hf, List.filter_eq_self]
  intro m hm
  obtain ⟨hrow, _, hactive⟩ := mem_present.mp hm
  rw [hq m hrow hactive]
  rfl

theorem present_materialised (h : Materialised session record db db')
    (htold : ¬recordUntold session db record) : present channelId db' = present channelId db := by
  cases h with
  | nothing => rfl
  | channels => rfl
  | sessions => rfl
  | joined value joinedAt memberships hrecord hiso hpresent hinsert =>
    have hfresh := (Table.insert?_eq_some.mp hinsert).1
    have huntold : joinsUntold db value :=
      ⟨joinedAt, hiso, hpresent, Bool.not_eq_true _ ▸ hfresh⟩
    rcases hrecord with rfl | rfl <;> exact absurd huntold htold
  | ended value endedAt hrecord hiso =>
    refine present_kept rfl (fun m => by simp [Membership.active]) fun m hm hactive => ?_
    by_contra hq
    simp only [Bool.not_eq_false, Bool.and_eq_true, decide_eq_true_eq, Bool.not_eq_true'] at hq
    have huntold : endsUntold session db value :=
      ⟨⟨endedAt, hiso⟩, m, hm, hq.1.1.1, hq.1.1.2, hactive, hq.2⟩
    rcases hrecord with rfl | rfl <;> exact absurd huntold htold
  | sessionEnded sessionID time endedAt hrecord hiso hnew =>
    subst hrecord
    refine present_kept rfl (fun m => by simp [Membership.active]) fun m hm hactive => ?_
    by_contra hq
    simp only [Bool.not_eq_false, decide_eq_true_eq] at hq
    exact htold ⟨⟨endedAt, hiso⟩, hnew, m, hm, hq⟩

theorem tells_of_importAppended {event : CanonicalImportEvent}
    (h : ImportAppended session event db db') (htold : ¬recordUntold session db event.record) :
    Tells channelId db db' := by
  cases h with
  | message value channel occurredAt reply =>
    refine tells_of_record rfl fun cursor => ?_
    exact applyChange_other rfl
  | legacy db₁ hrows =>
    refine tells_of_record hrows.changes fun cursor => ?_
    rw [applyChange_other rfl, present_materialised hrows htold]

end Imports

/-- The operations of the store, and the swap of rotation. -/
inductive JournalOp where
  | store (op : StoreOp)
  | swapWorker (inspected : Option Nat) (input : SwapInput)

def journalStep (w : World) : JournalOp → World
  | .store op => storeStep w op
  | .swapWorker inspected input => (swapWorker inspected input w).2

/-- The operation changes active memberships, and journals no change that tells of it. -/
def Untold (w : World) : JournalOp → Prop
  | .store (.reactivateOperatorSession sessionId) =>
    w.db.sessionRole sessionId = some .operator ∧
      ∃ m ∈ w.db.memberships.rows, w.db.restorable sessionId m = true
  | .store (.importAppend event) =>
    ∃ session, w.importSession = some session ∧ recordUntold session w.db event.record
  | .swapWorker inspected input => w.importSession = none ∧ Swaps inspected input w
  | _ => False

theorem storeEffect_tells {channelId : String} {op : StoreOp} {w : World} {db' : Database}
    (h : StoreEffect op w db') (htold : ¬Untold w (.store op)) : Tells channelId w.db db' := by
  cases op with
  | insertSession => exact tells_of_aside (.of_sessionInserted h)
  | registerSession => exact tells_of_registered h
  | insertChannel => exact tells_of_aside (.of_channelInserted h)
  | insertMembership => exact tells_of_joined h
  | leaveMembership => exact tells_of_left h
  | markSessionEnded => exact tells_of_sessionEnded h
  | reactivateOperatorSession sessionId =>
    have hrole : w.db.sessionRole sessionId = some .operator := by cases h <;> assumption
    refine tells_of_reactivated h fun m hm => ?_
    by_contra hrestorable
    exact htold ⟨hrole, m, hm, by simpa using hrestorable⟩
  | closeChannel => exact tells_of_channelClosed h
  | reopenChannel => exact tells_of_aside (.of_channelReopened h)
  | updateSessionRole => exact tells_of_roleUpdated h
  | commitMessage =>
    obtain ⟨_, h⟩ := h
    exact tells_of_aside (.of_committed h)
  | resolveThread => exact tells_of_aside (.of_threadChanged h)
  | reopenThread => exact tells_of_aside (.of_threadChanged h)
  | importBegin => exact h.elim
  | importAppend event =>
    obtain ⟨session, hsession, happended⟩ := h
    exact tells_of_importAppended happended fun huntold => htold ⟨session, hsession, huntold⟩
  | importCommit => exact h.elim
  | importRollback => exact h.elim
  | _ => exact tells_of_aside h

theorem journalStep_transition (channelId : String) {w : World} (hrest : w.transactionDepth = 0)
    {op : JournalOp} (htold : ¬Untold w op) :
    Transition (fun w db' => Tells channelId w.db db') w (journalStep w op) := by
  cases op with
  | store op => exact (storeStep_transition hrest op).mono fun _ h => storeEffect_tells h htold
  | swapWorker inspected input =>
    by_cases himport : w.importSession = none
    · refine (transition_of_settles (swapWorker_settles w inspected input)).mono ?_
      rintro _ ⟨_, hswaps, _⟩
      exact absurd ⟨himport, hswaps⟩ htold
    · have hsame : journalStep w (.swapWorker inspected input) = w :=
        swapWorker_refused (Option.isSome_iff_ne_none.mpr himport) inspected input
      rw [hsame]
      exact .refused rfl (.refl w)

/-- A store at rest whose journal tells of everything since `db`, also if an import is undone. -/
structure ToldSince (channelId : String) (db : Database) (w : World) : Prop where
  transactionDepth : w.transactionDepth = 0
  told : Durable (Tells channelId db) w

theorem journalStep_toldSince {channelId : String} {db : Database} {w : World}
    (h : ToldSince channelId db w) {op : JournalOp} (htold : ¬Untold w op) :
    ToldSince channelId db (journalStep w op) := by
  have hstep := journalStep_transition channelId h.transactionDepth htold
  refine ⟨hstep.transactionDepth.trans h.transactionDepth, ?_⟩
  exact hstep.durable (fun db' hI htells => hI.trans htells)
    (fun db' batches hI => hI.trans (tells_of_unlogged rfl rfl)) h.told

theorem journalStep_rest {w : World} (hrest : w.transactionDepth = 0) (op : JournalOp) :
    (journalStep w op).transactionDepth = 0 := by
  cases op with
  | store op => exact (storeStep_transition hrest op).transactionDepth.trans hrest
  | swapWorker inspected input =>
    exact (swapWorker_settles w inspected input).keeps.transactionDepth.trans hrest

theorem snapshot_ok {channelId : String} {w w' : World} {s : Snapshot}
    (h : snapshot channelId w = (.ok s, w')) :
    w.importSession = none ∧ s.cursor = w.db.changes.latestCursor ∧
      s.memberships.Perm (present channelId w.db) := by
  unfold snapshot at h
  by_cases hbusy : 0 < w.transactionDepth ∨ w.importSession.isSome = true
  · rw [if_pos hbusy] at h
    cases h
  · rw [if_neg hbusy] at h
    have hsnapshot : w.db.snapshot channelId = .ok s := congrArg Prod.fst h
    unfold Database.snapshot at hsnapshot
    cases hchannel : w.db.currentChannel channelId with
    | none =>
      rw [hchannel] at hsnapshot
      cases hsnapshot
    | some channel =>
      rw [hchannel] at hsnapshot
      cases hsnapshot
      exact ⟨by simpa using (not_or.mp hbusy).2, rfl, List.perm_insertionSort _ _⟩

theorem Tells.changesBetween {channelId : String} {db db' : Database} {n : Nat}
    (h : Tells channelId db db') (hn : n = db'.changes.latestCursor) :
    db.changes.latestCursor ≤ n ∧
      (Replay.replay (applyChange channelId) (present channelId db)
        (changesBetween db' db.changes.latestCursor n)).Perm (present channelId db') := by
  obtain ⟨extra, hlog, hview⟩ := h
  have hrows : db'.changes.rows = db.changes.rows ++ extra := hlog
  have hwindow : Feeds.changesBetween db' db.changes.latestCursor n = extra := by
    rw [← Journal.filter_after_latest hrows]
    refine List.filter_congr fun c hc => ?_
    have hle := Journal.cursor_le_latest hc
    simp [hn, hle]
  refine ⟨?_, hwindow ▸ hview⟩
  rw [hn]
  cases extra with
  | nil =>
    have hsame : db'.changes = db.changes := Journal.ext (by simpa using hrows)
    rw [hsame]
  | cons c extra =>
    have hlt := Journal.latest_lt_of_append hrows List.mem_cons_self
    have hmem : c ∈ db'.changes.rows := by
      rw [hrows]
      simp
    exact (hlt.trans_le (Journal.cursor_le_latest hmem)).le

/-- Of two snapshots with only told operations between them, the second shows what the client
makes of the first and of the changes in between. -/
theorem snapshots_told {w : World} (hrest : w.transactionDepth = 0) (ops ops' : List JournalOp)
    (hmeets : Trace.Meets journalStep (fun w op => ¬Untold w op) (Trace.run journalStep w ops) ops')
    {channelId : String} {s₁ s₂ : Snapshot} {w₁ w₂ : World}
    (h₁ : snapshot channelId (Trace.run journalStep w ops) = (.ok s₁, w₁))
    (h₂ : snapshot channelId (Trace.run journalStep (Trace.run journalStep w ops) ops') =
      (.ok s₂, w₂)) :
    s₁.cursor ≤ s₂.cursor ∧
      ((changesBetween (Trace.run journalStep (Trace.run journalStep w ops) ops').db
        s₁.cursor s₂.cursor).foldl (applyChange channelId) s₁.memberships).Perm s₂.memberships := by
  have hfirst : (Trace.run journalStep w ops).transactionDepth = 0 :=
    Trace.invariant_of_step (I := fun w : World => w.transactionDepth = 0)
      (fun _ op hw => journalStep_rest hw op) hrest ops
  obtain ⟨hidle, hcursor₁, hmemberships₁⟩ := snapshot_ok h₁
  obtain ⟨_, hcursor₂, hmemberships₂⟩ := snapshot_ok h₂
  have hstart : ToldSince channelId (Trace.run journalStep w ops).db (Trace.run journalStep w ops) :=
    ⟨hfirst, .refl _ _, fun session hsession => by cases hidle.symm.trans hsession⟩
  have hrun := Trace.invariant_run (I := ToldSince channelId (Trace.run journalStep w ops).db)
    (fun w op hI (hop : ¬Untold w op) => journalStep_toldSince hI hop) hstart hmeets
  obtain ⟨hle, hview⟩ := hrun.told.1.changesBetween hcursor₂
  rw [hcursor₁]
  refine ⟨hle, ?_⟩
  exact ((Replay.replay_respects applyChange_perm hmemberships₁ _).trans hview).trans
    hmemberships₂.symm

/-- A channel with one operator in it. -/
def manned : List JournalOp :=
  [.store (.insertSession { id := "alice", role := some .operator }),
    .store (.insertChannel "harbour" (some "alice")),
    .store (.insertMembership "harbour" "alice" (some .operator))]

/-- Two sessions come in, the first is made planner, and the second goes. -/
def busy : List JournalOp :=
  [.store (.insertSession { id := "bob", role := some .worker }),
    .store (.insertMembership "harbour" "bob" (some .worker)),
    .store (.insertSession { id := "carol", role := some .worker }),
    .store (.insertMembership "harbour" "carol" (some .worker)),
    .store (.updateSessionRole "harbour" "bob" .planner),
    .store (.markSessionEnded "carol")]

theorem snapshots_told_busy :
    let w := Trace.run journalStep (.initial .empty tally tally) manned
    ∃ s₁ s₂, (snapshot "harbour" w).1 = .ok s₁ ∧
      (snapshot "harbour" (Trace.run journalStep w busy)).1 = .ok s₂ ∧
      ((changesBetween (Trace.run journalStep w busy).db s₁.cursor s₂.cursor).foldl
        (applyChange "harbour") s₁.memberships).Perm s₂.memberships := by
  have hmeets : Trace.Meets journalStep (fun w op => ¬Untold w op)
      (Trace.run journalStep (.initial .empty tally tally) manned) busy :=
    ⟨id, id, id, id, id, id, trivial⟩
  exact ⟨_, _, rfl, rfl, (snapshots_told rfl manned busy hmeets rfl rfl).2⟩

/-- A worker in the channel is swapped for a replacement, and no change says so. -/
theorem snapshots_untold_swap : ∃ s₁ s₂ w₁ w₂,
    let w := Trace.run journalStep (.initial .empty tally tally) (manned ++
      [.store (.insertSession { id := "bob", role := some .worker }),
        .store (.insertMembership "harbour" "bob" (some .worker)),
        .store (.insertSession { id := "carol", role := some .worker })])
    let w' := journalStep w (.swapWorker (some 1) ⟨"harbour", "bob", "carol", 1⟩)
    snapshot "harbour" w = (.ok s₁, w₁) ∧ snapshot "harbour" w' = (.ok s₂, w₂) ∧
      changesBetween w'.db s₁.cursor s₂.cursor = [] ∧ ¬s₁.memberships.Perm s₂.memberships :=
  ⟨_, _, _, _, rfl, rfl, rfl, by decide⟩

end Wardroom.Feeds
