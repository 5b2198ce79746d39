import Wardroom.Domain.Contracts
import Wardroom.Library.Table
import Mathlib.Data.List.Dedup
import Mathlib.Data.List.Sort
import Mathlib.Data.String.Basic

/-! # The tables of the canonical store and the queries over them

The change journal is a table of its own: its rows are in cursor order, and an
appended row gets a cursor past every stored one. Rows are never deleted, so
the largest cursor is also the largest cursor ever assigned.
-/

namespace Wardroom.Storage
open Wardroom.Library Wardroom.Domain

structure Journal where
  rows : List Change
  ordered : rows.Pairwise fun a b => a.cursor < b.cursor
  positive : ∀ c ∈ rows, 0 < c.cursor

namespace Journal

@[ext] theorem ext {j k : Journal} (h : j.rows = k.rows) : j = k := by
  cases j
  cases k
  cases h
  rfl

def empty : Journal := ⟨[], List.Pairwise.nil, fun _ hc => by cases hc⟩

/-- `COALESCE(MAX(cursor), 0)`. -/
def latestCursor (j : Journal) : Nat := (j.rows.map Change.cursor).foldr max 0

theorem le_foldr_max {n : Nat} {ns : List Nat} (h : n ∈ ns) : n ≤ ns.foldr max 0 := by
  induction ns with
  | nil => cases h
  | cons m ns ih =>
    rcases List.mem_cons.mp h with rfl | h
    · exact le_max_left _ _
    · exact (ih h).trans (le_max_right _ _)

theorem cursor_le_latest {j : Journal} {c : Change} (h : c ∈ j.rows) :
    c.cursor ≤ j.latestCursor :=
  le_foldr_max (List.mem_map_of_mem h)

def append (j : Journal) (channelId : Option String) (payload : Payload) (occurredAt : String)
    (sourceOrdinal : Option Int) : Journal where
  rows := j.rows ++ [⟨j.latestCursor + 1, channelId, payload, occurredAt, sourceOrdinal⟩]
  ordered := by
    rw [List.pairwise_append]
    refine ⟨j.ordered, List.pairwise_singleton _ _, ?_⟩
    intro a ha b hb
    rw [List.mem_singleton] at hb
    subst hb
    exact Nat.lt_succ_of_le (cursor_le_latest ha)
  positive := by
    intro c hc
    rw [List.mem_append, List.mem_singleton] at hc
    rcases hc with hc | rfl
    · exact j.positive c hc
    · exact Nat.succ_pos _

@[simp] theorem rows_append (j : Journal) (channelId : Option String) (payload : Payload)
    (occurredAt : String) (sourceOrdinal : Option Int) :
    (j.append channelId payload occurredAt sourceOrdinal).rows =
      j.rows ++ [⟨j.latestCursor + 1, channelId, payload, occurredAt, sourceOrdinal⟩] := rfl

theorem latest_lt_of_append {j k : Journal} {extra : List Change} (h : k.rows = j.rows ++ extra)
    {c : Change} (hc : c ∈ extra) : j.latestCursor < c.cursor := by
  have hbelow (ns : List Nat) (hns : ∀ n ∈ ns, n < c.cursor) (hpos : 0 < c.cursor) :
      ns.foldr max 0 < c.cursor := by
    induction ns with
    | nil => exact hpos
    | cons n ns ih =>
      exact max_lt (hns n List.mem_cons_self) (ih fun m hm => hns m (List.mem_cons_of_mem _ hm))
  have hordered := k.ordered
  rw [h, List.pairwise_append] at hordered
  refine hbelow _ (fun n hn => ?_) (k.positive c (h ▸ List.mem_append_right _ hc))
  obtain ⟨a, ha, rfl⟩ := List.mem_map.mp hn
  exact hordered.2.2 a ha c hc

theorem filter_after_latest {j k : Journal} {extra : List Change} (h : k.rows = j.rows ++ extra) :
    (k.rows.filter fun c => j.latestCursor < c.cursor) = extra := by
  rw [h, List.filter_append]
  have hold : (j.rows.filter fun c => j.latestCursor < c.cursor) = [] := by
    rw [List.filter_eq_nil_iff]
    intro c hc
    simpa using cursor_le_latest hc
  have hnew : (extra.filter fun c => j.latestCursor < c.cursor) = extra := by
    rw [List.filter_eq_self]
    intro c hc
    simpa using latest_lt_of_append h hc
  rw [hold, hnew, List.nil_append]

/-- The stored events of `message.sent` rows, with the channel column of their row. -/
def sent (j : Journal) : List (Change × Json) :=
  j.rows.filterMap fun c => c.sent?.map fun event => (c, event)

end Journal

/-- The stored events among some rows. -/
def sentOf (rows : List Change) : List (Change × Json) :=
  rows.filterMap fun c => c.sent?.map fun event => (c, event)

theorem sentOf_cons_none {c : Change} (h : c.sent? = none) (rows : List Change) :
    sentOf (c :: rows) = sentOf rows := by
  simp [sentOf, h]

theorem sentOf_cons_some {c : Change} {event : Json} (h : c.sent? = some event)
    (rows : List Change) : sentOf (c :: rows) = (c, event) :: sentOf rows := by
  simp [sentOf, h]

theorem mem_sentOf {rows : List Change} {r : Change × Json} :
    r ∈ sentOf rows ↔ r.1 ∈ rows ∧ r.1.sent? = some r.2 := by
  unfold sentOf
  rw [List.mem_filterMap]
  constructor
  · rintro ⟨c, hc, hr⟩
    obtain ⟨event, hevent, rfl⟩ := Option.map_eq_some_iff.mp hr
    exact ⟨hc, hevent⟩
  · rintro ⟨hc, hevent⟩
    exact ⟨r.1, hc, by rw [hevent]; rfl⟩

structure FederationChannelAdmission where
  channelId : String
  peerAuthorityId : String
  grantedBySessionId : String
  grantedAt : String
  revokedBySessionId : Option String
  revokedAt : Option String
  deriving DecidableEq, Repr

def FederationChannelAdmission.key (a : FederationChannelAdmission) : String × String :=
  (a.channelId, a.peerAuthorityId)

structure Database where
  sessions : Table Session.id
  channels : Table Channel.id
  memberships : Table Membership.key
  changes : Journal
  messageThreads : Table ThreadLifecycle.threadRootEventId
  importBatches : Table ImportBatch.sourceDigest
  federationChannelAdmissions : Table FederationChannelAdmission.key

namespace Database

def empty : Database :=
  ⟨.empty, .empty, .empty, .empty, .empty, .empty, .empty⟩

def currentSession (db : Database) (id : String) : Option Session := db.sessions.find? id

def currentChannel (db : Database) (id : String) : Option Channel := db.channels.find? id

/-- The channel exists and is not closed. -/
def channelActive (db : Database) (id : String) : Bool :=
  (db.currentChannel id).any fun c => c.lifecycleState = .active

/-- The session exists and is not ended. -/
def sessionLive (db : Database) (id : String) : Bool :=
  (db.currentSession id).any fun s => s.endedAt.isNone

def sessionRole (db : Database) (id : String) : Option SessionRole :=
  (db.currentSession id).bind Session.role

def activeRows (db : Database) (channelId sessionId : String) : List Membership :=
  db.memberships.select fun m =>
    m.channelId = channelId ∧ m.sessionId = sessionId ∧ m.active

def isActiveMember (db : Database) (channelId sessionId : String) : Bool :=
  !(db.activeRows channelId sessionId).isEmpty

def isActiveMemberAs (db : Database) (channelId sessionId : String) (role : SessionRole) : Bool :=
  (db.activeRows channelId sessionId).any fun m => m.role = some role

def activeHolders (db : Database) (channelId : String) (role : SessionRole) : List Membership :=
  db.memberships.select fun m => m.channelId = channelId ∧ m.role = some role ∧ m.active

def activeMembershipCount (db : Database) (channelId : String) (role : SessionRole) : Nat :=
  (db.activeHolders channelId role).length

def activeMembershipCountExcept (db : Database) (channelId : String) (role : SessionRole)
    (sessionId : String) : Nat :=
  ((db.activeHolders channelId role).filter fun m => m.sessionId ≠ sessionId).length

/-- `SELECT DISTINCT channel_id … ORDER BY channel_id`. -/
def activeMembershipChannels (db : Database) (sessionId : String) : List String :=
  (((db.memberships.select fun m => m.sessionId = sessionId ∧ m.active).map
    Membership.channelId).dedup).insertionSort (· ≤ ·)

/-- `ORDER BY joined_at, session_id`. -/
def joinOrder (a b : Membership) : Prop :=
  a.joinedAt < b.joinedAt ∨ a.joinedAt = b.joinedAt ∧ a.sessionId ≤ b.sessionId

instance : DecidableRel joinOrder := fun _ _ => inferInstanceAs (Decidable (_ ∨ _))

def activeMemberships (db : Database) (channelId : String) : List Membership :=
  (db.memberships.select fun m => m.channelId = channelId ∧ m.active).insertionSort joinOrder

structure RosterEntry where
  sessionId : String
  displayName : Option String
  role : Option SessionRole
  joinedAt : String
  deriving DecidableEq, Repr

/-- The roster shows the role of the session, not of the membership. -/
def roster (db : Database) (channelId : String) : List RosterEntry :=
  (db.activeMemberships channelId).filterMap fun m =>
    (db.currentSession m.sessionId).map fun s => ⟨s.id, s.displayName, s.role, m.joinedAt⟩

/-- `SELECT … FROM changes WHERE kind='message.sent' AND json_extract(payload,'$.id')=? LIMIT 1`;
the scan meets rows in cursor order. -/
def messageRow (db : Database) (eventId : String) : Option (Change × Json) :=
  db.changes.sent.find? fun r => (r.2.member "id").bind Json.extractText = some eventId

def messageRowIn (db : Database) (channelId eventId : String) : Option (Change × Json) :=
  db.changes.sent.find? fun r =>
    r.1.channelId = some channelId ∧ (r.2.member "id").bind Json.extractText = some eventId

def threadRow (db : Database) (threadRootEventId : String) : Option ThreadLifecycle :=
  db.messageThreads.find? threadRootEventId

variable {db : Database}

theorem channelActive_iff {id : String} :
    db.channelActive id ↔ ∃ c, db.currentChannel id = some c ∧ c.lifecycleState = .active := by
  simp [channelActive, Option.any_eq_true]

theorem sessionLive_iff {id : String} :
    db.sessionLive id ↔ ∃ s, db.currentSession id = some s ∧ s.endedAt = none := by
  simp [sessionLive, Option.any_eq_true]

variable {channelId sessionId : String}

theorem mem_activeRows {m : Membership} :
    m ∈ db.activeRows channelId sessionId ↔
      m ∈ db.memberships.rows ∧ m.channelId = channelId ∧ m.sessionId = sessionId ∧ m.active := by
  simp [activeRows, Table.mem_select]

theorem isActiveMember_iff :
    db.isActiveMember channelId sessionId ↔ ∃ m ∈ db.memberships.rows,
      m.channelId = channelId ∧ m.sessionId = sessionId ∧ m.active := by
  unfold isActiveMember
  rw [Bool.not_eq_true', List.isEmpty_eq_false_iff_exists_mem]
  simp only [mem_activeRows]

theorem isActiveMemberAs_iff {role : SessionRole} :
    db.isActiveMemberAs channelId sessionId role ↔ ∃ m ∈ db.memberships.rows,
      m.channelId = channelId ∧ m.sessionId = sessionId ∧ m.active ∧ m.role = some role := by
  simp only [isActiveMemberAs, List.any_eq_true, mem_activeRows, decide_eq_true_eq]
  exact exists_congr fun m => by tauto

theorem mem_activeMembershipChannels {sessionId channelId : String} :
    channelId ∈ db.activeMembershipChannels sessionId ↔ ∃ m ∈ db.memberships.rows,
      m.channelId = channelId ∧ m.sessionId = sessionId ∧ m.active := by
  unfold activeMembershipChannels
  rw [List.mem_insertionSort, List.mem_dedup, List.mem_map]
  simp only [Table.mem_select, Bool.decide_and, Bool.and_eq_true, Bool.decide_eq_true,
    decide_eq_true_eq]
  exact exists_congr fun m => by tauto

end Database
end Wardroom.Storage
