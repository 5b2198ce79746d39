import Wardroom.Library.Trace
import Wardroom.Storage.Effects

/-! # The memberships of a session in a channel

A session is in a channel at most once, and only while the channel is open and
the session is live. Every operation keeps this but one: reactivating an
operator restores each of its ended memberships, also when the operator has
joined the same channel again in the meantime.
-/

namespace Wardroom.Crew
open Wardroom.Library Wardroom.Domain Wardroom.Storage

def seated (channelId sessionId : String) (m : Membership) : Bool :=
  m.channelId = channelId ∧ m.sessionId = sessionId ∧ m.active

theorem activeRows_length (db : Database) (channelId sessionId : String) :
    (db.activeRows channelId sessionId).length =
      db.memberships.rows.countP (seated channelId sessionId) :=
  List.countP_eq_length_filter.symm

/-- The membership invariant. -/
structure Berthed (db : Database) : Prop where
  /-- a session holds at most one active membership of a channel -/
  single : ∀ channelId sessionId, (db.activeRows channelId sessionId).length ≤ 1
  /-- an active membership belongs to an active channel and to a live session -/
  grounded : ∀ m ∈ db.memberships.rows, m.active = true →
    db.channelActive m.channelId = true ∧ db.sessionLive m.sessionId = true

section Tables

variable {db db' : Database}

theorem Berthed.of_rows (h : Berthed db) (hrows : db'.memberships.rows = db.memberships.rows)
    (hchannel : ∀ id, db.channelActive id = true → db'.channelActive id = true)
    (hsession : ∀ id, db.sessionLive id = true → db'.sessionLive id = true) : Berthed db' where
  single channelId sessionId := by
    rw [activeRows_length, hrows, ← activeRows_length]
    exact h.single channelId sessionId
  grounded m hm hactive := by
    rw [hrows] at hm
    obtain ⟨hc, hs⟩ := h.grounded m hm hactive
    exact ⟨hchannel _ hc, hsession _ hs⟩

theorem sessionLive_insert {r : Session} {sessions : Table Session.id}
    (h : db.sessions.insert? r = some sessions) (hdb : db'.sessions = sessions) {id : String}
    (hlive : db.sessionLive id = true) : db'.sessionLive id = true := by
  subst hdb
  obtain ⟨s, hs, hend⟩ := Database.sessionLive_iff.mp hlive
  exact Database.sessionLive_iff.mpr ⟨s, Table.find?_insert_of_some h hs, hend⟩

theorem channelActive_insert {r : Channel} {channels : Table Channel.id}
    (h : db.channels.insert? r = some channels) (hdb : db'.channels = channels) {id : String}
    (hactive : db.channelActive id = true) : db'.channelActive id = true := by
  subst hdb
  obtain ⟨c, hc, hstate⟩ := Database.channelActive_iff.mp hactive
  exact Database.channelActive_iff.mpr ⟨c, Table.find?_insert_of_some h hc, hstate⟩

theorem sessionLive_update {p : Session → Bool} {f : Session → Session}
    (hrows : db'.sessions.rows = db.sessions.rows.map fun s => if p s then f s else s)
    (hf : ∀ s, (f s).id = s.id) {id : String}
    (h : ∀ s, s.id = id → p s = true → s.endedAt = none → (f s).endedAt = none)
    (hlive : db.sessionLive id = true) : db'.sessionLive id = true := by
  obtain ⟨s, hs, hend⟩ := Database.sessionLive_iff.mp hlive
  have hid := (Table.find?_some hs).2
  refine Database.sessionLive_iff.mpr ⟨if p s then f s else s, ?_, ?_⟩
  · exact (Table.find?_rewrite hrows hf id).trans (congrArg _ hs)
  · by_cases hp : p s = true
    · rw [if_pos hp]
      exact h s hid hp hend
    · rw [if_neg hp]
      exact hend

theorem channelActive_update {p : Channel → Bool} {f : Channel → Channel}
    (hrows : db'.channels.rows = db.channels.rows.map fun c => if p c then f c else c)
    (hf : ∀ c, (f c).id = c.id) {id : String}
    (h : ∀ c, c.id = id → p c = true → c.lifecycleState = .active → (f c).lifecycleState = .active)
    (hactive : db.channelActive id = true) : db'.channelActive id = true := by
  obtain ⟨c, hc, hstate⟩ := Database.channelActive_iff.mp hactive
  have hid := (Table.find?_some hc).2
  refine Database.channelActive_iff.mpr ⟨if p c then f c else c, ?_, ?_⟩
  · exact (Table.find?_rewrite hrows hf id).trans (congrArg _ hc)
  · by_cases hp : p c = true
    · rw [if_pos hp]
      exact h c hid hp hstate
    · rw [if_neg hp]
      exact hstate

theorem Berthed.of_update {p : Membership → Bool} {f : Membership → Membership} (h : Berthed db)
    (hrows : db'.memberships.rows = db.memberships.rows.map fun m => if p m then f m else m)
    (hf : ∀ m, (f m).key = m.key) (hactive : ∀ m, (f m).active = true → m.active = true)
    (hgrounded : ∀ m ∈ db.memberships.rows, (if p m then f m else m).active = true →
      db.channelActive m.channelId = true → db.sessionLive m.sessionId = true →
      db'.channelActive m.channelId = true ∧ db'.sessionLive m.sessionId = true) :
    Berthed db' := by
  have hkey (m : Membership) : (if p m then f m else m).channelId = m.channelId ∧
      (if p m then f m else m).sessionId = m.sessionId := by
    by_cases hp : p m = true
    · have hsame := hf m
      simp only [Membership.key, Prod.mk.injEq] at hsame
      simp [hp, hsame.1, hsame.2.1]
    · simp [hp]
  have hback (m : Membership) (hm : (if p m then f m else m).active = true) : m.active = true := by
    by_cases hp : p m = true
    · rw [if_pos hp] at hm
      exact hactive m hm
    · rwa [if_neg hp] at hm
  constructor
  · intro channelId sessionId
    refine le_trans ?_ (h.single channelId sessionId)
    rw [activeRows_length, activeRows_length]
    refine Table.countP_rewrite_le hrows fun m hm => ?_
    simp only [seated, hkey, decide_eq_true_eq] at hm ⊢
    exact ⟨hm.1, hm.2.1, hback m hm.2.2⟩
  · intro m' hm' hm'active
    rw [hrows] at hm'
    obtain ⟨m, hm, rfl⟩ := List.mem_map.mp hm'
    obtain ⟨hc, hs⟩ := h.grounded m hm (hback m hm'active)
    rw [(hkey m).1, (hkey m).2]
    exact hgrounded m hm hm'active hc hs

theorem Berthed.record (h : Berthed db) (channelId : Option String) (payload : Payload)
    (at' : String) (ordinal : Option Int) : Berthed (db.record channelId payload at' ordinal) :=
  h.of_rows rfl (fun _ hc => hc) (fun _ hs => hs)

end Tables

section Operations

variable {db db' : Database}

theorem Berthed.sessionInserted {input : SessionInput} (hI : Berthed db)
    (h : SessionInserted input db db') : Berthed db' := by
  cases h with
  | mk registeredAt at' sessions hinsert =>
    refine Berthed.record ?_ _ _ _ _
    exact hI.of_rows rfl (fun _ hc => hc) fun _ hs => sessionLive_insert hinsert rfl hs

theorem Berthed.channelInserted {id : String} {owner : Option String} (hI : Berthed db)
    (h : ChannelInserted id owner db db') : Berthed db' := by
  cases h with
  | mk registeredAt at' channels hinsert =>
    refine Berthed.record ?_ _ _ _ _
    exact hI.of_rows rfl (fun _ hc => channelActive_insert hinsert rfl hc) fun _ hs => hs

variable {channelId sessionId : String}

theorem Berthed.joined {role : Option SessionRole}
    (hI : Berthed db) (h : Joined channelId sessionId role db db') : Berthed db' := by
  cases h with
  | already => exact hI
  | joined joinedAt at' memberships hchannel hsession hnew hinsert =>
    refine Berthed.record ⟨fun c s => ?_, fun m hm hactive => ?_⟩ _ _ _ _
    · rw [activeRows_length, Table.countP_insert hinsert, ← activeRows_length]
      by_cases hpair : channelId = c ∧ sessionId = s
      · -- the pair had no active row, or the join would have found it
        obtain ⟨rfl, rfl⟩ := hpair
        have hnone : db.activeRows channelId sessionId = [] := by
          simpa [Database.isActiveMember] using hnew
        rw [hnone]
        by_cases hseated : seated channelId sessionId
            ⟨channelId, sessionId, joinedAt, none, none, role⟩ = true <;> simp [hseated]
      · have hother : seated c s ⟨channelId, sessionId, joinedAt, none, none, role⟩ = false := by
          simp only [seated, decide_eq_false_iff_not]
          exact fun hboth => hpair ⟨hboth.1, hboth.2.1⟩
        rw [hother]
        exact hI.single c s
    · rw [(Table.insert?_eq_some.mp hinsert).2, List.mem_append, List.mem_singleton] at hm
      rcases hm with hm | rfl
      · exact hI.grounded m hm hactive
      · exact ⟨hchannel, hsession⟩

theorem Berthed.left (hI : Berthed db)
    (h : Left channelId sessionId db db') : Berthed db' := by
  cases h with
  | mk joined leftAt at' hjoined =>
    refine Berthed.record ?_ _ _ _ _
    refine hI.of_update rfl (fun _ => by rfl) (fun m hm => ?_) fun m _ _ hc hs => ⟨hc, hs⟩
    simp [Membership.active] at hm

theorem not_ended {b : Bool} {endedAt : String} {m : Membership}
    (h : (if b then { m with sessionEndedAt := some endedAt } else m).active = true) :
    b = false := by
  cases b with
  | false => rfl
  | true => simp [Membership.active] at h

theorem Berthed.sessionEnded {sessionId : String} (hI : Berthed db)
    (h : SessionEnded sessionId db db') : Berthed db' := by
  cases h with
  | mk endedAt at' memberships =>
    refine Berthed.record ?_ _ _ _ _
    refine hI.of_update rfl (fun _ => by rfl) (fun m hm => ?_) fun m _ hactive hc hs => ⟨hc, ?_⟩
    · simp [Membership.active] at hm
    · have hkept := not_ended hactive
      rw [hkept] at hactive
      have hother : m.sessionId ≠ sessionId := fun heq => by
        simp [heq, show m.active = true from hactive] at hkept
      exact sessionLive_update rfl (fun _ => by rfl)
        (fun s hid hp _ => absurd (hid.symm.trans (by simpa using hp)) hother) hs

theorem Berthed.channelClosed {channelId : String} (hI : Berthed db)
    (h : ChannelClosed channelId db db') : Berthed db' := by
  cases h with
  | already => exact hI
  | mk closedAt at' =>
    refine Berthed.record ?_ _ _ _ _
    refine hI.of_update rfl (fun _ => by rfl) (fun m hm => ?_) fun m _ hactive hc hs => ⟨?_, hs⟩
    · simp [Membership.active] at hm
    · have hkept := not_ended hactive
      rw [hkept] at hactive
      have hother : m.channelId ≠ channelId := fun heq => by
        simp [heq, show m.active = true from hactive] at hkept
      exact channelActive_update rfl (fun _ => by rfl)
        (fun c hid hp _ => absurd (hid.symm.trans (by simpa using hp)) hother) hc

theorem Berthed.channelReopened {channelId : String} (hI : Berthed db)
    (h : ChannelReopened channelId db db') : Berthed db' := by
  cases h with
  | already => exact hI
  | mk reopenedAt at' =>
    refine Berthed.record ?_ _ _ _ _
    exact hI.of_rows rfl
      (fun _ hc => channelActive_update rfl (fun _ => by rfl) (fun _ _ _ _ => rfl) hc) fun _ hs => hs

theorem Berthed.assignRole (hI : Berthed db) (sessionId : String) (role : SessionRole) :
    Berthed (db.assignRole sessionId role) := by
  refine hI.of_update rfl (fun _ => by rfl) (fun _ hm => hm) fun _ _ _ hc hs => ⟨hc, ?_⟩
  exact sessionLive_update rfl (fun _ => by rfl) (fun _ _ _ hend => by exact hend) hs

theorem Berthed.roleUpdated {role : SessionRole} (hI : Berthed db)
    (h : RoleUpdated channelId sessionId role db db') : Berthed db' := by
  have hfold (ids : List String) (db : Database) (hI : Berthed db) :
      Berthed (ids.foldl (fun db id => db.assignRole id .worker) db) := by
    induction ids generalizing db with
    | nil => exact hI
    | cons id ids ih => exact ih _ (hI.assignRole id .worker)
  cases h with
  | mk before at' hbefore => exact ((hfold _ _ hI).assignRole sessionId role).record _ _ _ _

theorem Berthed.touched {sessionId : String} (hI : Berthed db) (h : Touched sessionId db db') :
    Berthed db' := by
  induction h with
  | same => exact hI
  | columns h assign hid hend hrole ih =>
    exact ih.of_rows rfl (fun _ hc => hc)
      fun _ hs => sessionLive_update rfl hid (fun s _ _ hnone => (hend s).trans hnone) hs
  | delivery h mode at' ih => exact ih.record _ _ _ _

theorem Berthed.registered {role : SessionRole}
    {externalId : Option String} (hI : Berthed db)
    (h : Registered channelId sessionId role externalId db db') : Berthed db' := by
  cases h with
  | inserted input _ _ hinserted hjoined => exact (hI.sessionInserted hinserted).joined hjoined
  | found _ _ htouched hjoined => exact (hI.touched htouched).joined hjoined

/-- In each channel, the session has at most one membership that is active or would be restored. -/
def Recoverable (db : Database) (sessionId : String) : Prop :=
  ∀ channelId, db.memberships.rows.countP (fun m =>
    m.channelId = channelId && m.sessionId = sessionId && (m.active || db.restorable sessionId m)) ≤ 1

theorem of_restorable {sessionId : String} {m : Membership}
    (h : db.restorable sessionId m = true) :
    m.sessionId = sessionId ∧ m.role = some .operator ∧ m.leftAt = none ∧
      db.channelActive m.channelId = true := by
  simp only [Database.restorable, Bool.and_eq_true, decide_eq_true_eq, Option.isNone_iff_eq_none] at h
  exact ⟨h.1.1.1.1, h.1.1.1.2, h.1.1.2, h.2⟩

theorem reactivate_live {sessionId : String} (hrole : db.sessionRole sessionId = some .operator) :
    (db.reactivate sessionId).sessionLive sessionId = true := by
  obtain ⟨s, hs, _⟩ := Option.bind_eq_some_iff.mp hrole
  have hid := (Table.find?_some hs).2
  refine Database.sessionLive_iff.mpr ⟨_,
    (Table.find?_rewrite rfl (fun _ => by rfl) sessionId).trans (congrArg _ hs), ?_⟩
  cases hstale : s.endedAt.isSome || s.externalOwner.isSome || s.externalAgentId.isSome with
  | true => simp [hid, hstale]
  | false =>
    have hend : s.endedAt = none := by
      simp only [Bool.or_eq_false_iff] at hstale
      simpa using hstale.1.1
    simp only [hstale, Bool.and_false, Bool.false_eq_true, if_false]
    exact hend

theorem Berthed.reactivate {sessionId : String} (hI : Berthed db)
    (hrole : db.sessionRole sessionId = some .operator) (hrecoverable : Recoverable db sessionId) :
    Berthed (db.reactivate sessionId) := by
  constructor
  · intro channelId s
    rw [activeRows_length]
    by_cases hs : s = sessionId
    · -- the rows active afterwards are those active or restorable before
      subst hs
      refine (Table.countP_rewrite_le rfl fun m hm => ?_).trans (hrecoverable channelId)
      cases hr : db.restorable s m <;> simp_all [seated]
    · refine (Table.countP_rewrite_le rfl fun m hm => ?_).trans
        ((activeRows_length db channelId s).symm.trans_le (hI.single channelId s))
      cases hr : db.restorable sessionId m with
      | false => simpa [hr] using hm
      | true => simp [hr, seated, (of_restorable hr).1, Ne.symm hs] at hm
  · intro m' hm' hactive
    obtain ⟨m, hm, rfl⟩ := List.mem_map.mp hm'
    cases hr : db.restorable sessionId m with
    | false =>
      simp only [hr, Bool.false_eq_true, if_false] at hactive ⊢
      obtain ⟨hc, hs⟩ := hI.grounded m hm hactive
      exact ⟨hc, sessionLive_update rfl (fun _ => by rfl) (fun _ _ _ _ => rfl) hs⟩
    | true =>
      simp only [if_true]
      obtain ⟨hsession, _, _, hchannel⟩ := of_restorable hr
      exact ⟨hchannel, hsession.symm ▸ reactivate_live hrole⟩

theorem Berthed.reactivated {sessionId : String} (hI : Berthed db)
    (h : Reactivated sessionId db db') (hrecoverable : Recoverable db sessionId) : Berthed db' := by
  cases h with
  | idle hrole => exact hI.reactivate hrole hrecoverable
  | mk reactivatedAt at' hrole => exact (hI.reactivate hrole hrecoverable).record _ _ _ _

theorem Berthed.left_inactive (hI : Berthed db)
    (h : Left channelId sessionId db db') : db'.isActiveMember channelId sessionId = false := by
  cases h with
  | mk joined leftAt at' hjoined =>
    by_contra hmember
    rw [Bool.not_eq_false, Database.isActiveMember_iff] at hmember
    obtain ⟨m', hm', hchannel, hsession, hactive⟩ := hmember
    obtain ⟨m, hm, rfl⟩ := List.mem_map.mp hm'
    by_cases hkey : m.key = (channelId, sessionId, joined.joinedAt)
    · simp [hkey, Membership.active] at hactive
    · simp only [hkey, decide_false, Bool.false_eq_true, if_false] at hchannel hsession hactive
      have hmem : m ∈ db.activeRows channelId sessionId :=
        Database.mem_activeRows.mpr ⟨hm, hchannel, hsession, hactive⟩
      have hsame : m = joined := by
        have hsingle := hI.single channelId sessionId
        have hjoinedMem := latestJoined_mem hjoined
        match hrows : db.activeRows channelId sessionId, hsingle with
        | [r], _ =>
          rw [hrows, List.mem_singleton] at hmem hjoinedMem
          exact hmem.trans hjoinedMem.symm
        | [], _ =>
          rw [hrows] at hmem
          cases hmem
      exact hkey (by rw [← hsame, ← hchannel, ← hsession]; rfl)

end Operations

/-- The operations that touch memberships, or what a membership depends on. -/
inductive MembershipOp where
  | insertSession (input : SessionInput)
  | registerSession (channelId sessionId : String) (role : SessionRole) (externalId : Option String)
      (deliveryMode : Option SessionDeliveryMode) (provenance : ExternalProvenance)
  | insertChannel (id : String) (ownerOperatorSessionId : Option String)
  | insertMembership (channelId sessionId : String) (role : Option SessionRole)
  | leaveMembership (channelId sessionId : String)
  | markSessionEnded (sessionId : String)
  | reactivateOperatorSession (sessionId : String)
  | closeChannel (channelId : String)
  | reopenChannel (channelId : String)
  | updateSessionRole (channelId sessionId : String) (role : SessionRole)

def membershipStep (w : World) : MembershipOp → World
  | .insertSession input => (insertSession input w).2
  | .registerSession channelId sessionId role externalId deliveryMode provenance =>
    (registerSession channelId sessionId role externalId deliveryMode provenance w).2
  | .insertChannel id owner => (insertChannel id owner w).2
  | .insertMembership channelId sessionId role => (insertMembership channelId sessionId role w).2
  | .leaveMembership channelId sessionId => (leaveMembership channelId sessionId w).2
  | .markSessionEnded sessionId => (markSessionEnded sessionId w).2
  | .reactivateOperatorSession sessionId => (reactivateOperatorSession sessionId w).2
  | .closeChannel channelId => (closeChannel channelId w).2
  | .reopenChannel channelId => (reopenChannel channelId w).2
  | .updateSessionRole channelId sessionId role => (updateSessionRole channelId sessionId role w).2

/-- A reactivation of an operator restores no membership beside an active one, and no two of one
channel. The other operations need nothing. -/
def RestoresOnce (w : World) : MembershipOp → Prop
  | .reactivateOperatorSession sessionId =>
    w.db.sessionRole sessionId = some .operator → Recoverable w.db sessionId
  | _ => True

/-- A store at rest whose database satisfies the invariant. -/
structure BerthedAtRest (w : World) : Prop where
  transactionDepth : w.transactionDepth = 0
  berthed : Berthed w.db

/-- What a command keeps on the database it keeps on the store. -/
theorem BerthedAtRest.command {α : Type} {x body : Command α} {P : α → Database → Prop} {w : World}
    (hI : BerthedAtRest w) (hx : x = write body) (h : Ensures x w P)
    (hP : ∀ a db', P a db' → Berthed db') : BerthedAtRest (x w).2 := by
  refine ⟨h.keeps.transactionDepth.trans hI.transactionDepth, ?_⟩
  rcases (write_settles hx hI.transactionDepth h).outcome with ⟨a, _, heffect⟩ | ⟨_, hdb⟩
  · exact hP a _ heffect
  · exact hdb ▸ hI.berthed

theorem membershipStep_berthed {w : World} {op : MembershipOp} (hI : BerthedAtRest w)
    (hop : RestoresOnce w op) : BerthedAtRest (membershipStep w op) := by
  cases op with
  | insertSession input =>
    exact hI.command rfl (insertSession_effect w input) fun _ _ h => hI.berthed.sessionInserted h
  | registerSession channelId sessionId role externalId deliveryMode provenance =>
    exact hI.command rfl
      (registerSession_effect w channelId sessionId role externalId deliveryMode provenance)
      fun _ _ h => hI.berthed.registered h
  | insertChannel id owner =>
    exact hI.command rfl (insertChannel_effect w id owner) fun _ _ h => hI.berthed.channelInserted h
  | insertMembership channelId sessionId role =>
    exact hI.command rfl (insertMembership_effect w channelId sessionId role)
      fun _ _ h => hI.berthed.joined h
  | leaveMembership channelId sessionId =>
    exact hI.command rfl (leaveMembership_effect w channelId sessionId)
      fun _ _ h => hI.berthed.left h
  | markSessionEnded sessionId =>
    exact hI.command rfl (markSessionEnded_effect w sessionId) fun _ _ h => hI.berthed.sessionEnded h
  | reactivateOperatorSession sessionId =>
    refine hI.command rfl (reactivateOperatorSession_effect w sessionId) fun _ _ h => ?_
    have hrole : w.db.sessionRole sessionId = some .operator := by cases h <;> assumption
    exact hI.berthed.reactivated h (hop hrole)
  | closeChannel channelId =>
    exact hI.command rfl (closeChannel_effect w channelId) fun _ _ h => hI.berthed.channelClosed h
  | reopenChannel channelId =>
    exact hI.command rfl (reopenChannel_effect w channelId) fun _ _ h => hI.berthed.channelReopened h
  | updateSessionRole channelId sessionId role =>
    exact hI.command rfl (updateSessionRole_effect w channelId sessionId role)
      fun _ _ h => hI.berthed.roleUpdated h

/-- In every run whose reactivations restore each membership at most once, memberships are single
and grounded in every state, and whoever leaves a channel is no longer in it. -/
theorem memberships_berthed {w : World} (hrest : w.transactionDepth = 0)
    (hempty : w.db.memberships.rows = []) (ops : List MembershipOp)
    (hmeets : Trace.Meets membershipStep RestoresOnce w ops) :
    Berthed (Trace.run membershipStep w ops).db ∧
      ∀ channelId sessionId receipt w',
        leaveMembership channelId sessionId (Trace.run membershipStep w ops) = (.ok receipt, w') →
        w'.db.isActiveMember channelId sessionId = false := by
  have hstart : BerthedAtRest w := by
    refine ⟨hrest, fun channelId sessionId => ?_, fun m hm => ?_⟩
    · simp [activeRows_length, hempty]
    · rw [hempty] at hm
      cases hm
  have hrun : BerthedAtRest (Trace.run membershipStep w ops) :=
    Trace.invariant_run (fun w op hI hop => membershipStep_berthed hI hop) hstart hmeets
  refine ⟨hrun.berthed, fun channelId sessionId receipt w' hleave => ?_⟩
  exact hrun.berthed.left_inactive
    ((leaveMembership_effect _ channelId sessionId).of_ok hleave)

/-- An operator joins a channel, which is closed, reopened and joined again. -/
def rejoined : List MembershipOp :=
  [.insertSession { id := "alice", role := some .operator },
    .insertChannel "harbour" (some "alice"),
    .insertMembership "harbour" "alice" (some .operator),
    .closeChannel "harbour",
    .reopenChannel "harbour",
    .insertMembership "harbour" "alice" (some .operator)]

/-- The operator joins, ends, and comes back. -/
def recovered : List MembershipOp :=
  rejoined.take 3 ++ [.markSessionEnded "alice", .reactivateOperatorSession "alice"]

theorem memberships_berthed_recovered :
    Berthed (Trace.run membershipStep (.initial .empty tally tally) recovered).db := by
  have hmeets : Trace.Meets membershipStep RestoresOnce (.initial .empty tally tally) recovered :=
    ⟨trivial, trivial, trivial, trivial,
      fun _ _ => List.countP_le_length.trans (by decide), trivial⟩
  exact (memberships_berthed rfl rfl recovered hmeets).1

/-- The reactivation brings the first membership back beside the second. -/
theorem memberships_doubled_by_reactivation :
    ¬Berthed (Trace.run membershipStep (.initial .empty tally tally)
      (rejoined ++ [.reactivateOperatorSession "alice"])).db := by
  intro hI
  have hsingle := hI.single "harbour" "alice"
  revert hsingle
  decide

end Wardroom.Crew
