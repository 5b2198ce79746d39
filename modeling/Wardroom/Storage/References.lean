import Wardroom.Library.Trace
import Wardroom.Storage.Frames

/-! # The foreign key of a membership

Every statement that writes a membership is refused unless its session is
stored, sessions are never deleted, and an import rolls back to a database that
had the same property.
-/

namespace Wardroom.Storage
open Wardroom.Library Wardroom.Domain Prog

/-- The session of each membership is stored. -/
def SessionsReferenced (db : Database) : Prop :=
  ∀ m ∈ db.memberships.rows, db.sessions.has m.sessionId = true

section Effects

variable {db db₁ db' : Database}

theorem SessionsReferenced.of_sessions (hI : SessionsReferenced db)
    (hrows : db'.memberships = db.memberships)
    (hsessions : ∀ id, db.sessions.has id = true → db'.sessions.has id = true) :
    SessionsReferenced db' := by
  intro m hm
  rw [hrows] at hm
  exact hsessions _ (hI m hm)

theorem SessionsReferenced.record (hI : SessionsReferenced db) (channelId : Option String)
    (payload : Payload) (at' : String) (ordinal : Option Int) :
    SessionsReferenced (db.record channelId payload at' ordinal) := hI

theorem SessionsReferenced.of_update {p : Membership → Bool} {f : Membership → Membership}
    (hI : SessionsReferenced db)
    (hrows : db'.memberships.rows = db.memberships.rows.map fun m => if p m then f m else m)
    (hf : ∀ m, (f m).key = m.key)
    (hsessions : ∀ id, db.sessions.has id = true → db'.sessions.has id = true) :
    SessionsReferenced db' := by
  intro m' hm'
  rw [hrows] at hm'
  obtain ⟨m, hm, rfl⟩ := List.mem_map.mp hm'
  have hsame : (if p m then f m else m).sessionId = m.sessionId := by
    cases p m with
    | true => exact congrArg (fun key => key.2.1) (hf m)
    | false => rfl
  rw [hsame]
  exact hsessions _ (hI m hm)

theorem SessionsReferenced.inserted {m : Membership} {memberships : Table Membership.key}
    (hI : SessionsReferenced db) (hinsert : db.memberships.insert? m = some memberships)
    (hpresent : db.sessions.has m.sessionId = true) :
    SessionsReferenced { db with memberships := memberships } := by
  intro n hn
  change n ∈ memberships.rows at hn
  rw [(Table.insert?_eq_some.mp hinsert).2, List.mem_append, List.mem_singleton] at hn
  rcases hn with hn | rfl
  · exact hI n hn
  · exact hpresent

theorem has_of_sessionLive {id : String} (h : db.sessionLive id = true) :
    db.sessions.has id = true := by
  obtain ⟨s, hs, _⟩ := Database.sessionLive_iff.mp h
  obtain ⟨hmem, hid⟩ := Table.find?_some hs
  exact (Table.has_iff _ _).mpr (List.mem_map.mpr ⟨s, hmem, hid⟩)

theorem has_of_storedRoles (h : db'.storedRoles = db.storedRoles) (id : String)
    (hid : db.sessions.has id = true) : db'.sessions.has id = true := by
  obtain ⟨s, hs, rfl⟩ := List.mem_map.mp ((Table.has_iff _ _).mp hid)
  have hfound : db'.storedRoles s.id = some s.role := by
    rw [h]
    exact congrArg (Option.map Session.role) (Table.find?_of_mem hs)
  obtain ⟨s', hs', _⟩ := Option.map_eq_some_iff.mp hfound
  obtain ⟨hmem, hkey⟩ := Table.find?_some hs'
  exact (Table.has_iff _ _).mpr (List.mem_map.mpr ⟨s', hmem, hkey⟩)

theorem SessionsReferenced.sessionInserted {input : SessionInput} (hI : SessionsReferenced db)
    (h : SessionInserted input db db') : SessionsReferenced db' := by
  cases h with
  | mk registeredAt at' sessions hinsert =>
    exact hI.of_sessions rfl fun _ hid => Table.has_insert hinsert hid

variable {channelId sessionId : String}

theorem SessionsReferenced.joined {role : Option SessionRole}
    (hI : SessionsReferenced db) (h : Joined channelId sessionId role db db') :
    SessionsReferenced db' := by
  cases h with
  | already => exact hI
  | joined joinedAt at' memberships _ hsession _ hinsert =>
    exact (hI.inserted hinsert (has_of_sessionLive hsession)).record _ _ _ _

theorem SessionsReferenced.reactivated {sessionId : String} (hI : SessionsReferenced db)
    (h : Reactivated sessionId db db') : SessionsReferenced db' := by
  have hrestored : SessionsReferenced (db.reactivate sessionId) :=
    hI.of_update rfl Membership.key_restored
      fun id hid => (Table.has_rewrite rfl Session.id_reactivated id).trans hid
  cases h with
  | idle => exact hrestored
  | mk => exact hrestored.record _ _ _ _

theorem SessionsReferenced.assignRole (hI : SessionsReferenced db) (sessionId : String)
    (role : SessionRole) : SessionsReferenced (db.assignRole sessionId role) :=
  hI.of_update rfl (Membership.key_role role)
    fun id hid => (Table.has_rewrite rfl (Session.id_role role) id).trans hid

theorem SessionsReferenced.roleUpdated {role : SessionRole}
    (hI : SessionsReferenced db) (h : RoleUpdated channelId sessionId role db db') :
    SessionsReferenced db' := by
  have hdemote (ids : List String) (db : Database) (hI : SessionsReferenced db) :
      SessionsReferenced (ids.foldl (fun db id => db.assignRole id .worker) db) := by
    induction ids generalizing db with
    | nil => exact hI
    | cons id ids ih => exact ih _ (hI.assignRole id .worker)
  cases h with
  | mk => exact ((hdemote _ _ hI).assignRole sessionId role).record _ _ _ _

theorem SessionsReferenced.touched {sessionId : String} (hI : SessionsReferenced db)
    (h : Touched sessionId db db') : SessionsReferenced db' := by
  induction h with
  | same => exact hI
  | columns _ assign hid _ _ ih =>
    exact ih.of_sessions rfl fun id hhas => (Table.has_rewrite rfl hid id).trans hhas
  | delivery _ mode at' ih => exact ih.record _ _ _ _

theorem SessionsReferenced.registered {role : SessionRole}
    {externalId : Option String} (hI : SessionsReferenced db)
    (h : Registered channelId sessionId role externalId db db') : SessionsReferenced db' := by
  cases h with
  | inserted input _ _ hinserted hjoined => exact (hI.sessionInserted hinserted).joined hjoined
  | found _ _ htouched hjoined => exact (hI.touched htouched).joined hjoined

end Effects

theorem referenced_closed (session : ImportSession) : ImportClosed session SessionsReferenced where
  insertChannel _ hI := hI
  updateChannel _ _ hI := hI
  insertSession hinsert hI := hI.of_sessions rfl fun _ hid => Table.has_insert hinsert hid
  updateSession hid _ hI := hI.of_sessions rfl fun id hhas => (Table.has_rewrite rfl hid id).trans hhas
  insertMembership hpresent hinsert hI := hI.inserted hinsert hpresent
  endMembership _ endedAt hI := hI.of_update rfl (Membership.key_leftAt endedAt) fun _ hid => hid
  endSession endedAt _ hI := hI.of_update rfl (Membership.key_sessionEndedAt endedAt)
    fun id hid => (Table.has_rewrite rfl (Session.id_endedAt endedAt) id).trans hid

section Runs

variable {w : World}

theorem storeStep_referenced (hrest : w.transactionDepth = 0) (hI : Durable SessionsReferenced w)
    (op : StoreOp) : Durable SessionsReferenced (storeStep w op) := by
  by_cases happend : ∃ event, op = .importAppend event
  · obtain ⟨event, rfl⟩ := happend
    exact hI.importAppend (fun _ h _ _ => h.record _ _) (fun _ h _ _ => h.record _ _) referenced_closed event
  refine (storeStep_transition hrest op).reached.durable (fun db' href heffect => ?_)
    (fun _ _ href => href) hI
  obtain ⟨heffect, hdb'⟩ := heffect
  have haside (h : Aside w.db db') (hroles : (storeStep w op).db.storedRoles = w.db.storedRoles) :
      SessionsReferenced db' := by
    refine href.of_sessions ?_ (has_of_storedRoles (hdb' ▸ hroles))
    cases h with
    | unlogged _ hmemberships => exact hmemberships
    | logged _ hmemberships => exact hmemberships
  cases op with
  | insertSession input => exact href.sessionInserted heffect
  | registerSession channelId sessionId role externalId deliveryMode provenance =>
    exact href.registered heffect
  | insertChannel id owner =>
    cases heffect
    exact href
  | insertMembership channelId sessionId role => exact href.joined heffect
  | leaveMembership channelId sessionId =>
    cases heffect with
    | mk _ leftAt => exact href.of_update rfl (Membership.key_leftAt leftAt) fun _ hid => hid
  | markSessionEnded sessionId =>
    cases heffect with
    | mk endedAt =>
      exact href.of_update rfl (Membership.key_sessionEndedAt endedAt)
        fun id hid => (Table.has_rewrite rfl (Session.id_endedAt endedAt) id).trans hid
  | reactivateOperatorSession sessionId => exact href.reactivated heffect
  | closeChannel channelId =>
    cases heffect with
    | already => exact href
    | mk closedAt =>
      exact href.of_update rfl (Membership.key_sessionEndedAt closedAt) fun _ hid => hid
  | reopenChannel channelId => cases heffect <;> exact href
  | updateSessionRole channelId sessionId role => exact href.roleUpdated heffect
  | commitMessage input =>
    obtain ⟨receipt, hcommitted⟩ := heffect
    cases hcommitted <;> exact href
  | resolveThread root actor channelId => cases heffect <;> exact href
  | reopenThread root actor channelId => cases heffect <;> exact href
  | importBegin digest version => exact heffect.elim
  | importAppend event => exact absurd ⟨event, rfl⟩ happend
  | importCommit => exact heffect.elim
  | importRollback => exact heffect.elim
  | _ => exact haside heffect (storeStep_storedRoles w rfl)

/-- The foreign key holds in every state of a run from an empty store. -/
theorem run_referenced (clock uuids : Nat → String) (ops : List StoreOp) :
    SessionsReferenced (Trace.run storeStep (.initial .empty clock uuids) ops).db := by
  have hstart : (World.initial .empty clock uuids).transactionDepth = 0 ∧
      Durable SessionsReferenced (World.initial .empty clock uuids) := by
    refine ⟨rfl, fun m hm => ?_, fun session hs => ?_⟩
    · cases hm
    · cases hs
  have hrun := Trace.invariant_of_step
    (I := fun w => w.transactionDepth = 0 ∧ Durable SessionsReferenced w)
    (fun w op hI => ⟨(storeStep_transition hI.1 op).transactionDepth.trans hI.1,
      storeStep_referenced hI.1 hI.2 op⟩) hstart ops
  exact hrun.2.1

end Runs

end Wardroom.Storage
