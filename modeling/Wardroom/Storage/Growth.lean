import Wardroom.Storage.References

/-! # What every operation keeps

The journal only grows and no session is ever deleted, except that a rollback
gives back the database of before the import, which kept as much.
-/

namespace Wardroom.Storage
open Wardroom.Library Wardroom.Domain Prog

/-- A later database: more rows in the journal, and the same sessions or more. -/
structure Grown (db db' : Database) : Prop where
  rows : db.changes.rows <+: db'.changes.rows
  sessions : ∀ id, db.sessions.has id = true → db'.sessions.has id = true

section Grown

variable {base db db₁ db' : Database}

theorem Grown.refl (db : Database) : Grown db db := ⟨List.prefix_rfl, fun _ h => h⟩

theorem Grown.trans (h : Grown base db) (h' : Grown db db') : Grown base db' :=
  ⟨h.rows.trans h'.rows, fun id hid => h'.sessions id (h.sessions id hid)⟩

theorem Grown.record (h : Grown base db) (channelId : Option String) (payload : Payload) (at' : String)
    (ordinal : Option Int) : Grown base (db.record channelId payload at' ordinal) :=
  ⟨h.rows.trans ⟨[_], rfl⟩, h.sessions⟩

theorem Grown.of_sessions (h : Grown base db) (hchanges : db'.changes = db.changes)
    (hsessions : ∀ id, db.sessions.has id = true → db'.sessions.has id = true) : Grown base db' :=
  ⟨hchanges ▸ h.rows, fun id hid => hsessions id (h.sessions id hid)⟩

theorem Grown.of_rewrite (h : Grown base db) {p : Session → Bool} {f : Session → Session}
    (hchanges : db'.changes = db.changes)
    (hrows : db'.sessions.rows = db.sessions.rows.map fun s => if p s then f s else s)
    (hid : ∀ s, (f s).id = s.id) : Grown base db' :=
  h.of_sessions hchanges fun id hhas => (Table.has_rewrite hrows hid id).trans hhas

theorem Grown.sessionInserted (h : Grown base db) {input : SessionInput} (hinserted : SessionInserted input db db') :
    Grown base db' := by
  cases hinserted with
  | mk _ _ _ hinsert =>
    refine Grown.record ?_ _ _ _ _
    exact h.of_sessions rfl fun _ hid => Table.has_insert hinsert hid

theorem Grown.joined (h : Grown base db) {channelId sessionId : String} {role : Option SessionRole}
    (hjoined : Joined channelId sessionId role db db') : Grown base db' := by
  cases hjoined with
  | already => exact h
  | joined =>
    refine Grown.record ?_ _ _ _ _
    exact h.of_sessions rfl fun _ hid => hid

theorem Grown.touched (h : Grown base db) {sessionId : String} (htouched : Touched sessionId db db') :
    Grown base db' := by
  induction htouched with
  | same => exact h
  | columns _ assign hid _ _ ih => exact ih.of_rewrite rfl rfl hid
  | delivery _ _ _ ih => exact ih.record _ _ _ _

theorem Grown.registered (h : Grown base db) {channelId sessionId : String} {role : SessionRole}
    {externalId : Option String} (hregistered : Registered channelId sessionId role externalId db db') :
    Grown base db' := by
  cases hregistered with
  | inserted _ _ _ hinserted hjoined => exact (h.sessionInserted hinserted).joined hjoined
  | found _ _ htouched hjoined => exact (h.touched htouched).joined hjoined

theorem Grown.assignRole (h : Grown base db) (sessionId : String) (role : SessionRole) :
    Grown base (db.assignRole sessionId role) := h.of_rewrite rfl rfl (Session.id_role role)

theorem Grown.changeRole (h : Grown base db) (channelId sessionId : String) (role : SessionRole) :
    Grown base (db.changeRole channelId sessionId role) := by
  have hdemote (ids : List String) (db : Database) (h : Grown base db) :
      Grown base (ids.foldl (fun db id => db.assignRole id .worker) db) := by
    induction ids generalizing db with
    | nil => exact h
    | cons id ids ih => exact ih _ (h.assignRole id .worker)
  exact (hdemote _ db h).assignRole sessionId role

theorem Grown.threadChanged (h : Grown base db) (hchanged : ThreadChanged db db') : Grown base db' := by
  cases hchanged with
  | same => exact h
  | resolved =>
    refine Grown.record ?_ _ _ _ _
    exact h.of_sessions rfl fun _ hid => hid
  | reopened =>
    refine Grown.record ?_ _ _ _ _
    exact h.of_sessions rfl fun _ hid => hid

theorem Grown.aside (h : Grown base db) (haside : Aside db db') (hroles : db'.storedRoles = db.storedRoles) :
    Grown base db' := by
  have hsessions := has_of_storedRoles hroles
  cases haside with
  | unlogged _ _ hchanges => exact h.of_sessions hchanges hsessions
  | logged db₁ _ hchanges =>
    refine Grown.record ?_ _ _ _ _
    exact h.of_sessions hchanges hsessions

/-- An operation that is no step of an import. -/
theorem Grown.effect {w : World} (h : Grown base w.db) {op : StoreOp} (himport : ∀ event, op ≠ .importAppend event)
    (heffect : StoreEffect op w db') (hdb' : db' = (storeStep w op).db) : Grown base db' := by
  have haside (hop : beside op = true) (haside : Aside w.db db') : Grown base db' :=
    h.aside haside (hdb' ▸ storeStep_storedRoles w hop)
  cases op with
  | insertSession input => exact h.sessionInserted heffect
  | registerSession channelId sessionId role externalId deliveryMode provenance => exact h.registered heffect
  | insertChannel id owner =>
    cases heffect with
    | mk =>
      refine Grown.record ?_ _ _ _ _
      exact h.of_sessions rfl fun _ hid => hid
  | insertMembership channelId sessionId role => exact h.joined heffect
  | leaveMembership channelId sessionId =>
    cases heffect with
    | mk =>
      refine Grown.record ?_ _ _ _ _
      exact h.of_sessions rfl fun _ hid => hid
  | markSessionEnded sessionId =>
    cases heffect with
    | mk endedAt =>
      refine Grown.record ?_ _ _ _ _
      exact h.of_rewrite rfl rfl (Session.id_endedAt endedAt)
  | reactivateOperatorSession sessionId =>
    have hlive : Grown base (w.db.reactivate sessionId) := h.of_rewrite rfl rfl Session.id_reactivated
    cases heffect with
    | idle => exact hlive
    | mk => exact hlive.record _ _ _ _
  | closeChannel channelId =>
    cases heffect with
    | already => exact h
    | mk =>
      refine Grown.record ?_ _ _ _ _
      exact h.of_sessions rfl fun _ hid => hid
  | reopenChannel channelId =>
    cases heffect with
    | already => exact h
    | mk =>
      refine Grown.record ?_ _ _ _ _
      exact h.of_sessions rfl fun _ hid => hid
  | updateSessionRole channelId sessionId role =>
    cases heffect with
    | mk => exact (h.changeRole channelId sessionId role).record _ _ _ _
  | commitMessage input =>
    obtain ⟨receipt, hcommitted⟩ := heffect
    cases hcommitted with
    | duplicate => exact h
    | fresh => exact h.record _ _ _ _
  | resolveThread root actor channelId => exact h.threadChanged heffect
  | reopenThread root actor channelId => exact h.threadChanged heffect
  | importBegin digest version => exact heffect.elim
  | importAppend event => exact absurd rfl (himport event)
  | importCommit => exact heffect.elim
  | importRollback => exact heffect.elim
  | _ => exact haside rfl heffect

theorem grown_closed (base : Database) (session : ImportSession) : ImportClosed session (Grown base) where
  insertChannel _ hI := hI.of_sessions rfl fun _ hid => hid
  updateChannel _ _ hI := hI.of_sessions rfl fun _ hid => hid
  insertSession hinsert hI := hI.of_sessions rfl fun _ hid => Table.has_insert hinsert hid
  updateSession hid _ hI := hI.of_rewrite rfl rfl hid
  insertMembership _ _ hI := hI.of_sessions rfl fun _ hid => hid
  endMembership _ _ hI := hI.of_sessions rfl fun _ hid => hid
  endSession endedAt _ hI := hI.of_rewrite rfl rfl (Session.id_endedAt endedAt)

theorem storeStep_grown {w : World} (hrest : w.transactionDepth = 0) (hI : Durable (Grown base) w) (op : StoreOp) :
    Durable (Grown base) (storeStep w op) := by
  by_cases happend : ∃ event, op = .importAppend event
  · obtain ⟨event, rfl⟩ := happend
    exact hI.importAppend (fun _ h _ _ => h.record _ _) (fun _ h _ _ => h.record _ _) (grown_closed base) event
  · refine (storeStep_transition hrest op).reached.durable (fun db' hdb heffect => ?_)
      (fun _ _ hdb => hdb.of_sessions rfl fun _ hid => hid) hI
    exact hdb.effect (fun event he => happend ⟨event, he⟩) heffect.1 heffect.2

theorem run_grown {w : World} (hrest : w.transactionDepth = 0) (himport : w.importSession = none) (ops : List StoreOp) :
    (Trace.run storeStep w ops).transactionDepth = 0 ∧ Grown w.db (Trace.run storeStep w ops).db := by
  have hstart : w.transactionDepth = 0 ∧ Durable (Grown w.db) w :=
    ⟨hrest, .refl w.db, fun session hs => by cases himport.symm.trans hs⟩
  have hrun := Trace.invariant_of_step (I := fun v => v.transactionDepth = 0 ∧ Durable (Grown w.db) v)
    (fun v op hI => ⟨(storeStep_transition hI.1 op).transactionDepth.trans hI.1, storeStep_grown hI.1 hI.2 op⟩)
    hstart ops
  exact ⟨hrun.1, hrun.2.1⟩

end Grown

end Wardroom.Storage
