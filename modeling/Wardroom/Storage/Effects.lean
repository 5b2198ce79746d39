import Wardroom.Storage.Roster

/-! # What each roster command does to the database

For each command, the databases it can return with. The rest of the
development cites these and does not open the commands again.
-/

namespace Wardroom.Storage
open Wardroom.Library Wardroom.Domain Prog

namespace Database

variable (db : Database) (channelId : Option String) (payload : Payload) (at' : String)
  (ordinal : Option Int)

@[simp] theorem record_sessions : (db.record channelId payload at' ordinal).sessions = db.sessions := rfl
@[simp] theorem record_channels : (db.record channelId payload at' ordinal).channels = db.channels := rfl
@[simp] theorem record_memberships :
    (db.record channelId payload at' ordinal).memberships = db.memberships := rfl
@[simp] theorem record_messageThreads :
    (db.record channelId payload at' ordinal).messageThreads = db.messageThreads := rfl
@[simp] theorem record_changes : (db.record channelId payload at' ordinal).changes =
    db.changes.append channelId payload at' ordinal := rfl

end Database

inductive SessionInserted (input : SessionInput) (db : Database) : Database → Prop
  | mk (registeredAt at' : String) (sessions : Table Session.id)
      (hinsert : db.sessions.insert? ⟨input.id, registeredAt, none, input.displayName, input.role,
        input.externalId, none, input.deliveryMode.getD .runtime, input.externalOwner,
        input.externalAgentId⟩ = some sessions) :
      SessionInserted input db ({ db with sessions := sessions }.record none
        (.sessionRegistered input.id registeredAt input.displayName input.role input.externalId
          (input.deliveryMode.getD .runtime)) at' none)

theorem insertSession_effect (w : World) (input : SessionInput) :
    Ensures (insertSession input) w fun _ db' => SessionInserted input w.db db' := by
  refine ensures_write fun n => ?_
  simp only [Ensures, wp_bind, wp_database, wp_throwIf, wp_now, wp_constrained, wp_modifyDatabase]
  refine ⟨fun _ => ⟨rfl, rfl, rfl, le_rfl⟩, fun _ => ⟨fun sessions hs => ?_, fun _ => ⟨rfl, rfl, rfl, le_rfl⟩⟩⟩
  exact ensures_appendChange ⟨rfl, rfl, rfl, le_rfl⟩ fun _ => .mk _ _ sessions hs

inductive ChannelInserted (id : String) (owner : Option String) (db : Database) : Database → Prop
  | mk (registeredAt at' : String) (channels : Table Channel.id)
      (hinsert : db.channels.insert?
        ⟨id, none, registeredAt, owner, .active, none, .all, .open⟩ = some channels) :
      ChannelInserted id owner db ({ db with channels := channels }.record (some id)
        (.channelRegistered id registeredAt owner) at' none)

theorem insertChannel_effect (w : World) (id : String) (owner : Option String) :
    Ensures (insertChannel id owner) w fun _ db' => ChannelInserted id owner w.db db' := by
  refine ensures_write fun n => ?_
  simp only [Ensures, wp_bind, wp_database, wp_throwIf, wp_now, wp_constrained, wp_references,
    wp_modifyDatabase]
  refine ⟨fun _ => ⟨rfl, rfl, rfl, le_rfl⟩, fun _ => ⟨fun _ => ⟨fun channels hc => ?_, fun _ => ⟨rfl, rfl, rfl, le_rfl⟩⟩,
    fun _ => ⟨rfl, rfl, rfl, le_rfl⟩⟩⟩
  exact ensures_appendChange ⟨rfl, rfl, rfl, le_rfl⟩ fun _ => .mk _ _ channels hc

inductive Joined (channelId sessionId : String) (role : Option SessionRole) (db : Database) :
    Database → Prop
  | already (hmember : db.isActiveMember channelId sessionId = true) :
      Joined channelId sessionId role db db
  | joined (joinedAt at' : String) (memberships : Table Membership.key)
      (hchannel : db.channelActive channelId = true) (hsession : db.sessionLive sessionId = true)
      (hnew : db.isActiveMember channelId sessionId = false)
      (hinsert : db.memberships.insert? ⟨channelId, sessionId, joinedAt, none, none, role⟩ =
        some memberships) :
      Joined channelId sessionId role db ({ db with memberships := memberships }.record
        (some channelId) (.membershipJoined channelId sessionId joinedAt role) at' none)

theorem insertMembership_effect (w : World) (channelId sessionId : String)
    (role : Option SessionRole) :
    Ensures (insertMembership channelId sessionId role) w fun _ db' =>
      Joined channelId sessionId role w.db db' := by
  refine ensures_write fun n => ?_
  simp only [Ensures, wp_bind, wp_database, wp_throwIf, wp_ite, wp_unchanged, wp_now,
    wp_constrained, wp_modifyDatabase]
  refine ⟨fun _ => ⟨rfl, rfl, rfl, le_rfl⟩, fun hchannel => ⟨fun _ => ⟨rfl, rfl, rfl, le_rfl⟩, fun hsession => ?_⟩⟩
  refine ⟨fun hmember => ⟨.already hmember, .refl _⟩, fun hnew => ⟨fun ms hms => ?_, fun _ => ⟨rfl, rfl, rfl, le_rfl⟩⟩⟩
  exact ensures_appendChange ⟨rfl, rfl, rfl, le_rfl⟩ fun _ => .joined _ _ ms (by simpa using hchannel)
    (by simpa using hsession) (by simpa using hnew) hms

def Database.markLeft (db : Database) (key : String × String × String) (leftAt : String) : Database :=
  { db with
    memberships := db.memberships.update (fun m => m.key = key)
      (fun m => { m with leftAt := some leftAt }) (Membership.key_leftAt leftAt) }

inductive Left (channelId sessionId : String) (db : Database) : Database → Prop
  | mk (joined : Membership) (leftAt at' : String)
      (hjoined : latestJoined (db.activeRows channelId sessionId) = some joined) :
      Left channelId sessionId db
        ((db.markLeft (channelId, sessionId, joined.joinedAt) leftAt).record (some channelId)
          (.membershipLeft channelId sessionId leftAt joined.role) at' none)

theorem leaveMembership_effect (w : World) (channelId sessionId : String) :
    Ensures (leaveMembership channelId sessionId) w fun _ db' =>
      Left channelId sessionId w.db db' := by
  refine ensures_write fun n => ?_
  simp only [Ensures, wp_bind, wp_database]
  cases hj : latestJoined (w.db.activeRows channelId sessionId) with
  | none => exact .refl _
  | some joined =>
    simp only [wp_bind, wp_now, wp_modifyDatabase]
    exact ensures_appendChange ⟨rfl, rfl, rfl, le_rfl⟩ fun _ => .mk joined _ _ hj

/-- The database with a session and its active memberships ended. -/
def Database.endSession (db : Database) (sessionId endedAt : String) : Database :=
  { db with
    sessions := db.sessions.update (fun s => s.id = sessionId)
      (fun s => { s with endedAt := some endedAt }) (Session.id_endedAt endedAt)
    memberships := db.memberships.update (fun m => m.sessionId = sessionId ∧ m.active)
      (fun m => { m with sessionEndedAt := some endedAt }) (Membership.key_sessionEndedAt endedAt) }

inductive SessionEnded (sessionId : String) (db : Database) : Database → Prop
  | mk (endedAt at' : String) (memberships : List (String × Option SessionRole)) :
      SessionEnded sessionId db ((db.endSession sessionId endedAt).record none
        (.sessionEnded sessionId endedAt memberships) at' none)

theorem markSessionEnded_effect (w : World) (sessionId : String) :
    Ensures (markSessionEnded sessionId) w fun _ db' => SessionEnded sessionId w.db db' := by
  refine ensures_write fun n => ?_
  simp only [Ensures, wp_bind, wp_database, wp_throwIf, wp_now, wp_modifyDatabase]
  exact ⟨fun _ => ⟨rfl, rfl, rfl, le_rfl⟩, fun _ => ensures_appendChange ⟨rfl, rfl, rfl, le_rfl⟩ fun _ => .mk _ _ _⟩

/-- The database with an operator session live again and its restorable memberships active. -/
def Database.reactivate (db : Database) (sessionId : String) : Database :=
  { db with
    sessions := db.sessions.update (fun s => s.id = sessionId &&
        (s.endedAt.isSome || s.externalOwner.isSome || s.externalAgentId.isSome))
      (fun s => { s with endedAt := none, externalOwner := none, externalAgentId := none })
      Session.id_reactivated
    memberships := db.memberships.update (db.restorable sessionId)
      (fun m => { m with sessionEndedAt := none }) Membership.key_restored }

inductive Reactivated (sessionId : String) (db : Database) : Database → Prop
  | idle (hrole : db.sessionRole sessionId = some .operator) :
      Reactivated sessionId db (db.reactivate sessionId)
  | mk (reactivatedAt at' : String) (hrole : db.sessionRole sessionId = some .operator) :
      Reactivated sessionId db ((db.reactivate sessionId).record none
        (.sessionReactivated sessionId reactivatedAt) at' none)

theorem reactivateOperatorSession_effect (w : World) (sessionId : String) :
    Ensures (reactivateOperatorSession sessionId) w fun _ db' =>
      Reactivated sessionId w.db db' := by
  refine ensures_write fun n => ?_
  simp only [Ensures, wp_bind, wp_database, wp_throwIf, wp_now, wp_modifyDatabase, wp_ite,
    wp_unchanged]
  refine ⟨fun _ => ⟨rfl, rfl, rfl, le_rfl⟩, fun hrole => ?_⟩
  have hoperator := not_not.mp hrole
  exact ⟨fun _ => ⟨.idle hoperator, ⟨rfl, rfl, rfl, le_rfl⟩⟩,
    fun _ => ensures_appendChange ⟨rfl, rfl, rfl, le_rfl⟩ fun _ => .mk _ _ hoperator⟩

/-- The database with a channel closed and its active memberships ended. -/
def Database.close (db : Database) (channelId closedAt : String) : Database :=
  { db with
    channels := db.channels.update (fun c => c.id = channelId)
      (fun c => { c with lifecycleState := .closed, closedAt := some closedAt }) (Channel.id_closed closedAt)
    memberships := db.memberships.update (fun m => m.channelId = channelId ∧ m.active)
      (fun m => { m with sessionEndedAt := some closedAt }) (Membership.key_sessionEndedAt closedAt) }

inductive ChannelClosed (channelId : String) (db : Database) : Database → Prop
  | already : ChannelClosed channelId db db
  | mk (closedAt at' : String) : ChannelClosed channelId db
      ((db.close channelId closedAt).record (some channelId) (.channelClosed channelId closedAt)
        at' none)

theorem closeChannel_effect (w : World) (channelId : String) :
    Ensures (closeChannel channelId) w fun _ db' => ChannelClosed channelId w.db db' := by
  refine ensures_write fun n => ?_
  simp only [Ensures, wp_bind, wp_database]
  cases w.db.currentChannel channelId with
  | none => exact .refl _
  | some channel =>
    simp only [wp_ite, wp_unchanged, wp_bind, wp_now, wp_modifyDatabase]
    exact ⟨fun _ => ⟨.already, .refl _⟩, fun _ => ensures_appendChange ⟨rfl, rfl, rfl, le_rfl⟩ fun _ => .mk _ _⟩

def Database.rewriteChannel (db : Database) (channelId : String) (assign : Channel → Channel)
    (hid : ∀ c, (assign c).id = c.id) : Database :=
  { db with channels := db.channels.update (fun c => c.id = channelId) assign hid }

inductive ChannelReopened (channelId : String) (db : Database) : Database → Prop
  | already : ChannelReopened channelId db db
  | mk (reopenedAt at' : String) : ChannelReopened channelId db
      ((db.rewriteChannel channelId (fun c => { c with lifecycleState := .active, closedAt := none })
        fun _ => rfl).record (some channelId) (.channelReopened channelId reopenedAt) at' none)

theorem reopenChannel_effect (w : World) (channelId : String) :
    Ensures (reopenChannel channelId) w fun _ db' => ChannelReopened channelId w.db db' := by
  refine ensures_write fun n => ?_
  simp only [Ensures, wp_bind, wp_database]
  cases w.db.currentChannel channelId with
  | none => exact .refl _
  | some channel =>
    simp only [wp_ite, wp_unchanged, wp_bind, wp_now, wp_modifyDatabase]
    exact ⟨fun _ => ⟨.already, .refl _⟩, fun _ => ensures_appendChange ⟨rfl, rfl, rfl, le_rfl⟩ fun _ => .mk _ _⟩

def Database.demoted (db : Database) (channelId sessionId : String) (role : SessionRole) :
    List String :=
  if role = .planner then db.replacedPlanners channelId sessionId else []

/-- The database with the role change of `updateSessionRole` applied. -/
def Database.changeRole (db : Database) (channelId sessionId : String) (role : SessionRole) :
    Database :=
  ((db.demoted channelId sessionId role).foldl (fun db id => db.assignRole id .worker)
    db).assignRole sessionId role

/-- The membership row after a role change that demotes the sessions in `demoted`. -/
def rerole (demoted : List String) (sessionId : String) (role : SessionRole) (m : Membership) :
    Membership :=
  if m.active ∧ m.sessionId = sessionId then { m with role := some role }
  else if m.active ∧ m.sessionId ∈ demoted then { m with role := some .worker }
  else m

theorem assignRole_rows (db : Database) (sessionId : String) (role : SessionRole) :
    (db.assignRole sessionId role).memberships.rows = db.memberships.rows.map fun m =>
      if m.active ∧ m.sessionId = sessionId then { m with role := some role } else m := by
  change List.map _ db.memberships.rows = _
  apply List.map_congr_left
  intro m _
  simp only [decide_eq_true_eq, and_comm]

theorem demote_rows (ids : List String) (db : Database) :
    (ids.foldl (fun db id => db.assignRole id .worker) db).memberships.rows =
      db.memberships.rows.map fun m =>
        if m.active ∧ m.sessionId ∈ ids then { m with role := some .worker } else m := by
  induction ids generalizing db with
  | nil => simp
  | cons id ids ih =>
    rw [List.foldl_cons, ih, assignRole_rows, List.map_map]
    apply List.map_congr_left
    intro m _
    cases hactive : m.active with
    | false => simp [hactive]
    | true =>
      by_cases hid : m.sessionId = id
      · simp [hactive, hid]
      · simp [hactive, hid]

theorem changeRole_rows (db : Database) (channelId sessionId : String) (role : SessionRole) :
    (db.changeRole channelId sessionId role).memberships.rows =
      db.memberships.rows.map (rerole (db.demoted channelId sessionId role) sessionId role) := by
  unfold Database.changeRole
  rw [assignRole_rows, demote_rows, List.map_map]
  apply List.map_congr_left
  intro m _
  unfold rerole
  generalize db.demoted channelId sessionId role = demoted
  by_cases hdemoted : m.active = true ∧ m.sessionId ∈ demoted
  · have hkept : ({ m with role := some .worker } : Membership).active = true := hdemoted.1
    simp [hdemoted, hkept]
  · simp [hdemoted]

inductive RoleUpdated (channelId sessionId : String) (role : SessionRole) (db : Database) :
    Database → Prop
  | mk (before : SessionRole) (at' : String) (hbefore : db.sessionRole sessionId = some before) :
      RoleUpdated channelId sessionId role db
        ((db.changeRole channelId sessionId role).record (some channelId)
          (.sessionRoleUpdated channelId sessionId before role
            (db.demoted channelId sessionId role) true) at' none)

theorem updateSessionRole_effect (w : World) (channelId sessionId : String) (role : SessionRole) :
    Ensures (updateSessionRole channelId sessionId role) w fun _ db' =>
      RoleUpdated channelId sessionId role w.db db' := by
  refine ensures_write fun n => ?_
  simp only [Ensures, wp_bind, wp_database]
  cases hbefore : w.db.sessionRole sessionId with
  | none => exact .refl _
  | some before =>
    simp only [wp_bind, wp_modifyDatabase]
    exact ensures_appendChange ⟨rfl, rfl, rfl, le_rfl⟩ fun _ => .mk before _ hbefore

/-- Columns of one session are rewritten, but neither its end nor its role, and a new delivery mode
is journaled. -/
inductive Touched (sessionId : String) (db : Database) : Database → Prop
  | same : Touched sessionId db db
  | columns {db₁ : Database} (h : Touched sessionId db db₁) (assign : Session → Session)
      (hid : ∀ s, (assign s).id = s.id) (hend : ∀ s, (assign s).endedAt = s.endedAt)
      (hrole : ∀ s, (assign s).role = s.role) :
      Touched sessionId db { db₁ with
        sessions := db₁.sessions.update (fun s => s.id = sessionId) assign hid }
  | delivery {db₁ : Database} (h : Touched sessionId db db₁) (mode : SessionDeliveryMode)
      (at' : String) :
      Touched sessionId db (db₁.record none (.sessionDeliveryUpdated sessionId mode) at' none)

section Touched

variable {sessionId : String} {db db' : Database}

theorem Touched.memberships (h : Touched sessionId db db') : db'.memberships = db.memberships := by
  induction h with
  | same => rfl
  | columns _ _ _ _ _ ih => exact ih
  | delivery _ _ _ ih => exact ih

theorem Touched.channels (h : Touched sessionId db db') : db'.channels = db.channels := by
  induction h with
  | same => rfl
  | columns _ _ _ _ _ ih => exact ih
  | delivery _ _ _ ih => exact ih

theorem Touched.sessionLive (h : Touched sessionId db db') (id : String) :
    db'.sessionLive id = db.sessionLive id := by
  induction h with
  | same => rfl
  | @columns db₁ _ assign hid hend hrole ih =>
    rw [← ih]
    unfold Database.sessionLive Database.currentSession
    rw [Table.find?_rewrite rfl hid id, Option.any_map]
    congr 1
    funext s
    by_cases hs : s.id = sessionId <;> simp [hs, hend]
  | delivery _ _ _ ih => exact ih

end Touched

/-- The mailbox is unbound, or bound to this very external id, or none is asked for. -/
def externalIdFree (existing : Option Session) (externalId : Option String) : Bool :=
  existing.all fun current =>
    !(Text.given externalId && Text.given current.externalId && current.externalId ≠ externalId)

section Registration

variable {sessionId : String} {existing : Option Session} {db : Database} {w : World}

theorem bindExternalId_effect (h : Touched sessionId db w.db) (externalId : Option String) :
    Ensures (bindExternalId sessionId existing externalId) w fun _ db' =>
      externalIdFree existing externalId = true ∧ Touched sessionId db db' := by
  cases existing with
  | none => exact ⟨⟨rfl, h⟩, .refl w⟩
  | some current =>
    simp only [bindExternalId, Ensures, wp_ite, wp_bind, wp_throwIf, wp_pure, wp_modifyDatabase]
    refine ⟨fun _ => ⟨fun _ => .refl w, fun hfree => ?_⟩, fun hnone => ⟨⟨?_, h⟩, .refl w⟩⟩
    · have hbound : externalIdFree (some current) externalId = true := by
        by_cases hgiven : Text.given current.externalId = true
        · have hsame : current.externalId = externalId := by
            by_contra hne
            exact hfree ⟨hgiven, hne⟩
          simp [externalIdFree, hsame]
        · simp [externalIdFree, hgiven]
      exact ⟨fun _ => ⟨⟨hbound, h⟩, .refl w⟩, fun _ =>
        ⟨⟨hbound, h.columns _ _ (fun _ => rfl) fun _ => rfl⟩, ⟨rfl, rfl, rfl, le_rfl⟩⟩⟩
    · simp [externalIdFree, hnone]

theorem changeDeliveryMode_effect (h : Touched sessionId db w.db)
    (deliveryMode : Option SessionDeliveryMode) :
    Ensures (changeDeliveryMode sessionId existing deliveryMode) w fun _ db' =>
      Touched sessionId db db' := by
  unfold changeDeliveryMode
  cases existing with
  | none => exact ⟨h, .refl w⟩
  | some current =>
    cases deliveryMode with
    | none => exact ⟨h, .refl w⟩
    | some mode =>
      simp only [Ensures, wp_ite, wp_bind, wp_pure, wp_modifyDatabase]
      refine ⟨fun _ => ⟨h, .refl w⟩, fun _ => ?_⟩
      exact ensures_appendChange ⟨rfl, rfl, rfl, le_rfl⟩ fun _ =>
        (h.columns (fun s => { s with deliveryMode := mode }) (fun _ => rfl) (fun _ => rfl)
          fun _ => rfl).delivery mode _

theorem bindProvenance_effect (h : Touched sessionId db w.db) (owner agent : Option String) :
    Ensures (bindProvenance sessionId existing owner agent) w fun _ db' =>
      Touched sessionId db db' := by
  cases existing with
  | none => exact ⟨h, .refl w⟩
  | some current =>
    simp only [bindProvenance, Ensures, wp_ite, wp_bind, wp_throwIf, wp_pure, wp_modifyDatabase]
    refine ⟨fun _ => ⟨fun _ => .refl w, fun _ => ⟨fun _ => ⟨h, .refl w⟩, fun _ => ?_⟩⟩,
      fun _ => ⟨h, .refl w⟩⟩
    exact ⟨h.columns _ _ (fun _ => rfl) fun _ => rfl, ⟨rfl, rfl, rfl, le_rfl⟩⟩

end Registration

/-- A registration finds or inserts its session, then finds or inserts its membership. -/
inductive Registered (channelId sessionId : String) (role : SessionRole)
    (externalId : Option String) (db : Database) : Database → Prop
  | inserted {db₁ db₂ : Database} (input : SessionInput) (hid : input.id = sessionId)
      (hrole : input.role = some role) (h : SessionInserted input db db₁)
      (hjoined : Joined channelId sessionId (some role) db₁ db₂) :
      Registered channelId sessionId role externalId db db₂
  | found {db₁ db₂ : Database} (hsession : (db.currentSession sessionId).isSome = true)
      (hfree : externalIdFree (db.currentSession sessionId) externalId = true)
      (h : Touched sessionId db db₁) (hjoined : Joined channelId sessionId (some role) db₁ db₂) :
      Registered channelId sessionId role externalId db db₂

theorem joinMissing_effect (w : World) (channelId sessionId : String) (role : SessionRole) :
    Ensures (joinMissing channelId sessionId role) w fun _ db' =>
      Joined channelId sessionId (some role) w.db db' := by
  unfold joinMissing Ensures
  rw [wp_bind, wp_database, wp_ite]
  refine ⟨fun hmember => ⟨.already hmember, .refl w⟩, fun _ => ?_⟩
  rw [wp_bind]
  exact insertMembership_effect w channelId sessionId (some role)

theorem insertMissing_effect (w : World) (existing : Option Session) (input : SessionInput) :
    Ensures (insertMissing existing input) w fun _ db' =>
      if existing.isSome then db' = w.db else SessionInserted input w.db db' := by
  unfold insertMissing Ensures
  rw [wp_ite]
  refine ⟨fun hsome => ⟨?_, .refl w⟩, fun hnone => ?_⟩
  · simp only [if_pos hsome]
  · simp only [if_neg hnone]
    rw [wp_bind]
    exact insertSession_effect w input

theorem registerSession_effect (w : World) (channelId sessionId : String) (role : SessionRole)
    (externalId : Option String) (deliveryMode : Option SessionDeliveryMode)
    (provenance : ExternalProvenance) :
    Ensures (registerSession channelId sessionId role externalId deliveryMode provenance) w
      fun _ db' => Registered channelId sessionId role externalId w.db db' := by
  refine ensures_write fun n => ?_
  unfold Ensures
  rw [wp_bind, wp_database, wp_bind, wp_throwIf]
  refine ⟨fun _ => .refl _, fun _ => ?_⟩
  rw [wp_bind, wp_throwIf]
  refine ⟨fun _ => .refl _, fun _ => ?_⟩
  refine ensures_seq (insertMissing_effect _ _ _) fun _ w₁ h₁ => ?_
  cases hexisting : w.db.currentSession sessionId with
  | none =>
    -- a new session is bound to nothing else
    rw [hexisting] at h₁
    change Ensures (joinMissing channelId sessionId role >>= _) w₁ _
    refine ensures_seq (joinMissing_effect w₁ channelId sessionId role) fun _ w₂ h₂ => ?_
    exact ⟨.inserted _ rfl rfl h₁ h₂, .refl w₂⟩
  | some current =>
    rw [hexisting] at h₁
    have hdb : w₁.db = w.db := h₁
    have hsame : Touched sessionId w.db w₁.db := hdb ▸ .same
    refine ensures_seq (bindExternalId_effect hsame externalId) fun _ w₂ h₂ => ?_
    refine ensures_seq (changeDeliveryMode_effect h₂.2 deliveryMode) fun _ w₃ h₃ => ?_
    refine ensures_seq (bindProvenance_effect h₃ _ _) fun _ w₄ h₄ => ?_
    refine ensures_seq (joinMissing_effect w₄ channelId sessionId role) fun _ w₅ h₅ => ?_
    exact ⟨.found (by rw [hexisting]; rfl) (hexisting ▸ h₂.1) h₄ h₅, .refl w₅⟩

end Wardroom.Storage
