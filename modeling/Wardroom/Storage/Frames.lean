import Wardroom.Storage.Operations

/-! # What a command leaves alone

A part of the database that no statement of a command writes is the same
afterwards, whether the command returns or throws. One rule for each construct
of the command language, and then the commands beside the roster, none of which
gives a session another role.
-/

namespace Wardroom.Storage
open Wardroom.Library Wardroom.Domain Prog

/-- However it ends, the command leaves the part of the database as it is. -/
def Leaves {β α : Type} (part : Database → β) (x : Command α) : Prop :=
  ∀ w, part (x w).2.db = part w.db

section Rules

variable {β α γ : Type} {part : Database → β}

variable {x : Command α}

theorem leaves_iff_frame :
    Leaves part x ↔ Frame (fun w : World => part w.db) x := Iff.rfl

theorem leaves_of_wp
    (h : ∀ w, wp x (fun _ w' => part w'.db = part w.db) (fun _ w' => part w'.db = part w.db) w) :
    Leaves part x := frame_of_wp h

theorem leaves_of_db (h : ∀ w, (x w).2.db = w.db) : Leaves part x :=
  fun w => congrArg part (h w)

theorem leaves_pure (a : α) : Leaves part (pure a) := leaves_iff_frame.mpr (frame_pure a)

theorem leaves_fail (e : Failure) : Leaves part (fail e : Command α) :=
  leaves_iff_frame.mpr (frame_fail e)

theorem leaves_database : Leaves part database := leaves_of_db fun _ => rfl

theorem leaves_now : Leaves part now := leaves_of_db fun _ => rfl

theorem leaves_randomUUID : Leaves part randomUUID := leaves_of_db fun _ => rfl

theorem leaves_notify (change : Change) : Leaves part (notify change) := leaves_of_db fun _ => rfl

theorem leaves_bind {f : α → Command γ} (hx : Leaves part x)
    (hf : ∀ a, Leaves part (f a)) : Leaves part (x >>= f) :=
  leaves_iff_frame.mpr (frame_bind (leaves_iff_frame.mp hx) fun a => leaves_iff_frame.mp (hf a))

theorem leaves_ite {c : Prop} [Decidable c] {x y : Command α} (hx : Leaves part x)
    (hy : Leaves part y) : Leaves part (if c then x else y) :=
  leaves_iff_frame.mpr (frame_ite (leaves_iff_frame.mp hx) (leaves_iff_frame.mp hy))

theorem leaves_throwIf (c : Prop) [Decidable c] (e : Failure) : Leaves part (throwIf c e) :=
  leaves_ite (leaves_fail e) (leaves_pure ())

theorem leaves_references (present : Bool) : Leaves part (references present) :=
  leaves_throwIf _ _

theorem leaves_modifyDatabase {f : Database → Database} (h : ∀ db, part (f db) = part db) :
    Leaves part (modifyDatabase f) := fun w => h w.db

theorem leaves_unchanged : Leaves part unchanged :=
  leaves_bind leaves_database fun _ => leaves_pure _

def Unmoved (part : Database → β) (payload : Payload) : Prop :=
  ∀ db channelId at' ordinal, part (db.record channelId payload at' ordinal) = part db

theorem leaves_appendChange {payload : Payload} (h : Unmoved part payload)
    (channelId : Option String) : Leaves part (appendChange channelId payload) := by
  refine leaves_bind leaves_now fun _ => leaves_bind leaves_database fun _ =>
    leaves_bind (leaves_references _) fun _ => leaves_bind (leaves_modifyDatabase fun db => ?_)
      fun _ => leaves_bind leaves_database fun _ => leaves_bind (leaves_notify _) fun _ => leaves_pure _
  exact h db _ _ _

theorem leaves_write {body : Command α} (h : Leaves part body) : Leaves part (write body) := by
  refine leaves_of_wp fun w => ?_
  by_cases hdepth : 0 < w.transactionDepth
  · rw [wp_write_nested body hdepth]
    exact wp_of_cases (fun a w' hok => by simpa only [hok] using h w)
      fun e w' herror => by simpa only [herror] using h w
  · by_cases himport : w.importSession = none
    · rw [wp_write_outermost body (by omega) himport]
      refine wp_of_cases (fun a w' hok => ?_) fun e w' _ => rfl
      have hbody := h w.entered
      rw [hok] at hbody
      exact hbody
    · unfold wp write
      rw [if_neg hdepth, if_pos (Option.isSome_iff_ne_none.mpr himport)]

end Rules

section Rows

variable {β : Type} {part : Database → β}

theorem recordRuntimeLifecycle_leaves (channelId sessionId runtimeId : String) (generation : Nat)
    (state : String) (endedAt : Option String)
    (h : ∀ role, Unmoved part
      (.runtimeLifecycle channelId sessionId runtimeId generation state endedAt role)) :
    Leaves part (recordRuntimeLifecycle channelId sessionId runtimeId generation state endedAt) :=
  leaves_write (leaves_bind leaves_database fun _ => leaves_appendChange (h _) _)

theorem commitControl_leaves (input : ControlInput)
    (h : ∀ id occurredAt, Unmoved part (.controlCommitted id input.channelId input.senderSessionId
      input.kind input.payload input.requestId occurredAt)) :
    Leaves part (commitControl input) := by
  refine leaves_write (leaves_bind leaves_database fun db => ?_)
  cases db.controlRow input.channelId input.senderSessionId input.requestId with
  | some prior => exact leaves_pure _
  | none =>
    exact leaves_bind leaves_randomUUID fun _ => leaves_bind leaves_now fun _ =>
      leaves_bind (leaves_appendChange (h _ _) _) fun _ => leaves_pure _

theorem appendMessageDelivery_leaves (messageId : String) (statuses : RecipientStatuses)
    (h : ∀ delivered occurredAt, Unmoved part
      (.messageDelivery messageId statuses delivered occurredAt)) :
    Leaves part (appendMessageDelivery messageId statuses) := by
  refine leaves_write (leaves_bind leaves_database fun db => ?_)
  cases db.messageRow messageId with
  | none => exact leaves_fail _
  | some found =>
    exact leaves_bind leaves_now fun _ =>
      leaves_bind (leaves_appendChange (h _ _) _) fun _ => leaves_pure _

theorem updateChannelColumn_leaves {γ : Type} [DecidableEq γ] (column : Channel → γ)
    (assign : Channel → Channel) (hid : ∀ c, (assign c).id = c.id) (payload : Payload) (channelId : String)
    (value : γ) (hchannels : ∀ db channels, part { db with channels := channels } = part db)
    (h : Unmoved part payload) :
    Leaves part (updateChannelColumn column assign hid payload channelId value) := by
  refine leaves_write (leaves_bind leaves_database fun db => ?_)
  cases db.currentChannel channelId with
  | none => exact leaves_fail _
  | some current =>
    exact leaves_ite leaves_unchanged
      (leaves_bind (leaves_modifyDatabase fun db => hchannels db _) fun _ => leaves_appendChange h _)

theorem assertFederatedAdmissionOwner_leaves (channelId actorSessionId : String)
    (requireActiveChannel : Bool) :
    Leaves part (assertFederatedAdmissionOwner channelId actorSessionId requireActiveChannel) := by
  refine leaves_bind leaves_database fun db => ?_
  cases db.currentChannel channelId with
  | none => exact leaves_fail _
  | some channel => exact leaves_bind (leaves_throwIf _ _) fun _ => leaves_throwIf _ _

theorem grantFederatedChannelAdmission_leaves (channelId peerAuthorityId actorSessionId : String)
    (h : ∀ db admissions, part { db with federationChannelAdmissions := admissions } = part db) :
    Leaves part (grantFederatedChannelAdmission channelId peerAuthorityId actorSessionId) := by
  refine leaves_write (leaves_bind (assertFederatedAdmissionOwner_leaves _ _ _) fun _ =>
    leaves_bind leaves_now fun _ => leaves_bind (leaves_modifyDatabase fun db => ?_) fun _ =>
      leaves_bind leaves_database fun _ => leaves_pure _)
  exact h db _

theorem revokeFederatedChannelAdmission_leaves (channelId peerAuthorityId actorSessionId : String)
    (h : ∀ db admissions, part { db with federationChannelAdmissions := admissions } = part db) :
    Leaves part (revokeFederatedChannelAdmission channelId peerAuthorityId actorSessionId) := by
  refine leaves_write (leaves_bind (assertFederatedAdmissionOwner_leaves _ _ _) fun _ =>
    leaves_bind leaves_database fun db => ?_)
  cases db.federationChannelAdmissions.find? (channelId, peerAuthorityId) with
  | none => exact leaves_fail _
  | some existing =>
    have hread : Leaves part (do
        let db ← database
        return db.federationChannelAdmissions.find? (channelId, peerAuthorityId)) :=
      leaves_bind leaves_database fun _ => leaves_pure _
    by_cases hrevoked : existing.revokedAt = none
    · simp only [if_pos hrevoked]
      refine leaves_bind leaves_now fun _ => leaves_bind (leaves_modifyDatabase fun db => ?_)
        fun _ => hread
      exact h db _
    · simp only [if_neg hrevoked]
      exact leaves_bind (leaves_pure ()) fun _ => hread

theorem setSessionProviderThreadId_leaves (id providerThreadId : String)
    (h : ∀ db : Database, part { db with
      sessions := db.sessions.update (fun s => s.id = id)
        (fun s => { s with providerThreadId := some providerThreadId }) fun _ => rfl } = part db) :
    Leaves part (setSessionProviderThreadId id providerThreadId) := by
  refine leaves_bind (leaves_throwIf _ _) fun _ =>
    leaves_bind (leaves_modifyDatabase h) fun _ => leaves_bind leaves_database fun db => ?_
  cases db.currentSession id with
  | none => exact leaves_fail _
  | some value => exact leaves_pure _

end Rows

/-- What the session table says of roles: for each stored id, the role. -/
def Database.storedRoles (db : Database) (id : String) : Option (Option SessionRole) :=
  (db.currentSession id).map Session.role

theorem storedRoles_of_sessions {db db' : Database} (h : db'.sessions = db.sessions) :
    db'.storedRoles = db.storedRoles := by
  unfold Database.storedRoles Database.currentSession
  rw [h]

theorem storedRoles_of_update {db db' : Database} {p : Session → Bool} {f : Session → Session}
    (hrows : db'.sessions.rows = db.sessions.rows.map fun s => if p s then f s else s)
    (hid : ∀ s, (f s).id = s.id) (hrole : ∀ s, (f s).role = s.role) :
    db'.storedRoles = db.storedRoles := by
  funext id
  unfold Database.storedRoles Database.currentSession
  rw [Table.find?_rewrite hrows hid id, Option.map_map]
  congr 1
  funext s
  cases hp : p s <;> simp [hp, hrole]

theorem unmoved_storedRoles (payload : Payload) : Unmoved Database.storedRoles payload :=
  fun _ _ _ _ => storedRoles_of_sessions rfl

/-- The operations whose effect is beside the roster and the messages. -/
def beside : StoreOp → Bool
  | .updateChannelLabel .. => true
  | .updateChannelBroadcastPolicy .. => true
  | .updateChannelCoordinationPolicy .. => true
  | .setSessionProviderThreadId .. => true
  | .recordRuntimeLifecycle .. => true
  | .grantFederatedChannelAdmission .. => true
  | .revokeFederatedChannelAdmission .. => true
  | .commitControl _ => true
  | .appendMessageDelivery .. => true
  | _ => false

theorem storeStep_storedRoles (w : World) {op : StoreOp} (h : beside op = true) :
    (storeStep w op).db.storedRoles = w.db.storedRoles := by
  cases op with
  | updateChannelLabel channelId label =>
    exact updateChannelColumn_leaves _ _ _ _ channelId label (fun _ _ => storedRoles_of_sessions rfl)
      (unmoved_storedRoles _) w
  | updateChannelBroadcastPolicy channelId policy =>
    exact updateChannelColumn_leaves _ _ _ _ channelId policy (fun _ _ => storedRoles_of_sessions rfl)
      (unmoved_storedRoles _) w
  | updateChannelCoordinationPolicy channelId policy =>
    exact updateChannelColumn_leaves _ _ _ _ channelId policy (fun _ _ => storedRoles_of_sessions rfl)
      (unmoved_storedRoles _) w
  | setSessionProviderThreadId id providerThreadId =>
    exact setSessionProviderThreadId_leaves id providerThreadId
      (fun _ => storedRoles_of_update rfl (fun _ => rfl) fun _ => rfl) w
  | recordRuntimeLifecycle channelId sessionId runtimeId generation state endedAt =>
    exact recordRuntimeLifecycle_leaves channelId sessionId runtimeId generation state endedAt
      (fun _ => unmoved_storedRoles _) w
  | grantFederatedChannelAdmission channelId peer actor =>
    exact grantFederatedChannelAdmission_leaves channelId peer actor (fun _ _ => storedRoles_of_sessions rfl) w
  | revokeFederatedChannelAdmission channelId peer actor =>
    exact revokeFederatedChannelAdmission_leaves channelId peer actor (fun _ _ => storedRoles_of_sessions rfl) w
  | commitControl input => exact commitControl_leaves input (fun _ _ => unmoved_storedRoles _) w
  | appendMessageDelivery messageId statuses =>
    exact appendMessageDelivery_leaves messageId statuses (fun _ _ => unmoved_storedRoles _) w
  | _ => cases h

end Wardroom.Storage
