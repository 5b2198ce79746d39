import Wardroom.Storage.Transitions

/-! # The operations of the repository

All of them as one step function, and one inversion lemma: what a step on a
store at rest can do to the database. Properties of whole runs are derived from
this lemma alone.
-/

namespace Wardroom.Storage
open Wardroom.Library Wardroom.Domain Prog

inductive StoreOp where
  | insertSession (input : SessionInput)
  | registerSession (channelId sessionId : String) (role : SessionRole) (externalId : Option String)
      (deliveryMode : Option SessionDeliveryMode) (provenance : ExternalProvenance)
  | insertChannel (id : String) (ownerOperatorSessionId : Option String)
  | insertMembership (channelId sessionId : String) (role : Option SessionRole)
  | leaveMembership (channelId sessionId : String)
  | markSessionEnded (sessionId : String)
  | reactivateOperatorSession (sessionId : String)
  | closeChannel (channelId : String)
  | reopenChannel (channelId : String)
  | updateChannelLabel (channelId : String) (label : Option String)
  | updateChannelBroadcastPolicy (channelId : String) (policy : ChannelBroadcastPolicy)
  | updateChannelCoordinationPolicy (channelId : String) (policy : ChannelCoordinationPolicy)
  | updateSessionRole (channelId sessionId : String) (role : SessionRole)
  | setSessionProviderThreadId (id providerThreadId : String)
  | recordRuntimeLifecycle (channelId sessionId runtimeId : String) (generation : Nat)
      (state : String) (endedAt : Option String)
  | grantFederatedChannelAdmission (channelId peerAuthorityId actorSessionId : String)
  | revokeFederatedChannelAdmission (channelId peerAuthorityId actorSessionId : String)
  | commitMessage (input : CanonicalMessageCommitInput)
  | resolveThread (threadRootEventId actorSessionId : String) (channelId : Option String)
  | reopenThread (threadRootEventId actorSessionId : String) (channelId : Option String)
  | commitControl (input : ControlInput)
  | appendMessageDelivery (messageId : String) (statuses : RecipientStatuses)
  | importBegin (sourceDigest : String) (sourceVersion : Int)
  | importAppend (event : CanonicalImportEvent)
  | importCommit
  | importRollback

/-- A call of an operation, whose receipt the caller does not look at. -/
def receiptless {α : Type} (x : Command α) : Command Unit := fun w =>
  ((x w).1.map fun _ => (), (x w).2)

theorem wp_receiptless {α : Type} {x : Command α} {Q : Unit → World → Prop}
    {E : Failure → World → Prop} {w : World} :
    wp (receiptless x) Q E w ↔ wp x (fun _ w' => Q () w') E w := by
  unfold wp receiptless
  rcases x w with ⟨r, w'⟩
  cases r <;> rfl

def storeCall : StoreOp → Command Unit
  | .insertSession input => receiptless (insertSession input)
  | .registerSession channelId sessionId role externalId deliveryMode provenance =>
    receiptless (registerSession channelId sessionId role externalId deliveryMode provenance)
  | .insertChannel id owner => receiptless (insertChannel id owner)
  | .insertMembership channelId sessionId role =>
    receiptless (insertMembership channelId sessionId role)
  | .leaveMembership channelId sessionId => receiptless (leaveMembership channelId sessionId)
  | .markSessionEnded sessionId => receiptless (markSessionEnded sessionId)
  | .reactivateOperatorSession sessionId => receiptless (reactivateOperatorSession sessionId)
  | .closeChannel channelId => receiptless (closeChannel channelId)
  | .reopenChannel channelId => receiptless (reopenChannel channelId)
  | .updateChannelLabel channelId label => receiptless (updateChannelLabel channelId label)
  | .updateChannelBroadcastPolicy channelId policy =>
    receiptless (updateChannelBroadcastPolicy channelId policy)
  | .updateChannelCoordinationPolicy channelId policy =>
    receiptless (updateChannelCoordinationPolicy channelId policy)
  | .updateSessionRole channelId sessionId role =>
    receiptless (updateSessionRole channelId sessionId role)
  | .setSessionProviderThreadId id providerThreadId =>
    receiptless (setSessionProviderThreadId id providerThreadId)
  | .recordRuntimeLifecycle channelId sessionId runtimeId generation state endedAt =>
    receiptless (recordRuntimeLifecycle channelId sessionId runtimeId generation state endedAt)
  | .grantFederatedChannelAdmission channelId peer actor =>
    receiptless (grantFederatedChannelAdmission channelId peer actor)
  | .revokeFederatedChannelAdmission channelId peer actor =>
    receiptless (revokeFederatedChannelAdmission channelId peer actor)
  | .commitMessage input => receiptless (commitMessage input)
  | .resolveThread root actor channelId => receiptless (resolveThread root actor channelId)
  | .reopenThread root actor channelId => receiptless (reopenThread root actor channelId)
  | .commitControl input => receiptless (commitControl input)
  | .appendMessageDelivery messageId statuses =>
    receiptless (appendMessageDelivery messageId statuses)
  | .importBegin digest version => receiptless (importBegin digest version)
  | .importAppend event => receiptless (importAppend event)
  | .importCommit => receiptless importCommit
  | .importRollback => receiptless importRollback

def storeStep (w : World) (op : StoreOp) : World := (storeCall op w).2

/-- Payloads of the changes that tell who is in a channel and as what. -/
def rosterPayload : Payload → Bool
  | .membershipJoined .. => true
  | .membershipLeft .. => true
  | .sessionEnded .. => true
  | .sessionRoleUpdated .. => true
  | .channelClosed .. => true
  | _ => false

/-- An effect aside from the memberships: no row of them changes, and no more than one row is
journaled, which tells nothing of them. -/
inductive Aside (db : Database) : Database → Prop
  | unlogged (db₁ : Database) (hmemberships : db₁.memberships = db.memberships)
      (hchanges : db₁.changes = db.changes) : Aside db db₁
  | logged (db₁ : Database) (hmemberships : db₁.memberships = db.memberships)
      (hchanges : db₁.changes = db.changes) (channelId : Option String) (payload : Payload)
      (at' : String) (hpayload : rosterPayload payload = false) :
      Aside db (db₁.record channelId payload at' none)

section Aside

variable {db db' : Database}

theorem Aside.of_sessionInserted {input : SessionInput} (h : SessionInserted input db db') :
    Aside db db' := by
  cases h with
  | mk => exact .logged _ (by rfl) (by rfl) _ _ _ (by rfl)

theorem Aside.of_channelInserted {id : String} {owner : Option String}
    (h : ChannelInserted id owner db db') : Aside db db' := by
  cases h with
  | mk => exact .logged _ (by rfl) (by rfl) _ _ _ (by rfl)

theorem Aside.of_channelReopened {channelId : String} (h : ChannelReopened channelId db db') :
    Aside db db' := by
  cases h with
  | already => exact .unlogged _ (by rfl) (by rfl)
  | mk => exact .logged _ (by rfl) (by rfl) _ _ _ (by rfl)

theorem Aside.of_committed {input : CanonicalMessageCommitInput} {receipt : CommitReceipt}
    (h : Committed input db receipt db') : Aside db db' := by
  cases h with
  | duplicate => exact .unlogged _ (by rfl) (by rfl)
  | fresh => exact .logged _ (by rfl) (by rfl) _ _ _ (by rfl)

theorem Aside.of_threadChanged (h : ThreadChanged db db') : Aside db db' := by
  cases h with
  | same => exact .unlogged _ (by rfl) (by rfl)
  | resolved => exact .logged _ (by rfl) (by rfl) _ _ _ (by rfl)
  | reopened => exact .logged _ (by rfl) (by rfl) _ _ _ (by rfl)

end Aside

section Effects

variable (w : World)

theorem updateChannelColumn_effect {β : Type} [DecidableEq β] (column : Channel → β)
    (assign : Channel → Channel) (hid : ∀ c, (assign c).id = c.id) (payload : Payload)
    (channelId : String) (value : β) (hpayload : rosterPayload payload = false) :
    Ensures (updateChannelColumn column assign hid payload channelId value) w
      fun _ db' => Aside w.db db' := by
  refine ensures_write fun n => ?_
  simp only [Ensures, wp_bind, wp_database]
  cases w.db.currentChannel channelId with
  | none => exact .refl _
  | some current =>
    simp only [wp_ite, wp_unchanged, wp_bind, wp_modifyDatabase]
    exact ⟨fun _ => ⟨.unlogged _ (by rfl) (by rfl), .refl _⟩,
      fun _ => ensures_appendChange ⟨rfl, rfl, rfl, le_rfl⟩
        fun _ => .logged _ (by rfl) (by rfl) _ _ _ hpayload⟩

theorem recordRuntimeLifecycle_effect (channelId sessionId runtimeId : String) (generation : Nat)
    (state : String) (endedAt : Option String) :
    Ensures (recordRuntimeLifecycle channelId sessionId runtimeId generation state endedAt) w
      fun _ db' => Aside w.db db' := by
  refine ensures_write fun n => ?_
  simp only [Ensures, wp_bind, wp_database]
  exact ensures_appendChange ⟨rfl, rfl, rfl, le_rfl⟩ fun _ => .logged _ (by rfl) (by rfl) _ _ _ (by rfl)

theorem assertFederatedAdmissionOwner_effect (channelId actorSessionId : String)
    (requireActiveChannel : Bool) :
    wp (assertFederatedAdmissionOwner channelId actorSessionId requireActiveChannel)
      (fun _ w' => w' = w) (fun _ w' => w' = w) w := by
  simp only [assertFederatedAdmissionOwner, wp_bind, wp_database]
  cases w.db.currentChannel channelId with
  | none => rfl
  | some channel =>
    simp only [wp_bind, wp_throwIf]
    exact ⟨fun _ => trivial, fun _ => ⟨fun _ => trivial, fun _ => trivial⟩⟩

theorem grantFederatedChannelAdmission_effect (channelId peerAuthorityId actorSessionId : String) :
    Ensures (grantFederatedChannelAdmission channelId peerAuthorityId actorSessionId) w
      fun _ db' => Aside w.db db' := by
  refine ensures_write fun n => ?_
  unfold Ensures
  rw [wp_bind]
  refine wp_mono (assertFederatedAdmissionOwner_effect _ channelId actorSessionId true) ?_ ?_
  · rintro _ w' rfl
    simp only [wp_bind, wp_now, wp_modifyDatabase, wp_database, wp_pure]
    exact ⟨.unlogged _ (by rfl) (by rfl), ⟨rfl, rfl, rfl, le_rfl⟩⟩
  · rintro _ w' rfl
    exact .refl _

theorem revokeFederatedChannelAdmission_effect (channelId peerAuthorityId actorSessionId : String) :
    Ensures (revokeFederatedChannelAdmission channelId peerAuthorityId actorSessionId) w
      fun _ db' => Aside w.db db' := by
  refine ensures_write fun n => ?_
  unfold Ensures
  rw [wp_bind]
  refine wp_mono (assertFederatedAdmissionOwner_effect _ channelId actorSessionId false) ?_ ?_
  · rintro _ w' rfl
    simp only [wp_bind, wp_database]
    cases w.db.federationChannelAdmissions.find? (channelId, peerAuthorityId) with
    | none => exact .refl _
    | some existing =>
      simp only [wp_bind, wp_ite, wp_now, wp_modifyDatabase, wp_database, wp_pure]
      exact ⟨fun _ => ⟨.unlogged _ (by rfl) (by rfl), ⟨rfl, rfl, rfl, le_rfl⟩⟩,
        fun _ => ⟨.unlogged _ (by rfl) (by rfl), .refl _⟩⟩
  · rintro _ w' rfl
    exact .refl _

theorem commitControl_effect (input : ControlInput) :
    Ensures (commitControl input) w fun _ db' => Aside w.db db' := by
  refine ensures_write fun n => ?_
  simp only [Ensures, wp_bind, wp_database]
  cases w.db.controlRow input.channelId input.senderSessionId input.requestId with
  | some prior => exact ⟨.unlogged _ (by rfl) (by rfl), .refl _⟩
  | none =>
    simp only [wp_bind, wp_randomUUID, wp_now]
    exact ensures_appendChange ⟨rfl, rfl, rfl, Nat.le_succ _⟩
      fun _ => .logged _ (by rfl) (by rfl) _ _ _ (by rfl)

theorem appendMessageDelivery_effect (messageId : String) (statuses : RecipientStatuses) :
    Ensures (appendMessageDelivery messageId statuses) w fun _ db' => Aside w.db db' := by
  refine ensures_write fun n => ?_
  simp only [Ensures, wp_bind, wp_database]
  cases w.db.messageRow messageId with
  | none => exact .refl _
  | some found =>
    simp only [wp_bind, wp_now]
    exact ensures_appendChange ⟨rfl, rfl, rfl, le_rfl⟩ fun _ => .logged _ (by rfl) (by rfl) _ _ _ (by rfl)

/-- Not a write call, so its update outlives a failure. -/
theorem setSessionProviderThreadId_effect (id providerThreadId : String) :
    wp (setSessionProviderThreadId id providerThreadId) (fun _ w' => Aside w.db w'.db ∧ Keeps w w')
      (fun _ w' => Aside w.db w'.db ∧ Keeps w w') w := by
  simp only [setSessionProviderThreadId, wp_bind, wp_throwIf, wp_modifyDatabase, wp_database]
  refine ⟨fun _ => ⟨.unlogged _ (by rfl) (by rfl), .refl w⟩, fun _ => ?_⟩
  cases Database.currentSession _ id with
  | none => exact ⟨.unlogged _ (by rfl) (by rfl), ⟨rfl, rfl, rfl, le_rfl⟩⟩
  | some value => exact ⟨.unlogged _ (by rfl) (by rfl), ⟨rfl, rfl, rfl, le_rfl⟩⟩

end Effects

/-- The databases an operation can leave when it has an effect. -/
def StoreEffect : StoreOp → World → Database → Prop
  | .insertSession input, w, db' => SessionInserted input w.db db'
  | .registerSession channelId sessionId role externalId _ _, w, db' =>
    Registered channelId sessionId role externalId w.db db'
  | .insertChannel id owner, w, db' => ChannelInserted id owner w.db db'
  | .insertMembership channelId sessionId role, w, db' => Joined channelId sessionId role w.db db'
  | .leaveMembership channelId sessionId, w, db' => Left channelId sessionId w.db db'
  | .markSessionEnded sessionId, w, db' => SessionEnded sessionId w.db db'
  | .reactivateOperatorSession sessionId, w, db' => Reactivated sessionId w.db db'
  | .closeChannel channelId, w, db' => ChannelClosed channelId w.db db'
  | .reopenChannel channelId, w, db' => ChannelReopened channelId w.db db'
  | .updateSessionRole channelId sessionId role, w, db' =>
    RoleUpdated channelId sessionId role w.db db'
  | .commitMessage input, w, db' => ∃ receipt, Committed input w.db receipt db'
  | .resolveThread _ _ _, w, db' => ThreadChanged w.db db'
  | .reopenThread _ _ _, w, db' => ThreadChanged w.db db'
  | .importBegin _ _, _, _ => False
  | .importAppend event, w, db' =>
    ∃ session, w.importSession = some session ∧ ImportAppended session event w.db db'
  | .importCommit, _, _ => False
  | .importRollback, _, _ => False
  | _, w, db' => Aside w.db db'

theorem write_transition {α : Type} {w : World} {x body : Command α} {P : α → Database → Prop}
    {E : World → Database → Prop} (hx : x = write body) (hrest : w.transactionDepth = 0)
    (h : Ensures x w P) (hE : ∀ a db', P a db' → E w db') : Transition E w (receiptless x w).2 :=
  (transition_of_settles (write_settles hx hrest h)).mono fun db' ⟨a, hdb⟩ => hE a db' hdb

theorem storeStep_transition {w : World} (hrest : w.transactionDepth = 0) (op : StoreOp) :
    Transition (StoreEffect op) w (storeStep w op) := by
  cases op with
  | insertSession input =>
    exact write_transition rfl hrest (insertSession_effect w input) fun _ _ h => h
  | registerSession channelId sessionId role externalId deliveryMode provenance =>
    exact write_transition rfl hrest
      (registerSession_effect w channelId sessionId role externalId deliveryMode provenance)
      fun _ _ h => h
  | insertChannel id owner =>
    exact write_transition rfl hrest (insertChannel_effect w id owner) fun _ _ h => h
  | insertMembership channelId sessionId role =>
    exact write_transition rfl hrest (insertMembership_effect w channelId sessionId role)
      fun _ _ h => h
  | leaveMembership channelId sessionId =>
    exact write_transition rfl hrest (leaveMembership_effect w channelId sessionId) fun _ _ h => h
  | markSessionEnded sessionId =>
    exact write_transition rfl hrest (markSessionEnded_effect w sessionId) fun _ _ h => h
  | reactivateOperatorSession sessionId =>
    exact write_transition rfl hrest (reactivateOperatorSession_effect w sessionId) fun _ _ h => h
  | closeChannel channelId =>
    exact write_transition rfl hrest (closeChannel_effect w channelId) fun _ _ h => h
  | reopenChannel channelId =>
    exact write_transition rfl hrest (reopenChannel_effect w channelId) fun _ _ h => h
  | updateChannelLabel channelId label =>
    exact write_transition rfl hrest (updateChannelColumn_effect w _ _ _ _ channelId label rfl)
      fun _ _ h => h
  | updateChannelBroadcastPolicy channelId policy =>
    exact write_transition rfl hrest (updateChannelColumn_effect w _ _ _ _ channelId policy rfl)
      fun _ _ h => h
  | updateChannelCoordinationPolicy channelId policy =>
    exact write_transition rfl hrest (updateChannelColumn_effect w _ _ _ _ channelId policy rfl)
      fun _ _ h => h
  | updateSessionRole channelId sessionId role =>
    exact write_transition rfl hrest (updateSessionRole_effect w channelId sessionId role)
      fun _ _ h => h
  | setSessionProviderThreadId id providerThreadId =>
    rcases cases_of_wp (setSessionProviderThreadId_effect w id providerThreadId) with
      ⟨_, _, haside, hkeeps⟩ | ⟨_, _, haside, hkeeps⟩
    · exact .effect haside hkeeps
    · exact .effect haside hkeeps
  | recordRuntimeLifecycle channelId sessionId runtimeId generation state endedAt =>
    exact write_transition rfl hrest
      (recordRuntimeLifecycle_effect w channelId sessionId runtimeId generation state endedAt)
      fun _ _ h => h
  | grantFederatedChannelAdmission channelId peer actor =>
    exact write_transition rfl hrest (grantFederatedChannelAdmission_effect w channelId peer actor)
      fun _ _ h => h
  | revokeFederatedChannelAdmission channelId peer actor =>
    exact write_transition rfl hrest (revokeFederatedChannelAdmission_effect w channelId peer actor)
      fun _ _ h => h
  | commitMessage input =>
    exact write_transition rfl hrest (commitMessage_effect w input) fun receipt _ h => ⟨receipt, h⟩
  | resolveThread root actor channelId =>
    exact write_transition rfl hrest (setThreadState_effect w root actor .resolved channelId)
      fun _ _ h => h
  | reopenThread root actor channelId =>
    exact write_transition rfl hrest (setThreadState_effect w root actor .open channelId)
      fun _ _ h => h
  | commitControl input =>
    exact write_transition rfl hrest (commitControl_effect w input) fun _ _ h => h
  | appendMessageDelivery messageId statuses =>
    exact write_transition rfl hrest (appendMessageDelivery_effect w messageId statuses)
      fun _ _ h => h
  | importBegin digest version => exact importBegin_transition _ digest version
  | importAppend event => exact importAppend_transition event
  | importCommit => exact importCommit_transition _
  | importRollback => exact importRollback_transition _

end Wardroom.Storage
