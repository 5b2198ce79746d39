import Wardroom.Library.Text
import Wardroom.Storage.Command

/-! # Sessions, channels and memberships

The commands of the repository that write these three tables. Each one reads,
refuses what it must, changes its rows, and ends with one journal row.
-/

namespace Wardroom.Storage
open Wardroom.Library Wardroom.Domain Prog

structure SessionInput where
  id : String
  displayName : Option String := none
  role : Option SessionRole := none
  externalId : Option String := none
  deliveryMode : Option SessionDeliveryMode := none
  externalOwner : Option String := none
  externalAgentId : Option String := none

def insertSession (input : SessionInput) : Command MutationReceipt := write do
  let db ← database
  throwIf (db.sessions.has input.id) (.coded "sessionAlreadyExists")
  let registeredAt ← now
  let deliveryMode := input.deliveryMode.getD .runtime
  let sessions ← constrained (db.sessions.insert?
    { id := input.id, registeredAt := registeredAt, endedAt := none,
      displayName := input.displayName, role := input.role, externalId := input.externalId,
      providerThreadId := none, deliveryMode := deliveryMode,
      externalOwner := input.externalOwner, externalAgentId := input.externalAgentId })
    "UNIQUE constraint failed: sessions.id"
  modifyDatabase fun db => { db with sessions := sessions }
  appendChange none (.sessionRegistered input.id registeredAt input.displayName input.role
    input.externalId deliveryMode)

def insertChannel (id : String) (ownerOperatorSessionId : Option String) :
    Command MutationReceipt := write do
  let db ← database
  throwIf (db.channels.has id) (.coded "channelAlreadyExists")
  let registeredAt ← now
  references (ownerOperatorSessionId.all fun owner => db.sessions.has owner)
  let channels ← constrained (db.channels.insert?
    { id := id, label := none, registeredAt := registeredAt,
      ownerOperatorSessionId := ownerOperatorSessionId, lifecycleState := .active,
      closedAt := none, broadcastPolicy := .all, coordinationPolicy := .open })
    "UNIQUE constraint failed: channels.id"
  modifyDatabase fun db => { db with channels := channels }
  appendChange (some id) (.channelRegistered id registeredAt ownerOperatorSessionId)

def insertMembership (channelId sessionId : String) (role : Option SessionRole) :
    Command MutationReceipt := write do
  let db ← database
  throwIf (db.channelActive channelId = false) (.coded "channelNotFound")
  throwIf (db.sessionLive sessionId = false) (.coded "sessionNotFound")
  if db.isActiveMember channelId sessionId then unchanged
  else do
    let joinedAt ← now
    let memberships ← constrained (db.memberships.insert?
      ⟨channelId, sessionId, joinedAt, none, none, role⟩)
      "UNIQUE constraint failed: memberships.channel_id, memberships.session_id, memberships.joined_at"
    modifyDatabase fun db => { db with memberships := memberships }
    appendChange (some channelId) (.membershipJoined channelId sessionId joinedAt role)

/-- `ORDER BY joined_at DESC LIMIT 1`. -/
def latestJoined : List Membership → Option Membership
  | [] => none
  | m :: ms =>
    match latestJoined ms with
    | none => some m
    | some n => if n.joinedAt < m.joinedAt then some m else some n

variable {ms : List Membership}

theorem latestJoined_mem {m : Membership} (h : latestJoined ms = some m) :
    m ∈ ms := by
  induction ms generalizing m with
  | nil => cases h
  | cons n ms ih =>
    unfold latestJoined at h
    cases hms : latestJoined ms with
    | none =>
      rw [hms] at h
      cases h
      exact List.mem_cons_self
    | some k =>
      simp only [hms] at h
      by_cases hlt : k.joinedAt < n.joinedAt
      · rw [if_pos hlt] at h
        cases h
        exact List.mem_cons_self
      · rw [if_neg hlt] at h
        exact List.mem_cons_of_mem _ (ih (hms.trans h))

theorem latestJoined_eq_none : latestJoined ms = none ↔ ms = [] := by
  cases ms with
  | nil => simp [latestJoined]
  | cons n ms =>
    simp only [latestJoined, reduceCtorEq, iff_false]
    cases latestJoined ms with
    | none => simp
    | some k => by_cases hlt : k.joinedAt < n.joinedAt <;> simp [hlt]

theorem latestJoined_max {m : Membership} (h : latestJoined ms = some m) :
    ∀ n ∈ ms, n.joinedAt ≤ m.joinedAt := by
  induction ms generalizing m with
  | nil => cases h
  | cons k ms ih =>
    intro n hn
    unfold latestJoined at h
    cases hms : latestJoined ms with
    | none =>
      rw [hms] at h
      cases h
      rcases List.mem_cons.mp hn with rfl | hn
      · exact le_refl _
      · rw [latestJoined_eq_none.mp hms] at hn
        cases hn
    | some l =>
      have hmax := ih hms
      simp only [hms] at h
      by_cases hlt : l.joinedAt < k.joinedAt
      · rw [if_pos hlt] at h
        cases h
        rcases List.mem_cons.mp hn with rfl | hn
        · exact le_refl _
        · exact (hmax n hn).trans hlt.le
      · rw [if_neg hlt] at h
        cases h
        rcases List.mem_cons.mp hn with rfl | hn
        · exact not_lt.mp hlt
        · exact hmax n hn

def leaveMembership (channelId sessionId : String) : Command MutationReceipt := write do
  let db ← database
  match latestJoined (db.activeRows channelId sessionId) with
  | none => fail (.coded "notMember")
  | some joined => do
    let leftAt ← now
    modifyDatabase fun db => { db with
      memberships := db.memberships.update (fun m => m.key = (channelId, sessionId, joined.joinedAt))
        (fun m => { m with leftAt := some leftAt }) (Membership.key_leftAt leftAt) }
    appendChange (some channelId) (.membershipLeft channelId sessionId leftAt joined.role)

def markSessionEnded (sessionId : String) : Command MutationReceipt := write do
  let db ← database
  throwIf (db.sessionLive sessionId = false) (.coded "unknownSession")
  let memberships := ((db.memberships.select fun m => m.sessionId = sessionId ∧ m.active).map
    fun m => (m.channelId, m.role)).insertionSort fun a b => a.1 ≤ b.1
  let endedAt ← now
  modifyDatabase fun db => { db with
    sessions := db.sessions.update (fun s => s.id = sessionId)
      (fun s => { s with endedAt := some endedAt }) (Session.id_endedAt endedAt)
    memberships := db.memberships.update (fun m => m.sessionId = sessionId ∧ m.active)
      (fun m => { m with sessionEndedAt := some endedAt }) (Membership.key_sessionEndedAt endedAt) }
  appendChange none (.sessionEnded sessionId endedAt memberships)

/-- A row that a reactivation of its session restores: an operator membership that has not left
and was ended, in an active channel. -/
def Database.restorable (db : Database) (sessionId : String) (m : Membership) : Bool :=
  m.sessionId = sessionId && m.role = some .operator && m.leftAt.isNone &&
    m.sessionEndedAt.isSome && db.channelActive m.channelId

def reactivateOperatorSession (sessionId : String) : Command MutationReceipt := write do
  let db ← database
  throwIf (db.sessionRole sessionId ≠ some .operator) (.coded "operatorSessionNotRecoverable")
  let reactivatedAt ← now
  let stale : Session → Bool := fun s => s.id = sessionId &&
    (s.endedAt.isSome || s.externalOwner.isSome || s.externalAgentId.isSome)
  let sessionChanges := (db.sessions.select stale).length
  modifyDatabase fun db => { db with
    sessions := db.sessions.update stale
      (fun s => { s with endedAt := none, externalOwner := none, externalAgentId := none })
      Session.id_reactivated }
  let membershipChanges := (db.memberships.select (db.restorable sessionId)).length
  modifyDatabase fun db => { db with
    memberships := db.memberships.update (db.restorable sessionId)
      (fun m => { m with sessionEndedAt := none }) Membership.key_restored }
  if sessionChanges + membershipChanges = 0 then unchanged
  else appendChange none (.sessionReactivated sessionId reactivatedAt)

def closeChannel (channelId : String) : Command MutationReceipt := write do
  let db ← database
  match db.currentChannel channelId with
  | none => fail (.coded "unknownChannel")
  | some channel =>
    if channel.lifecycleState = .closed then unchanged
    else do
      let closedAt ← now
      modifyDatabase fun db => { db with
        channels := db.channels.update (fun c => c.id = channelId)
          (fun c => { c with lifecycleState := .closed, closedAt := some closedAt }) (Channel.id_closed closedAt)
        memberships := db.memberships.update (fun m => m.channelId = channelId ∧ m.active)
          (fun m => { m with sessionEndedAt := some closedAt }) (Membership.key_sessionEndedAt closedAt) }
      appendChange (some channelId) (.channelClosed channelId closedAt)

def reopenChannel (channelId : String) : Command MutationReceipt := write do
  let db ← database
  match db.currentChannel channelId with
  | none => fail (.coded "unknownChannel")
  | some channel =>
    if channel.lifecycleState = .active then unchanged
    else do
      let reopenedAt ← now
      modifyDatabase fun db => { db with
        channels := db.channels.update (fun c => c.id = channelId)
          (fun c => { c with lifecycleState := .active, closedAt := none }) fun _ => rfl }
      appendChange (some channelId) (.channelReopened channelId reopenedAt)

def updateChannelColumn {β : Type} [DecidableEq β] (column : Channel → β)
    (assign : Channel → Channel) (hid : ∀ c, (assign c).id = c.id) (payload : Payload)
    (channelId : String) (value : β) : Command MutationReceipt := write do
  let db ← database
  match db.currentChannel channelId with
  | none => fail (.coded "unknownChannel")
  | some current =>
    if column current = value then unchanged
    else do
      modifyDatabase fun db => { db with
        channels := db.channels.update (fun c => c.id = channelId) assign hid }
      appendChange (some channelId) payload

def updateChannelLabel (channelId : String) (label : Option String) : Command MutationReceipt :=
  updateChannelColumn Channel.label (fun c => { c with label := label }) (fun _ => rfl)
    (.channelLabelUpdated channelId label) channelId label

def updateChannelBroadcastPolicy (channelId : String) (policy : ChannelBroadcastPolicy) :
    Command MutationReceipt :=
  updateChannelColumn Channel.broadcastPolicy (fun c => { c with broadcastPolicy := policy })
    (fun _ => rfl) (.channelBroadcastPolicyUpdated channelId policy) channelId policy

def updateChannelCoordinationPolicy (channelId : String) (policy : ChannelCoordinationPolicy) :
    Command MutationReceipt :=
  updateChannelColumn Channel.coordinationPolicy (fun c => { c with coordinationPolicy := policy })
    (fun _ => rfl) (.channelCoordinationPolicyUpdated channelId policy) channelId policy

/-- The two updates that give a session and its active memberships a role. -/
def Database.assignRole (db : Database) (sessionId : String) (role : SessionRole) : Database :=
  { db with
    sessions := db.sessions.update (fun s => s.id = sessionId)
      (fun s => { s with role := some role }) (Session.id_role role)
    memberships := db.memberships.update (fun m => m.sessionId = sessionId ∧ m.active)
      (fun m => { m with role := some role }) (Membership.key_role role) }

def Database.replacedPlanners (db : Database) (channelId sessionId : String) : List String :=
  ((db.activeHolders channelId .planner).filter fun m => m.sessionId ≠ sessionId).map
    Membership.sessionId

def updateSessionRole (channelId sessionId : String) (role : SessionRole) :
    Command MutationReceipt := write do
  let db ← database
  match db.sessionRole sessionId with
  | none => fail (.coded "unknownSession")
  | some before => do
    let replaced := if role = .planner then db.replacedPlanners channelId sessionId else []
    modifyDatabase fun db => replaced.foldl (fun db id => db.assignRole id .worker) db
    modifyDatabase fun db => db.assignRole sessionId role
    appendChange (some channelId)
      (.sessionRoleUpdated channelId sessionId before role replaced true)

structure ExternalProvenance where
  externalOwner : Option String := none
  externalAgentId : Option String := none

structure Registration where
  session : Option Session
  membership : Option Membership
  idempotent : Bool

/-- Bind a mailbox without an external id to its caller; never rebind one. -/
def bindExternalId (sessionId : String) (existing : Option Session) (externalId : Option String) :
    Command Unit :=
  match existing with
  | none => pure ()
  | some current =>
    if Text.given externalId then do
      throwIf (Text.given current.externalId ∧ current.externalId ≠ externalId)
        (.coded "externalIdAlreadyBound")
      if Text.given current.externalId then pure ()
      else modifyDatabase fun db => { db with
        sessions := db.sessions.update (fun s => s.id = sessionId)
          (fun s => { s with externalId := externalId }) fun _ => rfl }
    else pure ()

def changeDeliveryMode (sessionId : String) (existing : Option Session)
    (deliveryMode : Option SessionDeliveryMode) : Command Unit :=
  match existing, deliveryMode with
  | some current, some mode =>
    if current.deliveryMode = mode then pure ()
    else do
      modifyDatabase fun db => { db with
        sessions := db.sessions.update (fun s => s.id = sessionId)
          (fun s => { s with deliveryMode := mode }) fun _ => rfl }
      let _ ← appendChange none (.sessionDeliveryUpdated sessionId mode)
      pure ()
  | _, _ => pure ()

def bindProvenance (sessionId : String) (existing : Option Session) (owner agent : Option String) :
    Command Unit :=
  match existing with
  | none => pure ()
  | some current =>
    if owner.isSome then do
      throwIf (Text.given current.externalOwner ∧
        (current.externalOwner ≠ owner ∨ current.externalAgentId ≠ agent))
        (.coded "externalProvenanceAlreadyBound")
      if Text.given current.externalOwner then pure ()
      else modifyDatabase fun db => { db with
        sessions := db.sessions.update (fun s => s.id = sessionId)
          (fun s => { s with externalOwner := owner, externalAgentId := agent }) fun _ => rfl }
    else pure ()

/-- Insert the session of a registration that found none. -/
def insertMissing (existing : Option Session) (input : SessionInput) : Command Unit :=
  if existing.isSome then pure ()
  else do
    let _ ← insertSession input
    pure ()

/-- Join the channel of a registration whose session is no active member yet. -/
def joinMissing (channelId sessionId : String) (role : SessionRole) : Command Unit := do
  let db ← database
  if db.isActiveMember channelId sessionId then pure ()
  else do
    let _ ← insertMembership channelId sessionId (some role)
    pure ()

def registerSession (channelId sessionId : String) (role : SessionRole)
    (externalId : Option String) (deliveryMode : Option SessionDeliveryMode)
    (provenance : ExternalProvenance) : Command Registration := command do
  let db ← database
  throwIf (db.currentChannel channelId = none) (.coded "channelNotFound")
  let existing := db.currentSession sessionId
  let owner := Text.trimmed provenance.externalOwner
  let agent := Text.trimmed provenance.externalAgentId
  throwIf (owner.isNone ≠ agent.isNone) (.rooms "invalidExternalProvenance"
    "externalOwner and externalAgentId must be supplied together")
  insertMissing existing
    { id := sessionId, role := some role, externalId := externalId,
      deliveryMode := deliveryMode, externalOwner := owner, externalAgentId := agent }
  bindExternalId sessionId existing externalId
  changeDeliveryMode sessionId existing deliveryMode
  bindProvenance sessionId existing owner agent
  joinMissing channelId sessionId role
  let db ← database
  return ⟨db.currentSession sessionId,
    latestJoined (db.memberships.select fun m => m.channelId = channelId ∧ m.sessionId = sessionId),
    existing.isSome⟩

/-- Not a write call: the update is its own statement. -/
def setSessionProviderThreadId (id providerThreadId : String) : Command Session := do
  throwIf (Text.blank providerThreadId) (.coded "invalidProviderThreadId")
  modifyDatabase fun db => { db with
    sessions := db.sessions.update (fun s => s.id = id)
      (fun s => { s with providerThreadId := some providerThreadId }) fun _ => rfl }
  let db ← database
  match db.currentSession id with
  | none => fail (.coded "unknownSession")
  | some value => return value

def recordRuntimeLifecycle (channelId sessionId runtimeId : String) (generation : Nat)
    (state : String) (endedAt : Option String) : Command MutationReceipt := write do
  let db ← database
  let role := (latestJoined (db.activeRows channelId sessionId)).bind Membership.role
  appendChange (some channelId)
    (.runtimeLifecycle channelId sessionId runtimeId generation state endedAt role)

def assertFederatedAdmissionOwner (channelId actorSessionId : String) (requireActiveChannel : Bool) :
    Command Unit := do
  let db ← database
  match db.currentChannel channelId with
  | none => fail (.coded "channelNotFound")
  | some channel => do
    throwIf (requireActiveChannel ∧ channel.lifecycleState ≠ .active) (.coded "channelClosed")
    throwIf (¬ (db.sessionLive actorSessionId ∧ db.sessionRole actorSessionId = some .operator ∧
        channel.ownerOperatorSessionId = some actorSessionId))
      (.rooms "ownerAuthorizationRequired" ("operator " ++ actorSessionId ++ " does not own " ++ channelId))

def grantFederatedChannelAdmission (channelId peerAuthorityId actorSessionId : String) :
    Command (Option FederationChannelAdmission) := write do
  assertFederatedAdmissionOwner channelId actorSessionId true
  let timestamp ← now
  let granted : FederationChannelAdmission :=
    ⟨channelId, peerAuthorityId, actorSessionId, timestamp, none, none⟩
  -- the conflict clause renews a revoked admission and leaves a current one alone
  modifyDatabase fun db => { db with
    federationChannelAdmissions :=
      (db.federationChannelAdmissions.insert? granted).getD
        (db.federationChannelAdmissions.update
          (fun a => a.key = (channelId, peerAuthorityId) ∧ a.revokedAt.isSome)
          (fun a => { a with grantedBySessionId := actorSessionId, grantedAt := timestamp,
                             revokedBySessionId := none, revokedAt := none }) fun _ => rfl) }
  let db ← database
  return db.federationChannelAdmissions.find? (channelId, peerAuthorityId)

def revokeFederatedChannelAdmission (channelId peerAuthorityId actorSessionId : String) :
    Command (Option FederationChannelAdmission) := write do
  assertFederatedAdmissionOwner channelId actorSessionId false
  let db ← database
  match db.federationChannelAdmissions.find? (channelId, peerAuthorityId) with
  | none => fail (.rooms "federationAdmissionNotFound" "federated channel admission does not exist")
  | some existing => do
    if existing.revokedAt = none then do
      let timestamp ← now
      modifyDatabase fun db => { db with
        federationChannelAdmissions := db.federationChannelAdmissions.update
          (fun a => a.key = (channelId, peerAuthorityId) ∧ a.revokedAt = none)
          (fun a => { a with revokedBySessionId := some actorSessionId,
                             revokedAt := some timestamp }) fun _ => rfl }
    else pure ()
    let db ← database
    return db.federationChannelAdmissions.find? (channelId, peerAuthorityId)

end Wardroom.Storage
