import Wardroom.Storage.Messages
import Wardroom.Storage.Roster

/-! # Commands under an authenticated actor

Each command checks what its actor may do and then calls the repository, in one
write transaction.
-/

namespace Wardroom.Application
open Wardroom.Library Wardroom.Domain Wardroom.Storage Prog

structure AuthenticatedCommandContext where
  credentialId : String
  actorSessionId : String
  role : SessionRole

/-- The actor exists, is not ended and has the role of its context. -/
def liveActor (db : Database) (context : AuthenticatedCommandContext) : Bool :=
  (db.currentSession context.actorSessionId).any fun actor =>
    actor.endedAt.isNone ∧ actor.role = some context.role

/-- A live operator who owns the channel, or to whom nobody else's ownership matters because it is
an active operator of the channel. -/
def mayManage (db : Database) (channelId : String) (context : AuthenticatedCommandContext) : Bool :=
  liveActor db context && context.role = .operator &&
    ((db.currentChannel channelId).all (fun channel =>
      channel.ownerOperatorSessionId = none ∨
        channel.ownerOperatorSessionId = some context.actorSessionId) ||
      db.isActiveMemberAs channelId context.actorSessionId .operator)

def registerChannel (id : String) (context : AuthenticatedCommandContext) :
    Command MutationReceipt := command do
  let db ← database
  throwIf (context.role ≠ .operator ∨ liveActor db context = false) (.coded "unauthorized")
  insertChannel id (some context.actorSessionId)

def join (channelId sessionId : String) (context : AuthenticatedCommandContext) :
    Command MutationReceipt := command do
  let db ← database
  match db.currentChannel channelId, db.currentSession sessionId with
  | none, _ => fail (.coded "unknownChannel")
  | some channel, target => do
    throwIf (channel.lifecycleState ≠ .active) (.coded "channelClosed")
    throwIf (liveActor db context = false) (.coded "unauthorizedActor")
    match target with
    | none => fail (.coded "unknownSession")
    | some target => do
      throwIf (target.endedAt.isSome = true) (.coded "unknownSession")
      let ownerOperator := context.role = .operator ∧
        channel.ownerOperatorSessionId = some context.actorSessionId
      -- the session role of the actor is authoritative, whatever its membership row says
      let plannerMember := context.role = .planner ∧
        db.isActiveMember channelId context.actorSessionId = true
      throwIf (target.role = some .worker ∧ ¬plannerMember) (.rooms "plannerAuthorizationRequired"
        ("planner " ++ context.actorSessionId ++ " is not an active member of " ++ channelId))
      throwIf (target.role ≠ some .worker ∧ ¬ownerOperator)
        (.rooms "ownerAuthorizationRequired" ("operator does not own " ++ channelId))
      throwIf ((target.role = some .planner ∧ 0 < db.activeMembershipCount channelId .planner) ∨
        (target.role = some .reviewer ∧ 0 < db.activeMembershipCount channelId .reviewer))
        (.coded "alreadyMember")
      insertMembership channelId sessionId target.role

/-- An operator ends sessions that it owns, that are in no channel, or that share one with it; a
planner ends workers of a channel it plans. -/
def mayEnd (db : Database) (sessionId : String) (context : AuthenticatedCommandContext) :
    Except Failure Unit :=
  if liveActor db context = false then .error (.coded "unauthorized")
  else if context.actorSessionId = sessionId then .ok ()
  else match context.role with
    | .operator =>
      match db.currentSession sessionId with
      | none => .error (.coded "unknownSession")
      | some target =>
        let targetChannels := db.activeMembershipChannels sessionId
        if target.externalOwner = some context.actorSessionId ∨ targetChannels = [] ∨
            targetChannels.any (fun channelId =>
              (db.currentChannel channelId).any (fun channel =>
                channel.ownerOperatorSessionId = some context.actorSessionId) ||
              db.isActiveMemberAs channelId context.actorSessionId .operator) then .ok ()
        else .error (.rooms "unauthorized"
          ("operator " ++ context.actorSessionId ++ " shares no channel with " ++ sessionId))
    | .planner =>
      if db.sessionLive sessionId ∧ db.sessionRole sessionId = some .worker ∧
          (db.activeMembershipChannels context.actorSessionId).any (fun channelId =>
            db.isActiveMemberAs channelId context.actorSessionId .planner &&
              db.isActiveMemberAs channelId sessionId .worker) then .ok ()
      else .error (.coded "unauthorized")
    | _ => .error (.coded "unauthorized")

def endSession (sessionId : String) (context : AuthenticatedCommandContext) :
    Command MutationReceipt := command do
  let db ← database
  ofExcept (mayEnd db sessionId context)
  markSessionEnded sessionId

def closeChannel (channelId : String) (context : AuthenticatedCommandContext) :
    Command MutationReceipt := command do
  let db ← database
  throwIf (mayManage db channelId context = false) (.coded "unauthorized")
  Storage.closeChannel channelId

/-- The three settings of a channel share their authority rule. -/
def manageChannel (channelId : String) (context : AuthenticatedCommandContext)
    (update : Command MutationReceipt) : Command MutationReceipt := command do
  let db ← database
  throwIf (mayManage db channelId context = false) (.coded "unauthorized")
  throwIf (db.currentChannel channelId = none) (.coded "unknownChannel")
  update

def labelChannel (channelId : String) (label : Option String)
    (context : AuthenticatedCommandContext) : Command MutationReceipt :=
  manageChannel channelId context (updateChannelLabel channelId label)

def setChannelBroadcastPolicy (channelId : String) (policy : ChannelBroadcastPolicy)
    (context : AuthenticatedCommandContext) : Command MutationReceipt :=
  manageChannel channelId context (updateChannelBroadcastPolicy channelId policy)

def setChannelCoordinationPolicy (channelId : String) (policy : ChannelCoordinationPolicy)
    (context : AuthenticatedCommandContext) : Command MutationReceipt :=
  manageChannel channelId context (updateChannelCoordinationPolicy channelId policy)

def commitMessage (input : CanonicalMessageCommitInput) : Command CommitReceipt := do
  throwIf (Text.blank input.senderSessionId = true) (.coded "senderSessionIdRequired")
  throwIf (Text.blank input.body = true) (.coded "emptyMessage")
  command (Storage.commitMessage input)

def commitControl (input : ControlInput) (context : AuthenticatedCommandContext) :
    Command ControlReceipt := do
  throwIf (Text.blank input.kind = true) (.coded "controlKindRequired")
  throwIf (Text.blank input.requestId = true) (.coded "requestIdRequired")
  command do
    let db ← database
    throwIf (liveActor db context = false ∨ input.senderSessionId ≠ context.actorSessionId)
      (.coded "unauthorized")
    throwIf (db.currentChannel input.channelId = none) (.coded "unknownChannel")
    throwIf (db.channelActive input.channelId = false) (.coded "channelClosed")
    throwIf (db.isActiveMember input.channelId context.actorSessionId = false) (.coded "notMember")
    Storage.commitControl input

def leave (channelId sessionId : String) (context : AuthenticatedCommandContext) :
    Command MutationReceipt := command do
  let db ← database
  throwIf (liveActor db context = false ∨
    (context.actorSessionId ≠ sessionId ∧ context.role ≠ .operator)) (.coded "unauthorized")
  throwIf (db.isActiveMember channelId sessionId = false) (.coded "notMember")
  leaveMembership channelId sessionId

def roleText : SessionRole → String
  | .operator => "operator"
  | .planner => "planner"
  | .worker => "worker"
  | .reviewer => "reviewer"

/-- Another session already holds the role in a channel of the target. A planner handed over in
the named channel is no conflict there: the handoff demotes the planner it finds. -/
def roleConflict (db : Database) (channelId sessionId : String) (role : SessionRole)
    (affectedChannelId : String) : Bool :=
  !(role = .planner && affectedChannelId = channelId) && (role = .planner || role = .reviewer) &&
    0 < db.activeMembershipCountExcept affectedChannelId role sessionId

def updateSessionRole (channelId sessionId : String) (role : SessionRole)
    (context : AuthenticatedCommandContext) : Command MutationReceipt := command do
  let db ← database
  throwIf (mayManage db channelId context = false ∨ db.currentChannel channelId = none)
    (.rooms "ownerAuthorizationRequired" ("operator does not own " ++ channelId))
  throwIf (db.sessionLive sessionId = false) (.coded "unknownSession")
  throwIf (role = .operator) (.rooms "invalidRole" "role must be planner, worker, or reviewer")
  match (db.activeMembershipChannels sessionId).find? (roleConflict db channelId sessionId role) with
  | some affectedChannelId => fail (.rooms "alreadyMember"
      ("an active " ++ roleText role ++ " already exists in " ++ affectedChannelId))
  | none => Storage.updateSessionRole channelId sessionId role

end Wardroom.Application
