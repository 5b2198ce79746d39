import Wardroom.Domain.Application

/-! # The service handler over the store

A request names its actor in one of two ways: the membership calls by a session
id, the other calls by a credential that the connection has issued.
-/

namespace Wardroom.Runtime
open Wardroom.Library Wardroom.Domain Wardroom.Storage Wardroom.Application Prog

structure RoomsConnectionState where
  credentials : List (String × String)
  authenticatedSessionId : Option String

/-- What a request carries about its caller. -/
structure Caller where
  connection : RoomsConnectionState
  credential : Option String

/-- `Map.get`. -/
def RoomsConnectionState.credentialSession (state : RoomsConnectionState) (credential : String) :
    Option String := (state.credentials.find? fun c => c.1 = credential).map Prod.snd

def authenticated (caller : Caller) : Except Failure String :=
  let sessionId := (caller.credential.filter fun c => c ≠ "").bind
    caller.connection.credentialSession
  match (sessionId.or caller.connection.authenticatedSessionId).filter fun id => id ≠ "" with
  | none => .error (.runtime "invalid or missing credential")
  | some id =>
    if Text.given sessionId ∧ caller.connection.authenticatedSessionId ≠ sessionId then
      .error (.runtime "invalid or missing credential")
    else .ok id

/-- The context under which a session with a role acts, or the error for one without. -/
def actorContext (db : Database) (actorId credentialId : String) (missing : Failure) :
    Except Failure AuthenticatedCommandContext :=
  match db.sessionRole actorId with
  | none => .error missing
  | some role => .ok ⟨credentialId, actorId, role⟩

def Caller.credentialId (caller : Caller) : String := caller.credential.getD "authenticated"

def createChannel (caller : Caller) (channelName : String) : Command MutationReceipt := do
  let actorId ← ofExcept (authenticated caller)
  let db ← database
  let context ← ofExcept (actorContext db actorId caller.credentialId
    (.runtime "channel actor session is unavailable"))
  registerChannel channelName context

structure RegisterSessionRequest where
  channelId : Option String
  sessionId : String
  role : Option SessionRole
  externalId : Option String
  deliveryMode : Option SessionDeliveryMode
  displayName : Option String

/-- The branch of a registration without a channel, once a reactivation has had its chance. -/
def registerUnlessPresent (request : RegisterSessionRequest) : Command Unit := do
  let db ← database
  if (db.currentSession request.sessionId).isSome then pure ()
  else do
    let _ ← insertSession
      { id := request.sessionId, displayName := request.displayName, role := request.role,
        deliveryMode := request.deliveryMode }
    pure ()

def registerSession (caller : Caller) (request : RegisterSessionRequest) : Command Unit :=
  if Text.given request.channelId then do
    let _ ← Storage.registerSession (request.channelId.getD "") request.sessionId
      (request.role.getD .worker) request.externalId request.deliveryMode {}
    pure ()
  else do
    let db ← database
    let existing := db.currentSession request.sessionId
    if (existing.bind Session.role) = some .operator ∧ Text.given caller.credential then do
      let actor ← ofExcept (authenticated caller)
      throwIf (actor ≠ request.sessionId) (.coded "operatorSessionNotRecoverable")
      let _ ← reactivateOperatorSession request.sessionId
      registerUnlessPresent request
    else do
      throwIf ((existing.bind Session.endedAt).isSome = true) (.coded "operatorSessionNotRecoverable")
      registerUnlessPresent request

/-- `authorizedBySessionId` wins over the session id of the context. -/
def join (channelId sessionId : String) (authorizedBySessionId contextSessionId : Option String) :
    Command MutationReceipt := do
  let db ← database
  match (authorizedBySessionId.or contextSessionId).filter fun id => id ≠ "" with
  | none => fail (.runtime "authorizedBySessionId is required")
  | some actorId => do
    let context ← ofExcept (actorContext db actorId "native-uncredentialed"
      (.runtime "authorizedBySessionId is required"))
    Application.join channelId sessionId context

def leave (channelId sessionId : String) (contextSessionId : Option String) :
    Command MutationReceipt := do
  let db ← database
  let context ← ofExcept (actorContext db (contextSessionId.getD sessionId) "native-uncredentialed"
    (.runtime "authorizedBySessionId is required"))
  Application.leave channelId sessionId context

def closeChannel (caller : Caller) (channelId : String) : Command MutationReceipt := do
  let actorId ← ofExcept (authenticated caller)
  let db ← database
  let context ← ofExcept (actorContext db actorId caller.credentialId
    (.runtime "channel actor session is unavailable"))
  Application.closeChannel channelId context

def endSession (caller : Caller) (sessionId : String) : Command MutationReceipt := do
  let actorId ← ofExcept (authenticated caller)
  let db ← database
  let context ← ofExcept (actorContext db actorId caller.credentialId
    (.runtime "session actor is unavailable"))
  Application.endSession sessionId context

/-- The session of a presented credential; the connection's own session does not do. -/
def credentialed (caller : Caller) : Except Failure String :=
  match caller.credential.filter fun c => !Text.blank c with
  | none => .error (.runtime "operator credential is required")
  | some credential =>
    match (caller.connection.credentialSession credential).filter fun id => id ≠ "" with
    | none => .error (.runtime "invalid or missing credential")
    | some actorId =>
      if caller.connection.authenticatedSessionId ≠ some actorId then
        .error (.runtime "invalid or missing credential")
      else .ok actorId

def updateSessionRole (caller : Caller) (channelId sessionId : String) (role : SessionRole) :
    Command MutationReceipt := do
  let actorId ← ofExcept (credentialed caller)
  let db ← database
  throwIf (db.sessionRole actorId ≠ some .operator) (.runtime "owner operator credential is required")
  Application.updateSessionRole channelId sessionId role ⟨caller.credentialId, actorId, .operator⟩

end Wardroom.Runtime
