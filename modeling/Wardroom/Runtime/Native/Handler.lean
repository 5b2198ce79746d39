import Wardroom.Runtime.Native.Messages

/-! # The requests of the service

One request type over the handlers that write to the store. A request comes
over a connection, and carries a credential and the session id that its caller
claims.
-/

namespace Wardroom.Runtime
open Wardroom.Library Wardroom.Domain Wardroom.Storage Prog

structure RequestContext where
  credential : Option String := none
  sessionId : Option String := none

inductive HandlerRequest where
  | createChannel (channelName : String)
  | updateChannelLabel (channelId : String) (label : Option String)
  | updateChannelBroadcastPolicy (channelId : String) (policy : ChannelBroadcastPolicy)
  | updateChannelCoordinationPolicy (channelId : String) (policy : ChannelCoordinationPolicy)
  | registerSession (request : RegisterSessionRequest)
  | join (channelId sessionId : String) (authorizedBySessionId : Option String)
  | leave (channelId sessionId : String)
  | closeChannel (channelId : String)
  | endSession (sessionId : String)
  | updateSessionRole (channelId sessionId : String) (role : SessionRole)
  | send (request : SendRequest)
  | commitControl (input : ControlInput)
  | resolveThread (threadRootEventId : String) (channelId : Option String)
  | reopenThread (threadRootEventId : String) (channelId : Option String)

inductive Reply where
  | registered
  | mutation (receipt : MutationReceipt)
  | sent (response : SendResponse)
  | control (receipt : ControlReceipt)
  | thread (receipt : ThreadReceipt)

/-- The three settings of a channel are changed under the credentialed session. -/
def manageChannel (caller : Caller) (missing : Failure)
    (update : Application.AuthenticatedCommandContext → Command MutationReceipt) :
    Command MutationReceipt := do
  let actorId ← ofExcept (authenticated caller)
  let db ← database
  let context ← ofExcept (actorContext db actorId caller.credentialId missing)
  update context

def updateChannelLabel (caller : Caller) (channelId : String) (label : Option String) :
    Command MutationReceipt :=
  manageChannel caller (.runtime "channel actor session is unavailable")
    (Application.labelChannel channelId label)

def updateChannelBroadcastPolicy (caller : Caller) (channelId : String)
    (policy : ChannelBroadcastPolicy) : Command MutationReceipt :=
  manageChannel caller (.runtime "channel actor session is unavailable")
    (Application.setChannelBroadcastPolicy channelId policy)

def updateChannelCoordinationPolicy (caller : Caller) (channelId : String)
    (policy : ChannelCoordinationPolicy) : Command MutationReceipt :=
  manageChannel caller (.coded "unauthorized")
    (Application.setChannelCoordinationPolicy channelId policy)

def resolveThread (caller : Caller) (threadRootEventId : String) (channelId : Option String) :
    Command ThreadReceipt := do
  let actorId ← ofExcept (authenticated caller)
  Storage.resolveThread threadRootEventId actorId channelId

def reopenThread (caller : Caller) (threadRootEventId : String) (channelId : Option String) :
    Command ThreadReceipt := do
  let actorId ← ofExcept (authenticated caller)
  Storage.reopenThread threadRootEventId actorId channelId

/-- A handler over the store, with its answer as a reply. -/
def answer {α : Type} (reply : α → Reply) (x : Command α) : Action Reply := do
  let a ← onStore x
  return reply a

/-- `__connection` and `context` make up the caller of a request. -/
def handle (hosts : Hosts) (connection : RoomsConnectionState) (context : RequestContext) :
    HandlerRequest → Action Reply :=
  let caller : Caller := ⟨connection, context.credential⟩
  fun
  | .createChannel channelName => answer .mutation (createChannel caller channelName)
  | .updateChannelLabel channelId label => answer .mutation (updateChannelLabel caller channelId label)
  | .updateChannelBroadcastPolicy channelId policy =>
    answer .mutation (updateChannelBroadcastPolicy caller channelId policy)
  | .updateChannelCoordinationPolicy channelId policy =>
    answer .mutation (updateChannelCoordinationPolicy caller channelId policy)
  | .registerSession request => answer (fun _ => .registered) (registerSession caller request)
  | .join channelId sessionId authorizedBySessionId =>
    answer .mutation (join channelId sessionId authorizedBySessionId context.sessionId)
  | .leave channelId sessionId => answer .mutation (leave channelId sessionId context.sessionId)
  | .closeChannel channelId => answer .mutation (closeChannel caller channelId)
  | .endSession sessionId => answer .mutation (endSession caller sessionId)
  | .updateSessionRole channelId sessionId role =>
    answer .mutation (updateSessionRole caller channelId sessionId role)
  | .send request => do
    let response ← send hosts caller request
    return .sent response
  | .commitControl input => answer .control (commitControl caller input)
  | .resolveThread threadRootEventId channelId =>
    answer .thread (resolveThread caller threadRootEventId channelId)
  | .reopenThread threadRootEventId channelId =>
    answer .thread (reopenThread caller threadRootEventId channelId)

end Wardroom.Runtime
