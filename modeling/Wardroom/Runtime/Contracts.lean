import Wardroom.Domain.Contracts

/-! # Runtimes and their bindings

A runtime is one generation of a session's provider process. Its binding says
with which adapter, and for which channel, it was launched.
-/

namespace Wardroom.Domain
open Wardroom.Library

inductive RuntimeState where
  | creating | running | recovering | crashed | exited | terminating | terminated
  deriving DecidableEq, Repr

namespace RuntimeState

def text : RuntimeState → String
  | creating => "creating"
  | running => "running"
  | recovering => "recovering"
  | crashed => "crashed"
  | exited => "exited"
  | terminating => "terminating"
  | terminated => "terminated"

/-- The states that count against the quota of a machine. -/
def occupies : RuntimeState → Bool
  | creating => true
  | running => true
  | recovering => true
  | terminating => true
  | _ => false

/-- The states in which a runtime takes deliveries. -/
def delivers : RuntimeState → Bool
  | running => true
  | recovering => true
  | _ => false

/-- The states that end a runtime. -/
def ends : RuntimeState → Bool
  | exited => true
  | crashed => true
  | terminated => true
  | _ => false

end RuntimeState

structure Runtime where
  runtimeId : String
  homeAuthorityId : String
  sessionId : String
  generation : Nat
  state : RuntimeState
  machineId : String
  providerThreadId : Option String
  effectiveCwd : Option String
  effectiveHome : Option String
  createdAt : String
  updatedAt : String
  endedAt : Option String
  exitReason : Option String
  deriving DecidableEq, Repr

structure RuntimeBinding where
  runtimeId : String
  homeAuthorityId : String
  sessionId : String
  generation : Nat
  channelId : Option String
  adapterKind : String
  launchPolicyRef : Option String
  boundAt : String
  deriving DecidableEq, Repr

structure RuntimeQuota where
  machineId : String
  maxActiveRuntimes : Nat
  maxObserversPerRuntime : Nat
  deriving DecidableEq, Repr

inductive AttachmentMode where
  | observe | controller
  deriving DecidableEq, Repr

/-- A viewer of one generation of a runtime. -/
structure RuntimeAttachment where
  attachmentId : String
  runtimeId : String
  homeAuthorityId : String
  sessionId : String
  generation : Nat
  viewerId : String
  mode : AttachmentMode
  leaseExpiresAt : Option String
  outputCursor : Int
  attachedAt : String
  detachedAt : Option String
  lastSeenAt : Option String
  deriving DecidableEq, Repr

structure AttachRuntimeInput where
  attachmentId : String
  runtimeId : String
  homeAuthorityId : String
  sessionId : String
  generation : Nat
  viewerId : String
  mode : AttachmentMode
  leaseExpiresAt : Option String := none
  outputCursor : Int := 0
  operatorOverride : Bool := false
  allowRecovery : Bool := false

/-- Whoever asks something of a runtime. -/
structure RuntimeActor where
  sessionId : String
  role : SessionRole
  credentialId : String
  deriving DecidableEq, Repr

end Wardroom.Domain
