import Wardroom.Domain.Contracts
import Wardroom.Library.Program

/-! # Resumable blueprints

What is kept of a suspended channel and of each of its members, so that a later
generation can be started in its place.
-/

namespace Wardroom.Lifecycle
open Wardroom.Library Wardroom.Domain

/-- A provider's own conversation; the descriptor is the provider's data. -/
structure ProviderConversationRef where
  conversationId : String
  resumeDescriptor : Json
  deriving DecidableEq

structure AllowlistedLaunchConfig where
  executable : String
  args : List String
  cwd : String
  home : Option String
  deriving DecidableEq, Repr

structure LayoutMetadata where
  terminalColumns : Option Nat
  terminalRows : Option Nat
  layoutVersion : String
  deriving DecidableEq, Repr

structure MemberIntent where
  role : Option SessionRole
  workUnitId : Option String
  deriving DecidableEq, Repr

structure ResumableMemberBlueprint where
  channelId : String
  priorSessionId : String
  intent : MemberIntent
  launch : AllowlistedLaunchConfig
  layout : LayoutMetadata
  adapterKind : String
  lastAcknowledgedDeliveryCursor : String
  role : Option SessionRole
  joinedAt : String
  processGeneration : Nat
  provider : Option ProviderConversationRef
  deriving DecidableEq

structure ResumableChannelBlueprint where
  version : Nat
  channelId : String
  channelName : String
  goal : String
  suspendedAt : String
  historyCursor : String
  members : List ResumableMemberBlueprint
  deriving DecidableEq

namespace ProviderConversationRef

/-- A text member of the descriptor. -/
def described (ref : ProviderConversationRef) (k : String) : Option String :=
  (ref.resumeDescriptor.member k).bind fun
    | .str s => some s
    | _ => none

/-- The runtime of the member resumes the conversation itself. -/
def runtimeOwned (ref : ProviderConversationRef) : Bool := ref.described "mode" = some "runtime"

end ProviderConversationRef

namespace ResumableChannelBlueprint

def member? (blueprint : ResumableChannelBlueprint) (sessionId : String) :
    Option ResumableMemberBlueprint :=
  blueprint.members.find? fun m => m.priorSessionId = sessionId

/-- Replace the member of the same session in place, or add the member at the end. -/
def withMember (blueprint : ResumableChannelBlueprint) (member : ResumableMemberBlueprint) :
    ResumableChannelBlueprint :=
  { blueprint with
    members :=
      if blueprint.members.any fun m => m.priorSessionId = member.priorSessionId then
        blueprint.members.map fun m => if m.priorSessionId = member.priorSessionId then member else m
      else blueprint.members ++ [member] }

def retaining (blueprint : ResumableChannelBlueprint) (sessionIds : List String) :
    ResumableChannelBlueprint :=
  { blueprint with members := blueprint.members.filter fun m => m.priorSessionId ∈ sessionIds }

end ResumableChannelBlueprint

/-- A channel before its first member is launched. -/
def emptyBlueprint (channelId channelName suspendedAt : String) : ResumableChannelBlueprint :=
  ⟨1, channelId, channelName, "", suspendedAt, "0", []⟩

def validateMember (blueprint : ResumableChannelBlueprint) (seen : List String)
    (member : ResumableMemberBlueprint) : Except Failure Unit :=
  if member.priorSessionId = "" ∨ member.priorSessionId ∈ seen ∨ member.launch.executable = "" ∨
      member.launch.cwd = "" ∨ member.adapterKind = "" then
    .error (.runtime "invalid resumable member")
  else if member.channelId ≠ blueprint.channelId then
    .error (.runtime "member channel ID mismatch")
  else if (CursorCodec.decode member.lastAcknowledgedDeliveryCursor).isNone then
    .error (.runtime "invalid member delivery cursor")
  else if member.provider.any fun ref => ref.conversationId = "" then
    .error (.runtime "invalid provider conversation")
  else .ok ()

def validateMembers (blueprint : ResumableChannelBlueprint) (seen : List String) :
    List ResumableMemberBlueprint → Except Failure Unit
  | [] => .ok ()
  | member :: members => do
    validateMember blueprint seen member
    validateMembers blueprint (member.priorSessionId :: seen) members

def validateBlueprint (blueprint : ResumableChannelBlueprint) : Except Failure Unit :=
  if blueprint.version ≠ 1 ∨ blueprint.channelId = "" ∨ blueprint.channelName = "" ∨
      blueprint.suspendedAt = "" then
    .error (.runtime "invalid resumable blueprint")
  else if (CursorCodec.decode blueprint.historyCursor).isNone then
    .error (.runtime "invalid blueprint history cursor")
  else validateMembers blueprint [] blueprint.members

end Wardroom.Lifecycle
