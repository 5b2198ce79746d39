import Wardroom.Lifecycle.SuspendResume
import Mathlib

/-! # Suspend and resume as the daemon composes them

A suspension first brings the stored blueprint up to date with the channel: it
drops members that are gone and refreshes the generation and the provider
conversation of the others. These writes belong to no claim. A resume takes a
generation past every one it knows of.
-/

namespace Wardroom.Runtime
open Wardroom.Library Wardroom.Domain Wardroom.Storage Wardroom.Lifecycle Task

/-- The home of the daemon, and the names in its provider registry. -/
structure LocalChannelLifecycle where
  homeAuthorityId : String
  registered : List String

namespace LocalChannelLifecycle

/-- The driver of a conversation; only Claude and Grok are driven by a registered program. -/
def driver (l : LocalChannelLifecycle) (ref : ProviderConversationRef) : Except Failure String :=
  let provider := (ref.described "provider").getD "codex"
  if provider = "codex" ∨ (provider = "claude" ∨ provider = "grok") ∧ provider ∈ l.registered then
    .ok provider
  else .error (.runtime ("unsupported provider resume adapter " ++ provider))

/-- Nothing of a conversation is active between its resumes, so there is nothing to stop. -/
def stopConversation (l : LocalChannelLifecycle) (ref : ProviderConversationRef) :
    LifecycleTask Unit := do
  let _ ← ofExcept (l.driver ref)
  pure ()

def validateResume (l : LocalChannelLifecycle) (ref : ProviderConversationRef) :
    Except Failure Unit :=
  if Text.blank ref.conversationId then .error (.runtime "provider resume identity is missing")
  else if (ref.described "cwd").isNone ∨ (ref.described "prompt").isNone then
    .error (.runtime "provider resume descriptor is invalid")
  else (l.driver ref).map fun _ => ()

def resumeConversation (l : LocalChannelLifecycle) (ref : ProviderConversationRef)
    (generation : Nat) : LifecycleTask Unit := do
  let provider ← ofExcept (l.driver ref)
  let described := !Text.blank ref.conversationId && Text.given (ref.described "prompt") &&
    if provider = "codex" then Text.given (ref.described "cwd")
    else (ref.described "cwd").isSome && ref.described "provider" = some provider
  require described (.runtime ("invalid " ++ provider ++ " resume descriptor"))
  act (.converse ref generation)

def provider (l : LocalChannelLifecycle) : ProviderConversationPort where
  stop := l.stopConversation
  stopRollback := l.stopConversation
  resume := l.resumeConversation
  validateResume := l.validateResume

/-- `ORDER BY generation DESC, created_at DESC LIMIT 1`. -/
def latestRuntime (d : Daemon) (sessionId : String) : Option Runtime :=
  ((d.runtimes.select fun r => r.sessionId = sessionId).insertionSort fun a b =>
    b.generation < a.generation ∨ a.generation = b.generation ∧ b.createdAt ≤ a.createdAt).head?

/-- The runtime of one generation of a session, `ORDER BY created_at DESC LIMIT 1`. -/
def generationRuntime (d : Daemon) (sessionId : String) (generation : Nat) : Option Runtime :=
  ((d.runtimes.select fun r => r.sessionId = sessionId && r.generation = generation).insertionSort
    fun a b => b.createdAt ≤ a.createdAt).head?

/-- The runtime is over, as far as its row says. -/
def isOver (r : Runtime) : Bool :=
  Text.given r.endedAt || r.state = .exited || r.state = .terminated

def activeGenerations (w : LifecycleWorld) (members : List (String × Nat)) : List (String × Nat) :=
  ((w.daemon.runtimes.select fun r => r.endedAt.isNone && r.state.occupies &&
    members.contains (r.sessionId, r.generation)).map fun r => (r.sessionId, r.generation)).dedup

/-- The member of a launch that brought back a provider conversation. -/
def relaunched (member : ResumableMemberBlueprint) (generation : Nat) (providerThreadId : String) :
    ResumableMemberBlueprint :=
  { member with
    processGeneration := generation
    provider := some ⟨providerThreadId, .obj [("provider", .str member.adapterKind),
      ("mode", .str "runtime"), ("cwd", .str member.launch.cwd)]⟩ }

def launchRequest (l : LocalChannelLifecycle) (input : LaunchInput)
    (member : Option ResumableMemberBlueprint) : RuntimeCreateRequest where
  homeAuthorityId := l.homeAuthorityId
  sessionId := input.priorSessionId
  generation := some input.generation
  channelId := some input.channelId
  adapterKind := some input.adapterKind
  providerThreadId := (member.bind ResumableMemberBlueprint.provider).map
    ProviderConversationRef.conversationId
  cwd := some input.launch.cwd
  effectiveHome := input.launch.home.or (member.bind fun m => m.launch.home)
  command := input.launch.executable :: input.launch.args

/-- The conversation of a launched member is written back outside every claim. -/
def rememberConversation (input : LaunchInput) (member : Option ResumableMemberBlueprint)
    (providerThreadId : Option String) : LifecycleTask Unit :=
  match providerThreadId, member with
  | some providerThreadId, some member =>
    if providerThreadId = "" then pure ()
    else do
      act (.setSessionProviderThreadId input.priorSessionId providerThreadId)
      act (.ensureBlueprint (relaunched member input.generation providerThreadId))
  | _, _ => pure ()

def launchMember (l : LocalChannelLifecycle) (input : LaunchInput) : LifecycleTask LaunchedMember := do
  let w ← look
  let member := (w.tables.read input.channelId).bind fun b => b.member? input.priorSessionId
  let launched ← launch (l.launchRequest input member)
  require (launched.runtime.runtimeId ≠ "")
    (.runtime "resumed runtime did not return an identity")
  rememberConversation input member (launched.runtime.providerThreadId.or
    ((member.bind ResumableMemberBlueprint.provider).map ProviderConversationRef.conversationId))
  pure ⟨launched.runtime.sessionId, launched.runtime.runtimeId⟩

def stop (runtimeId : String) : LifecycleTask Unit := do
  let w ← look
  match (w.daemon.runtime runtimeId).filter fun r => !isOver r with
  | none => pure ()
  | some r => act (.terminate runtimeId r.generation)

def stopGeneration (priorSessionId : String) (generation : Nat) : LifecycleTask Unit := do
  let w ← look
  match (generationRuntime w.daemon priorSessionId generation).filter fun r => !isOver r with
  | none => pure ()
  | some r => act (.terminate r.runtimeId generation)

def runtime (l : LocalChannelLifecycle) : RuntimeGenerationPort where
  launch := l.launchMember
  stop := stop
  stopGeneration := stopGeneration
  activeGenerations := activeGenerations

def ports (l : LocalChannelLifecycle) (who : Coordinator) : Ports :=
  ⟨who.channelId, who.ownerId, l.runtime, l.provider⟩

/-- The sessions that are live and active in the channel. -/
def activeMembers (db : Database) (channelId : String) : List String :=
  (db.memberships.select fun m => m.channelId = channelId && m.active &&
    db.sessionLive m.sessionId).map Membership.sessionId

/-- The conversation that is known of a member: its runtime's, its session's, or the stored one. -/
def knownConversation (d : Daemon) (member : ResumableMemberBlueprint) : Option String :=
  (((latestRuntime d member.priorSessionId).bind Runtime.providerThreadId).or
    (((d.db.currentSession member.priorSessionId).bind Session.providerThreadId).or
      (member.provider.map ProviderConversationRef.conversationId))).filter fun id => id ≠ ""

/-- The member as a suspension stores it. -/
def refreshed (d : Daemon) (member : ResumableMemberBlueprint) : ResumableMemberBlueprint :=
  { member with
    processGeneration := ((latestRuntime d member.priorSessionId).map Runtime.generation).getD
      member.processGeneration
    provider := (knownConversation d member).map fun conversationId =>
      ⟨conversationId, (((Json.obj ((member.provider.map
          ProviderConversationRef.resumeDescriptor).getD .null).members).set
        "provider" (.str member.adapterKind)).set "mode" (.str "runtime")).set
        "cwd" (.str member.launch.cwd)⟩ }

def refreshMember (member : ResumableMemberBlueprint) : LifecycleTask Unit := do
  let w ← look
  act (.ensureBlueprint (refreshed w.daemon member))

/-- The blueprint is brought up to date before any claim is asked for. -/
def prepareSuspend (who : Coordinator) : LifecycleTask Unit := do
  act .ensureChannelBlueprint
  let w ← look
  act (.retainMembers (activeMembers w.daemon.db who.channelId))
  let w ← look
  forEach refreshMember
    (((w.tables.read who.channelId).map ResumableChannelBlueprint.members).getD [])

def suspendKey (channelId : String) : String := "service-suspend-" ++ channelId

def suspend (l : LocalChannelLifecycle) (who : Coordinator) :
    LifecycleTask ResumableChannelBlueprint := do
  let w ← look
  if (w.daemon.db.currentChannel who.channelId).isNone then
    fail (.runtime ("cannot suspend channel \"" ++ who.channelId ++ "\": channel does not exist"))
  else do
    prepareSuspend who
    let w ← look
    match w.tables.read who.channelId with
    | none => fail (.runtime "Cannot read properties of null (reading 'version')")
    | some blueprint =>
      DurableChannelLifecycle.suspend (l.ports who) (suspendKey who.channelId) blueprint

def resumeKey (channelId : String) (generation : Nat) : String :=
  "service-resume-" ++ channelId ++ "-" ++ toString generation

/-- The generation of an interrupted resume, or one past every known generation. -/
def resumeGeneration (status : Option (BlueprintState × Nat)) (blueprint : ResumableChannelBlueprint) :
    Nat :=
  let blueprintGeneration :=
    (blueprint.members.map ResumableMemberBlueprint.processGeneration).foldr max 0
  match status with
  | some (.resuming, generation) =>
    if 0 < generation then generation else max generation blueprintGeneration + 1
  | some (_, generation) => max generation blueprintGeneration + 1
  | none => blueprintGeneration + 1

/-- A channel that is closed is only opened again. -/
def resume (l : LocalChannelLifecycle) (who : Coordinator) :
    LifecycleTask (List MemberResumeOutcome) := do
  let w ← look
  match w.daemon.db.currentChannel who.channelId with
  | none =>
    fail (.runtime ("cannot resume channel \"" ++ who.channelId ++ "\": channel does not exist"))
  | some channel =>
    if channel.lifecycleState = .closed then do
      act .reopenChannel
      pure []
    else
      match w.tables.read who.channelId with
      | none => fail (.runtime ("cannot resume channel \"" ++ who.channelId ++
          "\": channel has not been suspended"))
      | some blueprint => do
        let w ← lookLocked
        let generation := resumeGeneration (w.tables.status who.channelId) blueprint
        DurableChannelLifecycle.resume (l.ports who) (resumeKey who.channelId generation) generation

end LocalChannelLifecycle
end Wardroom.Runtime
