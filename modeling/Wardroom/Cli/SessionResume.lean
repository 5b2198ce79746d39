import Wardroom.Storage.BlueprintRepository
import Wardroom.Storage.RuntimeRepository

/-! # Planning the resume of a session

The planner reads what is stored of a session, the blueprint of its channel and
the rows of its runtimes, and names the launch that brings its provider
conversation back at the next generation. It writes nothing.
-/

namespace Wardroom.Cli
open Wardroom.Library Wardroom.Domain Wardroom.Storage Wardroom.Lifecycle

structure SessionResumePlan where
  sessionId : String
  channelId : Option String
  generation : Nat
  adapterKind : String
  providerThreadId : String
  cwd : Option String
  /-- The home to use again; without one the session resumes in the ambient home. -/
  effectiveHome : Option String
  command : List String
  alreadyRunning : Bool
  deriving DecidableEq, Repr

/-- What the planner reads beside the sessions and the runtimes: the blueprints of the channels,
which runtimes have a session proof, and what it finds on the machine. -/
structure ResumeSources where
  blueprints : Table ChannelBlueprintRow.channelId
  proven : String → Bool
  existsSync : String → Bool
  /-- The executable that a provider is registered with. -/
  registered : String → Option String
  importCodexThread : String → Except Failure Unit

def optionalText (value : Option String) : Option String := value.filter fun s => !Text.blank s

/-- `ORDER BY generation DESC, created_at DESC`. -/
def newestFirst (a b : Runtime) : Prop :=
  b.generation < a.generation ∨ a.generation = b.generation ∧ b.createdAt ≤ a.createdAt

instance : DecidableRel newestFirst := fun _ _ => inferInstanceAs (Decidable (_ ∨ _))

def sessionRuntimes (d : Daemon) (sessionId : String) : List Runtime :=
  (d.runtimes.select fun r => r.sessionId = sessionId).insertionSort newestFirst

def maxGeneration (runtimes : List Runtime) : Nat := (runtimes.map Runtime.generation).max?.getD 0

/-- The states in which the newest runtime of a session counts as live. -/
def isLive : RuntimeState → Bool
  | .running | .creating | .recovering => true
  | _ => false

/-- The first stored member of the session, and the channel whose blueprint has it; an empty
override names no channel. -/
def findBlueprintMember (sources : ResumeSources) (sessionId : String)
    (channelOverride : Option String) : Option (String × ResumableMemberBlueprint) :=
  let rows := match channelOverride.filter fun channelId => channelId ≠ "" with
    | some channelId => (sources.blueprints.find? channelId).toList
    | none => sources.blueprints.rows
  rows.findSome? fun row => (row.blueprint.member? sessionId).map fun member => (row.channelId, member)

def ResumeSources.usable (sources : ResumeSources) (candidate : String) : Bool :=
  candidate ≠ "" && (!candidate.toList.contains '/' || sources.existsSync candidate)

/-- The stored path while it can be executed, then the registered one, then the bare name. -/
def resumeExecutable (sources : ResumeSources) (stored : Option String) (adapterKind : String) :
    String :=
  match stored.filter sources.usable with
  | some executable => executable
  | none => ((sources.registered adapterKind).filter sources.usable).getD adapterKind

def buildResumeCommand (sources : ResumeSources) (adapterKind conversationId : String)
    (member : Option ResumableMemberBlueprint) : List String :=
  let executable := resumeExecutable sources (member.map fun m => m.launch.executable) adapterKind
  let extraArgs := (member.map fun m => m.launch.args).getD []
  let runtimeMode := (member.bind ResumableMemberBlueprint.provider).any
    ProviderConversationRef.runtimeOwned
  if adapterKind = "claude" then executable :: "--resume" :: conversationId :: extraArgs
  else if adapterKind = "codex" ∨ runtimeMode then
    executable :: "resume" :: conversationId :: extraArgs
  else executable :: extraArgs

def resumeChannel (channelOverride : Option String)
    (member : Option (String × ResumableMemberBlueprint)) (binding : Option RuntimeBinding) :
    Option String :=
  channelOverride.or (((member.map Prod.fst).filter fun channelId => channelId ≠ "").or
    (optionalText (binding.bind RuntimeBinding.channelId)))

/-- The plan, whatever the session; without a conversation it names the empty one. -/
def resumePlan (sources : ResumeSources) (d : Daemon) (sessionId : String)
    (channelOverride : Option String) : SessionResumePlan :=
  let runtimes := sessionRuntimes d sessionId
  let latest := runtimes.head?
  let binding := latest.bind fun r => d.binding r.runtimeId
  let found := findBlueprintMember sources sessionId channelOverride
  let member := found.map Prod.snd
  let conversation := ((member.bind ResumableMemberBlueprint.provider).map
      ProviderConversationRef.conversationId).or
    ((optionalText (latest.bind Runtime.providerThreadId)).or
      (optionalText ((d.db.currentSession sessionId).bind Session.providerThreadId)))
  let providerThreadId := conversation.getD ""
  let adapterKind := ((member.map ResumableMemberBlueprint.adapterKind).or
    (optionalText (binding.map RuntimeBinding.adapterKind))).getD "codex"
  let alreadyRunning := latest.any fun r => isLive r.state && sources.proven r.runtimeId
  { sessionId := sessionId
    channelId := resumeChannel channelOverride found binding
    generation := if alreadyRunning then maxGeneration runtimes else maxGeneration runtimes + 1
    adapterKind := adapterKind
    providerThreadId := providerThreadId
    cwd := (member.map fun m => m.launch.cwd).or (optionalText (latest.bind Runtime.effectiveCwd))
    effectiveHome := (member.bind fun m => m.launch.home).or
      (optionalText (latest.bind Runtime.effectiveHome))
    command := if alreadyRunning then []
      else buildResumeCommand sources adapterKind providerThreadId member
    alreadyRunning := alreadyRunning }

/-- The launch that resumes a session, or the runtime that makes one needless. -/
def planSessionResume (sources : ResumeSources) (d : Daemon) (sessionId : String)
    (channelOverride : Option String) : Except Failure SessionResumePlan :=
  if sessionId = "" then .error (.runtime "session resume requires a session id")
  else if d.db.sessionLive sessionId = false then
    .error (.runtime ("session " ++ sessionId ++ " is not an active Rooms session"))
  else
    let plan := resumePlan sources d sessionId channelOverride
    if plan.providerThreadId = "" then
      .error (.runtime ("session " ++ sessionId ++ " has no stored provider thread to resume"))
    else if plan.alreadyRunning = false ∧ plan.adapterKind = "codex" then
      (sources.importCodexThread plan.providerThreadId).map fun _ => plan
    else .ok plan

theorem generation_le_max {runtimes : List Runtime} {r : Runtime} (h : r ∈ runtimes) :
    r.generation ≤ maxGeneration runtimes :=
  List.le_max?_getD_of_mem (List.mem_map_of_mem h)

variable {sessionId : String}

theorem mem_sessionRuntimes {d : Daemon} {r : Runtime} :
    r ∈ sessionRuntimes d sessionId ↔ r ∈ d.runtimes.rows ∧ r.sessionId = sessionId := by
  unfold sessionRuntimes
  rw [List.mem_insertionSort, Table.mem_select, decide_eq_true_eq]

variable {channelOverride : Option String} {sources : ResumeSources}

theorem planSessionResume_ok {d : Daemon}
    {plan : SessionResumePlan}
    (h : planSessionResume sources d sessionId channelOverride = .ok plan) :
    d.db.sessionLive sessionId = true ∧ plan = resumePlan sources d sessionId channelOverride := by
  rw [planSessionResume] at h
  split at h
  · cases h
  split at h
  · cases h
  rename_i hlive
  refine ⟨Bool.not_eq_false _ ▸ hlive, ?_⟩
  dsimp only at h
  split at h
  · cases h
  split at h
  · cases himported : sources.importCodexThread
        (resumePlan sources d sessionId channelOverride).providerThreadId with
    | error e =>
      rw [himported] at h
      cases h
    | ok _ =>
      rw [himported] at h
      exact (Except.ok.inj h).symm
  · exact (Except.ok.inj h).symm

theorem resumePlan_generation {d : Daemon}
    (hdown : (resumePlan sources d sessionId channelOverride).alreadyRunning = false) {r : Runtime}
    (hr : r ∈ d.runtimes.rows) (hsession : r.sessionId = sessionId) :
    r.generation < (resumePlan sources d sessionId channelOverride).generation := by
  have hmax := generation_le_max (mem_sessionRuntimes.mpr ⟨hr, hsession⟩)
  have hnext : (resumePlan sources d sessionId channelOverride).generation =
      maxGeneration (sessionRuntimes d sessionId) + 1 := if_neg (Bool.eq_false_iff.mp hdown)
  omega

theorem resumePlan_alreadyRunning {d : Daemon}
    {r : Runtime}
    (hlatest : (sessionRuntimes d sessionId).head? = some r) :
    (resumePlan sources d sessionId channelOverride).alreadyRunning =
      (isLive r.state && sources.proven r.runtimeId) := by
  simp only [resumePlan, hlatest, Option.any_some]

end Wardroom.Cli
