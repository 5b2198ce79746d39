import Wardroom.Storage.RuntimeRepository

/-! # Launching and terminating runtimes

The service checks its actor, writes the runtime and its binding, and starts a
host process for it. What the machine does is an answer given to each call.
-/

namespace Wardroom.Domain

/-- `error.message`. -/
def Failure.message : Failure → String
  | .rooms _ message => message
  | .sqlite message => message
  | .runtime message => message
  | .listener message => message

end Wardroom.Domain

namespace Wardroom.Storage
open Wardroom.Library Wardroom.Domain Prog

structure CreateRuntimeInput where
  runtimeId : String
  homeAuthorityId : String
  sessionId : String
  generation : Nat
  machineId : String
  providerThreadId : Option String
  effectiveCwd : Option String
  effectiveHome : Option String

def validateIdentity (homeAuthorityId sessionId runtimeId : String) (generation : Nat) :
    Except Failure Unit :=
  if homeAuthorityId = "" ∨ sessionId = "" ∨ runtimeId = "" ∨ generation < 1 then
    .error (.coded "invalidRuntimeIdentity")
  else .ok ()

/-- `UNIQUE(home_authority_id, session_id, generation)` beside the primary key. -/
def Daemon.generationTaken (d : Daemon) (homeAuthorityId sessionId : String) (generation : Nat) :
    Bool :=
  d.runtimes.rows.any fun r => r.homeAuthorityId = homeAuthorityId && r.sessionId = sessionId &&
    r.generation = generation

/-- The row is selected from the session, so without one nothing is inserted. -/
def createRuntime (input : CreateRuntimeInput) : Action Runtime := do
  ofExcept (validateIdentity input.homeAuthorityId input.sessionId input.runtimeId input.generation)
  transaction do
    let d ← read
    if d.maxActiveRuntimes input.machineId ≤ d.activeRuntimes input.machineId then
      fail (.coded "runtimeQuotaExceeded")
    else do
      let createdAt ← onStore now
      if d.db.sessions.has input.sessionId then
        match d.runtimes.insert?
          { runtimeId := input.runtimeId, homeAuthorityId := input.homeAuthorityId,
            sessionId := input.sessionId, generation := input.generation, state := .creating,
            machineId := input.machineId, providerThreadId := input.providerThreadId,
            effectiveCwd := input.effectiveCwd, effectiveHome := input.effectiveHome,
            createdAt := createdAt, updatedAt := createdAt, endedAt := none, exitReason := none } with
        | none => fail (.coded "runtimeAlreadyExists")
        | some runtimes =>
          if d.generationTaken input.homeAuthorityId input.sessionId input.generation then
            fail (.coded "runtimeAlreadyExists")
          else modify fun d => { d with runtimes := runtimes }
      else pure ()
      let d ← read
      match d.runtime input.runtimeId with
      | none => fail (.coded "runtimeCreateFailed")
      | some runtime => pure runtime

/-- Claim a provider conversation for a runtime in the place of the one it holds. -/
def setProviderThreadId (runtimeId providerThreadId : String) : Action Runtime := do
  match ← tryClaimProviderThreadId runtimeId providerThreadId true with
  | .claimed runtime => pure runtime
  | .refused .conflict => fail (.coded "providerThreadIdConflict")
  | .refused .runtimeNotFound => fail (.coded "runtimeNotFound")
  | .refused _ => fail (.coded "invalidProviderThreadId")

structure BindRuntimeInput where
  runtimeId : String
  homeAuthorityId : String
  sessionId : String
  generation : Nat
  channelId : Option String
  adapterKind : String
  launchPolicyRef : Option String

/-- `UNIQUE(home_authority_id, session_id, generation)` of the bindings. -/
def Daemon.bindingTaken (d : Daemon) (homeAuthorityId sessionId : String) (generation : Nat) : Bool :=
  d.bindings.rows.any fun b => b.homeAuthorityId = homeAuthorityId && b.sessionId = sessionId &&
    b.generation = generation

def bindRuntime (input : BindRuntimeInput) : Action RuntimeBinding := do
  ofExcept (validateIdentity input.homeAuthorityId input.sessionId input.runtimeId input.generation)
  if input.adapterKind = "" then fail (.coded "invalidRuntimeBinding")
  else do
    let binding ← transaction do
      let runtime ← requireRuntime input.runtimeId
      if runtime.homeAuthorityId ≠ input.homeAuthorityId ∨ runtime.sessionId ≠ input.sessionId then
        fail (.coded "runtimeIdentityMismatch")
      else if runtime.generation ≠ input.generation then fail (.coded "staleRuntimeGeneration")
      else do
        let boundAt ← onStore now
        let d ← read
        let binding : RuntimeBinding :=
          ⟨input.runtimeId, input.homeAuthorityId, input.sessionId, input.generation,
            input.channelId, input.adapterKind, input.launchPolicyRef, boundAt⟩
        match d.bindings.insert? binding with
        | none => fail (.coded "runtimeBindingAlreadyExists")
        | some bindings =>
          if d.bindingTaken input.homeAuthorityId input.sessionId input.generation ∨
              d.db.channelReference input.channelId = false then
            fail (.coded "runtimeBindingAlreadyExists")
          else do
            modify fun d => { d with bindings := bindings }
            pure binding
    emitLifecycle input.runtimeId
    pure binding

namespace Daemon

/-- A live planner and a live worker of one active channel. -/
def plannerCanLaunchWorker (d : Daemon) (plannerSessionId workerSessionId channelId : String) : Bool :=
  plannerSessionId ≠ "" && workerSessionId ≠ "" && channelId ≠ "" &&
    d.db.isActiveMemberAs channelId plannerSessionId .planner &&
    d.db.isActiveMemberAs channelId workerSessionId .worker &&
    d.db.sessionLive plannerSessionId && d.db.sessionLive workerSessionId &&
    d.db.channelActive channelId

/-- The actors of these calls carry no capability of their own. -/
def actorCanAccessRuntime (d : Daemon) (actor : RuntimeActor) (runtime : Runtime) : Bool :=
  actor.role = .operator || actor.sessionId = runtime.sessionId ||
    actor.role = .planner && ((d.binding runtime.runtimeId).bind RuntimeBinding.channelId).any
      fun channelId => channelId ≠ "" &&
        d.plannerCanLaunchWorker actor.sessionId runtime.sessionId channelId

end Daemon
end Wardroom.Storage

namespace Wardroom.Runtime
open Wardroom.Library Wardroom.Domain Wardroom.Storage Prog

structure RuntimeServiceOptions where
  machineId : String
  defaultHomeAuthorityId : String

structure RuntimeCreateRequest where
  runtimeId : Option String := none
  homeAuthorityId : String
  sessionId : String
  generation : Option Nat := none
  machineId : Option String := none
  channelId : Option String := none
  adapterKind : Option String := none
  providerThreadId : Option String := none
  cwd : Option String := none
  effectiveHome : Option String := none
  command : List String := []
  launchPolicyRef : Option String := none

/-- What the machine does for one launch: resolve the directory, prepare the socket, start the
host. -/
structure LaunchAnswer where
  cwd : Except Failure String
  socket : Except Failure Unit
  start : Except Failure Unit

/-- How the host of a runtime answers its termination. -/
inductive TerminateAnswer where
  | terminated
  | absent
  | failed (error : Failure)

structure RuntimeResponse where
  runtime : Runtime
  binding : RuntimeBinding

/-- `canonicalProviderCwd`. -/
def LaunchAnswer.canonicalCwd (answer : LaunchAnswer) (cwd : Option String) :
    Except Failure (Option String) :=
  match cwd with
  | none => .ok none
  | some _ => answer.cwd.map some

def mayCreate (d : Daemon) (request : RuntimeCreateRequest) (actor : RuntimeActor) : Bool :=
  actor.role = .operator || actor.sessionId = request.sessionId ||
    actor.role = .planner && request.channelId.any fun channelId =>
      d.plannerCanLaunchWorker actor.sessionId request.sessionId channelId

/-- `request.runtimeId ?? …`. -/
def RuntimeCreateRequest.chosenId (request : RuntimeCreateRequest) : Action String :=
  match request.runtimeId with
  | some runtimeId => pure runtimeId
  | none => do
    let drawn ← onStore randomUUID
    pure ("runtime-" ++ drawn)

/-- The runtime is written before its host is started; a host that does not start leaves a crashed
runtime. -/
def create (options : RuntimeServiceOptions) (answer : LaunchAnswer)
    (request : RuntimeCreateRequest) (actor : RuntimeActor) : Action RuntimeResponse := do
  let d ← read
  if mayCreate d request actor = false then fail (.coded "runtimeUnauthorized")
  else do
    let runtimeId ← request.chosenId
    let generation := request.generation.getD 1
    let launchCwd ← ofExcept (answer.canonicalCwd request.cwd)
    let runtime ← createRuntime
      { runtimeId := runtimeId
        homeAuthorityId := if request.homeAuthorityId = "" then options.defaultHomeAuthorityId
          else request.homeAuthorityId
        sessionId := request.sessionId, generation := generation
        machineId := request.machineId.getD options.machineId
        providerThreadId := request.providerThreadId
        effectiveCwd := launchCwd, effectiveHome := request.effectiveHome }
    ofExcept answer.socket
    tryCatch
      (do
        ofExcept answer.start
        if Text.given request.providerThreadId then do
          let _ ← setProviderThreadId runtimeId (request.providerThreadId.getD "")
          pure ()
        else pure ()
        let binding ← bindRuntime
          { runtimeId := runtimeId, homeAuthorityId := runtime.homeAuthorityId
            sessionId := runtime.sessionId, generation := generation
            channelId := request.channelId, adapterKind := request.adapterKind.getD "localPty"
            launchPolicyRef := request.launchPolicyRef }
        markState runtimeId generation .running none
        let current ← requireRuntime runtimeId
        pure ⟨current, binding⟩)
      (fun error => do
        markState runtimeId generation .crashed (some error.message)
        fail error)

def authorizedRuntime (runtimeId : String) (actor : RuntimeActor) (generation : Nat) :
    Action Runtime := do
  let runtime ← requireRuntime runtimeId
  let d ← read
  if runtime.generation ≠ generation then fail (.coded "staleRuntimeGeneration")
  else if d.actorCanAccessRuntime actor runtime = false then fail (.coded "runtimeUnauthorized")
  else pure runtime

/-- A host that is gone counts as terminated. -/
def terminate (answer : TerminateAnswer) (runtimeId : String) (generation : Nat)
    (actor : RuntimeActor) : Action Unit := do
  let runtime ← authorizedRuntime runtimeId actor generation
  match answer with
  | .failed error => fail error
  | _ => markState runtime.runtimeId runtime.generation .terminated (some "operator terminated")

end Wardroom.Runtime
