import Wardroom.Runtime.Service

/-! # The runtime service over its hosts

A call of the service runs up to the supervisor call it awaits, and goes on
when the host has answered; the daemon takes other calls in the meantime. A
client of a host tells the service when the host exits.
-/

namespace Wardroom.Runtime
open Wardroom.Library Wardroom.Domain Wardroom.Storage Prog

inductive AttachmentMode where
  | observe | controller
  deriving DecidableEq, Repr

structure RuntimeAttachment where
  attachmentId : String
  runtimeId : String
  homeAuthorityId : String
  sessionId : String
  generation : Nat
  viewerId : String
  mode : AttachmentMode
  leaseExpiresAt : Option String
  outputCursor : Nat
  attachedAt : String
  detachedAt : Option String
  lastSeenAt : String
  deriving DecidableEq, Repr

/-- Why a call to a host failed: whether the error names a missing or refused socket, and whether it
leaves the supervisor recovering. -/
structure HostFailure where
  error : Failure
  absent : Bool
  recovering : Bool

/-- How a call to the supervisor of a host settles. -/
inductive HostReply where
  | done
  | failed (failure : HostFailure)

/-- A call of the service at its `await`. A reconnection that is followed by a terminate frame is one
wait, as nothing is stored between the two. -/
inductive Awaiting where
  | start (request : RuntimeCreateRequest) (runtimeId : String) (runtime : Runtime)
  | cleanUpStart (runtimeId : String) (generation : Nat) (error : Failure)
  | stop (runtime : Runtime)
  | cleanUpStop (runtime : Runtime)
  | reconnect (runtime : Runtime) (attachment : RuntimeAttachment) (hadActiveAttachment : Bool)
  | cleanUpReconnect (runtime : Runtime) (error : Failure)
  | attach (mode : AttachmentMode) (runtime : Runtime) (attachment : RuntimeAttachment)
  | deliver (runtime : Runtime)
  | probe (runtime : Runtime) (rest : List Runtime)
  | cleanUpProbe (rest : List Runtime)

structure Hosted where
  daemon : Daemon
  attachments : Table RuntimeAttachment.attachmentId
  maxObserversPerRuntime : String → Nat
  awaiting : List Awaiting
  /-- The runtimes whose exit a client listens for. -/
  listeners : List Runtime

abbrev Hosting (α : Type) := Prog Hosted Failure α

def onDaemon {α : Type} (x : Action α) : Hosting α := fun h =>
  ((x h.daemon).1, { h with daemon := (x h.daemon).2 })

@[simp] theorem wp_onDaemon {α : Type} {x : Action α} {h : Hosted} {Q : α → Hosted → Prop}
    {E : Failure → Hosted → Prop} :
    wp (onDaemon x) Q E h ↔
      wp x (fun a d => Q a { h with daemon := d }) (fun e d => E e { h with daemon := d })
        h.daemon := by
  unfold wp onDaemon
  rcases x h.daemon with ⟨r, d⟩
  cases r <;> rfl

def wait (a : Awaiting) : Hosting Unit := modify fun h => { h with awaiting := h.awaiting ++ [a] }

/-- `client.on("exit", …)`. -/
def listen (runtime : Runtime) : Hosting Unit :=
  modify fun h => { h with listeners := h.listeners ++ [runtime] }

structure AttachRuntimeInput where
  runtime : Runtime
  viewerId : String
  mode : AttachmentMode
  leaseExpiresAt : Option String := none
  outputCursor : Nat := 0
  operatorOverride : Bool := false
  allowRecovery : Bool := false

namespace Hosted

def attachmentsOf (h : Hosted) (runtime : Runtime) : List RuntimeAttachment :=
  h.attachments.select fun a => a.runtimeId = runtime.runtimeId && a.generation = runtime.generation

def currentAttachment (h : Hosted) (runtime : Runtime) (viewerId : String) :
    Option RuntimeAttachment :=
  (h.attachmentsOf runtime).find? fun a => a.viewerId = viewerId && a.detachedAt.isNone

/-- A viewer has one row for each generation, which a new attachment takes up again. -/
def detachedAttachment (h : Hosted) (runtime : Runtime) (viewerId : String) :
    Option RuntimeAttachment :=
  (h.attachmentsOf runtime).find? fun a => a.viewerId = viewerId && a.detachedAt.isSome

def controllerOf (h : Hosted) (runtime : Runtime) : Option RuntimeAttachment :=
  (h.attachmentsOf runtime).find? fun a => a.mode = .controller && a.detachedAt.isNone

def observersOf (h : Hosted) (runtime : Runtime) : Nat :=
  ((h.attachmentsOf runtime).filter fun a => a.mode = .observe && a.detachedAt.isNone).length

end Hosted

/-- The row of an attachment that is given up. -/
def RuntimeAttachment.detached (at' : String) (a : RuntimeAttachment) : RuntimeAttachment :=
  { a with detachedAt := some at', lastSeenAt := at' }

theorem RuntimeAttachment.attachmentId_detached (at' : String) (a : RuntimeAttachment) :
    (a.detached at').attachmentId = a.attachmentId := rfl

def detachRow (attachmentId at' : String) (t : Table RuntimeAttachment.attachmentId) :
    Table RuntimeAttachment.attachmentId :=
  t.update (fun a => a.attachmentId = attachmentId && a.detachedAt.isNone)
    (RuntimeAttachment.detached at') (RuntimeAttachment.attachmentId_detached at')

/-- A controller whose lease has run out, or whom an operator overrides, is detached. -/
def Hosted.displaced (h : Hosted) (input : AttachRuntimeInput) (at' : String) :
    Table RuntimeAttachment.attachmentId :=
  match input.mode, h.controllerOf input.runtime with
  | .controller, some current =>
    if (current.leaseExpiresAt.any fun lease => lease ≠ "" && lease ≤ at') || input.operatorOverride
    then detachRow current.attachmentId at' h.attachments
    else h.attachments
  | _, _ => h.attachments

/-- The row a viewer had, taken up again. -/
def RuntimeAttachment.reattached (input : AttachRuntimeInput) (at' : String)
    (a : RuntimeAttachment) : RuntimeAttachment :=
  { a with
    mode := input.mode, leaseExpiresAt := input.leaseExpiresAt, outputCursor := input.outputCursor
    attachedAt := at', detachedAt := none, lastSeenAt := at' }

theorem RuntimeAttachment.attachmentId_reattached (input : AttachRuntimeInput) (at' : String)
    (a : RuntimeAttachment) : (a.reattached input at').attachmentId = a.attachmentId := rfl

/-- `runtime_controller_lease`: one controller for each generation. -/
def oneController (t : Table RuntimeAttachment.attachmentId) (runtime : Runtime) : Bool :=
  (t.select fun a => a.runtimeId = runtime.runtimeId && a.generation = runtime.generation &&
    a.mode = .controller && a.detachedAt.isNone).length ≤ 1

/-- A cursor above 2⁵³ - 1 is stored, but not read back as a number. -/
def readBack (row : RuntimeAttachment) (rows : Table RuntimeAttachment.attachmentId) :
    Except Failure (RuntimeAttachment × Table RuntimeAttachment.attachmentId) :=
  if 9007199254740991 < row.outputCursor then .error (.runtime
    ("Value is too large to be represented as a JavaScript number: " ++ toString row.outputCursor))
  else .ok (row, rows)

/-- The attachment of a viewer and the table that holds it. -/
def Hosted.attached (h : Hosted) (input : AttachRuntimeInput) (attachmentId at' : String) :
    Except Failure (RuntimeAttachment × Table RuntimeAttachment.attachmentId) :=
  let runtime := input.runtime
  if input.viewerId = "" then .error (.coded "invalidRuntimeAttachment")
  else
    match h.daemon.runtime runtime.runtimeId with
    | none => .error (.coded "runtimeNotFound")
    | some stored =>
      if stored.state = .exited ∨ stored.state = .terminated ∨
          stored.state = .crashed ∧ input.allowRecovery = false then
        .error (.coded "runtimeUnavailable")
      else
        match h.currentAttachment runtime input.viewerId with
        | some current => .ok (current, h.attachments)
        | none =>
          if input.mode = .observe ∧
              h.maxObserversPerRuntime stored.machineId ≤ h.observersOf runtime then
            .error (.coded "observerQuotaExceeded")
          else if 2 ^ 63 ≤ input.outputCursor then .error (.sqlite "BigInt value is too large to bind")
          else
            let table := h.displaced input at'
            match h.detachedAttachment runtime input.viewerId with
            | some old =>
              let rows := table.update (fun a => a.attachmentId = old.attachmentId)
                (RuntimeAttachment.reattached input at')
                (RuntimeAttachment.attachmentId_reattached input at')
              if oneController rows runtime then readBack (old.reattached input at') rows
              else .error (.sqlite "UNIQUE constraint failed: runtime_attachments")
            | none =>
              let row : RuntimeAttachment :=
                ⟨attachmentId, runtime.runtimeId, runtime.homeAuthorityId, runtime.sessionId,
                  runtime.generation, input.viewerId, input.mode, input.leaseExpiresAt,
                  input.outputCursor, at', none, at'⟩
              match (table.insert? row).filter fun rows => oneController rows runtime with
              | some rows => readBack row rows
              | none => .error (.coded (if input.mode = .controller then "controllerLeaseBusy"
                  else "runtimeAttachmentAlreadyExists"))

/-- A statement of the attachments inside a transaction of its own. -/
def attachmentTransaction {α : Type}
    (body : Hosted → String → Except Failure (α × Table RuntimeAttachment.attachmentId)) :
    Hosting α := do
  onDaemon (transaction (pure ()))
  let at' ← onDaemon (onStore now)
  let h ← read
  let (a, attachments) ← ofExcept (body h at')
  modify fun h => { h with attachments := attachments }
  pure a

def attach (input : AttachRuntimeInput) : Hosting RuntimeAttachment := do
  let drawn ← onDaemon (onStore randomUUID)
  attachmentTransaction fun h at' => h.attached input ("attachment-" ++ drawn) at'

def detach (attachmentId : String) : Hosting Unit :=
  attachmentTransaction fun h at' =>
    if h.attachments.has attachmentId then .ok ((), detachRow attachmentId at' h.attachments)
    else .error (.coded "unknownRuntimeAttachment")

/-- Only an operator, the session or a capability controls a runtime; a planner may watch it. -/
def authorized (runtimeId : String) (actor : RuntimeActor) (generation : Option Nat)
    (controls : Bool) : Hosting Runtime := do
  let runtime ← onDaemon (requireRuntime runtimeId)
  let h ← read
  if generation.any (fun g => g ≠ runtime.generation) then fail (.coded "staleRuntimeGeneration")
  else if h.daemon.actorCanAccessRuntime actor runtime = false ∨
      controls ∧ actor.role ≠ .operator ∧ actor.sessionId ≠ runtime.sessionId then
    fail (.coded "runtimeUnauthorized")
  else pure runtime

/-- `request.generation ?? 1`. -/
def RuntimeCreateRequest.chosenGeneration (request : RuntimeCreateRequest) : Nat :=
  request.generation.getD 1

/-- `create` up to the start of the host. -/
def beginCreate (options : RuntimeServiceOptions) (answer : LaunchAnswer)
    (request : RuntimeCreateRequest) (actor : RuntimeActor) : Action (String × Runtime) := do
  let d ← read
  if mayCreate d request actor = false then fail (.coded "runtimeUnauthorized")
  else do
    let runtimeId ← request.chosenId
    let launchCwd ← ofExcept (answer.canonicalCwd request.cwd)
    let runtime ← createRuntime
      { runtimeId := runtimeId
        homeAuthorityId := if request.homeAuthorityId = "" then options.defaultHomeAuthorityId
          else request.homeAuthorityId
        sessionId := request.sessionId, generation := request.chosenGeneration
        machineId := request.machineId.getD options.machineId
        providerThreadId := request.providerThreadId
        effectiveCwd := launchCwd, effectiveHome := request.effectiveHome }
    ofExcept answer.socket
    pure (runtimeId, runtime)

/-- `create` once the host has started. -/
def completeCreate (request : RuntimeCreateRequest) (runtimeId : String) (runtime : Runtime) :
    Action RuntimeResponse := do
  if Text.given request.providerThreadId then do
    let _ ← setProviderThreadId runtimeId (request.providerThreadId.getD "")
    pure ()
  else pure ()
  let binding ← bindRuntime
    { runtimeId := runtimeId, homeAuthorityId := runtime.homeAuthorityId
      sessionId := runtime.sessionId, generation := request.chosenGeneration
      channelId := request.channelId, adapterKind := request.adapterKind.getD "localPty"
      launchPolicyRef := request.launchPolicyRef }
  markState runtimeId request.chosenGeneration .running none
  let current ← requireRuntime runtimeId
  pure ⟨current, binding⟩

/-- `create` once its host has been cleaned up. -/
def failCreate {α : Type} (runtimeId : String) (generation : Nat) (error : Failure) : Action α := do
  markState runtimeId generation .crashed (some error.message)
  fail error

/-- `HOST_ABSENT_REASON`. -/
def hostAbsentReason : String := "runtime host is absent"

theorem create_parts (options : RuntimeServiceOptions) (answer : LaunchAnswer)
    (request : RuntimeCreateRequest) (actor : RuntimeActor) :
    create options answer request actor = (do
      let (runtimeId, runtime) ← beginCreate options answer request actor
      tryCatch (do
          ofExcept answer.start
          completeCreate request runtimeId runtime)
        (failCreate runtimeId request.chosenGeneration)) := by
  have hlawful : LawfulMonad (Prog Daemon Failure) := lawful
  unfold create beginCreate
  rw [bind_assoc]
  congr 1
  funext d
  by_cases hmay : mayCreate d request actor = false
  · simp only [if_pos hmay, fail_bind]
  · simp only [if_neg hmay, bind_assoc, pure_bind]
    rfl

theorem leads_completeCreate {R : Daemon → Daemon → Prop} [IsPreorder Daemon R] {request : RuntimeCreateRequest}
    {runtimeId : String} {runtime : Runtime}
    (hclaim : ∀ providerThreadId, Leads R (setProviderThreadId runtimeId providerThreadId))
    (hbind : ∀ input, Leads R (bindRuntime input))
    (hmark : Leads R (markState runtimeId request.chosenGeneration .running none))
    (hrequire : ∀ runtimeId, Leads R (requireRuntime runtimeId)) :
    Leads R (completeCreate request runtimeId runtime) := by
  have hbound : Leads R (do
      let binding ← bindRuntime
        { runtimeId := runtimeId, homeAuthorityId := runtime.homeAuthorityId
          sessionId := runtime.sessionId, generation := request.chosenGeneration
          channelId := request.channelId, adapterKind := request.adapterKind.getD "localPty"
          launchPolicyRef := request.launchPolicyRef }
      markState runtimeId request.chosenGeneration .running none
      let current ← requireRuntime runtimeId
      pure (⟨current, binding⟩ : RuntimeResponse)) := by
    refine leads_bind (hbind _) fun binding => ?_
    exact leads_bind hmark fun _ => leads_bind (hrequire _) fun _ => leads_pure _
  exact leads_ite (leads_bind (hclaim _) fun _ => hbound) hbound

namespace Hosting

def create (options : RuntimeServiceOptions) (answer : LaunchAnswer)
    (request : RuntimeCreateRequest) (actor : RuntimeActor) : Hosting Unit := do
  let (runtimeId, runtime) ← onDaemon (beginCreate options answer request actor)
  wait (.start request runtimeId runtime)

/-- The client through which an attachment that is named terminates. -/
def controllerClient (attachmentId : String) (actor : RuntimeActor) : Hosting Unit := do
  let h ← read
  match h.attachments.find? attachmentId with
  | none => fail (.coded "runtimeUnauthorized")
  | some attachment =>
    if attachment.detachedAt.isSome ∨
        actor.role ≠ .operator ∧ attachment.viewerId ≠ actor.sessionId then
      fail (.coded "runtimeUnauthorized")
    else do
      let _ ← authorized attachment.runtimeId actor none true
      if attachment.mode = .controller then pure () else fail (.coded "controllerLeaseRequired")

def terminate (runtimeId : String) (generation : Option Nat) (attachmentId : Option String)
    (actor : RuntimeActor) : Hosting Unit := do
  let runtime ← authorized runtimeId actor generation false
  match attachmentId with
  | some attachmentId => controllerClient attachmentId actor
  | none => pure ()
  wait (.stop runtime)

def recover (runtimeId : String) (generation : Option Nat) (mode : AttachmentMode)
    (actor : RuntimeActor) : Hosting Unit := do
  let runtime ← authorized runtimeId actor generation false
  let h ← read
  let hadActiveAttachment := (h.currentAttachment runtime actor.sessionId).isSome
  let attachment ← attach
    { runtime := runtime, viewerId := actor.sessionId, mode := mode, allowRecovery := true }
  wait (.reconnect runtime attachment hadActiveAttachment)

/-- The exit of a viewed host is listened for before the client connects. -/
def openAttachment (runtimeId : String) (generation : Option Nat) (mode : AttachmentMode)
    (leaseExpiresAt : Option String) (operatorOverride : Bool) (actor : RuntimeActor) :
    Hosting Unit := do
  let runtime ← authorized runtimeId actor generation (mode = .controller)
  let attachment ← attach
    { runtime := runtime, viewerId := actor.sessionId, mode := mode
      leaseExpiresAt := leaseExpiresAt
      operatorOverride := operatorOverride && actor.role = .operator }
  listen runtime
  wait (.attach mode runtime attachment)

/-- A delivery for which no client is open. -/
def deliverToRuntime (runtimeId : String) : Hosting Unit := do
  let runtime ← onDaemon (requireRuntime runtimeId)
  wait (.deliver runtime)

def probeNext : List Runtime → Hosting Unit
  | [] => pure ()
  | runtime :: rest => wait (.probe runtime rest)

/-- At startup every local host that should be there is probed, one after another. -/
def reconcileLocalRuntimeHosts (options : RuntimeServiceOptions) : Hosting Unit := do
  let h ← read
  probeNext (h.daemon.list.filter fun r => r.endedAt.isNone &&
    r.homeAuthorityId = options.defaultHomeAuthorityId &&
    (r.state = .creating || r.state = .running || r.state = .recovering))

def failRecover (runtime : Runtime) (attachment : RuntimeAttachment) (hadActiveAttachment : Bool)
    (error : Failure) (recovering : Bool) : Hosting Unit := do
  if hadActiveAttachment then pure () else detach attachment.attachmentId
  if recovering then do
    onDaemon (markState runtime.runtimeId runtime.generation .recovering (some error.message))
    fail error
  else wait (.cleanUpReconnect runtime error)

/-- What a call does when its supervisor call has settled. -/
def settle : Awaiting → HostReply → Hosting Unit
  | .start request runtimeId runtime, .done =>
    tryCatch
      (do
        let _ ← onDaemon (completeCreate request runtimeId runtime)
        pure ())
      (fun error => wait (.cleanUpStart runtimeId request.chosenGeneration error))
  | .start request runtimeId _, .failed failure =>
    wait (.cleanUpStart runtimeId request.chosenGeneration failure.error)
  | .cleanUpStart runtimeId generation error, _ => onDaemon (failCreate runtimeId generation error)
  | .stop runtime, .done => onDaemon (markState runtime.runtimeId runtime.generation .terminated
      (some "operator terminated"))
  | .stop runtime, .failed failure =>
    if failure.absent then wait (.cleanUpStop runtime) else fail failure.error
  | .cleanUpStop runtime, _ => onDaemon (markState runtime.runtimeId runtime.generation .terminated
      (some "operator terminated"))
  | .reconnect runtime attachment hadActiveAttachment, .done =>
    tryCatch
      (do
        listen runtime
        onDaemon (markState runtime.runtimeId runtime.generation .running none))
      (fun error => failRecover runtime attachment hadActiveAttachment error false)
  | .reconnect runtime attachment hadActiveAttachment, .failed failure =>
    failRecover runtime attachment hadActiveAttachment failure.error failure.recovering
  | .cleanUpReconnect runtime error, _ => onDaemon (failCreate runtime.runtimeId runtime.generation
      error)
  | .attach _ _ _, .done => pure ()
  | .attach mode runtime attachment, .failed failure =>
    if mode = .controller ∧ attachment.mode = .controller then fail failure.error
    else do
      detach attachment.attachmentId
      if failure.absent then
        onDaemon (markState runtime.runtimeId runtime.generation .crashed (some hostAbsentReason))
      else pure ()
      fail failure.error
  | .deliver runtime, .done => listen runtime
  | .deliver runtime, .failed failure => do
    if failure.absent then
      onDaemon (markState runtime.runtimeId runtime.generation .crashed (some hostAbsentReason))
    else pure ()
    fail failure.error
  | .probe runtime rest, .failed ⟨_, true, _⟩ => do
    onDaemon (markState runtime.runtimeId runtime.generation .crashed (some hostAbsentReason))
    wait (.cleanUpProbe rest)
  | .probe _ rest, _ => probeNext rest
  | .cleanUpProbe rest, _ => probeNext rest

end Hosting

/-- What can happen to the service. -/
inductive HostingEvent where
  | create (answer : LaunchAnswer) (request : RuntimeCreateRequest) (actor : RuntimeActor)
  | terminate (runtimeId : String) (generation : Option Nat) (attachmentId : Option String)
      (actor : RuntimeActor)
  | recover (runtimeId : String) (generation : Option Nat) (mode : AttachmentMode)
      (actor : RuntimeActor)
  | openAttachment (runtimeId : String) (generation : Option Nat) (mode : AttachmentMode)
      (leaseExpiresAt : Option String) (operatorOverride : Bool) (actor : RuntimeActor)
  | deliver (runtimeId : String)
  | reconcile
  /-- The i-th supervisor call settles. -/
  | settled (i : Nat) (reply : HostReply)
  /-- A client tells the i-th listener that the host has exited. -/
  | exited (i : Nat) (code : String)

namespace Hosting

def handle (options : RuntimeServiceOptions) : HostingEvent → Hosting Unit
  | .create answer request actor => create options answer request actor
  | .terminate runtimeId generation attachmentId actor =>
    terminate runtimeId generation attachmentId actor
  | .recover runtimeId generation mode actor => recover runtimeId generation mode actor
  | .openAttachment runtimeId generation mode leaseExpiresAt operatorOverride actor =>
    openAttachment runtimeId generation mode leaseExpiresAt operatorOverride actor
  | .deliver runtimeId => deliverToRuntime runtimeId
  | .reconcile => reconcileLocalRuntimeHosts options
  | .settled i reply => do
    let h ← read
    match h.awaiting[i]? with
    | none => pure ()
    | some call => do
      modify fun h => { h with awaiting := h.awaiting.eraseIdx i }
      settle call reply
  | .exited i code => do
    let h ← read
    match h.listeners[i]? with
    | none => pure ()
    | some runtime => onDaemon (markState runtime.runtimeId runtime.generation .exited
        (some ("exit:" ++ code)))

/-- An exception goes to the caller. -/
def step (options : RuntimeServiceOptions) (h : Hosted) (event : HostingEvent) : Hosted :=
  (handle options event h).2

end Hosting
end Wardroom.Runtime
