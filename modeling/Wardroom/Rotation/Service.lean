import Mathlib
import Wardroom.Library.Text
import Wardroom.Library.Trace
import Wardroom.Rotation.Repository

/-! # The rotation of a worker

One rotation, with its record and the commits that are under way. A commit runs
from await to await, and the other calls come in between; each call reads the
roster and the runtimes as they are at that moment. The store writes the record
whatever it holds by then.
-/

namespace Wardroom.Rotation
open Wardroom.Library Wardroom.Domain Wardroom.Storage

inductive ProviderTurnPhase where
  | idle | thinking | streaming | tool | busy | ready | unsupported
  deriving DecidableEq

/-- `launchOptions` is their JSON text, by which they are compared. -/
structure RotationLaunchConfig where
  provider : String
  model : Option String
  reasoning : Option String
  launchOptions : String
  deriving DecidableEq

structure RotationRuntime where
  runtimeId : String
  sessionId : String
  generation : Nat
  state : String
  providerThreadId : Option String
  phase : Option ProviderTurnPhase
  role : SessionRole
  launch : RotationLaunchConfig
  deriving DecidableEq

inductive RotationState where
  | prepared | acknowledged | committed | cleanupPending | cancelled | rolledBack
  deriving DecidableEq

structure RotationAudit where
  rotationId : String
  channelId : String
  oldSessionId : String
  replacementSessionId : Option String
  actorSessionId : String
  nonce : String
  state : RotationState
  reason : Option String
  oldRuntimeId : String
  oldGeneration : Nat
  replacementRuntimeId : Option String
  replacementGeneration : Option Nat
  createdAt : String
  updatedAt : String
  deriving DecidableEq

/-- What the store answers at one moment: the runtime of the old session, and the role of the actor. -/
structure View where
  inspected : Option RotationRuntime
  actorRole : Option SessionRole

inductive CommitPhase where
  | launching (prior : RotationRuntime)
  | inspecting (prior launched : RotationRuntime)
  | withdrawing (replacement : RotationRuntime) (error : String)
  | cleaning
  | done
  deriving DecidableEq

/-- A commit keeps the record as it has read it. -/
structure CommitCall where
  audit : RotationAudit
  actorSessionId : String
  phase : CommitPhase
  deriving DecidableEq

/-- What has been done to the rotation. -/
inductive Entry where
  | recorded (state : RotationState)
  | swapped
  deriving DecidableEq

/-- `running` are the replacements that have been launched and not ended. -/
structure Rotations where
  audit : Option RotationAudit
  world : World
  commits : List CommitCall
  running : List String
  log : List Entry

def activeTurn (runtime : RotationRuntime) : Bool :=
  runtime.phase ∈ [some .thinking, some .streaming, some .tool, some .busy]

def failureMessage : Failure → String
  | .rooms _ message => message
  | .sqlite message => message
  | .runtime message => message
  | .listener message => message

def requireWorker (view : View) : Except String RotationRuntime :=
  match view.inspected with
  | none => .error "rotationTargetNotFound"
  | some target =>
    if target.role ≠ .worker then .error "rotationWorkerRequired"
    else if target.state ≠ "running" then .error "rotationRuntimeNotLive"
    else .ok target

def requirePlanner (view : View) : Except String Unit :=
  if view.actorRole = some .planner then .ok () else .error "rotationPlannerRequired"

namespace Rotations

def requireAudit (s : Rotations) : Except String RotationAudit :=
  match s.audit with
  | none => .error "rotationNotFound"
  | some audit => .ok audit

def insert (s : Rotations) (audit : RotationAudit) : Rotations :=
  { s with audit := some audit, log := s.log ++ [.recorded audit.state] }

def update (s : Rotations) (patch : RotationAudit → RotationAudit) : Rotations :=
  match s.audit with
  | none => s
  | some current => { s with audit := some (patch current), log := s.log ++ [.recorded (patch current).state] }

def prepare (s : Rotations) (channelId actorSessionId rotationId nonce at' : String) (view : View) :
    Except String Rotations := do
  requirePlanner view
  let target ← requireWorker view
  if activeTurn target then throw "rotationRuntimeActive"
  return s.insert ⟨rotationId, channelId, target.sessionId, none, actorSessionId, nonce, .prepared, none,
    target.runtimeId, target.generation, none, none, at', at'⟩

def acknowledge (s : Rotations) (sessionId nonce at' : String) (view : View) : Except String Rotations := do
  let audit ← s.requireAudit
  if audit.state ≠ .prepared ∨ sessionId ≠ audit.oldSessionId ∨ nonce ≠ audit.nonce then
    throw "rotationAcknowledgementInvalid"
  let current ← requireWorker view
  if current.generation ≠ audit.oldGeneration ∨ current.runtimeId ≠ audit.oldRuntimeId ∨ activeTurn current then
    throw "rotationTargetChanged"
  return s.update fun audit => { audit with state := .acknowledged, updatedAt := at' }

/-- A commit up to its first await. -/
def commit (s : Rotations) (actorSessionId : String) (view : View) : Except String CommitCall := do
  let audit ← s.requireAudit
  requirePlanner view
  if audit.actorSessionId ≠ actorSessionId then throw "rotationNotReady"
  if audit.state = .cleanupPending then return ⟨audit, actorSessionId, .cleaning⟩
  if audit.state ≠ .acknowledged then throw "rotationNotReady"
  let prior ← requireWorker view
  if prior.generation ≠ audit.oldGeneration ∨ prior.runtimeId ≠ audit.oldRuntimeId ∨ activeTurn prior then
    throw "rotationTargetChanged"
  return ⟨audit, actorSessionId, .launching prior⟩

def cancel (s : Rotations) (reason at' : String) (view : View) : Except String Rotations := do
  let audit ← s.requireAudit
  requirePlanner view
  if Text.trim reason = "" then throw "rotationCancelReasonRequired"
  if audit.state ≠ .prepared ∧ audit.state ≠ .acknowledged then throw "rotationCannotCancel"
  return s.update fun audit => { audit with state := .cancelled, reason := some (Text.trim reason), updatedAt := at' }

def setCommit (s : Rotations) (i : Nat) (call : CommitCall) : Rotations := { s with commits := s.commits.set i call }

def rollBack (s : Rotations) (i : Nat) (call : CommitCall) (error at' : String) : Rotations :=
  (s.update fun audit => { audit with state := .rolledBack, reason := some error, updatedAt := at' }).setCommit i
    { call with phase := .done }

/-- A launch that fails may leave runtimes running. -/
def launched (s : Rotations) (i : Nat) (call : CommitCall) (prior : RotationRuntime)
    (outcome : Except (String × List String) RotationRuntime) (at' : String) : Rotations :=
  match outcome with
  | .error (error, left) => ({ s with running := s.running ++ left } : Rotations).rollBack i call error at'
  | .ok launched => ({ s with running := s.running ++ [launched.runtimeId] } : Rotations).setCommit i
      { call with phase := .inspecting prior launched }

def verified (prior replacement : RotationRuntime) : Bool :=
  replacement.role = .worker && replacement.state = "running" && replacement.launch.provider = prior.launch.provider &&
    replacement.launch.model = prior.launch.model && replacement.launch.reasoning = prior.launch.reasoning &&
    replacement.launch.launchOptions = prior.launch.launchOptions &&
    replacement.providerThreadId.any fun thread => thread ≠ ""

/-- What is inspected is the runtime that was launched. From the inspection on, the swap is at once. -/
def inspected (s : Rotations) (i : Nat) (call : CommitCall) (prior launched : RotationRuntime)
    (outcome : Except String (Option RotationRuntime)) (view : View) (at' : String) : Rotations :=
  match outcome with
  | .error error => s.rollBack i call error at'
  | .ok none => s.rollBack i call "rotationReplacementUnverified" at'
  | .ok (some runtime) =>
    let replacement := { runtime with runtimeId := launched.runtimeId }
    if verified prior replacement then
      match swapWorker (view.inspected.map RotationRuntime.generation)
        ⟨call.audit.channelId, call.audit.oldSessionId, replacement.sessionId, call.audit.oldGeneration⟩ s.world with
      | (.error error, world) => ({ s with world := world } : Rotations).setCommit i
          { call with phase := .withdrawing replacement (failureMessage error) }
      | (.ok (), world) =>
        (({ s with world := world, log := s.log ++ [.swapped] } : Rotations).update fun audit =>
          { audit with
            state := .cleanupPending
            replacementSessionId := some replacement.sessionId
            replacementRuntimeId := some replacement.runtimeId
            replacementGeneration := some replacement.generation
            updatedAt := at' }).setCommit i { call with phase := .cleaning }
    else s.setCommit i { call with phase := .withdrawing replacement "rotationReplacementUnverified" }

/-- The termination of a replacement, whose failure is ignored, or of the old runtime. -/
def terminated (s : Rotations) (i : Nat) (call : CommitCall) (outcome : Except String Unit) (at' : String) : Rotations :=
  match call.phase, outcome with
  | .withdrawing replacement error, .ok () =>
    ({ s with running := s.running.filter (· ≠ replacement.runtimeId) } : Rotations).rollBack i call error at'
  | .withdrawing _ error, .error _ => s.rollBack i call error at'
  | .cleaning, .ok () =>
    (s.update fun audit => { audit with state := .committed, reason := none, updatedAt := at' }).setCommit i
      { call with phase := .done }
  | .cleaning, .error error =>
    (s.update fun audit => { audit with state := .cleanupPending, reason := some error, updatedAt := at' }).setCommit i
      { call with phase := .done }
  | _, _ => s

inductive RotationEvent where
  | prepare (channelId actorSessionId rotationId nonce at' : String) (view : View)
  | acknowledge (sessionId nonce at' : String) (view : View)
  | commit (actorSessionId : String) (view : View)
  | cancel (reason at' : String) (view : View)
  | launched (i : Nat) (outcome : Except (String × List String) RotationRuntime) (at' : String)
  | inspected (i : Nat) (outcome : Except String (Option RotationRuntime)) (view : View) (at' : String)
  | terminated (i : Nat) (outcome : Except String Unit) (at' : String)
  /-- A runtime ends of itself. -/
  | exited (runtimeId : String)
  /-- Other commands change the store. -/
  | other (world : World)

/-- A second prepare begins a rotation of its own. -/
def step (s : Rotations) : RotationEvent → Rotations
  | .prepare channelId actorSessionId rotationId nonce at' view =>
    if s.audit.isSome then s else ((s.prepare channelId actorSessionId rotationId nonce at' view).toOption).getD s
  | .acknowledge sessionId nonce at' view => ((s.acknowledge sessionId nonce at' view).toOption).getD s
  | .commit actorSessionId view =>
    ((s.commit actorSessionId view).toOption).elim s fun call => { s with commits := s.commits ++ [call] }
  | .cancel reason at' view => ((s.cancel reason at' view).toOption).getD s
  | .launched i outcome at' => s.commits[i]?.elim s fun call =>
    match call.phase with
    | .launching prior => s.launched i call prior outcome at'
    | _ => s
  | .inspected i outcome view at' => s.commits[i]?.elim s fun call =>
    match call.phase with
    | .inspecting prior launched => s.inspected i call prior launched outcome view at'
    | _ => s
  | .terminated i outcome at' => s.commits[i]?.elim s fun call => s.terminated i call outcome at'
  | .exited runtimeId => { s with running := s.running.filter (· ≠ runtimeId) }
  | .other world => { s with world := world }

def initial (world : World) : Rotations := ⟨none, world, [], [], []⟩

end Rotations
end Wardroom.Rotation
