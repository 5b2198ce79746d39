import Wardroom.Library.Trace
import Wardroom.Cli.SessionResume
import Wardroom.Runtime.Hosting

/-! # Restoring interrupted sessions

A start of the daemon first records the runtime hosts that are gone and then
resumes, one after another, the sessions whose newest runtimes all crashed when
one of these crashes was a lost host. No other call interleaves here with the
calls of a restore.
-/

namespace Wardroom.Runtime
open Wardroom.Library Wardroom.Domain Wardroom.Storage Wardroom.Cli Prog

def markIfAbsent (absent : String → Bool) (cleanup : String → Except Failure Unit)
    (runtime : Runtime) : Action Unit :=
  if absent runtime.runtimeId then do
    markState runtime.runtimeId runtime.generation .crashed (some hostAbsentReason)
    ofExcept (cleanup runtime.runtimeId)
  else pure ()

/-- Every local host that should be there is probed; an exception ends the round. -/
def markAbsent (absent : String → Bool) (cleanup : String → Except Failure Unit) :
    List Runtime → Action Unit
  | [] => pure ()
  | runtime :: rest => do
    markIfAbsent absent cleanup runtime
    markAbsent absent cleanup rest

/-- `reconcileLocalRuntimeHosts` from its call to its end. -/
def reconcileHosts (options : RuntimeServiceOptions) (absent : String → Bool)
    (cleanup : String → Except Failure Unit) : Action Unit := do
  let d ← read
  markAbsent absent cleanup (d.list.filter fun r => r.endedAt.isNone &&
    r.homeAuthorityId = options.defaultHomeAuthorityId && isLive r.state)

/-- A session that is down, with the channel of its newest generation that was bound to one. -/
structure Interrupted where
  sessionId : String
  channelId : Option String
  deriving DecidableEq, Repr

def higherFirst (a b : Runtime) : Prop := b.generation ≤ a.generation

instance : DecidableRel higherFirst := fun _ _ => inferInstanceAs (Decidable (_ ≤ _))

/-- The runtimes of a session under one home. -/
def generations (d : Daemon) (homeAuthorityId sessionId : String) : List Runtime :=
  (d.list.filter fun r => r.homeAuthorityId = homeAuthorityId && r.sessionId = sessionId).insertionSort
    higherFirst

def interrupted (d : Daemon) (homeAuthorityId sessionId : String) : Option Interrupted :=
  let newest := generations d homeAuthorityId sessionId
  let crashed := newest.takeWhile fun r => r.state = .crashed
  if crashed.any fun r => r.exitReason = some hostAbsentReason then
    some ⟨sessionId, newest.findSome? fun r => (d.binding r.runtimeId).bind RuntimeBinding.channelId⟩
  else none

/-- In the order in which the sessions first occur among the runtimes. -/
def interruptedSessions (d : Daemon) (homeAuthorityId : String) : List Interrupted :=
  ((d.list.filter fun r => r.homeAuthorityId = homeAuthorityId).map Runtime.sessionId).eraseDups.filterMap
    (interrupted d homeAuthorityId)

structure RestoreInput where
  options : RuntimeServiceOptions
  homeAuthorityId : String
  sources : ResumeSources
  /-- What the machine does for the launch of a session. -/
  answer : String → LaunchAnswer

structure RestoreOutcome where
  restored : List String := []
  skipped : List (String × String) := []
  failed : List (String × String) := []
  deriving DecidableEq, Repr

inductive RestoreChoice where
  | skip (reason : String)
  | fail (reason : String)
  | launch (plan : SessionResumePlan)
  deriving DecidableEq, Repr

/-- The channel of the candidate is there and not active. -/
def putDown (d : Daemon) (candidate : Interrupted) : Bool :=
  ((candidate.channelId.filter fun channelId => channelId ≠ "").bind d.db.currentChannel).any
    fun c => c.lifecycleState ≠ .active

/-- What is done about one interrupted session. -/
def chooseRestore (input : RestoreInput) (d : Daemon) (candidate : Interrupted) : RestoreChoice :=
  if ((d.db.currentSession candidate.sessionId).any fun s => !Text.given s.endedAt) = false then
    .skip "session ended"
  else if putDown d candidate then .skip "channel is closed"
  else
    match planSessionResume input.sources d candidate.sessionId none with
    | .error error => .fail error.message
    | .ok plan => if plan.alreadyRunning then .skip "already running" else .launch plan

def restoreRequest (input : RestoreInput) (sessionId : String) (plan : SessionResumePlan) :
    RuntimeCreateRequest where
  homeAuthorityId := input.homeAuthorityId
  sessionId := sessionId
  generation := some plan.generation
  channelId := plan.channelId
  adapterKind := some plan.adapterKind
  providerThreadId := some plan.providerThreadId
  cwd := plan.cwd
  effectiveHome := plan.effectiveHome
  command := plan.command

/-- The session speaks for itself. -/
def restoreActor (d : Daemon) (sessionId : String) : RuntimeActor :=
  ⟨sessionId, (d.db.sessionRole sessionId).getD .worker, "runtime-restore"⟩

structure Restoring where
  daemon : Daemon
  outcome : RestoreOutcome

def restoreStep (input : RestoreInput) (r : Restoring) (candidate : Interrupted) : Restoring :=
  let sessionId := candidate.sessionId
  match chooseRestore input r.daemon candidate with
  | .skip reason =>
    { r with outcome := { r.outcome with skipped := r.outcome.skipped ++ [(sessionId, reason)] } }
  | .fail reason =>
    { r with outcome := { r.outcome with failed := r.outcome.failed ++ [(sessionId, reason)] } }
  | .launch plan =>
    match create input.options (input.answer sessionId) (restoreRequest input sessionId plan)
        (restoreActor r.daemon sessionId) r.daemon with
    | (.ok _, d) => ⟨d, { r.outcome with restored := r.outcome.restored ++ [sessionId] }⟩
    | (.error e, d) => ⟨d, { r.outcome with failed := r.outcome.failed ++ [(sessionId, e.message)] }⟩

def restoreInterruptedSessions (input : RestoreInput) (d : Daemon) : Restoring :=
  Trace.run (restoreStep input) ⟨d, {}⟩ (interruptedSessions d input.homeAuthorityId)

/-- One start of the daemon: which hosts are gone, and how the restore goes, if there is one. -/
structure DaemonStart where
  input : RestoreInput
  absent : String → Bool
  cleanup : String → Except Failure Unit
  restores : Bool

/-- The daemon when its restore begins. -/
def DaemonStart.reconciled (start : DaemonStart) (d : Daemon) : Daemon :=
  (reconcileHosts start.input.options start.absent start.cleanup d).2

/-- The sessions that a start goes through. -/
def DaemonStart.candidates (start : DaemonStart) (d : Daemon) : List Interrupted :=
  if start.restores then interruptedSessions (start.reconciled d) start.input.homeAuthorityId else []

def runNativeDaemon (d : Daemon) (start : DaemonStart) : Daemon :=
  if start.restores then (restoreInterruptedSessions start.input (start.reconciled d)).daemon
  else start.reconciled d

end Wardroom.Runtime
