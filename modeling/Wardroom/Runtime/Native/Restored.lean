import Wardroom.Runtime.ProviderThreads
import Wardroom.Runtime.Native.RestoreRuns

/-! # Which launches of a restore are in order

A launch is for a session that has not ended and lost a host, at a generation
above its earlier ones. Two things that a restore does not look at decide the
rest: the state of a suspension, which is not a state of the channel, and the
runtimes of the session beside its newest one.
-/

namespace Wardroom.Runtime
open Wardroom.Library Wardroom.Domain Wardroom.Storage Wardroom.Lifecycle Wardroom.Cli Prog

/-- A channel that the session was bound to, or that it is brought back for; an empty id names
none. -/
def ForChannel (candidate : Interrupted) (plan : SessionResumePlan) (channelId : String) : Prop :=
  channelId ≠ "" ∧ (candidate.channelId = some channelId ∨ plan.channelId = some channelId)

def Closed (d : Daemon) (channelId : String) : Prop :=
  ∃ c, d.db.currentChannel channelId = some c ∧ c.lifecycleState = .closed

/-- The state that a suspension leaves in `channel_blueprints`. -/
def Suspended (sources : ResumeSources) (channelId : String) : Prop :=
  ∃ row, sources.blueprints.find? channelId = some row ∧ row.state = .suspended

/-- What is asked of the launch of a candidate. -/
structure InOrder (input : RestoreInput) (d : Daemon) (candidate : Interrupted)
    (plan : SessionResumePlan) : Prop where
  notEnded : d.db.sessionLive candidate.sessionId = true
  hostLost : HostLost d.runtimes input.homeAuthorityId candidate.sessionId
  notClosed : ∀ channelId, ForChannel candidate plan channelId → ¬Closed d channelId
  notSuspended : ∀ channelId, ForChannel candidate plan channelId → ¬Suspended input.sources channelId
  noneLive : NoneLive d.runtimes candidate.sessionId
  newGeneration : ∀ r ∈ d.runtimes.rows, r.sessionId = candidate.sessionId →
    r.generation < plan.generation

def LaunchesInOrder (input : RestoreInput) (r : Restoring) (candidate : Interrupted) : Prop :=
  ∀ plan, chooseRestore input r.daemon candidate = .launch plan →
    InOrder input r.daemon candidate plan

/-- Nothing that bears on the launch escapes a restore: the suspension of a channel, which it never
reads, a blueprint that names a closed channel, a live runtime that is not the newest or unproven. -/
structure InView (input : RestoreInput) (d : Daemon) (candidate : Interrupted)
    (plan : SessionResumePlan) : Prop where
  notSuspended : ∀ channelId, ForChannel candidate plan channelId → ¬Suspended input.sources channelId
  blueprintOpen : ∀ channelId, channelId ≠ "" → plan.channelId = some channelId → ¬Closed d channelId
  liveNewest : ∀ r ∈ d.runtimes.rows, r.sessionId = candidate.sessionId → isLive r.state = true →
    (sessionRuntimes d candidate.sessionId).head? = some r ∧ input.sources.proven r.runtimeId = true

def LaunchesInView (input : RestoreInput) (r : Restoring) (candidate : Interrupted) : Prop :=
  ∀ plan, chooseRestore input r.daemon candidate = .launch plan →
    InView input r.daemon candidate plan

variable {candidate : Interrupted} {d : Daemon}

theorem not_closed_of_not_putDown {channelId : String}
    (h : putDown d candidate = false) (hgiven : channelId ≠ "")
    (hchannel : candidate.channelId = some channelId) : ¬Closed d channelId := by
  rintro ⟨c, hc, hclosed⟩
  have hnamed : candidate.channelId.filter (fun channelId => channelId ≠ "") = some channelId := by
    rw [hchannel]
    exact if_pos (decide_eq_true hgiven)
  rw [putDown, hnamed, Option.bind_some, hc] at h
  simp [hclosed] at h

variable {input : RestoreInput} {plan : SessionResumePlan}

theorem chooseRestore_launch
    (h : chooseRestore input d candidate = .launch plan) :
    putDown d candidate = false ∧ plan.alreadyRunning = false ∧
      planSessionResume input.sources d candidate.sessionId none = .ok plan := by
  unfold chooseRestore at h
  split at h
  · cases h
  split at h
  · cases h
  rename_i hup
  refine ⟨Bool.eq_false_iff.mpr hup, ?_⟩
  cases hplan : planSessionResume input.sources d candidate.sessionId none with
  | error e =>
    rw [hplan] at h
    cases h
  | ok planned =>
    rw [hplan] at h
    dsimp only at h
    split at h
    · cases h
    · rename_i hdown
      cases h
      exact ⟨Bool.eq_false_iff.mpr hdown, rfl⟩

theorem noneLive_iff
    (h : chooseRestore input d candidate = .launch plan) :
    NoneLive d.runtimes candidate.sessionId ↔
      ∀ r ∈ d.runtimes.rows, r.sessionId = candidate.sessionId → isLive r.state = true →
        (sessionRuntimes d candidate.sessionId).head? = some r ∧
          input.sources.proven r.runtimeId = true := by
  obtain ⟨_, hdown, hplan⟩ := chooseRestore_launch h
  obtain ⟨_, rfl⟩ := planSessionResume_ok hplan
  constructor
  · intro hnone r hr hsession hlive
    exact absurd hlive (Bool.eq_false_iff.mp (hnone r hr hsession))
  · intro hnewest r hr hsession
    cases hlive : isLive r.state with
    | false => rfl
    | true =>
      obtain ⟨hlatest, hproven⟩ := hnewest r hr hsession hlive
      rw [resumePlan_alreadyRunning hlatest, hlive, hproven] at hdown
      cases hdown

theorem inOrder_iff
    (hlost : HostLost d.runtimes input.homeAuthorityId candidate.sessionId)
    (h : chooseRestore input d candidate = .launch plan) :
    InOrder input d candidate plan ↔ InView input d candidate plan := by
  obtain ⟨hup, hdown, hplan⟩ := chooseRestore_launch h
  obtain ⟨hlive, hresume⟩ := planSessionResume_ok hplan
  constructor
  · intro horder
    exact ⟨horder.notSuspended,
      fun channelId hgiven hchannel => horder.notClosed channelId ⟨hgiven, .inr hchannel⟩,
      (noneLive_iff h).mp horder.noneLive⟩
  · intro hview
    refine ⟨hlive, hlost, ?_, hview.notSuspended, (noneLive_iff h).mpr hview.liveNewest, ?_⟩
    · rintro channelId ⟨hgiven, hbound | hplanned⟩
      · exact not_closed_of_not_putDown hup hgiven hbound
      · exact hview.blueprintOpen channelId hgiven hplanned
    · intro r hr hsession
      rw [hresume] at hdown ⊢
      exact resumePlan_generation hdown hr hsession

theorem restoreStep_cases (input : RestoreInput) (r : Restoring) (candidate : Interrupted) :
    (restoreStep input r candidate).daemon = r.daemon ∨
      ∃ plan, chooseRestore input r.daemon candidate = .launch plan ∧
        Spawned candidate.sessionId r.daemon.runtimes
          (restoreStep input r candidate).daemon.runtimes := by
  unfold restoreStep
  cases hchoice : chooseRestore input r.daemon candidate with
  | skip reason => exact .inl rfl
  | fail reason => exact .inl rfl
  | launch plan =>
    refine .inr ⟨plan, rfl, ?_⟩
    have hlive := (planSessionResume_ok (chooseRestore_launch hchoice).2.2).1
    have hknown : r.daemon.db.sessions.has candidate.sessionId = true := by
      unfold Database.sessionLive Database.currentSession at hlive
      cases hs : r.daemon.db.sessions.find? candidate.sessionId with
      | none =>
        rw [hs] at hlive
        cases hlive
      | some s =>
        obtain ⟨hmem, hid⟩ := Table.find?_some hs
        exact hid ▸ (Table.has_iff _ _).mpr (List.mem_map_of_mem hmem)
    have hspawned := create_spawns input.options (input.answer candidate.sessionId)
      (restoreRequest input candidate.sessionId plan) (restoreActor r.daemon candidate.sessionId)
      hknown
    dsimp only
    generalize create input.options _ _ _ r.daemon = created at hspawned ⊢
    obtain ⟨result, d⟩ := created
    cases result <;> exact hspawned

theorem HostLost.step {r : Restoring}
    {homeAuthorityId sessionId : String} (h : HostLost r.daemon.runtimes homeAuthorityId sessionId)
    (hother : candidate.sessionId ≠ sessionId) :
    HostLost (restoreStep input r candidate).daemon.runtimes homeAuthorityId sessionId := by
  rcases restoreStep_cases input r candidate with hsame | ⟨_, _, hspawned⟩
  · rw [hsame]
    exact h
  · exact h.spawned hspawned hother

theorem OneLive.step {r : Restoring}
    {sessionId : String} (h : OneLive r.daemon.runtimes sessionId)
    (hview : LaunchesInView input r candidate) :
    OneLive (restoreStep input r candidate).daemon.runtimes sessionId := by
  rcases restoreStep_cases input r candidate with hsame | ⟨plan, hchoice, hspawned⟩
  · rw [hsame]
    exact h
  · exact h.spawned hspawned ((noneLive_iff hchoice).mpr (hview plan hchoice).liveNewest)

/-- Through a restore of different sessions that are all down, the launches are in order if and only
if nothing that bears on them escapes it. -/
theorem meets_inOrder_iff (input : RestoreInput) {candidates : List Interrupted} {r : Restoring}
    (hdistinct : (candidates.map Interrupted.sessionId).Nodup)
    (hlost : ∀ c ∈ candidates, HostLost r.daemon.runtimes input.homeAuthorityId c.sessionId) :
    Trace.Meets (restoreStep input) (LaunchesInOrder input) r candidates ↔
      Trace.Meets (restoreStep input) (LaunchesInView input) r candidates := by
  induction candidates generalizing r with
  | nil => exact Iff.rfl
  | cons candidate rest ih =>
    obtain ⟨hnew, hdistinct⟩ := List.nodup_cons.mp hdistinct
    have hfirst := hlost candidate List.mem_cons_self
    have hrest (c : Interrupted) (hc : c ∈ rest) :
        HostLost (restoreStep input r candidate).daemon.runtimes input.homeAuthorityId c.sessionId := by
      refine (hlost c (List.mem_cons_of_mem _ hc)).step fun hsame => hnew ?_
      rw [hsame]
      exact List.mem_map_of_mem hc
    rw [Trace.meets_cons, Trace.meets_cons, ih hdistinct hrest]
    refine and_congr (forall_congr' fun plan => ?_) Iff.rfl
    exact ⟨fun h hchoice => (inOrder_iff hfirst hchoice).mp (h hchoice),
      fun h hchoice => (inOrder_iff hfirst hchoice).mpr (h hchoice)⟩

def launches (input : RestoreInput) (r : Restoring) (candidate : Interrupted) : Bool :=
  match chooseRestore input r.daemon candidate with
  | .launch _ => true
  | _ => false

/-- The sessions that a start launches, in order. -/
def DaemonStart.launched (start : DaemonStart) (d : Daemon) : List String :=
  (Trace.taken (restoreStep start.input) (launches start.input) ⟨start.reconciled d, {}⟩
    (start.candidates d)).map Interrupted.sessionId

structure StartInOrder (d : Daemon) (start : DaemonStart) : Prop where
  launches : Trace.Meets (restoreStep start.input) (LaunchesInOrder start.input)
    ⟨start.reconciled d, {}⟩ (start.candidates d)
  once : (start.launched d).Nodup

def StartInView (d : Daemon) (start : DaemonStart) : Prop :=
  Trace.Meets (restoreStep start.input) (LaunchesInView start.input) ⟨start.reconciled d, {}⟩
    (start.candidates d)

theorem nodup_candidates (start : DaemonStart) (d : Daemon) :
    ((start.candidates d).map Interrupted.sessionId).Nodup := by
  unfold DaemonStart.candidates
  split
  · exact nodup_interrupted _ _
  · exact List.nodup_nil

theorem startInOrder_iff (d : Daemon) (start : DaemonStart) :
    StartInOrder d start ↔ StartInView d start := by
  have hlost (c : Interrupted) (hc : c ∈ start.candidates d) :
      HostLost (start.reconciled d).runtimes start.input.homeAuthorityId c.sessionId := by
    unfold DaemonStart.candidates at hc
    split at hc
    · exact hostLost_of_mem hc
    · exact (List.not_mem_nil hc).elim
  have hmeets := meets_inOrder_iff start.input (r := ⟨start.reconciled d, {}⟩)
    (nodup_candidates start d) hlost
  have honce : (start.launched d).Nodup :=
    ((Trace.taken_sublist _ _ _).map _).nodup (nodup_candidates start d)
  exact ⟨fun h => hmeets.mp h.launches, fun h => ⟨hmeets.mpr h, honce⟩⟩

theorem OneLive.start {start : DaemonStart} {sessionId : String}
    (h : OneLive d.runtimes sessionId) (hview : StartInView d start) :
    OneLive (runNativeDaemon d start).runtimes sessionId := by
  have hreconciled := h.reconciled start
  unfold StartInView DaemonStart.candidates at hview
  unfold runNativeDaemon
  split
  · rename_i hrestores
    rw [if_pos hrestores] at hview
    exact Trace.invariant_run (I := fun r : Restoring => OneLive r.daemon.runtimes sessionId)
      (fun _ _ hr hc => hr.step hc) hreconciled hview
  · exact hreconciled

/-- Through any starts of the daemon, from any state: the launches are in order, and no session that
had one live runtime gets another, if and only if nothing that bears on a launch escapes the restore
that makes it. -/
theorem restores_in_order (d : Daemon) (starts : List DaemonStart) :
    (Trace.Meets runNativeDaemon StartInOrder d starts ∧ ∀ sessionId, OneLive d.runtimes sessionId →
      OneLive (Trace.run runNativeDaemon d starts).runtimes sessionId) ↔
      Trace.Meets runNativeDaemon StartInView d starts := by
  constructor
  · rintro ⟨h, _⟩
    exact h.mono fun d start => (startInOrder_iff d start).mp
  · intro h
    refine ⟨h.mono fun d start => (startInOrder_iff d start).mpr, fun sessionId honce => ?_⟩
    exact Trace.invariant_run (I := fun d : Daemon => OneLive d.runtimes sessionId)
      (fun _ _ hd hstart => hd.start hstart) honce h

/-- Bob works on the bridge, and the host of his runtime is lost. -/
def lostBob : Daemon :=
  let enrol : Command MutationReceipt := do
    let _ ← insertChannel "bridge" none
    insertSession { id := "bob", role := some .worker }
  let lose : Action Unit := do
    let _ ← createRuntime (firstRuntime "bob" (some "conversation"))
    let _ ← bindRuntime ⟨"runtime-bob", "home", "bob", 1, some "bridge", "codex", none⟩
    markState "runtime-bob" 1 .crashed (some hostAbsentReason)
  (lose (.initial (enrol (World.initial .empty tally tally)).2)).2

def bobSuspended : ChannelBlueprintRow where
  channelId := "bridge"
  blueprint := { emptyBlueprint "bridge" "bridge" "t" with
    members := [
      { channelId := "bridge", priorSessionId := "bob", intent := ⟨some .worker, none⟩
        launch := ⟨"codex", [], "/work", none⟩, layout := ⟨none, none, ""⟩, adapterKind := "codex"
        lastAcknowledgedDeliveryCursor := "0", role := some .worker, joinedAt := "t"
        processGeneration := 1, provider := some ⟨"conversation", .null⟩ }] }
  state := .suspended

/-- The next start of the daemon, whose machine launches whatever it is asked to. -/
def nextStart : DaemonStart where
  input :=
    { options := ⟨"ship", "home"⟩
      homeAuthorityId := "home"
      sources := ⟨Table.ofRows [bobSuspended], fun _ => true, fun _ => true, fun _ => none,
        fun _ => .ok ()⟩
      answer := fun _ => ⟨.ok "/work", .ok (), .ok ()⟩ }
  absent := fun _ => false
  cleanup := fun _ => .ok ()
  restores := true

/-- It brings him back on the suspended channel. -/
theorem suspended_restored :
    nextStart.launched lostBob = ["bob"] ∧ ¬StartInOrder lostBob nextStart := by
  refine ⟨by decide +kernel, fun h => ?_⟩
  have hcandidates : nextStart.candidates lostBob = [⟨"bob", some "bridge"⟩] := by decide +kernel
  have hlaunches := h.launches
  rw [hcandidates] at hlaunches
  have hchoice : chooseRestore nextStart.input (nextStart.reconciled lostBob)
      ⟨"bob", some "bridge"⟩ = .launch (resumePlan nextStart.input.sources
        (nextStart.reconciled lostBob) "bob" none) := by
    decide +kernel
  have horder := hlaunches.1 _ hchoice
  exact horder.notSuspended "bridge" ⟨by decide, .inl rfl⟩ ⟨bobSuspended, by decide +kernel, rfl⟩

end Wardroom.Runtime
