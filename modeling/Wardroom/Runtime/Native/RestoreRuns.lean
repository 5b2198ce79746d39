import Mathlib.Data.List.TakeWhile
import Wardroom.Library.Lists
import Wardroom.Storage.RuntimeEdits
import Wardroom.Runtime.Native.Restore

/-! # What a restore brings back

A launch adds one runtime, of the session it is for, and leaves the rows of the
others. So what made a session a candidate still holds when its turn comes, and
sessions that have no live runtime get one at most.
-/

namespace Wardroom.Runtime
open Wardroom.Library Wardroom.Domain Wardroom.Storage Wardroom.Cli Prog

/-- The rows of `t` and, under one id, a runtime of the session. -/
structure SpawnedAs (runtimeId sessionId : String) (t u : Runtimes) : Prop where
  kept : ∀ r ∈ t.rows, r ∈ u.rows
  added : ∀ r ∈ u.rows, r ∈ t.rows ∨ r.runtimeId = runtimeId ∧ r.sessionId = sessionId

def Spawned (sessionId : String) (t u : Runtimes) : Prop :=
  ∃ runtimeId, SpawnedAs runtimeId sessionId t u

theorem SpawnedAs.refl (runtimeId sessionId : String) (t : Runtimes) :
    SpawnedAs runtimeId sessionId t t := ⟨fun _ h => h, fun _ h => .inl h⟩

def EditsRuntime (runtimeId sessionId : String) (_ : Runtimes) : RuntimeEdit → Prop
  | .insert r => r.runtimeId = runtimeId ∧ r.sessionId = sessionId
  | .mark id _ _ _ _ => id = runtimeId
  | .hold id _ _ => id = runtimeId

theorem on_other {runtimeId sessionId : String} {t : Runtimes} {e : RuntimeEdit} {r : Runtime}
    (he : EditsRuntime runtimeId sessionId t e) (h : r.runtimeId ≠ runtimeId) : e.on r = r := by
  cases e with
  | insert row => rfl
  | mark id generation state reason at' =>
    obtain rfl : id = runtimeId := he
    exact if_neg fun hid => h hid.1
  | hold id providerThreadId at' =>
    obtain rfl : id = runtimeId := he
    exact if_neg h

theorem sessionId_on (e : RuntimeEdit) (r : Runtime) : (e.on r).sessionId = r.sessionId := by
  cases e with
  | insert row => rfl
  | mark id generation state reason at' =>
    rcases RuntimeEdit.on_mark id generation state reason at' r with ⟨h, _⟩ | h <;> rw [h]
    rfl
  | hold id providerThreadId at' =>
    rcases RuntimeEdit.on_hold id providerThreadId at' r with ⟨h, _⟩ | ⟨h, _⟩ <;> rw [h]
    rfl

theorem SpawnedAs.apply {runtimeId sessionId : String} {t u : Runtimes} {e : RuntimeEdit}
    (hnew : t.has runtimeId = false) (h : SpawnedAs runtimeId sessionId t u)
    (he : EditsRuntime runtimeId sessionId u e) : SpawnedAs runtimeId sessionId t (e.apply u) := by
  have hsame (r : Runtime) (hr : r ∈ t.rows) : e.on r = r := by
    refine on_other he fun hid => ?_
    rw [← hid] at hnew
    have hhas := (Table.has_iff t r.runtimeId).mpr (List.mem_map_of_mem hr)
    exact Bool.eq_false_iff.mp hnew hhas
  constructor
  · intro r hr
    have happlied := e.mem_apply_of_mem (h.kept r hr)
    rwa [hsame r hr] at happlied
  · intro r hr
    rcases RuntimeEdit.mem_apply hr with ⟨q, hq, rfl⟩ | ⟨rfl, _⟩
    · rcases h.added q hq with hold | hadded
      · rw [hsame q hold]
        exact .inl hold
      · rw [e.runtimeId_on, sessionId_on]
        exact .inr hadded
    · exact .inr he

variable {d : Daemon}

theorem createRuntime_spawns {input : CreateRuntimeInput}
    (hknown : d.db.sessions.has input.sessionId = true) :
    wp (createRuntime input)
      (fun _ d' => d.runtimes.has input.runtimeId = false ∧
        SpawnedAs input.runtimeId input.sessionId d.runtimes d'.runtimes)
      (fun _ d' => d'.runtimes = d.runtimes) d := by
  unfold createRuntime
  rw [wp_bind, wp_ofExcept]
  refine ⟨fun _ _ => wp_transaction rfl ?_, fun _ _ => rfl⟩
  simp only [wp_bind, wp_read, wp_ite, wp_fail, wp_onStore, wp_now]
  refine ⟨fun _ => rfl, fun _ => ⟨fun _ => ?_, fun hunknown => absurd hknown hunknown⟩⟩
  cases hinsert : d.runtimes.insert? _ with
  | none => exact rfl
  | some runtimes =>
    obtain ⟨hnew, hrows⟩ := Table.insert?_eq_some.mp hinsert
    simp only [wp_ite, wp_bind, wp_fail, wp_modify, wp_read]
    refine ⟨fun _ => rfl, fun _ => ?_⟩
    generalize Daemon.runtime _ input.runtimeId = found
    cases found with
    | none => exact rfl
    | some runtime =>
      refine ⟨Bool.eq_false_iff.mpr hnew, ⟨fun r hr => ?_, fun r hr => ?_⟩⟩
      · exact hrows ▸ List.mem_append_left _ hr
      · rw [hrows, List.mem_append, List.mem_singleton] at hr
        rcases hr with hr | rfl
        · exact .inl hr
        · exact .inr ⟨rfl, rfl⟩

theorem chosenId_unmoved (request : RuntimeCreateRequest) (d : Daemon) :
    wp request.chosenId (fun _ d' => d'.runtimes = d.runtimes ∧ d'.db = d.db)
      (fun _ d' => d'.runtimes = d.runtimes) d := by
  unfold RuntimeCreateRequest.chosenId
  cases request.runtimeId with
  | some runtimeId => exact ⟨rfl, rfl⟩
  | none => exact ⟨rfl, rfl⟩

theorem leads_started (answer : LaunchAnswer) (request : RuntimeCreateRequest) (runtimeId : String)
    (runtime : Runtime) :
    Leads (EditedIn (EditsRuntime runtimeId request.sessionId)) (tryCatch (do
        ofExcept answer.start
        completeCreate request runtimeId runtime)
      (failCreate runtimeId request.chosenGeneration)) := by
  refine leads_tryCatch (leads_bind (leads_ofExcept _) fun _ => leads_completeCreate
    (fun _ => leads_setProviderThreadId fun _ _ _ => rfl) leads_bindRuntime (leads_markState fun _ _ => rfl)
    leads_requireRuntime) fun error => ?_
  exact leads_bind (leads_markState fun _ _ => rfl) fun _ => leads_fail _

theorem create_spawns (options : RuntimeServiceOptions) (answer : LaunchAnswer)
    (request : RuntimeCreateRequest) (actor : RuntimeActor)
    (hknown : d.db.sessions.has request.sessionId = true) :
    Spawned request.sessionId d.runtimes (create options answer request actor d).2.runtimes := by
  have hnone {u : Runtimes} (h : u = d.runtimes) : Spawned request.sessionId d.runtimes u :=
    ⟨"", h ▸ .refl _ _ _⟩
  have hcreate : wp (create options answer request actor)
      (fun _ d' => Spawned request.sessionId d.runtimes d'.runtimes)
      (fun _ d' => Spawned request.sessionId d.runtimes d'.runtimes) d := by
    rw [create_parts, wp_bind]
    unfold beginCreate
    rw [wp_bind, wp_read, wp_ite]
    refine ⟨fun _ => hnone rfl, fun _ => ?_⟩
    rw [wp_bind]
    refine wp_mono (chosenId_unmoved request d) (fun runtimeId d₁ hsame => ?_) fun _ _ h => hnone h
    rw [wp_bind, wp_ofExcept]
    refine ⟨fun launchCwd _ => ?_, fun _ _ => hnone hsame.1⟩
    rw [wp_bind]
    refine wp_mono (createRuntime_spawns (hsame.2 ▸ hknown)) (fun runtime d₂ hspawned => ?_)
      fun _ _ h => hnone (h.trans hsame.1)
    obtain ⟨hnew, hspawned⟩ := hspawned
    rw [hsame.1] at hnew hspawned
    rw [wp_bind, wp_ofExcept]
    refine ⟨fun _ _ => ?_, fun _ _ => ⟨runtimeId, hspawned⟩⟩
    have hgrown {d₃ : Daemon}
        (h : EditedIn (EditsRuntime runtimeId request.sessionId) d₂ d₃) :
        Spawned request.sessionId d.runtimes d₃.runtimes :=
      ⟨runtimeId, edited_keeps (fun _ _ ht he => ht.apply hnew he) h hspawned⟩
    rw [wp_pure]
    exact wp_mono ((leads_started answer request runtimeId runtime).wp d₂) (fun _ _ h => hgrown h)
      fun _ _ h => hgrown h
  rcases cases_of_wp hcreate with ⟨_, _, h⟩ | ⟨_, _, h⟩ <;> exact h

instance : Std.Total higherFirst := ⟨fun a b => le_total b.generation a.generation⟩

instance : IsTrans Runtime higherFirst := ⟨fun _ _ _ hab hbc => le_trans hbc hab⟩

/-- The newest unbroken run of crashes of a session under a home has lost its host once. -/
def HostLost (t : Runtimes) (homeAuthorityId sessionId : String) : Prop :=
  ∃ lost ∈ t.rows, lost.homeAuthorityId = homeAuthorityId ∧ lost.sessionId = sessionId ∧
    lost.state = .crashed ∧ lost.exitReason = some hostAbsentReason ∧
    ∀ r ∈ t.rows, r.homeAuthorityId = homeAuthorityId → r.sessionId = sessionId →
      lost.generation < r.generation → r.state = .crashed

variable {homeAuthorityId sessionId : String}

theorem mem_generations {r : Runtime} :
    r ∈ generations d homeAuthorityId sessionId ↔
      r ∈ d.runtimes.rows ∧ r.homeAuthorityId = homeAuthorityId ∧ r.sessionId = sessionId := by
  unfold generations
  rw [List.mem_insertionSort, List.mem_filter, mem_list, Bool.and_eq_true, decide_eq_true_eq,
    decide_eq_true_eq]

theorem sessionId_interrupted {c : Interrupted}
    (h : interrupted d homeAuthorityId sessionId = some c) : c.sessionId = sessionId := by
  unfold interrupted at h
  dsimp only at h
  split at h
  · exact congrArg Interrupted.sessionId (Option.some.inj h).symm
  · cases h

theorem hostLost_of_interrupted {c : Interrupted}
    (h : interrupted d homeAuthorityId sessionId = some c) :
    HostLost d.runtimes homeAuthorityId sessionId := by
  unfold interrupted at h
  dsimp only at h
  split at h
  · rename_i hlost
    obtain ⟨lost, hrun, hreason⟩ := List.any_eq_true.mp hlost
    have hcrashed : lost.state = .crashed := by
      simpa using List.mem_takeWhile_imp hrun
    obtain ⟨hrow, hhome, hsession⟩ := mem_generations.mp ((List.takeWhile_sublist _).subset hrun)
    refine ⟨lost, hrow, hhome, hsession, hcrashed, of_decide_eq_true hreason, ?_⟩
    intro r hr hrhome hrsession hnewer
    have hmem := mem_generations.mpr ⟨hr, hrhome, hrsession⟩
    have hreached := of_mem_takeWhile (List.pairwise_insertionSort higherFirst _) hrun hmem
      (Nat.not_le.mpr hnewer)
    simpa using hreached
  · cases h

theorem hostLost_of_mem {homeAuthorityId : String} {c : Interrupted}
    (h : c ∈ interruptedSessions d homeAuthorityId) :
    HostLost d.runtimes homeAuthorityId c.sessionId := by
  obtain ⟨sessionId, -, hc⟩ := List.mem_filterMap.mp h
  rw [sessionId_interrupted hc]
  exact hostLost_of_interrupted hc

theorem nodup_interrupted (d : Daemon) (homeAuthorityId : String) :
    ((interruptedSessions d homeAuthorityId).map Interrupted.sessionId).Nodup :=
  (sublist_of_filterMap (fun _ _ h => sessionId_interrupted h) _).nodup (nodup_eraseDups _)

theorem HostLost.spawned {t u : Runtimes} {homeAuthorityId sessionId other : String}
    (h : HostLost t homeAuthorityId sessionId) (hspawned : Spawned other t u)
    (hother : other ≠ sessionId) : HostLost u homeAuthorityId sessionId := by
  obtain ⟨_, hspawned⟩ := hspawned
  obtain ⟨lost, hrow, hhome, hsession, hcrashed, hreason, hnewer⟩ := h
  refine ⟨lost, hspawned.kept lost hrow, hhome, hsession, hcrashed, hreason, ?_⟩
  intro r hr hrhome hrsession
  rcases hspawned.added r hr with hold | ⟨_, hadded⟩
  · exact hnewer r hold hrhome hrsession
  · exact absurd (hadded.symm.trans hrsession) hother

def OneLive (t : Runtimes) (sessionId : String) : Prop :=
  ∀ r ∈ t.rows, ∀ q ∈ t.rows, r.sessionId = sessionId → q.sessionId = sessionId →
    isLive r.state = true → isLive q.state = true → r = q

def NoneLive (t : Runtimes) (sessionId : String) : Prop :=
  ∀ r ∈ t.rows, r.sessionId = sessionId → isLive r.state = false

theorem OneLive.spawned {t u : Runtimes} {sessionId other : String} (h : OneLive t sessionId)
    (hspawned : Spawned other t u) (hnone : NoneLive t other) : OneLive u sessionId := by
  obtain ⟨_, hspawned⟩ := hspawned
  intro r hr q hq hrs hqs hrlive hqlive
  rcases hspawned.added r hr with hrold | ⟨hrid, hrnew⟩
  · rcases hspawned.added q hq with hqold | ⟨hqid, hqnew⟩
    · exact h r hrold q hqold hrs hqs hrlive hqlive
    · have hdown := hnone r hrold (hrs.trans (hqs.symm.trans hqnew))
      exact absurd hrlive (Bool.eq_false_iff.mp hdown)
  · rcases hspawned.added q hq with hqold | ⟨hqid, hqnew⟩
    · have hdown := hnone q hqold (hqs.trans (hrs.symm.trans hrnew))
      exact absurd hqlive (Bool.eq_false_iff.mp hdown)
    · exact Table.eq_of_key hr hq (hrid.trans hqid.symm)

def EditsCrash (_ : Runtimes) : RuntimeEdit → Prop
  | .mark _ _ state _ _ => state = .crashed
  | _ => False

theorem OneLive.apply {t : Runtimes} {sessionId : String} {e : RuntimeEdit}
    (h : OneLive t sessionId) (he : EditsCrash t e) : OneLive (e.apply t) sessionId := by
  cases e with
  | insert row => exact he.elim
  | hold id providerThreadId at' => exact he.elim
  | mark id generation state reason at' =>
    obtain rfl : state = .crashed := he
    -- a row that is live after the marking is not the one that was marked
    have hkept (r : Runtime)
        (hlive : isLive ((RuntimeEdit.mark id generation .crashed reason at').on r).state = true) :
        (RuntimeEdit.mark id generation .crashed reason at').on r = r := by
      rcases RuntimeEdit.on_mark id generation .crashed reason at' r with ⟨hon, _⟩ | hon
      · rw [hon] at hlive
        cases hlive
      · exact hon
    intro r hr q hq hrs hqs hrlive hqlive
    rcases RuntimeEdit.mem_apply hr with ⟨r, hrold, rfl⟩ | ⟨hinsert, _⟩
    · rcases RuntimeEdit.mem_apply hq with ⟨q, hqold, rfl⟩ | ⟨hinsert, _⟩
      · have hrsame := hkept r hrlive
        have hqsame := hkept q hqlive
        rw [hrsame] at hrs hrlive ⊢
        rw [hqsame] at hqs hqlive ⊢
        exact h r hrold q hqold hrs hqs hrlive hqlive
      · cases hinsert
    · cases hinsert

theorem leads_markAbsent (absent : String → Bool) (cleanup : String → Except Failure Unit)
    (runtimes : List Runtime) :
    Leads (EditedIn EditsCrash) (markAbsent absent cleanup runtimes) := by
  induction runtimes with
  | nil => exact leads_pure _
  | cons runtime rest ih =>
    exact leads_bind (leads_ite (leads_bind (leads_markState fun _ _ => rfl) fun _ =>
      leads_ofExcept _) (leads_pure _)) fun _ => ih

theorem OneLive.reconciled {sessionId : String} (start : DaemonStart)
    (h : OneLive d.runtimes sessionId) : OneLive (start.reconciled d).runtimes sessionId := by
  have hled : Leads (EditedIn EditsCrash)
      (reconcileHosts start.input.options start.absent start.cleanup) :=
    leads_bind leads_read fun _ => leads_markAbsent _ _ _
  exact edited_keeps (I := fun t => OneLive t sessionId) (fun _ _ ht he => ht.apply he) (hled d) h

end Wardroom.Runtime
