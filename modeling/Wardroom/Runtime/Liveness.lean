import Wardroom.Library.Trace
import Wardroom.Runtime.Hosting
import Wardroom.Runtime.ProviderThreads

/-! # When a runtime is live

The state of a runtime and its end are written by one statement, which never
takes an end back. A call that has waited for its host marks the state it would
have marked at once, whatever has become of the runtime in the meantime.
-/

namespace Wardroom.Runtime
open Wardroom.Library Wardroom.Domain Wardroom.Storage Prog

/-- The runtime and the state that a call marks when its supervisor call settles. -/
def Awaiting.marks : Awaiting → HostReply → Option (String × RuntimeState)
  | .start _ runtimeId _, .done => some (runtimeId, .running)
  | .start _ _ _, .failed _ => none
  | .cleanUpStart runtimeId _ _, _ => some (runtimeId, .crashed)
  | .stop runtime, .done => some (runtime.runtimeId, .terminated)
  | .stop _, .failed _ => none
  | .cleanUpStop runtime, _ => some (runtime.runtimeId, .terminated)
  | .reconnect runtime _ _, .done => some (runtime.runtimeId, .running)
  | .reconnect runtime _ _, .failed failure =>
    if failure.recovering then some (runtime.runtimeId, .recovering) else none
  | .cleanUpReconnect runtime _, _ => some (runtime.runtimeId, .crashed)
  | .attach mode runtime attachment, .failed failure =>
    if failure.absent ∧ ¬(mode = .controller ∧ attachment.mode = .controller) then
      some (runtime.runtimeId, .crashed)
    else none
  | .deliver runtime, .failed failure =>
    if failure.absent then some (runtime.runtimeId, .crashed) else none
  | .probe runtime _, .failed failure =>
    if failure.absent then some (runtime.runtimeId, .crashed) else none
  | _, _ => none

/-- The runtime that a call makes active when its host answers. -/
def Awaiting.revives : Awaiting → Option String
  | .start _ runtimeId _ => some runtimeId
  | .reconnect runtime _ _ => some runtime.runtimeId
  | _ => none

/-- The runtime and the state that an event marks, if it marks one. -/
def marks (h : Hosted) : HostingEvent → Option (String × RuntimeState)
  | .settled i reply => (h.awaiting[i]?).bind fun call => call.marks reply
  | .exited i _ => (h.listeners[i]?).map fun runtime => (runtime.runtimeId, .exited)
  | _ => none

/-- The edits of an event: new runtimes, claims, and the one marking. -/
def EditsOf (marked : Option (String × RuntimeState)) (_ : Runtimes) : RuntimeEdit → Prop
  | .insert r => r.Fresh
  | .mark runtimeId _ state _ _ => marked = some (runtimeId, state)
  | .hold _ _ _ => True

def HostedEdited (marked : Option (String × RuntimeState)) (h h' : Hosted) : Prop :=
  EditedIn (EditsOf marked) h.daemon h'.daemon

section Leads

variable {α : Type} {R : Daemon → Daemon → Prop}

/-- Two states of the service between whose daemons `R` holds. -/
def Along (R : Daemon → Daemon → Prop) (h h' : Hosted) : Prop := R h.daemon h'.daemon

theorem leads_onDaemon {x : Action α} (h : Leads R x) : Leads (Along R) (onDaemon x) :=
  fun s => h s.daemon

variable [IsPreorder Daemon R]

instance : IsPreorder Hosted (Along R) where
  refl h := refl_of R h.daemon
  trans _ _ _ := trans_of R

/-- The statements of the daemon that an event with this marking can reach lead along `R`. -/
structure Conducts (R : Daemon → Daemon → Prop) (marked : Option (String × RuntimeState)) : Prop where
  now : Leads R (onStore now)
  randomUUID : Leads R (onStore randomUUID)
  transaction : Leads R (transaction (pure ()))
  create : marked = none → ∀ input, Leads R (createRuntime input)
  claim : ∀ runtimeId providerThreadId, Leads R (setProviderThreadId runtimeId providerThreadId)
  bind : ∀ input, Leads R (bindRuntime input)
  mark : ∀ {runtimeId generation state reason}, marked = some (runtimeId, state) →
    Leads R (markState runtimeId generation state reason)

variable {marked : Option (String × RuntimeState)}

theorem leads_of_daemon {x : Hosting α} (h : Frame Hosted.daemon x) : Leads (Along R) x := by
  intro s
  rw [Along, h s]
  exact refl_of R s.daemon

end Leads

/-- The parts of the service that an event with this marking is made of lead along `R`, where it waits
for the calls in `P`. -/
structure Carries (R : Hosted → Hosted → Prop) (marked : Option (String × RuntimeState))
    (P : Awaiting → Prop) : Prop where
  quiet : ∀ {α} {x : Hosting α}, Frame (fun h => (h.daemon, h.awaiting)) x → Leads R x
  taken : ∀ i, Leads R (modify fun h => { h with awaiting := h.awaiting.eraseIdx i } : Hosting Unit)
  wait : ∀ {call}, P call → Leads R (wait call)
  idle : ∀ {call}, call.revives = none → P call
  now : Leads R (onDaemon (onStore now))
  randomUUID : Leads R (onDaemon (onStore randomUUID))
  transaction : Leads R (onDaemon (transaction (pure ())))
  begins : marked = none → ∀ options answer request actor,
    Leads R (onDaemon (beginCreate options answer request actor))
  completes : ∀ {request runtimeId runtime}, marked = some (runtimeId, .running) →
    Leads R (onDaemon (completeCreate request runtimeId runtime))
  fails : ∀ {runtimeId generation error}, marked = some (runtimeId, .crashed) →
    Leads R (onDaemon (failCreate runtimeId generation error : Action Unit))
  mark : ∀ {runtimeId generation state reason}, marked = some (runtimeId, state) →
    Leads R (onDaemon (markState runtimeId generation state reason))

namespace Conducts

variable {R : Daemon → Daemon → Prop} [IsPreorder Daemon R] {marked : Option (String × RuntimeState)}
  (hc : Conducts R marked)
include hc

theorem beginCreate (hnone : marked = none) (options : RuntimeServiceOptions) (answer : LaunchAnswer)
    (request : RuntimeCreateRequest) (actor : RuntimeActor) :
    Leads R (beginCreate options answer request actor) := by
  refine leads_bind leads_read fun d => leads_ite (leads_fail _) ?_
  refine leads_bind ?_ fun runtimeId => leads_bind (leads_ofExcept _) fun launchCwd => ?_
  · unfold RuntimeCreateRequest.chosenId
    cases request.runtimeId with
    | none => exact leads_bind hc.randomUUID fun _ => leads_pure _
    | some runtimeId => exact leads_pure _
  · exact leads_bind (hc.create hnone _) fun _ => leads_bind (leads_ofExcept _) fun _ => leads_pure _

theorem completeCreate {request : RuntimeCreateRequest} {runtimeId : String} {runtime : Runtime}
    (h : marked = some (runtimeId, .running)) : Leads R (completeCreate request runtimeId runtime) :=
  leads_completeCreate (fun _ => hc.claim _ _) hc.bind (hc.mark h) leads_requireRuntime

theorem carries : Carries (Along R) marked fun _ => True where
  quiet h := leads_of_daemon fun s => congrArg Prod.fst (h s)
  taken _ := leads_of_daemon (frame_modify fun _ => rfl)
  wait _ := leads_of_daemon fun _ => rfl
  idle _ := trivial
  now := leads_onDaemon hc.now
  randomUUID := leads_onDaemon hc.randomUUID
  transaction := leads_onDaemon hc.transaction
  begins hnone _ _ _ _ := leads_onDaemon (hc.beginCreate hnone _ _ _ _)
  completes h := leads_onDaemon (hc.completeCreate h)
  fails h := leads_onDaemon (leads_bind (hc.mark h) fun _ => leads_fail _)
  mark h := leads_onDaemon (hc.mark h)

end Conducts

theorem frame_same {α π : Type} {x : Hosting α} {part : Hosted → π} (h : Frame (fun s => s) x) : Frame part x :=
  fun s => congrArg part (h s)

theorem onDaemon_same {α : Type} {x : Action α} (h : Frame (fun d => d) x) : Frame (fun h => h) (onDaemon x) := fun s =>
  congrArg (fun d => { s with daemon := d }) (h s.daemon)

theorem require_same (runtimeId : String) : Frame (fun d => d) (requireRuntime runtimeId) := by
  refine frame_bind frame_read fun d => ?_
  cases d.runtime runtimeId with
  | none => exact frame_fail _
  | some runtime => exact frame_pure _

theorem authorized_same (runtimeId : String) (actor : RuntimeActor) (generation : Option Nat)
    (controls : Bool) : Frame (fun h => h) (authorized runtimeId actor generation controls) :=
  frame_bind (onDaemon_same (require_same runtimeId)) fun _ => frame_bind frame_read fun _ =>
    frame_ite (frame_fail _) (frame_ite (frame_fail _) (frame_pure _))

namespace Carries

variable {α : Type} {R : Hosted → Hosted → Prop} {marked : Option (String × RuntimeState)} {P : Awaiting → Prop}
  (hc : Carries R marked P)
include hc

theorem authorized (runtimeId : String) (actor : RuntimeActor) (generation : Option Nat) (controls : Bool) :
    Leads R (authorized runtimeId actor generation controls) :=
  hc.quiet (frame_same (authorized_same runtimeId actor generation controls))

theorem listen (runtime : Runtime) : Leads R (listen runtime) := hc.quiet fun _ => rfl

variable [IsPreorder Hosted R]

theorem attachmentTransaction
    (body : Hosted → String → Except Failure (α × Table RuntimeAttachment.attachmentId)) :
    Leads R (attachmentTransaction body) := by
  refine leads_bind hc.transaction fun _ => leads_bind hc.now fun at' => ?_
  refine leads_bind leads_read fun h => leads_bind (leads_ofExcept _) fun outcome => ?_
  exact leads_bind (hc.quiet (frame_modify fun _ => rfl)) fun _ => leads_pure _

theorem attach (input : AttachRuntimeInput) : Leads R (attach input) :=
  leads_bind hc.randomUUID fun _ => hc.attachmentTransaction _

theorem probeNext (runtimes : List Runtime) : Leads R (Hosting.probeNext runtimes) := by
  cases runtimes with
  | nil => exact leads_pure _
  | cons runtime rest => exact hc.wait (hc.idle rfl)

theorem failRecover {runtime : Runtime} {attachment : RuntimeAttachment} {hadActiveAttachment recovering : Bool}
    {error : Failure} (h : recovering = true → marked = some (runtime.runtimeId, .recovering)) :
    Leads R (Hosting.failRecover runtime attachment hadActiveAttachment error recovering) := by
  have hrest : Leads R (if recovering = true then do
      onDaemon (markState runtime.runtimeId runtime.generation .recovering (some error.message))
      fail error
    else Wardroom.Runtime.wait (.cleanUpReconnect runtime error) : Hosting Unit) := by
    cases recovering with
    | true => exact leads_bind (hc.mark (h rfl)) fun _ => leads_fail _
    | false => exact hc.wait (hc.idle rfl)
  exact leads_ite hrest (leads_bind (hc.attachmentTransaction _) fun _ => hrest)

end Carries

section Events

variable {R : Hosted → Hosted → Prop} [IsPreorder Hosted R] {P : Awaiting → Prop}

theorem leads_settle (call : Awaiting) (reply : HostReply) (hc : Carries R (call.marks reply) P) :
    Leads R (Hosting.settle call reply) := by
  have habsent {runtime : Runtime} {failure : HostFailure}
      (hmark : failure.absent = true → call.marks reply = some (runtime.runtimeId, .crashed)) :
      Leads R (do
        if failure.absent then
          onDaemon (markState runtime.runtimeId runtime.generation .crashed (some hostAbsentReason))
        else pure ()
        fail failure.error : Hosting Unit) := by
    by_cases habsent : failure.absent = true
    · rw [if_pos habsent]
      exact leads_bind (hc.mark (hmark habsent)) fun _ => leads_fail _
    · rw [if_neg habsent]
      exact leads_fail _
  cases call with
  | start request runtimeId runtime =>
    cases reply with
    | done =>
      exact leads_tryCatch (leads_bind (hc.completes rfl) fun _ => leads_pure _) fun _ =>
        hc.wait (hc.idle rfl)
    | failed failure => exact hc.wait (hc.idle rfl)
  | cleanUpStart runtimeId generation error => exact hc.fails rfl
  | stop runtime =>
    cases reply with
    | done => exact hc.mark rfl
    | failed failure => exact leads_ite (hc.wait (hc.idle rfl)) (leads_fail _)
  | cleanUpStop runtime => exact hc.mark rfl
  | reconnect runtime attachment hadActiveAttachment =>
    cases reply with
    | done =>
      exact leads_tryCatch (leads_bind (hc.listen _) fun _ => hc.mark rfl) fun _ =>
        hc.failRecover fun h => (nomatch h)
    | failed failure => exact hc.failRecover fun h => if_pos h
  | cleanUpReconnect runtime error => exact hc.fails rfl
  | attach mode runtime attachment =>
    cases reply with
    | done => exact leads_pure _
    | failed failure =>
      by_cases hcontroller : mode = .controller ∧ attachment.mode = .controller
      · rw [Hosting.settle, if_pos hcontroller]
        exact leads_fail _
      · rw [Hosting.settle, if_neg hcontroller]
        exact leads_bind (hc.attachmentTransaction _) fun _ => habsent fun h => if_pos ⟨h, hcontroller⟩
  | deliver runtime =>
    cases reply with
    | done => exact hc.listen _
    | failed failure => exact habsent fun h => if_pos h
  | probe runtime rest =>
    rcases reply with _ | ⟨error, absent, recovering⟩
    · exact hc.probeNext rest
    · cases absent with
      | true => exact leads_bind (hc.mark rfl) fun _ => hc.wait (hc.idle rfl)
      | false => exact hc.probeNext rest
  | cleanUpProbe rest => exact hc.probeNext rest

/-- The event begins a call that can make a runtime active. -/
def HostingEvent.begins : HostingEvent → Bool
  | .create _ _ _ => true
  | .recover _ _ _ _ => true
  | _ => false

theorem step_carries (options : RuntimeServiceOptions) (h : Hosted) (event : HostingEvent)
    (hc : Carries R (marks h event) P) (hbegins : event.begins = true → ∀ call, P call) :
    R h (Hosting.step options h event) := by
  cases event with
  | create answer request actor =>
    exact leads_bind (hc.begins rfl options answer request actor) (fun _ => hc.wait (hbegins rfl _)) h
  | terminate runtimeId generation attachmentId actor =>
    have hclient (attachmentId : String) : Leads R (Hosting.controllerClient attachmentId actor) := by
      refine leads_bind leads_read fun h => ?_
      cases h.attachments.find? attachmentId with
      | none => exact leads_fail _
      | some attachment =>
        exact leads_ite (leads_fail _) (leads_bind (hc.authorized _ _ _ _) fun _ =>
          leads_ite (leads_pure _) (leads_fail _))
    refine leads_bind (hc.authorized _ _ _ _) (fun runtime => ?_) h
    cases attachmentId with
    | none => exact hc.wait (hc.idle rfl)
    | some attachmentId => exact leads_bind (hclient attachmentId) fun _ => hc.wait (hc.idle rfl)
  | recover runtimeId generation mode actor =>
    exact leads_bind (hc.authorized _ _ _ _) (fun runtime => leads_bind leads_read fun h =>
      leads_bind (hc.attach _) fun _ => hc.wait (hbegins rfl _)) h
  | openAttachment runtimeId generation mode leaseExpiresAt operatorOverride actor =>
    exact leads_bind (hc.authorized _ _ _ _) (fun runtime => leads_bind (hc.attach _) fun _ =>
      leads_bind (hc.listen _) fun _ => hc.wait (hc.idle rfl)) h
  | deliver runtimeId =>
    exact leads_bind (hc.quiet (frame_same (onDaemon_same (require_same runtimeId))))
      (fun _ => hc.wait (hc.idle rfl)) h
  | reconcile => exact leads_bind leads_read (fun _ => hc.probeNext _) h
  | settled i reply =>
    unfold marks at hc
    unfold Hosting.step Hosting.handle
    dsimp only at hc ⊢
    rw [read_bind]
    cases hcall : h.awaiting[i]? with
    | none => exact refl_of R h
    | some call =>
      rw [hcall, Option.bind_some] at hc
      exact leads_bind (hc.taken i) (fun _ => leads_settle call reply hc) h
  | exited i code =>
    unfold marks at hc
    unfold Hosting.step Hosting.handle
    dsimp only at hc ⊢
    rw [read_bind]
    cases hlistener : h.listeners[i]? with
    | none => exact refl_of R h
    | some runtime =>
      rw [hlistener, Option.map_some] at hc
      exact hc.mark rfl h

theorem step_leads {R : Daemon → Daemon → Prop} [IsPreorder Daemon R] (options : RuntimeServiceOptions)
    (h : Hosted) (event : HostingEvent) (hc : Conducts R (marks h event)) :
    Along R h (Hosting.step options h event) :=
  step_carries options h event hc.carries fun _ _ => trivial

theorem conducts_edits (marked : Option (String × RuntimeState)) :
    Conducts (EditedIn (EditsOf marked)) marked where
  now := leads_onStore _
  randomUUID := leads_onStore _
  transaction := leads_transaction (leads_pure _)
  create _ _ := leads_createRuntime fun _ _ hinserts => hinserts.fresh
  claim _ _ := leads_setProviderThreadId fun _ _ _ => trivial
  bind := leads_bindRuntime
  mark h := leads_markState fun _ _ => h

theorem step_edits (options : RuntimeServiceOptions) (h : Hosted) (event : HostingEvent) :
    HostedEdited (marks h event) h (Hosting.step options h event) :=
  step_leads options h event (conducts_edits _)

end Events

/-- A runtime has no end exactly while its state is one that counts as active. -/
def Agrees (t : Runtimes) : Prop := ∀ r ∈ t.rows, r.endedAt = none ↔ r.state.occupies = true

/-- An event that marks an active state marks a runtime that has not ended. -/
def MarksUnended (h : Hosted) (event : HostingEvent) : Prop :=
  ∀ runtimeId state, marks h event = some (runtimeId, state) → state.occupies = true →
    ∀ r, h.daemon.runtime runtimeId = some r → r.endedAt = none

/-- The one runtime an event may make active again has not ended. -/
def Reopenable (marked : Option (String × RuntimeState)) (t : Runtimes) : Prop :=
  ∀ runtimeId state, marked = some (runtimeId, state) → state.occupies = true →
    ∀ r ∈ t.rows, r.runtimeId = runtimeId → r.endedAt = none

theorem endedAt_marked {state : RuntimeState} {reason : Option String} {at' : String} {r : Runtime} :
    (Runtime.marked state reason at' r).endedAt = none ↔
      state.occupies = true ∧ r.endedAt = none := by
  cases hends : state.ends <;> rw [RuntimeState.ends_eq] at hends <;>
    simp_all [Runtime.marked, RuntimeState.ends_eq]

theorem agrees_apply {marked : Option (String × RuntimeState)} {t : Runtimes} {e : RuntimeEdit}
    (h : Agrees t ∧ Reopenable marked t) (he : EditsOf marked t e) :
    Agrees (e.apply t) ∧ Reopenable marked (e.apply t) := by
  obtain ⟨hagrees, hreopen⟩ := h
  constructor
  · intro r hr
    rcases RuntimeEdit.mem_apply hr with ⟨s, hs, rfl⟩ | ⟨rfl, _⟩
    · cases e with
      | insert row => exact hagrees s hs
      | mark runtimeId generation state reason at' =>
        rcases RuntimeEdit.on_mark runtimeId generation state reason at' s with ⟨hon, hid⟩ | hon
        · rw [hon, endedAt_marked]
          exact ⟨fun h => h.1, fun h => ⟨h, hreopen runtimeId state he h s hs hid⟩⟩
        · rw [hon]
          exact hagrees s hs
      | hold runtimeId providerThreadId at' =>
        rcases RuntimeEdit.on_hold runtimeId providerThreadId at' s with ⟨hon, _⟩ | ⟨hon, _⟩ <;>
          rw [hon] <;> exact hagrees s hs
    · rw [he.1, he.2]
      simp [RuntimeState.occupies]
  · intro runtimeId state hmarked hoccupies r hr hid
    rcases RuntimeEdit.mem_apply hr with ⟨s, hs, rfl⟩ | ⟨rfl, _⟩
    · have hopen := hreopen runtimeId state hmarked hoccupies s hs ((e.runtimeId_on s).symm.trans hid)
      cases e with
      | insert row => exact hopen
      | mark markedId generation state' reason at' =>
        rcases RuntimeEdit.on_mark markedId generation state' reason at' s with ⟨hon, _⟩ | hon
        · cases hmarked.symm.trans he
          rw [hon, endedAt_marked]
          exact ⟨hoccupies, hopen⟩
        · rwa [hon]
      | hold heldId providerThreadId at' =>
        rcases RuntimeEdit.on_hold heldId providerThreadId at' s with ⟨hon, _⟩ | ⟨hon, _⟩ <;>
          rw [hon] <;> exact hopen
    · exact he.2

theorem step_agrees (options : RuntimeServiceOptions) {h : Hosted} (event : HostingEvent)
    (hagrees : Agrees h.daemon.runtimes) (hmarks : MarksUnended h event) :
    Agrees (Hosting.step options h event).daemon.runtimes := by
  have hreopen : Reopenable (marks h event) h.daemon.runtimes := by
    intro runtimeId state hmarked hoccupies r hr hid
    refine hmarks runtimeId state hmarked hoccupies r ?_
    rw [Daemon.runtime, ← hid]
    exact Table.find?_of_mem hr
  exact (edited_keeps (I := fun t => Agrees t ∧ Reopenable (marks h event) t)
    (fun _ _ ht he => agrees_apply ht he) (step_edits options h event) ⟨hagrees, hreopen⟩).1

/-- What the lookups find: whatever is looked up among the runtimes without an end, among which no
state is missed. -/
structure LivenessAgrees (d : Daemon) : Prop where
  agrees : Agrees d.runtimes
  delivery : ∀ r ∈ d.runtimes.rows, r.state.delivers = true → (d.deliveryRuntime r.sessionId).isSome
  holder : ∀ r ∈ d.runtimes.rows, r.state.occupies = true →
    ∀ providerThreadId exceptRuntimeId, r.providerThreadId = some providerThreadId →
      r.runtimeId ≠ exceptRuntimeId → (d.providerThreadHolder providerThreadId exceptRuntimeId).isSome
  lookups : ∀ q : Runtime → Bool, (∀ r, q r = true → r.state.occupies = true) →
    d.runtimes.select (fun r => r.endedAt.isNone && q r) = d.runtimes.select q

theorem occupies_of_delivers {state : RuntimeState} (h : state.delivers = true) :
    state.occupies = true := by
  cases state <;> first | rfl | cases h

theorem livenessAgrees_of_agrees {d : Daemon} (h : Agrees d.runtimes) : LivenessAgrees d where
  agrees := h
  delivery r hr hdelivers := by
    have hopen : r.endedAt = none := (h r hr).mpr (occupies_of_delivers hdelivers)
    have hmem : r ∈ (d.list.filter fun s => s.sessionId = r.sessionId && s.endedAt.isNone &&
        s.state.delivers).insertionSort fun a b => b.generation ≤ a.generation := by
      rw [List.mem_insertionSort, List.mem_filter, mem_list]
      simp [hr, hopen, hdelivers]
    unfold Daemon.deliveryRuntime
    exact List.isSome_head?.mpr (List.ne_nil_of_mem hmem)
  holder r hr hoccupies providerThreadId exceptRuntimeId hheld hother := by
    have hopen : r.endedAt = none := (h r hr).mpr hoccupies
    unfold Daemon.providerThreadHolder
    rw [List.find?_isSome]
    exact ⟨r, mem_list.mpr hr, by simp [hheld, hother, hopen, hoccupies]⟩
  lookups q hq := by
    refine List.filter_congr fun r hr => ?_
    cases hqr : q r with
    | false => simp
    | true => simp [(h r hr).mpr (hq r hqr)]

/-- In a run that marks no ended runtime active, state and end agree in every runtime. -/
theorem liveness_agrees (options : RuntimeServiceOptions) {h : Hosted}
    (hstart : Agrees h.daemon.runtimes) (events : List HostingEvent)
    (hmeets : Trace.Meets (Hosting.step options) MarksUnended h events) :
    LivenessAgrees (Trace.run (Hosting.step options) h events).daemon :=
  livenessAgrees_of_agrees (Trace.invariant_run (I := fun h => Agrees h.daemon.runtimes)
    (fun _ event hagrees hmarks => step_agrees options event hagrees hmarks) hstart hmeets)

def shipOptions : RuntimeServiceOptions := ⟨"ship", "home"⟩

def operatorActor (sessionId : String) : RuntimeActor := ⟨sessionId, .operator, "native"⟩

def launchBob : HostingEvent :=
  .create ⟨.ok "/ship", .ok (), .ok ()⟩
    { runtimeId := some "runtime-bob", homeAuthorityId := "", sessionId := "bob" }
    (operatorActor "alice")

def noHosts : Hosted := ⟨ashore, .empty, fun _ => 32, [], []⟩

def recoverBob (sessionId : String) (mode : AttachmentMode) : HostingEvent :=
  .recover "runtime-bob" none mode (operatorActor sessionId)

/-- Bob's runtime is recovered while it runs, and then its host is lost. -/
def recoveredOnce : List HostingEvent :=
  [launchBob, .settled 0 .done, recoverBob "alice" .observe, .settled 0 .done, .deliver "runtime-bob",
    .settled 0 (.failed ⟨.runtime "connection refused", true, false⟩)]

theorem liveness_agrees_recovered :
    LivenessAgrees (Trace.run (Hosting.step shipOptions) noHosts recoveredOnce).daemon := by
  have hopen (n : Nat) (hn : ((Trace.run (Hosting.step shipOptions) noHosts
      (recoveredOnce.take n)).daemon.runtime "runtime-bob").map Runtime.endedAt = some none)
      (r : Runtime) (hr : (Trace.run (Hosting.step shipOptions) noHosts
        (recoveredOnce.take n)).daemon.runtime "runtime-bob" = some r) : r.endedAt = none := by
    rw [hr] at hn
    exact Option.some.inj hn
  have hidle (h : Hosted) (event : HostingEvent) (hnone : marks h event = none) :
      MarksUnended h event := by
    intro _ _ hmarked
    rw [hnone] at hmarked
    cases hmarked
  have hempty : Agrees noHosts.daemon.runtimes := by
    intro r hr
    rw [show noHosts.daemon.runtimes = .empty from rfl] at hr
    cases hr
  refine liveness_agrees shipOptions hempty recoveredOnce
    ⟨hidle _ _ rfl, ?_, hidle _ _ rfl, ?_, hidle _ _ rfl, ?_, trivial⟩
  · intro runtimeId state hmarked _
    cases hmarked
    exact hopen 1 (by decide +kernel)
  · intro runtimeId state hmarked _
    cases hmarked
    exact hopen 3 (by decide +kernel)
  · intro runtimeId state hmarked hoccupies
    cases hmarked
    cases hoccupies

/-- Two recoveries wait for the host; one is refused and cleaned up before the other goes through. -/
def recoveredTwice : List HostingEvent :=
  [launchBob, .settled 0 .done, recoverBob "alice" .controller, recoverBob "carol" .observe,
    .settled 0 (.failed ⟨.runtime "controller lease is held", false, false⟩), .settled 1 .done,
    .settled 0 .done]

/-- Bob's runtime runs again, and no delivery finds it. -/
theorem recovered_not_found :
    ¬LivenessAgrees (Trace.run (Hosting.step shipOptions) noHosts recoveredTwice).daemon := by
  intro h
  have hlost : ((Trace.run (Hosting.step shipOptions) noHosts recoveredTwice).daemon.runtime
      "runtime-bob").map (fun r => (r.sessionId, r.state)) = some ("bob", .running) ∧
        ((Trace.run (Hosting.step shipOptions) noHosts recoveredTwice).daemon.deliveryRuntime
          "bob").isSome = false := by
    decide +kernel
  obtain ⟨hrunning, hnone⟩ := hlost
  obtain ⟨r, hr, hfields⟩ := Option.map_eq_some_iff.mp hrunning
  obtain ⟨hsession, hstate⟩ := Prod.mk.inj hfields
  have hfound := h.delivery r (Table.find?_some hr).1 (by rw [hstate]; rfl)
  rw [hsession, hnone] at hfound
  cases hfound

end Wardroom.Runtime
