import Wardroom.Runtime.Liveness

/-! # Exits

A runtime that has exited or was terminated is made active again by a call that
was waiting for its host in the meantime, or by one that is begun for it later.
-/

namespace Wardroom.Runtime
open Wardroom.Library Wardroom.Domain Wardroom.Storage Prog

/-- The runtime has exited or has been terminated. -/
def gone (runtimeId : String) (h : Hosted) : Bool :=
  (h.daemon.runtime runtimeId).any fun r => r.state = .exited || r.state = .terminated

/-- The id that a creation is for. -/
def Hosted.chosen (h : Hosted) (request : RuntimeCreateRequest) : String :=
  request.runtimeId.getD ("runtime-" ++ h.daemon.store.uuids h.daemon.store.draws)

/-- No exit or termination is stored while a creation or a recovery of the runtime waits for its
host, no crash is stored over one, and no runtime that is gone is created again for a session that
the store does not have. -/
structure KeepsExits (h : Hosted) (event : HostingEvent) : Prop where
  ended : ∀ runtimeId state, marks h event = some (runtimeId, state) →
    state = .exited ∨ state = .terminated → ∀ call ∈ h.awaiting, call.revives ≠ some runtimeId
  crashed : ∀ runtimeId, marks h event = some (runtimeId, .crashed) → gone runtimeId h = false
  created : ∀ answer request actor, event = .create answer request actor →
    gone (h.chosen request) h = true → h.daemon.db.sessions.has request.sessionId = true

def Inactive (runtimeId : String) (t : Runtimes) : Prop :=
  ∃ r, t.find? runtimeId = some r ∧ r.state.occupies = false

/-- What was gone now or before is inactive after the event. -/
def ExitFinal (options : RuntimeServiceOptions) (s : Hosted × List Hosted) (event : HostingEvent) :
    Prop :=
  ∀ runtimeId, (∃ h ∈ s.1 :: s.2, gone runtimeId h = true) →
    Inactive runtimeId (Hosting.step options s.1 event).daemon.runtimes

variable {h : Hosted}

theorem inactive_of_gone {runtimeId : String} (hgone : gone runtimeId h = true) :
    Inactive runtimeId h.daemon.runtimes := by
  unfold gone at hgone
  cases hr : h.daemon.runtime runtimeId with
  | none =>
    rw [hr] at hgone
    cases hgone
  | some r =>
    rw [hr, Option.any_some, Bool.or_eq_true, decide_eq_true_eq, decide_eq_true_eq] at hgone
    refine ⟨r, hr, ?_⟩
    rcases hgone with hstate | hstate <;> rw [hstate] <;> rfl

section Revivals

variable {α : Type} {P : Awaiting → Prop} {runtimeId : String}

/-- The calls that are waited for afterwards were before, or satisfy `P`. -/
def Adds (P : Awaiting → Prop) (h h' : Hosted) : Prop := ∀ call ∈ h'.awaiting, call ∈ h.awaiting ∨ P call

instance : IsPreorder Hosted (Adds P) where
  refl _ _ hcall := .inl hcall
  trans _ _ _ h h' call hcall := (h' call hcall).elim (h call) .inr

theorem adds_of_frame {x : Hosting α} (h : Frame Hosted.awaiting x) : Leads (Adds P) x := by
  intro s call hcall
  rw [h s] at hcall
  exact .inl hcall

theorem adds_onDaemon (x : Action α) : Leads (Adds P) (onDaemon x) := adds_of_frame fun _ => rfl

theorem adds_wait {call : Awaiting} (h : P call) : Leads (Adds P) (wait call) := by
  intro s other hother
  rcases List.mem_append.mp hother with hother | hother
  · exact .inl hother
  · exact .inr (List.mem_singleton.mp hother ▸ h)

/-- The call makes no runtime active, or one that is not gone beside no marking. -/
def Begun (h : Hosted) (event : HostingEvent) (call : Awaiting) : Prop :=
  ∀ runtimeId, call.revives = some runtimeId → marks h event = none ∧ gone runtimeId h = false

theorem adds_carries (h : Hosted) (event : HostingEvent) (marked : Option (String × RuntimeState)) :
    Carries (Adds (Begun h event)) marked (Begun h event) where
  quiet hx := adds_of_frame fun s => congrArg Prod.snd (hx s)
  taken _ _ call hcall := .inl (List.mem_of_mem_eraseIdx hcall)
  wait hcall := adds_wait hcall
  idle hnone runtimeId hrevives := by
    rw [hnone] at hrevives
    cases hrevives
  now := adds_onDaemon _
  randomUUID := adds_onDaemon _
  transaction := adds_onDaemon _
  begins _ _ _ _ _ := adds_onDaemon _
  completes _ := adds_onDaemon _
  fails _ := adds_onDaemon _
  mark _ := adds_onDaemon _

theorem has_of_gone (hgone : gone runtimeId h = true) : h.daemon.runtimes.has runtimeId = true := by
  unfold gone Daemon.runtime at hgone
  cases hr : h.daemon.runtimes.find? runtimeId with
  | none =>
    rw [hr] at hgone
    cases hgone
  | some r =>
    obtain ⟨hmem, hid⟩ := Table.find?_some hr
    exact (Table.has_iff _ _).mpr (List.mem_map.mpr ⟨r, hmem, hid⟩)

theorem createRuntime_returns (d : Daemon) (input : CreateRuntimeInput) :
    wp (createRuntime input) (fun _ _ => d.runtimes.has input.runtimeId = true → d.db.sessions.has input.sessionId = false)
      (fun _ _ => True) d := by
  unfold createRuntime
  rw [wp_bind, wp_ofExcept]
  refine ⟨fun _ _ => wp_transaction_iff.mpr ⟨fun _ => trivial, fun _ => ?_⟩, fun _ _ => trivial⟩
  simp only [wp_bind, wp_read, wp_ite, wp_fail, wp_onStore, wp_now]
  refine ⟨fun _ => trivial, fun _ => ⟨fun _ => ?_, fun hunknown => ?_⟩⟩
  · cases hinsert : d.runtimes.insert? _ with
    | none => trivial
    | some runtimes =>
      have hnew : ¬d.runtimes.has input.runtimeId = true := (Table.insert?_eq_some.mp hinsert).1
      simp only [wp_ite, wp_fail, wp_bind, wp_modify, wp_read]
      refine ⟨fun _ => trivial, fun _ => ?_⟩
      generalize Daemon.runtime _ input.runtimeId = found
      cases found with
      | none => trivial
      | some runtime => exact fun hhas => absurd hhas hnew
  · generalize Daemon.runtime _ input.runtimeId = found
    cases found with
    | none => trivial
    | some runtime => exact fun _ => Bool.eq_false_iff.mpr hunknown

/-- A creation that is begun is for a runtime that is not gone, if gone ones are created for known sessions. -/
theorem beginCreate_ungone (options : RuntimeServiceOptions) (answer : LaunchAnswer) (request : RuntimeCreateRequest)
    (actor : RuntimeActor)
    (hknown : gone (h.chosen request) h = true → h.daemon.db.sessions.has request.sessionId = true) :
    wp (beginCreate options answer request actor) (fun begun _ => gone begun.1 h = false) (fun _ _ => True) h.daemon := by
  unfold beginCreate
  simp only [wp_bind, wp_read, wp_ite, wp_fail]
  refine ⟨fun _ => trivial, fun _ => ?_⟩
  have hchosen : wp request.chosenId (fun runtimeId d => runtimeId = h.chosen request ∧
      d.runtimes = h.daemon.runtimes ∧ d.db = h.daemon.db) (fun _ _ => True) h.daemon := by
    unfold RuntimeCreateRequest.chosenId Hosted.chosen
    cases request.runtimeId with
    | none => exact ⟨rfl, rfl, rfl⟩
    | some runtimeId => exact ⟨rfl, rfl, rfl⟩
  refine wp_mono hchosen (fun runtimeId d hpost => ?_) fun _ _ _ => trivial
  obtain ⟨rfl, hruntimes, hdb⟩ := hpost
  simp only [wp_bind, wp_ofExcept]
  refine ⟨fun launchCwd _ => ?_, fun _ _ => trivial⟩
  refine wp_mono (createRuntime_returns d _) (fun runtime d' hreturned => ?_) fun _ _ _ => trivial
  rw [wp_bind, wp_ofExcept]
  refine ⟨fun _ _ => ?_, fun _ _ => trivial⟩
  rw [hruntimes, hdb] at hreturned
  rw [wp_pure]
  by_contra hgone
  have hgone : gone (h.chosen request) h = true := (Bool.not_eq_false _).mp hgone
  exact absurd ((hreturned (has_of_gone hgone)).symm.trans (hknown hgone)) Bool.false_ne_true

theorem attach_ungone (input : AttachRuntimeInput) (h : Hosted) :
    wp (attach input) (fun _ _ => gone input.runtime.runtimeId h = false) (fun _ _ => True) h := by
  have hattached (h' : Hosted) (hruntimes : h'.daemon.runtimes = h.daemon.runtimes) (attachmentId at' : String)
      {found : RuntimeAttachment × Table RuntimeAttachment.attachmentId}
      (hok : h'.attached input attachmentId at' = .ok found) : gone input.runtime.runtimeId h = false := by
    unfold Hosted.attached Daemon.runtime at hok
    rw [hruntimes] at hok
    dsimp only at hok
    unfold gone Daemon.runtime
    split at hok
    · cases hok
    cases hstored : h.daemon.runtimes.find? input.runtime.runtimeId with
    | none => rfl
    | some stored =>
      rw [hstored] at hok
      dsimp only at hok
      split at hok
      · cases hok
      rename_i hopen
      simp only [not_or] at hopen
      simp [hopen.1, hopen.2.1]
  unfold attach attachmentTransaction
  simp only [wp_bind, wp_onDaemon, wp_onStore, wp_randomUUID, wp_now, wp_read, wp_ofExcept, wp_modify, wp_pure]
  refine wp_transaction_iff.mpr ⟨fun _ => trivial, fun _ => ?_⟩
  exact ⟨fun found hok => hattached _ rfl _ _ hok, fun _ _ => trivial⟩

theorem step_adds (options : RuntimeServiceOptions) {event : HostingEvent}
    (hkeeps : KeepsExits h event) : Adds (Begun h event) h (Hosting.step options h event) := by
  by_cases hbegins : event.begins = true
  swap
  · exact step_carries options h event (adds_carries h event _) fun hb => absurd hb hbegins
  have hlast {h' : Hosted} {call : Awaiting} {runtimeId : String} (hnone : marks h event = none)
      (hrevives : call.revives = some runtimeId) (hfree : gone runtimeId h = false)
      (hadds : Adds (Begun h event) h h') :
      Adds (Begun h event) h { h' with awaiting := h'.awaiting ++ [call] } := by
    intro other hother
    rcases List.mem_append.mp hother with hother | hother
    · exact hadds other hother
    · refine .inr fun id hid => ⟨hnone, ?_⟩
      rw [List.mem_singleton.mp hother] at hid
      cases hrevives.symm.trans hid
      exact hfree
  cases event with
  | create answer request actor =>
    have hwp : wp (Hosting.create options answer request actor)
        (fun _ h' => Adds (Begun h (.create answer request actor)) h h')
        (fun _ h' => Adds (Begun h (.create answer request actor)) h h') h := by
      unfold Hosting.create
      rw [wp_bind, wp_onDaemon]
      refine wp_mono (beginCreate_ungone options answer request actor (hkeeps.created _ _ _ rfl))
        (fun begun d hfree => ?_) fun _ _ _ call hcall => .inl hcall
      exact @hlast { h with daemon := d } _ _ rfl rfl hfree fun call hcall => .inl hcall
    rcases cases_of_wp hwp with ⟨_, _, hpost⟩ | ⟨_, _, hpost⟩ <;> exact hpost
  | recover runtimeId generation mode actor =>
    have hwp : wp (Hosting.recover runtimeId generation mode actor)
        (fun _ h' => Adds (Begun h (.recover runtimeId generation mode actor)) h h')
        (fun _ h' => Adds (Begun h (.recover runtimeId generation mode actor)) h h') h := by
      unfold Hosting.recover
      rw [wp_bind]
      refine wp_mono ((authorized_same runtimeId actor generation false).wp h) (fun runtime h' hsame => ?_)
        fun _ h' hsame => hsame ▸ refl_of (Adds (Begun h _)) h
      subst hsame
      rw [wp_bind, wp_read, wp_bind]
      refine wp_mono (wp_and (attach_ungone _ h') (((adds_carries h' _ none).attach _).wp h'))
        (fun attachment h'' hpost => ?_) fun _ _ hpost => hpost.2
      exact hlast rfl rfl hpost.1 hpost.2
    rcases cases_of_wp hwp with ⟨_, _, hpost⟩ | ⟨_, _, hpost⟩ <;> exact hpost
  | _ => cases hbegins

theorem marked_state {event : HostingEvent} {state : RuntimeState}
    (hmarked : marks h event = some (runtimeId, state)) :
    state = .exited ∨ state = .terminated ∨ state = .crashed ∨ ∃ call ∈ h.awaiting, call.revives = some runtimeId := by
  cases event with
  | settled i reply =>
    obtain ⟨call, hcall, hmarks⟩ := Option.bind_eq_some_iff.mp hmarked
    have hmem := List.mem_of_getElem? hcall
    have hrevived (hrevives : call.revives = some runtimeId) : ∃ call ∈ h.awaiting, call.revives = some runtimeId :=
      ⟨call, List.mem_of_getElem? hcall, hrevives⟩
    have hif {c : Prop} [Decidable c] {id : String} {next : RuntimeState}
        (hm : (if c then some (id, next) else none) = some (runtimeId, state)) : id = runtimeId ∧ next = state := by
      split at hm
      · exact Prod.mk.inj (Option.some.inj hm)
      · cases hm
    cases call with
    | start request id runtime =>
      cases reply with
      | done => exact .inr (.inr (.inr (hrevived (congrArg some (Prod.mk.inj (Option.some.inj hmarks)).1))))
      | failed failure => cases hmarks
    | cleanUpStart id generation error =>
      cases hmarks
      exact .inr (.inr (.inl rfl))
    | stop runtime =>
      cases reply with
      | done =>
        cases hmarks
        exact .inr (.inl rfl)
      | failed failure => cases hmarks
    | cleanUpStop runtime =>
      cases hmarks
      exact .inr (.inl rfl)
    | reconnect runtime attachment hadActiveAttachment =>
      cases reply with
      | done => exact .inr (.inr (.inr (hrevived (congrArg some (Prod.mk.inj (Option.some.inj hmarks)).1))))
      | failed failure => exact .inr (.inr (.inr (hrevived (congrArg some (hif hmarks).1))))
    | cleanUpReconnect runtime error =>
      cases hmarks
      exact .inr (.inr (.inl rfl))
    | attach mode runtime attachment =>
      cases reply with
      | done => cases hmarks
      | failed failure => exact .inr (.inr (.inl (hif hmarks).2.symm))
    | deliver runtime =>
      cases reply with
      | done => cases hmarks
      | failed failure => exact .inr (.inr (.inl (hif hmarks).2.symm))
    | probe runtime rest =>
      cases reply with
      | done => cases hmarks
      | failed failure => exact .inr (.inr (.inl (hif hmarks).2.symm))
    | cleanUpProbe rest => cases hmarks
  | exited i code =>
    obtain ⟨runtime, -, hsame⟩ := Option.map_eq_some_iff.mp hmarked
    cases hsame
    exact .inl rfl
  | _ => cases hmarked

end Revivals

section Exits

variable {runtimeId : String} {marked : Option (String × RuntimeState)}

def Exit (state : RuntimeState) : Prop := state = .exited ∨ state = .terminated

theorem gone_iff : gone runtimeId h = true ↔
    ∃ r, h.daemon.runtimes.find? runtimeId = some r ∧ Exit r.state := by
  unfold gone Daemon.runtime Exit
  cases h.daemon.runtimes.find? runtimeId <;> simp

theorem stored_apply {kind : RuntimeState → Prop} {t : Runtimes} {e : RuntimeEdit}
    (hmarked : ∀ state, marked = some (runtimeId, state) → kind state)
    (h : ∃ r, t.find? runtimeId = some r ∧ kind r.state) (he : EditsOf marked t e) :
    ∃ r, (e.apply t).find? runtimeId = some r ∧ kind r.state := by
  obtain ⟨r, hr, hkind⟩ := h
  have hid : r.runtimeId = runtimeId := (Table.find?_some hr).2
  refine ⟨e.on r, e.find?_apply hr, ?_⟩
  cases e with
  | insert row => exact hkind
  | mark markedId generation state reason at' =>
    rcases RuntimeEdit.on_mark markedId generation state reason at' r with ⟨hon, hsame⟩ | hon
    · rw [hon]
      refine hmarked state ?_
      rw [← hid, hsame]
      exact he
    · rwa [hon]
  | hold heldId providerThreadId at' =>
    rcases RuntimeEdit.on_hold heldId providerThreadId at' r with ⟨hon, _⟩ | ⟨hon, _⟩ <;>
      rw [hon] <;> exact hkind

theorem gone_step (options : RuntimeServiceOptions) {event : HostingEvent}
    (hmarked : ∀ state, marks h event = some (runtimeId, state) → Exit state) (hgone : gone runtimeId h = true) :
    gone runtimeId (Hosting.step options h event) = true :=
  gone_iff.mpr (edited_keeps (I := fun t => ∃ r, t.find? runtimeId = some r ∧ Exit r.state)
    (fun _ _ ht he => stored_apply hmarked ht he) (step_edits options h event) (gone_iff.mp hgone))

theorem gone_of_step (options : RuntimeServiceOptions) {event : HostingEvent}
    (hgone : gone runtimeId (Hosting.step options h event) = true) (hnot : gone runtimeId h = false) :
    ∃ state, marks h event = some (runtimeId, state) ∧ Exit state := by
  by_contra hunmarked
  have hkept : ∀ r ∈ (Hosting.step options h event).daemon.runtimes.rows, r.runtimeId = runtimeId → ¬Exit r.state := by
    refine edited_keeps (I := fun t => ∀ r ∈ t.rows, r.runtimeId = runtimeId → ¬Exit r.state) (fun t e ht he => ?_)
      (step_edits options h event) fun r hr hid hexit => ?_
    · intro r hr hid
      rcases RuntimeEdit.mem_apply hr with ⟨s, hs, rfl⟩ | ⟨rfl, _⟩
      · rw [e.runtimeId_on] at hid
        cases e with
        | insert row => exact ht s hs hid
        | mark markedId generation state reason at' =>
          rcases RuntimeEdit.on_mark markedId generation state reason at' s with ⟨hon, hsame⟩ | hon
          · rw [hon]
            intro hexit
            exact hunmarked ⟨state, by rw [← hid, hsame]; exact he, hexit⟩
          · rw [hon]
            exact ht s hs hid
        | hold heldId providerThreadId at' =>
          rcases RuntimeEdit.on_hold heldId providerThreadId at' s with ⟨hon, _⟩ | ⟨hon, _⟩ <;>
            rw [hon] <;> exact ht s hs hid
      · rw [he.1]
        rintro (hstate | hstate) <;> cases hstate
    · have hfound : h.daemon.runtimes.find? runtimeId = some r := hid ▸ Table.find?_of_mem hr
      exact absurd ((gone_iff.mpr ⟨r, hfound, hexit⟩).symm.trans hnot) (by decide)
  obtain ⟨r, hr, hexit⟩ := gone_iff.mp hgone
  obtain ⟨hmem, hid⟩ := Table.find?_some hr
  exact hkept r hmem hid hexit

/-- What was gone now or before is gone, and no call is waited for that makes it active. -/
def ExitsKept (s : Hosted × List Hosted) : Prop :=
  ∀ runtimeId, (∃ h ∈ s.1 :: s.2, gone runtimeId h = true) →
    gone runtimeId s.1 = true ∧ ∀ call ∈ s.1.awaiting, call.revives ≠ some runtimeId

theorem exits_step (options : RuntimeServiceOptions) {s : Hosted × List Hosted} {event : HostingEvent}
    (hkept : ExitsKept s) (hkeeps : KeepsExits s.1 event) :
    ExitsKept (Trace.recorded (Hosting.step options) s event) := by
  rintro runtimeId ⟨h, hh, hgone⟩
  by_cases hwas : ∃ h ∈ s.1 :: s.2, gone runtimeId h = true
  · obtain ⟨hnow, hnone⟩ := hkept runtimeId hwas
    refine ⟨gone_step options (fun state hmarked => ?_) hnow, fun call hcall hrevives => ?_⟩
    · rcases marked_state hmarked with hexited | hterminated | rfl | ⟨call, hcall, hrevives⟩
      · exact .inl hexited
      · exact .inr hterminated
      · exact absurd (hnow.symm.trans (hkeeps.crashed runtimeId hmarked)) (by decide)
      · exact absurd hrevives (hnone call hcall)
    · rcases step_adds options hkeeps call hcall with hbefore | hbegun
      · exact hnone call hbefore hrevives
      · exact absurd (hnow.symm.trans (hbegun runtimeId hrevives).2) (by decide)
  · obtain rfl : h = Hosting.step options s.1 event := (List.mem_cons.mp hh).resolve_right fun hbefore =>
      hwas ⟨h, hbefore, hgone⟩
    have hnot : gone runtimeId s.1 = false := Bool.eq_false_iff.mpr fun hnow => hwas ⟨s.1, List.mem_cons_self, hnow⟩
    obtain ⟨state, hmarked, hexit⟩ := gone_of_step options hgone hnot
    refine ⟨hgone, fun call hcall hrevives => ?_⟩
    rcases step_adds options hkeeps call hcall with hbefore | hbegun
    · exact hkeeps.ended runtimeId state hmarked hexit call hbefore hrevives
    · cases (hbegun runtimeId hrevives).1.symm.trans hmarked

/-- In a run that stores no exit beside a call that makes the runtime active, and no crash over an
exit, what is gone stays inactive. -/
theorem exit_terminal (options : RuntimeServiceOptions) {h : Hosted} (hidle : h.awaiting = []) (events : List HostingEvent)
    (hmeets : Trace.Meets (Hosting.step options) KeepsExits h events) :
    Trace.Meets (Trace.recorded (Hosting.step options)) (ExitFinal options) (h, []) events := by
  refine Trace.meets_of_invariant (I := ExitsKept) (fun s event hkept hkeeps => exits_step options hkept hkeeps)
    (fun s event hkept hkeeps => ?_) ?_ (Trace.meets_recorded (s := (h, [])) hmeets)
  · rintro runtimeId ⟨g, hg, hgone⟩
    exact inactive_of_gone (exits_step options hkept hkeeps runtimeId ⟨g, List.mem_cons_of_mem _ hg, hgone⟩).1
  · rintro runtimeId ⟨g, hg, hgone⟩
    rw [List.mem_singleton.mp hg] at hgone
    refine ⟨hgone, fun call hcall => ?_⟩
    rw [hidle] at hcall
    cases hcall

end Exits

def terminateBob (sessionId : String) : HostingEvent :=
  .terminate "runtime-bob" none none (operatorActor sessionId)

/-- Bob's runtime is recovered and terminated, one after the other, and a delivery comes too late. -/
def terminatedLast : List HostingEvent :=
  [launchBob, .settled 0 .done, recoverBob "alice" .observe, .settled 0 .done, terminateBob "carol", .settled 0 .done,
    .deliver "runtime-bob", .settled 0 (.failed ⟨.runtime "timeout", false, false⟩)]

theorem exit_terminal_orderly :
    Trace.Meets (Trace.recorded (Hosting.step shipOptions)) (ExitFinal shipOptions) (noHosts, []) terminatedLast := by
  have hother (h : Hosted) (event : HostingEvent) (hnone : marks h event = none)
      (hcreate : ∀ answer request actor, event ≠ .create answer request actor) : KeepsExits h event := by
    refine ⟨fun _ _ hmarked => ?_, fun _ hmarked => ?_, fun _ _ _ he => absurd he (hcreate _ _ _)⟩
    · cases hnone.symm.trans hmarked
    · cases hnone.symm.trans hmarked
  have hruns (h : Hosted) (hrunning : marks h (.settled 0 .done) = some ("runtime-bob", .running)) :
      KeepsExits h (.settled 0 .done) := by
    refine ⟨fun _ _ hmarked hexit => ?_, fun _ hmarked => ?_, fun _ _ _ he => by cases he⟩
    · cases hrunning.symm.trans hmarked
      rcases hexit with he | he <;> cases he
    · cases hrunning.symm.trans hmarked
  have hlaunch : KeepsExits noHosts launchBob := by
    refine ⟨fun _ _ hmarked => ?_, fun _ hmarked => ?_, fun _ _ _ he => ?_⟩
    · cases hmarked
    · cases hmarked
    · cases he
      decide +kernel
  have hstops : KeepsExits (Trace.run (Hosting.step shipOptions) noHosts (terminatedLast.take 5)) (.settled 0 .done) := by
    refine ⟨fun _ _ hmarked _ => ?_, fun _ hmarked => ?_, fun _ _ _ he => by cases he⟩
    · cases hmarked
      decide +kernel
    · cases hmarked
  exact exit_terminal shipOptions rfl terminatedLast ⟨hlaunch, hruns _ rfl, hother _ _ rfl (fun _ _ _ he => by cases he),
    hruns _ rfl, hother _ _ rfl (fun _ _ _ he => by cases he), hstops, hother _ _ rfl (fun _ _ _ he => by cases he),
    hother _ _ rfl (fun _ _ _ he => by cases he), trivial⟩

/-- A recovery waits for the host while the runtime is terminated. -/
def recoveredLate : List HostingEvent :=
  [launchBob, .settled 0 .done, recoverBob "alice" .observe, terminateBob "carol",
    .settled 1 .done, .settled 0 .done]

/-- What was terminated runs again. -/
theorem recovery_not_final :
    ¬Trace.Meets (Trace.recorded (Hosting.step shipOptions)) (ExitFinal shipOptions) (noHosts, [])
      recoveredLate := by
  rintro ⟨_, _, _, _, _, hlast, _⟩
  let before := Trace.run (Hosting.step shipOptions) noHosts (recoveredLate.take 5)
  have hruns : ((Hosting.step shipOptions before (.settled 0 .done)).daemon.runtime
      "runtime-bob").map Runtime.state = some .running := by decide +kernel
  have hinactive : Inactive "runtime-bob"
      (Hosting.step shipOptions before (.settled 0 .done)).daemon.runtimes :=
    hlast "runtime-bob" ⟨before, List.mem_cons_self, by decide +kernel⟩
  obtain ⟨r, hr, hoff⟩ := hinactive
  rw [Daemon.runtime, hr, Option.map_some] at hruns
  rw [Option.some.inj hruns] at hoff
  cases hoff

end Wardroom.Runtime
