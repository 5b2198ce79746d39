import Wardroom.Library.Pool
import Wardroom.Storage.Crews
import Wardroom.Runtime.Native.ForgedActors
import Wardroom.Runtime.Native.LocalChannelLifecycle
import Wardroom.Runtime.Native.SendEffects

/-! # What a resume does to the channels beside its own

The sessions that a resume reattached are remembered under its generation, with
those of every other channel that was resumed at that generation, and its
rollback ends all of them.
-/

namespace Wardroom.Storage
open Wardroom.Library Wardroom.Domain Prog

section Staff

abbrev Daemon.staff (d : Daemon) : Table Session.id × Table Membership.key := d.db.staff

theorem steady_staff : Steady Daemon.staff where
  restore _ _ _ := rfl
  runtimes _ _ := rfl
  now := frame_onStore (leaves_iff_frame.mp leaves_now)
  lifecycle _ _ _ _ _ _ := frame_onStore (leaves_iff_frame.mp
    (recordRuntimeLifecycle_leaves _ _ _ _ _ _ fun _ => unmoved_staff _))
  delivery _ _ := frame_onStore (leaves_iff_frame.mp
    (appendMessageDelivery_leaves _ _ fun _ _ => unmoved_staff _))

theorem setProviderThreadId_held {runtimeId providerThreadId : String} {d : Daemon}
    (h : ∀ r, d.runtime runtimeId = some r → r.providerThreadId = some providerThreadId) :
    (setProviderThreadId runtimeId providerThreadId d).2.staff = d.staff := by
  have hclaim : wp (tryClaimProviderThreadId runtimeId providerThreadId true)
      (fun _ d' => d'.staff = d.staff) (fun _ d' => d'.staff = d.staff) d := by
    unfold tryClaimProviderThreadId
    rw [wp_ite]
    refine ⟨fun _ => rfl, fun _ => wp_transaction rfl ?_⟩
    rw [wp_bind, wp_read]
    cases hr : d.runtime runtimeId with
    | none => exact rfl
    | some runtime =>
      simp only [if_pos (h runtime hr)]
      exact rfl
  have hset : wp (setProviderThreadId runtimeId providerThreadId)
      (fun _ d' => d'.staff = d.staff) (fun _ d' => d'.staff = d.staff) d := by
    refine wp_seq hclaim fun outcome d' hsame => ?_
    cases outcome with
    | claimed runtime => exact hsame
    | refused reason => cases reason <;> exact hsame
  rcases cases_of_wp hset with ⟨_, _, hsame⟩ | ⟨_, _, hsame⟩ <;> exact hsame

theorem thread_createRuntime {input : CreateRuntimeInput} {d : Daemon}
    (hnew : d.runtime input.runtimeId = none) {r : Runtime}
    (hr : (createRuntime input d).2.runtime input.runtimeId = some r) :
    r.providerThreadId = input.providerThreadId := by
  rcases createRuntime_cases d input with ⟨-, hsame⟩ | ⟨-, stored, hinserts, hinsert⟩
  · unfold Daemon.runtime at hr hnew
    rw [hsame, hnew] at hr
    cases hr
  · unfold Daemon.runtime at hr
    rw [Table.find?_insert hinsert, if_pos hinserts.runtimeId] at hr
    obtain rfl := Option.some.inj hr
    exact hinserts.providerThreadId

end Staff
end Wardroom.Storage

namespace Wardroom.Runtime
open Wardroom.Library Wardroom.Domain Wardroom.Storage Wardroom.Lifecycle Prog

def RuntimeCreateRequest.nextId (request : RuntimeCreateRequest) (d : Daemon) : String :=
  request.runtimeId.getD ("runtime-" ++ d.store.uuids d.store.draws)

theorem created_staff {d : Daemon} {input : CreateRuntimeInput}
    (hnew : d.runtime input.runtimeId = none) {rest : Runtime → Action RuntimeResponse}
    (hrest : ∀ runtime d', (∀ r, d'.runtime input.runtimeId = some r →
        r.providerThreadId = input.providerThreadId) →
      wp (rest runtime) (fun _ d'' => d''.staff = d'.staff) (fun _ d'' => d''.staff = d'.staff) d') :
    wp (createRuntime input >>= rest) (fun _ d' => d'.staff = d.staff)
      (fun _ d' => d'.staff = d.staff) d := by
  have hsame := frame_createRuntime steady_staff input d
  have hthread (r : Runtime) := thread_createRuntime (r := r) hnew
  rw [wp_bind]
  refine wp_of_cases (fun runtime d' hok => ?_) fun e d' herror => ?_
  · rw [hok] at hsame hthread
    exact wp_mono (hrest runtime d' hthread) (fun _ _ h => h.trans hsame) fun _ _ h => h.trans hsame
  · rw [herror] at hsame
    exact hsame

theorem create_staff (options : RuntimeServiceOptions) (answer : LaunchAnswer)
    (request : RuntimeCreateRequest) (actor : RuntimeActor) {d : Daemon}
    (hnew : d.runtime (request.nextId d) = none) :
    (create options answer request actor d).2.staff = d.staff := by
  have hcreate : wp (create options answer request actor) (fun _ d' => d'.staff = d.staff)
      (fun _ d' => d'.staff = d.staff) d := by
    unfold create
    rw [wp_bind, wp_read, wp_ite]
    refine ⟨fun _ => rfl, fun _ => ?_⟩
    have hchosen : wp request.chosenId (fun runtimeId d' => d'.staff = d.staff ∧
        d'.runtime runtimeId = none) (fun _ d' => d'.staff = d.staff) d := by
      unfold RuntimeCreateRequest.chosenId
      unfold RuntimeCreateRequest.nextId at hnew
      cases hid : request.runtimeId with
      | some runtimeId =>
        rw [hid] at hnew
        exact ⟨rfl, hnew⟩
      | none =>
        rw [hid] at hnew
        exact ⟨rfl, hnew⟩
    refine wp_seq hchosen fun runtimeId d₁ hd₁ => ?_
    obtain ⟨hstaff, hnone⟩ := hd₁
    rw [wp_bind, wp_ofExcept]
    refine ⟨fun launchCwd _ => ?_, fun _ _ => hstaff⟩
    rw [← hstaff]
    refine created_staff hnone fun runtime d₂ hthread => ?_
    rw [wp_bind, wp_ofExcept]
    refine ⟨fun _ _ => ?_, fun _ _ => rfl⟩
    rw [wp_tryCatch]
    have hcrash (error : Failure) (d' : Daemon) (hd' : d'.staff = d₂.staff) :
        wp (do
          markState runtimeId (request.generation.getD 1) .crashed (some error.message)
          fail error : Action RuntimeResponse)
          (fun _ d'' => d''.staff = d₂.staff) (fun _ d'' => d''.staff = d₂.staff) d' := by
      have hfail : Frame Daemon.staff (fail error : Action RuntimeResponse) := frame_fail error
      have hmark := frame_bind (frame_markState steady_staff runtimeId (request.generation.getD 1)
        .crashed (some error.message)) fun _ => hfail
      exact wp_mono (hmark.wp d') (fun _ _ h => h.trans hd') fun _ _ h => h.trans hd'
    rw [wp_bind, wp_ofExcept]
    refine ⟨fun _ _ => ?_, fun error _ => hcrash error d₂ rfl⟩
    have hbound : Frame Daemon.staff (do
        let binding ← bindRuntime
          { runtimeId := runtimeId, homeAuthorityId := runtime.homeAuthorityId
            sessionId := runtime.sessionId, generation := request.generation.getD 1
            channelId := request.channelId, adapterKind := request.adapterKind.getD "localPty"
            launchPolicyRef := request.launchPolicyRef }
        markState runtimeId (request.generation.getD 1) .running none
        let current ← requireRuntime runtimeId
        pure ⟨current, binding⟩ : Action RuntimeResponse) :=
      frame_bind (frame_bindRuntime steady_staff (fun _ _ => rfl) _) fun _ => frame_bind (frame_markState steady_staff _ _ _ _)
        fun _ => frame_bind (frame_requireRuntime _) fun _ => frame_pure _
    rw [wp_ite]
    refine ⟨fun hgiven => ?_, fun _ => ?_⟩
    · have hheld (r : Runtime) (hr : d₂.runtime runtimeId = some r) :
          r.providerThreadId = some (request.providerThreadId.getD "") := by
        rw [hthread r hr]
        cases hasked : request.providerThreadId with
        | none =>
          rw [hasked] at hgiven
          cases hgiven
        | some asked => rfl
      have hset := setProviderThreadId_held hheld
      rw [wp_bind]
      refine wp_of_cases (fun _ d₃ hok => ?_) fun error d₃ herror => ?_
      · rw [hok] at hset
        exact wp_mono (hbound.wp d₃) (fun _ _ h => h.trans hset) fun error d₄ h =>
          hcrash error d₄ (h.trans hset)
      · rw [herror] at hset
        exact hcrash error d₃ hset
    · exact wp_mono (hbound.wp d₂) (fun _ _ h => h) fun error d₃ h => hcrash error d₃ h
  rcases cases_of_wp hcreate with ⟨_, _, hsame⟩ | ⟨_, _, hsame⟩ <;> exact hsame

theorem frame_terminate (answer : TerminateAnswer) (runtimeId : String) (generation : Nat)
    (actor : RuntimeActor) : Frame Daemon.staff (terminate answer runtimeId generation actor) := by
  refine frame_bind ?_ fun runtime => ?_
  · refine frame_bind (frame_requireRuntime runtimeId) fun runtime => frame_bind frame_read fun d =>
      frame_ite (frame_fail _) (frame_ite (frame_fail _) (frame_pure _))
  · cases answer with
    | terminated => exact frame_markState steady_staff _ _ _ _
    | absent => exact frame_markState steady_staff _ _ _ _
    | failed error => exact frame_fail _

end Wardroom.Runtime

namespace Wardroom.Lifecycle
open Wardroom.Library Wardroom.Domain Wardroom.Storage Wardroom.Runtime Prog

abbrev LifecycleWorld.db (w : LifecycleWorld) : Database := w.daemon.db

/-- The call names members of the coordinator's own channel only. -/
def Call.Own (channelId : String) : Call → Prop
  | .act (.reattachMembers records) => ∀ r ∈ records, r.channelId = channelId
  | _ => True

/-- The call reaches no session of another channel: it ends, registers and renames none, and draws
a runtime id that is not in use. -/
def Call.Spares (channelId : String) (w : LifecycleWorld) : Call → Prop
  | .act (.rollbackGeneration generation) => ∀ sessionId ∈ w.resumedIn generation,
    w.db.sessionLive sessionId = true → w.db.Only channelId sessionId
  | .act (.setSessionProviderThreadId sessionId providerThreadId) =>
    w.db.Only channelId sessionId ∨
      (w.db.currentSession sessionId).bind Session.providerThreadId = some providerThreadId
  | .act (.reattachMembers records) => ∀ r ∈ records, w.db.currentSession r.sessionId = none →
    w.db.Only channelId r.sessionId
  | .launch request => w.daemon.runtime (request.nextId w.daemon) = none
  | _ => True

abbrev LifecycleWorld.staff (w : LifecycleWorld) : Table Session.id × Table Membership.key :=
  w.db.staff

section Calls

variable {α : Type} {who : Coordinator}

theorem frame_locked {β : Type} {part : LifecycleWorld → β} {x : Effect α} (h : Frame part x) :
    Frame part (locked x) := by
  intro w
  unfold locked
  by_cases hopen : w.importOpen = true
  · rw [if_pos hopen]
  · rw [if_neg hopen]
    exact h w

theorem frame_onTables (f : Nat → LifecycleTables → Bool × LifecycleTables) :
    Frame LifecycleWorld.daemon (onTables f) := fun _ => rfl

theorem frame_inTransaction (f : Nat → LifecycleTables → Except Failure LifecycleTables) :
    Frame LifecycleWorld.daemon (inTransaction f) := by
  intro w
  unfold inTransaction
  cases f w.now w.tables <;> rfl

theorem frame_onDaemon {x : Action α} (h : Frame Daemon.staff x) :
    Frame LifecycleWorld.staff (onDaemon x) := fun w => h w.daemon

theorem frame_staff_of_daemon {x : Effect α} (h : Frame LifecycleWorld.daemon x) :
    Frame LifecycleWorld.staff x := fun w => congrArg Daemon.staff (h w)

theorem frame_renew (channelId : String) (h : Heartbeat) :
    Frame LifecycleWorld.daemon (renew channelId h) := by
  unfold renew
  cases h.renewal with
  | suspend key => exact frame_locked (frame_onTables _)
  | resume key token => exact frame_locked (frame_onTables _)

theorem daemon_beat (channelId : String) (h : Heartbeat) (w : LifecycleWorld) :
    (beat channelId h w).daemon = w.daemon :=
  frame_renew channelId h { w with now := max w.now h.nextBeat }

theorem daemon_beats (who : Coordinator) (target n : Nat) (w : LifecycleWorld) :
    (beats who target n w).daemon = w.daemon := by
  induction n generalizing w with
  | zero => rfl
  | succ n ih =>
    unfold beats
    cases w.heartbeats.find? who.ownerId with
    | none => rfl
    | some h =>
      by_cases hdue : h.nextBeat ≤ target
      · simp only [if_pos hdue]
        rw [ih, daemon_beat]
      · simp only [if_neg hdue]

theorem frame_await (who : Coordinator) : Frame LifecycleWorld.daemon (await who) := fun w =>
  daemon_beats who _ _ w

/-- A call to the daemon leaves it as the daemon's own part of the call does. -/
theorem daemon_runtimeCall (who : Coordinator) (entry : Bool → RuntimeCall) (x : Action α) (w : LifecycleWorld) :
    (runtimeCall who entry x w).2.daemon = (x w.daemon).2 := by
  have h : wp (runtimeCall who entry x) (fun _ w' => w'.daemon = (x w.daemon).2)
      (fun _ w' => w'.daemon = (x w.daemon).2) w := by
    unfold runtimeCall
    simp only [wp_bind, wp_read, wp_modify]
    refine wp_mono ((frame_await who).wp _) (fun _ w' hsame => ?_) fun _ _ hsame => hsame
    rw [wp_ofExcept]
    exact ⟨fun _ _ => hsame, fun _ _ => hsame⟩
  rcases cases_of_wp h with ⟨_, _, hsame⟩ | ⟨_, _, hsame⟩ <;> exact hsame

end Calls

section Reattachment

variable {channelId : String} {w : LifecycleWorld}

theorem wp_store_seq {β : Type} {R : Database → Database → Prop}
    (htrans : ∀ {a b c}, R a b → R b c → R a c) {x : Command MutationReceipt}
    (h : LeadsTo (R w.db) w.db x) {rest : Effect β}
    (hrest : ∀ w', R w.db w'.db → wp rest (fun _ w'' => R w'.db w''.db)
      (fun _ w'' => R w'.db w''.db) w') :
    wp (onDaemon (onStore x) >>= fun _ => rest) (fun _ w' => R w.db w'.db)
      (fun _ w' => R w.db w'.db) w := by
  have hends := h.ends (w := w.daemon.store)
  rw [wp_bind]
  refine wp_of_cases (fun _ w' hok => ?_) fun _ w' herror => ?_
  · obtain rfl : (onDaemon (onStore x) w).2 = w' := congrArg Prod.snd hok
    exact wp_mono (hrest _ hends) (fun _ _ hlater => htrans hends hlater) fun _ _ hlater =>
      htrans hends hlater
  · obtain rfl : (onDaemon (onStore x) w).2 = w' := congrArg Prod.snd herror
    exact hends

theorem reattachMember_adds {record : ResumeMemberRecord} (hown : record.channelId = channelId)
    (h : w.db.currentSession record.sessionId = none → w.db.Only channelId record.sessionId) :
    wp (reattachMember record) (fun _ w' => Adds channelId w.db w'.db)
      (fun _ w' => Adds channelId w.db w'.db) w := by
  subst hown
  unfold reattachMember
  -- the membership, and the entry under the generation
  have hjoin (w' : LifecycleWorld) : wp (do
      let w ← read
      if w.daemon.db.isActiveMember record.channelId record.sessionId then pure ()
      else do
        let _ ← onDaemon (onStore (insertMembership record.channelId record.sessionId record.role))
        pure ()
      modify fun w => { w with
        resumed := (record.generation, w.resumedIn record.generation ++ [record.sessionId]) ::
          w.resumed.filter fun entry => entry.1 ≠ record.generation } : Effect Unit)
      (fun _ w'' => Adds record.channelId w'.db w''.db)
      (fun _ w'' => Adds record.channelId w'.db w''.db) w' := by
    rw [wp_bind, wp_read, wp_ite]
    exact ⟨fun _ => Adds.refl _ _, fun _ =>
      wp_store_seq (R := Adds record.channelId) Adds.trans insertMembership_adds
        fun w'' _ => Adds.refl _ w''.db⟩
  rw [wp_bind, wp_read, wp_ite]
  refine ⟨fun _ => hjoin w, fun hnone => ?_⟩
  have honly := h (by simpa using hnone)
  exact wp_store_seq (R := Adds record.channelId) Adds.trans (insertSession_adds honly)
    fun w' _ => hjoin w'

theorem reattachMembers_adds {records : List ResumeMemberRecord}
    (hown : ∀ r ∈ records, r.channelId = channelId)
    (h : ∀ r ∈ records, w.db.currentSession r.sessionId = none → w.db.Only channelId r.sessionId) :
    wp (reattachMembers records) (fun _ w' => Adds channelId w.db w'.db)
      (fun _ w' => Adds channelId w.db w'.db) w := by
  induction records generalizing w with
  | nil => exact Adds.refl channelId w.db
  | cons record records ih =>
    unfold reattachMembers
    refine wp_seq (reattachMember_adds (hown record (List.mem_cons_self ..))
      (h record (List.mem_cons_self ..))) fun _ w' hadds => ?_
    have hrest := ih (w := w') (fun r hr => hown r (List.mem_cons_of_mem _ hr)) fun r hr hnone =>
      hadds.only _ (h r (List.mem_cons_of_mem _ hr) (hadds.current _ hnone))
    exact wp_mono hrest (fun _ _ hlater => hadds.trans hlater) fun _ _ hlater => hadds.trans hlater

theorem endResumed_ends {sessionIds : List String}
    (h : ∀ s ∈ sessionIds, w.db.sessionLive s = true → w.db.Only channelId s) :
    wp (endResumed sessionIds) (fun _ w' => Ends channelId w.db w'.db)
      (fun _ w' => Ends channelId w.db w'.db) w := by
  induction sessionIds generalizing w with
  | nil => exact Ends.refl channelId w.db
  | cons sessionId sessionIds ih =>
    unfold endResumed
    rw [wp_bind, wp_read, wp_ite]
    refine ⟨fun hlive => ?_, fun _ => ih fun s hs => h s (List.mem_cons_of_mem _ hs)⟩
    have honly := h sessionId (List.mem_cons_self ..) hlive
    refine wp_store_seq (R := Ends channelId) Ends.trans (markSessionEnded_ends honly)
      fun w' hends => ?_
    exact ih fun s hs hlive' => hends.only s (h s (List.mem_cons_of_mem _ hs) (hends.live s hlive'))

theorem rollbackGeneration_ends {generation : Nat}
    (h : ∀ s ∈ w.resumedIn generation, w.db.sessionLive s = true → w.db.Only channelId s) :
    wp (rollbackGeneration generation) (fun _ w' => Ends channelId w.db w'.db)
      (fun _ w' => Ends channelId w.db w'.db) w := by
  unfold rollbackGeneration
  rw [wp_bind, wp_read]
  exact wp_seq (endResumed_ends h) fun _ _ hends => hends

end Reattachment

section Resume

variable {channelId other : String}

theorem crew_of_frame {α : Type} {x : Effect α} (h : Frame LifecycleWorld.staff x)
    (w : LifecycleWorld) : (x w).2.db.crew other = w.db.crew other := crew_of_staff (h w)

theorem crew_of_wp {α : Type} {x : Effect α} {w : LifecycleWorld} {P : Database → Prop}
    (h : wp x (fun _ w' => P w'.db) (fun _ w' => P w'.db) w)
    (hP : ∀ db', P db' → db'.crew other = w.db.crew other) :
    (x w).2.db.crew other = w.db.crew other := by
  rcases cases_of_wp h with ⟨_, _, hends⟩ | ⟨_, _, hends⟩ <;> exact hP _ hends

theorem reopenChannel_leaves (channelId : String) :
    Leaves Database.staff (Storage.reopenChannel channelId) := by
  refine leaves_write (leaves_bind leaves_database fun db => ?_)
  cases db.currentChannel channelId with
  | none => exact leaves_fail _
  | some channel =>
    refine leaves_ite leaves_unchanged (leaves_bind leaves_now fun _ =>
      leaves_bind (leaves_modifyDatabase fun _ => rfl) fun _ => ?_)
    exact leaves_appendChange (unmoved_staff _) _

theorem frame_stamped {f : String → LifecycleWorld → LifecycleWorld}
    (h : ∀ at' w, (f at' w).daemon = w.daemon) :
    Frame LifecycleWorld.staff (onDaemon (onStore now) >>= fun at' => Prog.modify (f at')) := by
  refine frame_bind (frame_onDaemon (frame_onStore (leaves_iff_frame.mp leaves_now))) fun at' => ?_
  exact frame_modify fun w => congrArg Daemon.staff (h at' w)

theorem frame_lockedModify {f : LifecycleWorld → LifecycleWorld} (h : ∀ w, (f w).daemon = w.daemon) :
    Frame LifecycleWorld.staff (locked (Prog.modify f)) :=
  frame_staff_of_daemon (frame_locked (frame_modify h))

theorem db_called {α : Type} (x : Command α) (w : LifecycleWorld) :
    ((onDaemon (onStore x) >>= fun _ => (pure () : Effect Unit)) w).2.db =
      (x w.daemon.store).2.db := by
  have h : wp (onDaemon (onStore x) >>= fun _ => (pure () : Effect Unit))
      (fun _ w' => w'.db = (x w.daemon.store).2.db) (fun _ w' => w'.db = (x w.daemon.store).2.db)
      w := by
    rw [wp_bind]
    refine wp_of_cases (fun _ w' hok => ?_) fun _ w' herror => ?_
    · obtain rfl : (onDaemon (onStore x) w).2 = w' := congrArg Prod.snd hok
      rfl
    · obtain rfl : (onDaemon (onStore x) w).2 = w' := congrArg Prod.snd herror
      rfl
  rcases cases_of_wp h with ⟨_, _, hsame⟩ | ⟨_, _, hsame⟩ <;> exact hsame

theorem execAct_crew (who : Coordinator) {w : LifecycleWorld} {a : Act}
    (hown : (Call.act a).Own channelId) (hspares : (Call.act a).Spares channelId w)
    (hother : other ≠ channelId) : (execAct who a w).2.db.crew other = w.db.crew other := by
  cases a with
  | ensureChannelBlueprint =>
    have hframe : Frame LifecycleWorld.staff (execAct who .ensureChannelBlueprint) := by
      refine frame_bind frame_read fun w => ?_
      cases w.tables.read who.channelId with
      | some _ => exact frame_pure ()
      | none => exact frame_stamped fun _ _ => rfl
    exact crew_of_frame hframe w
  | ensureBlueprint member =>
    have hframe : Frame LifecycleWorld.staff (execAct who (.ensureBlueprint member)) :=
      frame_stamped fun _ _ => rfl
    exact crew_of_frame hframe w
  | retainMembers activeSessionIds =>
    refine crew_of_frame (frame_lockedModify ?_) w
    exact fun _ => rfl
  | recordFailed key priorSessionId message =>
    refine crew_of_frame (frame_lockedModify ?_) w
    exact fun _ => rfl
  | abandonResume key token generation =>
    refine crew_of_frame (frame_lockedModify ?_) w
    exact fun _ => rfl
  | clearAbandoned key token generation =>
    exact crew_of_frame (frame_staff_of_daemon (frame_locked (frame_inTransaction _))) w
  | installResumedMembers key token records =>
    exact crew_of_frame (frame_staff_of_daemon (frame_locked (frame_inTransaction _))) w
  | completeResume key token generation result =>
    exact crew_of_frame (frame_staff_of_daemon (frame_locked (frame_inTransaction _))) w
  | reopenChannel =>
    have hframe : Frame LifecycleWorld.staff (execAct who .reopenChannel) :=
      frame_bind (frame_onDaemon (frame_onStore (leaves_iff_frame.mp (reopenChannel_leaves _))))
        fun _ => frame_pure ()
    exact crew_of_frame hframe w
  | setSessionProviderThreadId sessionId providerThreadId =>
    have hends := (setSessionProviderThreadId_within hspares).ends (w := w.daemon.store)
    have hcall : (execAct who (.setSessionProviderThreadId sessionId providerThreadId) w).2.db =
        ((Storage.setSessionProviderThreadId sessionId providerThreadId) w.daemon.store).2.db :=
      db_called _ w
    rw [hcall]
    exact hends.crew other hother
  | reattachMembers records =>
    exact crew_of_wp (reattachMembers_adds hown hspares) fun db' hadds => hadds.crew other hother
  | rollbackGeneration generation =>
    exact crew_of_wp (rollbackGeneration_ends hspares) fun db' hends => hends.crew other hother
  | terminate runtimeId generation =>
    refine crew_of_staff ?_
    have hcall := daemon_runtimeCall who (RuntimeCall.terminate runtimeId generation)
      (Runtime.terminate (w.machine.terminate w.asked) runtimeId generation who.actor) w
    exact (congrArg Daemon.staff hcall).trans (frame_terminate _ _ _ _ w.daemon)
  | converse ref generation =>
    have hframe : Frame LifecycleWorld.staff (execAct who (.converse ref generation)) :=
      frame_bind frame_read fun w => frame_bind (frame_staff_of_daemon (frame_await who))
        fun _ => frame_ofExcept _
    exact crew_of_frame hframe w
  | startHeartbeat renewal => rfl
  | stopHeartbeat => rfl

theorem exec_crew (who : Coordinator) {w : LifecycleWorld} {call : Call} (hown : call.Own channelId)
    (hspares : call.Spares channelId w) (hother : other ≠ channelId) :
    (exec who call w).2.db.crew other = w.db.crew other := by
  cases call with
  | look => rfl
  | lookLocked => exact crew_of_frame (frame_locked frame_read) w
  | update u => exact crew_of_frame (frame_staff_of_daemon (frame_locked (frame_onTables _))) w
  | act a => exact execAct_crew who hown hspares hother
  | leaseLost => rfl
  | launch request =>
    refine crew_of_staff ?_
    have hcall := daemon_runtimeCall who (RuntimeCall.launch request)
      (create who.options (w.machine.launch w.asked) request who.actor) w
    exact (congrArg Daemon.staff hcall).trans (create_staff _ _ _ _ hspares)

end Resume
end Wardroom.Lifecycle

namespace Wardroom.Lifecycle.DurableChannelLifecycle
open Wardroom.Library Wardroom.Domain Wardroom.Storage Task

section Own

variable {α : Type} {channelId : String} {ports : Ports}

abbrev OwnCalls (channelId : String) (x : LifecycleTask α) : Prop := x.Calls (Call.Own channelId)

structure OwnPorts (channelId : String) (ports : Ports) : Prop where
  launch : ∀ input, OwnCalls channelId (ports.runtime.launch input)
  stop : ∀ runtimeId, OwnCalls channelId (ports.runtime.stop runtimeId)
  stopGeneration : ∀ priorSessionId generation,
    OwnCalls channelId (ports.runtime.stopGeneration priorSessionId generation)
  stopRollback : ∀ ref, OwnCalls channelId (ports.provider.stopRollback ref)
  resume : ∀ ref generation, OwnCalls channelId (ports.provider.resume ref generation)

theorem own_holding {renewal : LifecycleTask Bool} {lost : Failure} (h : OwnCalls channelId renewal) :
    OwnCalls channelId (holding renewal lost) := calls_bind h fun _ => calls_require _ _

theorem own_update (u : Update) : OwnCalls channelId (update u) := calls_perform trivial

theorem own_look : OwnCalls channelId look := calls_perform trivial

theorem own_lookLocked : OwnCalls channelId lookLocked := calls_perform trivial

theorem own_withResumeLease {key token : String} {operation : LifecycleTask α}
    (h : OwnCalls channelId operation) : OwnCalls channelId (withResumeLease key token operation) := by
  refine calls_bind (own_holding (own_update _)) fun _ => calls_bind (calls_perform trivial) fun _ =>
    calls_bind (calls_attempt (calls_bind h fun result => ?_)) fun outcome =>
      calls_bind (calls_perform trivial) fun _ => calls_ofExcept outcome
  exact calls_bind (calls_perform trivial) fun isLost => calls_ite (calls_fail _)
    (calls_bind (own_holding (own_update _)) fun _ => calls_pure _)

theorem own_tolerating {stop : LifecycleTask Unit} (h : OwnCalls channelId stop) :
    OwnCalls channelId (tolerating stop) :=
  calls_tryCatch h fun _ => calls_ite (calls_pure ()) (calls_fail _)

variable (hports : OwnPorts channelId ports)

include hports

theorem own_recoverAbandoned (key token : String) (generation : Nat) :
    OwnCalls channelId (recoverAbandoned ports key token generation) := by
  refine calls_bind own_lookLocked fun w => calls_bind (calls_forEach (fun item => ?_) _) fun _ =>
    calls_ite (calls_pure ()) (calls_bind (own_withResumeLease (calls_perform trivial)) fun _ =>
      calls_perform trivial)
  refine calls_ite (calls_fail _) (own_withResumeLease (calls_bind (hports.stop _) fun _ => ?_))
  cases item.provider with
  | none => exact calls_pure ()
  | some ref => exact calls_ite (hports.stopRollback ref) (calls_pure ())

theorem own_reconcile (key token : String) (generation : Nat)
    (members : List ResumableMemberBlueprint) :
    OwnCalls channelId (forEach (reconcileMember ports key token generation) members) :=
  calls_forEach (fun _ => own_tolerating (own_withResumeLease (hports.stopGeneration _ _))) members

theorem own_launchMember (key token : String) (generation : Nat) (member : ResumableMemberBlueprint) :
    OwnCalls channelId (launchMember ports key token generation member) := by
  unfold launchMember
  cases member.provider with
  | none =>
    exact calls_bind (own_withResumeLease (hports.launch _)) fun _ => calls_pure _
  | some ref =>
    refine calls_ite ?_ (calls_bind (calls_ofExcept _) fun _ => ?_) <;>
      exact calls_bind (own_withResumeLease (hports.launch _)) fun _ => calls_pure _

theorem own_settleLaunch (key token : String) (generation : Nat) (member : ResumableMemberBlueprint)
    (record : ResumeMemberRecord) :
    OwnCalls channelId (settleLaunch ports key token generation member record) := by
  refine calls_bind (own_holding (own_update _)) fun _ => ?_
  cases member.provider with
  | none => exact calls_pure ()
  | some ref =>
    exact calls_bind (own_holding (own_update _)) fun _ => calls_ite (own_holding (own_update _))
      (calls_bind (own_withResumeLease (hports.resume ref generation)) fun _ =>
        own_holding (own_update _))

theorem own_launchMembers (key token : String) (generation : Nat)
    (members : List ResumableMemberBlueprint) (launched : List ResumeMemberRecord) :
    OwnCalls channelId (launchMembers ports key token generation members launched) := by
  induction members generalizing launched with
  | nil => exact calls_pure _
  | cons member members ih =>
    refine calls_bind (calls_attempt (own_launchMember hports _ _ _ member)) fun outcome => ?_
    cases outcome with
    | error e => exact calls_pure _
    | ok record =>
      refine calls_bind (calls_attempt (own_settleLaunch hports _ _ _ member record))
        fun settled => ?_
      cases settled with
      | error e => exact calls_pure _
      | ok _ => exact ih _

omit hports in
theorem launchMember_own (key token : String) (generation : Nat) (member : ResumableMemberBlueprint) :
    Yields (fun record => record.channelId = ports.channelId)
      (launchMember ports key token generation member) := by
  have hlaunched : Yields (fun record => record.channelId = ports.channelId) (do
      let fresh ← withResumeLease key token (ports.runtime.launch ⟨ports.channelId,
        member.priorSessionId, generation, resumeLaunch member, member.layout, member.adapterKind⟩)
      pure ⟨ports.channelId, member.priorSessionId, fresh.sessionId, fresh.runtimeId, generation,
        member.role, member.provider⟩ : LifecycleTask ResumeMemberRecord) :=
    yields_bind (yields_true _) fun _ _ => yields_pure rfl
  unfold launchMember
  cases hprovider : member.provider with
  | none =>
    rw [hprovider] at hlaunched
    exact hlaunched
  | some ref =>
    rw [hprovider] at hlaunched
    by_cases howned : ref.runtimeOwned = true
    · simp only [if_pos howned]
      exact hlaunched
    · simp only [if_neg howned]
      exact yields_bind (yields_true _) fun _ _ => hlaunched

omit hports in
theorem launchMembers_own (key token : String) (generation : Nat)
    (members : List ResumableMemberBlueprint) {launched : List ResumeMemberRecord}
    (h : ∀ r ∈ launched, r.channelId = ports.channelId) :
    Yields (fun out => ∀ r ∈ out.1, r.channelId = ports.channelId)
      (launchMembers ports key token generation members launched) := by
  induction members generalizing launched with
  | nil => exact h
  | cons member members ih =>
    have hmember : Yields (fun record => record.channelId = ports.channelId)
        (launchMember ports key token generation member) := launchMember_own key token generation member
    refine yields_bind (yields_attempt hmember) fun outcome houtcome => ?_
    cases outcome with
    | error e => exact h
    | ok record =>
      have hall : ∀ r ∈ launched ++ [record], r.channelId = ports.channelId := by
        intro r hr
        rcases List.mem_append.mp hr with hr | hr
        · exact h r hr
        · obtain rfl := List.mem_singleton.mp hr
          exact houtcome r rfl
      refine yields_bind (yields_true _) fun settled _ => ?_
      cases settled with
      | error e => exact hall
      | ok _ => exact ih hall

theorem own_tearDown (key token : String) (durable : List ResumeLaunchRow)
    (items : List ResumeMemberRecord) :
    OwnCalls channelId (tearDown ports key token durable items) := by
  have hsucceeded {x : LifecycleTask Unit} (hx : OwnCalls channelId x) :
      OwnCalls channelId (succeeded x) := by
    refine calls_bind (calls_attempt hx) fun outcome => ?_
    cases outcome <;> exact calls_pure _
  induction items with
  | nil => exact calls_pure true
  | cons item items ih =>
    refine calls_bind (hsucceeded (own_withResumeLease (hports.stop _))) fun stopped => ?_
    have hrest (rolledBack : Bool) : OwnCalls channelId (do
        let rest ← tearDown ports key token durable items
        pure (stopped && rolledBack && rest) : LifecycleTask Bool) :=
      calls_bind ih fun _ => calls_pure _
    cases item.provider with
    | none => exact calls_bind (calls_pure true) fun rolledBack => hrest rolledBack
    | some ref =>
      exact calls_ite (calls_bind (hsucceeded (own_withResumeLease (hports.stopRollback ref)))
        fun rolledBack => hrest rolledBack) (calls_bind (calls_pure true) fun _ => hrest _)

theorem own_rollBackResume (key token : String) (generation : Nat)
    (launched : List ResumeMemberRecord) (error : Failure) :
    OwnCalls channelId (rollBackResume ports key token generation launched error) :=
  calls_bind own_lookLocked fun _ => calls_bind (own_tearDown hports _ _ _ _) fun _ =>
    calls_ite (calls_bind (own_withResumeLease (calls_perform trivial)) fun _ =>
      calls_bind (calls_perform trivial) fun _ => calls_fail _) (calls_fail _)

omit hports in
theorem own_finishResume (key token : String) (generation : Nat)
    (blueprint : ResumableChannelBlueprint) {launched : List ResumeMemberRecord}
    (h : ∀ r ∈ launched, r.channelId = channelId) :
    OwnCalls channelId (finishResume ports key token generation blueprint launched) := by
  refine calls_bind (calls_perform trivial) fun _ => calls_bind
    (own_withResumeLease (calls_perform h)) fun _ => calls_bind
      (calls_forEach (fun member => ?_) _) fun _ => calls_bind (calls_perform trivial) fun _ =>
        calls_pure _
  exact calls_bind own_lookLocked fun w => calls_forEach (fun delivery =>
    own_withResumeLease (own_holding (own_update _))) _

theorem own_resume (hchannel : ports.channelId = channelId) (key : String) (generation : Nat) :
    OwnCalls channelId (resume ports key generation) := by
  subst hchannel
  refine calls_bind own_look fun w => ?_
  cases w.tables.read ports.channelId with
  | none => exact calls_fail _
  | some blueprint =>
    refine calls_bind (calls_ofExcept _) fun _ => calls_bind (own_update _) fun claimed =>
      calls_ite ?_ ?_
    · refine calls_bind own_lookLocked fun w => ?_
      cases w.tables.currentResumeFenceToken w.now ports.channelId key ports.ownerId with
      | none => exact calls_fail _
      | some token =>
        refine calls_bind (own_recoverAbandoned hports _ _ _) fun _ => calls_bind
          (own_reconcile hports _ _ _ _) fun _ => calls_bind_of_yields
            (own_launchMembers hports _ _ _ _ _) (launchMembers_own _ _ _ _ nofun) fun out hout => ?_
        exact calls_tryCatch (calls_bind (calls_ofExcept _) fun _ =>
          own_finishResume _ _ _ _ hout) fun error => own_rollBackResume hports _ _ _ _ error
    · refine calls_bind own_look fun w => ?_
      cases w.tables.resumeResult ports.channelId key with
      | none => exact calls_fail _
      | some completed => exact calls_pure _

end Own
end Wardroom.Lifecycle.DurableChannelLifecycle

namespace Wardroom.Runtime.LocalChannelLifecycle
open Wardroom.Library Wardroom.Domain Wardroom.Storage Wardroom.Lifecycle Task
open DurableChannelLifecycle

section Isolation

variable (l : LocalChannelLifecycle) (who : Coordinator)

theorem own_ports {channelId : String} : OwnPorts channelId (l.ports who) where
  launch input := by
    refine calls_bind own_look fun w => calls_bind (calls_perform trivial) fun launched =>
      calls_bind (calls_require _ _) fun _ => calls_bind ?_ fun _ => calls_pure _
    unfold rememberConversation
    split
    · exact calls_ite (calls_pure ()) (calls_bind (calls_perform trivial) fun _ =>
        calls_perform trivial)
    · exact calls_pure ()
  stop runtimeId := by
    refine calls_bind own_look fun w => ?_
    cases (w.daemon.runtime runtimeId).filter fun r => !isOver r with
    | none => exact calls_pure ()
    | some r => exact calls_perform trivial
  stopGeneration priorSessionId generation := by
    refine calls_bind own_look fun w => ?_
    cases (generationRuntime w.daemon priorSessionId generation).filter fun r => !isOver r with
    | none => exact calls_pure ()
    | some r => exact calls_perform trivial
  stopRollback ref := calls_bind (calls_ofExcept _) fun _ => calls_pure ()
  resume ref generation := calls_bind (calls_ofExcept _) fun _ =>
    calls_bind (calls_require _ _) fun _ => calls_perform trivial

theorem own_resume : OwnCalls who.channelId (l.resume who) := by
  refine calls_bind own_look fun w => ?_
  cases w.daemon.db.currentChannel who.channelId with
  | none => exact calls_fail _
  | some channel =>
    refine calls_ite (calls_bind (calls_perform trivial) fun _ => calls_pure _) ?_
    cases w.tables.read who.channelId with
    | none => exact calls_fail _
    | some blueprint =>
      exact calls_bind own_lookLocked fun w =>
        DurableChannelLifecycle.own_resume (own_ports l who) rfl _ _

/-- A resume as a party of its own; its outcome is dropped. -/
def resumeParty : Party Coordinator Call Call.Reply Failure :=
  ⟨who, l.resume who >>= fun _ => pure ()⟩

abbrev LifecyclePool := Pool LifecycleWorld Coordinator Call Call.Reply Failure

abbrev LifecycleMove := Pool.Move LifecycleWorld Coordinator Call Call.Reply Failure

/-- Whatever else goes on, a resume leaves the sessions and memberships of another channel as they
are, as long as each call it makes spares the other channels. -/
theorem resume_isolated {other : String} (hother : other ≠ who.channelId) {p : LifecyclePool}
    {i : Nat} (hparty : p.parties[i]? = some (l.resumeParty who)) {ms : List LifecycleMove}
    (hspares : Trace.Meets (Pool.step exec) (fun p m => m = .advance i →
      ∀ call, p.pending i = some call → call.Spares who.channelId p.world) p ms)
    (hothers : Trace.Meets (Pool.step exec) (fun p m => m ≠ .advance i →
      (Pool.step exec p m).world.db.crew other = p.world.db.crew other) p ms) :
    (Trace.run (Pool.step exec) p ms).world.db.crew other = p.world.db.crew other := by
  have hruns : p.Runs i who (Call.Own who.channelId) :=
    ⟨_, hparty, calls_bind (own_resume l who) fun _ => calls_pure ()⟩
  exact Pool.kept_by_run (fun w : LifecycleWorld => w.db.crew other)
    (fun w call => call.Spares who.channelId w)
    (fun w call hown hcall => exec_crew who hown hcall hother) hruns hspares hothers

end Isolation

def plainMember (channelId sessionId : String) : ResumableMemberBlueprint :=
  ⟨channelId, sessionId, ⟨some .worker, none⟩, ⟨"/bin/agent", [], "/work", none⟩,
    ⟨none, none, "1"⟩, "localPty", "0", some .worker, "then", 1, none⟩

def suspendedRow (channelId sessionId : String) : ChannelBlueprintRow :=
  { channelId := channelId, state := .suspended
    blueprint := { emptyBlueprint channelId channelId "then" with
      members := [plainMember channelId sessionId] } }

/-- Two suspended channels with one member each; only the first host starts. -/
def twoSuspended : LifecycleWorld where
  daemon := daemonOver { Database.empty with
    sessions := .ofRows [plainSession "ada" (some .operator), plainSession "bob" (some .worker),
      plainSession "carol" (some .worker)]
    channels := .ofRows [plainChannel "red" (some "ada"), plainChannel "blue" (some "ada")]
    memberships := .ofRows [⟨"red", "bob", "then", none, none, some .worker⟩,
      ⟨"blue", "carol", "then", none, none, some .worker⟩] }
  tables := { LifecycleTables.empty with
    blueprints := .ofRows [suspendedRow "red" "bob", suspendedRow "blue" "carol"] }
  now := 0
  resumed := []
  heartbeats := .empty
  machine := {
    launch := fun asked => ⟨.ok "/work", .ok (),
      if asked = 0 then .ok () else .error (.runtime "the host did not start")⟩
    terminate := fun _ => .terminated
    converse := fun _ => .ok ()
    elapsed := fun _ => 5 }
  asked := 0
  runtimeCalls := []

def resumer (channelId ownerId : String) : Coordinator :=
  ⟨channelId, ownerId, ⟨"ada", .operator, "credential"⟩, ⟨"machine", "home"⟩⟩

/-- The first resume, and how it ends. -/
def blueResume : Except Failure (List MemberResumeOutcome) × LifecycleWorld :=
  Task.run (exec (resumer "blue" "first")) (resume ⟨"home", []⟩ (resumer "blue" "first")) twoSuspended

/-- The failed resume of the one channel ends the member of the other, which was resumed before. -/
theorem rollback_ends_other :
    let red := resumer "red" "second"
    let failed := Task.run (exec red) (resume ⟨"home", []⟩ red) blueResume.2
    blueResume.1.isOk = true ∧ failed.1.isOk = false ∧
      failed.2.db.crew "blue" ≠ blueResume.2.db.crew "blue" ∧
      blueResume.2.db.sessionLive "carol" = true ∧ failed.2.db.sessionLive "carol" = false := by
  decide +kernel

/-- The one channel is resumed already, the other waits for a later generation, and every host
starts. -/
def blueFirst : LifecycleWorld :=
  let store := { blueResume.2.daemon.store with uuids := toString }
  { blueResume.2 with
    daemon := { blueResume.2.daemon with store := store }
    tables := blueResume.2.tables.putBlueprint "red" { emptyBlueprint "red" "red" "then" with
      members := [{ plainMember "red" "bob" with processGeneration := 2 }] }
    machine := { blueResume.2.machine with launch := fun _ => ⟨.ok "/work", .ok (), .ok ()⟩ } }

def importing (importSession : Option ImportSession) (w : LifecycleWorld) : LifecycleWorld :=
  let store := { w.daemon.store with importSession := importSession }
  { w with daemon := { w.daemon with store := store } }

/-- The member is back when an import opens; the next renewal fails, and the resume is rolled back. -/
def failedRenewal : List LifecycleMove :=
  List.replicate 24 (.advance 0) ++ [.disturb (importing (some ⟨.empty, [], [], []⟩))] ++
    List.replicate 2 (.advance 0) ++ [.disturb (importing none)] ++ List.replicate 16 (.advance 0)

instance decidableSpares (channelId : String) (w : LifecycleWorld) (call : Call) :
    Decidable (call.Spares channelId w) := by
  unfold Call.Spares Database.Only
  split <;> infer_instance

/-- The guards of a run, as they are checked at each of its moves. -/
def isolates (channelId other : String) (p : LifecyclePool) : LifecycleMove → Bool
  | .advance i => i = 0 && (p.pending i).all fun call => call.Spares channelId p.world
  | m => (Pool.step exec p m).world.db.crew other = p.world.db.crew other

theorem resume_isolated_rolledBack :
    let red := resumer "red" "second"
    let p : LifecyclePool := ⟨blueFirst, [resumeParty ⟨"home", []⟩ red]⟩
    let ended := (Trace.run (Pool.step exec) p failedRenewal).world
    ended.db.crew "blue" = blueFirst.db.crew "blue" ∧ blueFirst.db.sessionLive "carol" = true ∧
      blueFirst.db.sessionLive "bob" = true ∧ ended.db.sessionLive "bob" = false ∧
      ended.resumed = blueFirst.resumed := by
  have hparty : [resumeParty ⟨"home", []⟩ (resumer "red" "second")][0]? =
      some (resumeParty ⟨"home", []⟩ (resumer "red" "second")) := rfl
  have hguards : Trace.Meets (Pool.step exec) (fun p m => isolates "red" "blue" p m = true)
      ⟨blueFirst, [resumeParty ⟨"home", []⟩ (resumer "red" "second")]⟩ failedRenewal := by
    decide +kernel
  refine ⟨resume_isolated ⟨"home", []⟩ (resumer "red" "second") (by decide) hparty
    (hguards.mono fun p m hm he call hcall => ?_) (hguards.mono fun p m hm hne => ?_), ?_⟩
  · subst he
    rw [isolates, hcall, Option.all_some, Bool.and_eq_true] at hm
    exact of_decide_eq_true hm.2
  · cases m with
    | join party => exact of_decide_eq_true hm
    | disturb change => exact of_decide_eq_true hm
    | advance i =>
      rw [isolates, Bool.and_eq_true, decide_eq_true_eq] at hm
      exact absurd (congrArg Pool.Move.advance hm.1) hne
  · decide +kernel

end Wardroom.Runtime.LocalChannelLifecycle
