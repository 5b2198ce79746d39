import Wardroom.Lifecycle.Archiving

/-! # Archiving a channel

The close ends every membership the channel has by then, but only of a channel
that is still open: one that an import has left closed over its members stays as
it is, however often it is archived.
-/

namespace Wardroom.Lifecycle
open Wardroom.Library Wardroom.Domain Wardroom.Storage Wardroom.Runtime Prog

section Steps

variable {s s' s₁ : Archiving} {input : ChannelArchiveInput} {policy : ArchivePolicy} {results : List RuntimeStep}
  {rest : List ChannelArchiveRuntime}

/-- The rest of a call, in a daemon that has the channels and members of before. -/
theorem proceed_does (hrest : s.hosted.daemon.AtRest) (hberths : berths s₁.hosted.daemon = berths s.hosted.daemon)
    (hcalls : ∀ call ∈ s₁.calls, call ∈ s.calls) (hresponses : s₁.responses = s.responses)
    (hforce : input.force = false → s.hosted.daemon.db.channelActive input.channelId = false ∨
      rest = [] ∧ Unattached s.hosted.daemon input.channelId)
    (hcounted : results.length + rest.length = policy.activeRuntimes) :
    Does s (s₁.proceed input policy results rest) := by
  cases rest with
  | cons runtime rest =>
    refine .leaves hberths fun call hcall => ?_
    change call ∈ s₁.calls ++ [_] at hcall
    rw [List.mem_append, List.mem_singleton] at hcall
    rcases hcall with hcall | rfl
    · exact .inl (hcalls call hcall)
    · refine .inr ⟨fun hunforced => ?_, hcounted⟩
      rcases hforce hunforced with hinactive | ⟨hnil, _⟩
      · exact hinactive
      · cases hnil
  | nil =>
    unfold Archiving.proceed
    by_cases hfailed : (results.any fun step => step.outcome.isFailed) = true
    · rw [if_pos hfailed]
      exact .leaves hberths fun call hcall => .inl (hcalls call hcall)
    · rw [if_neg hfailed]
      have hterminated : ∀ step ∈ results, step.outcome = .terminated := by
        intro step hstep
        cases houtcome : step.outcome with
        | terminated => rfl
        | failed error =>
          exact absurd (List.any_eq_true.mpr ⟨step, hstep, by rw [houtcome]; rfl⟩) hfailed
      have hrest₁ : s₁.hosted.daemon.AtRest := (depth_of_berths hberths).trans hrest
      rcases cases_of_wp (closeArchived_effect hrest₁ input hcounted hterminated) with
        ⟨response, hok, hsucceeded, hclosed, hatRest⟩ | ⟨error, _, hsame⟩
      · refine .closes input response ?_ hsucceeded ?_ (fun hunforced => ?_) hatRest hcalls
        · change s₁.responses ++ [(input, (closeArchived input policy results s₁.hosted.daemon).1)] = _
          rw [hok, hresponses]
        · exact hclosed.after (channels_of_berths hberths) (memberships_of_berths hberths)
        · exact (hforce hunforced).imp_right fun hnil => hnil.2
      · exact .leaves (hsame.trans hberths) fun call hcall => .inl (hcalls call hcall)

theorem archive_does (hrest : s.hosted.daemon.AtRest) (input : ChannelArchiveInput) : Does s (s.archive input) := by
  have hsame (response : Except Failure ArchiveResponse) : Does s (s.answered input response) :=
    .leaves rfl fun call hcall => .inl hcall
  unfold Archiving.archive
  dsimp only
  cases hchannel : s.hosted.daemon.db.currentChannel input.channelId with
  | none => exact hsame _
  | some channel =>
    have hid : channel.id = input.channelId := (Table.find?_some hchannel).2
    by_cases hrefused : ((archivePolicy s.hosted.daemon channel).requiresForce && !input.force) = true
    · simp only [if_pos hrefused]
      exact hsame _
    · simp only [if_neg hrefused]
      apply proceed_does hrest rfl (fun _ hcall => hcall) rfl
      · intro hunforced
        rw [hunforced, Bool.not_false, Bool.and_true] at hrefused
        simp only [archivePolicy, hid, Bool.and_eq_true, Bool.or_eq_true, decide_eq_true_eq, not_and_or, not_or,
          Nat.not_lt, Nat.le_zero, List.length_eq_zero_iff] at hrefused
        rcases hrefused with hclosed | ⟨hmembers, hruntimes⟩
        · exact .inl (by simp [Database.channelActive, hchannel, hclosed])
        · exact .inr ⟨hruntimes, hmembers, hruntimes⟩
      · simp [archivePolicy, hid]

theorem settled_does (h : Orderly s) {i : Nat} {call : ArchiveCall} (hcall : s.calls[i]? = some call)
    (reply : TerminationReply) : Does s (Archiving.settle { s with calls := s.calls.eraseIdx i } call reply) := by
  have hsound := h.sound call (List.mem_of_getElem? hcall)
  apply proceed_does h.rest (terminated_berths call.awaited reply s.hosted.daemon)
  · exact fun other hother => List.mem_of_mem_eraseIdx hother
  · rfl
  · exact fun hunforced => .inl (hsound.unforced hunforced)
  · have hcounted := hsound.counted
    rw [List.length_append, List.length_singleton]
    omega

def ArchiveEvent.archives : ArchiveEvent → Bool
  | .archive _ => true
  | .settled _ _ => true
  | _ => false

theorem step_does (options : RuntimeServiceOptions) (h : Orderly s) {event : ArchiveEvent} (harchives : event.archives = true) :
    Does s (Archiving.step options s event) := by
  cases event with
  | archive input => exact archive_does h.rest input
  | settled i reply =>
    unfold Archiving.step
    dsimp only
    cases hcall : s.calls[i]? with
    | none => exact .leaves rfl fun call hcall => .inl hcall
    | some call => exact settled_does h hcall reply
  | hosting event => cases harchives
  | store op => cases harchives

theorem step_cases (options : RuntimeServiceOptions) (h : Orderly s) (event : ArchiveEvent) :
    Does s (Archiving.step options s event) ∨
      Enrolled s.hosted.daemon.db (Archiving.step options s event).hosted.daemon.db ∧
        (Archiving.step options s event).hosted.daemon.AtRest ∧ (Archiving.step options s event).calls = s.calls := by
  cases event with
  | hosting event =>
    exact .inl (.leaves (hosting_berths options s.hosted event) fun call hcall => .inl hcall)
  | store op =>
    obtain ⟨henrolled, hdepth⟩ := storeStep_enrolled h.rest op.2
    exact .inr ⟨henrolled, hdepth.trans h.rest, rfl⟩
  | archive input => exact .inl (step_does options h rfl)
  | settled i reply => exact .inl (step_does options h rfl)

theorem Orderly.of_does (h : Orderly s) (hdoes : Does s s') : Orderly s' := by
  cases hdoes with
  | leaves hberths hcalls =>
    refine ⟨(depth_of_berths hberths).trans h.rest, fun call hcall => ?_⟩
    have hsound : call.Sound s.hosted.daemon.db := (hcalls call hcall).elim (h.sound call) id
    refine ⟨fun hunforced => ?_, hsound.counted⟩
    rw [channelActive_congr (channels_of_berths hberths)]
    exact hsound.unforced hunforced
  | closes input response hresponses hsucceeded hclosed hforce hrest hcalls =>
    refine ⟨hrest, fun call hcall => ?_⟩
    have hsound := h.sound call (hcalls call hcall)
    refine ⟨fun hunforced => ?_, hsound.counted⟩
    have hinactive := hsound.unforced hunforced
    rw [Bool.eq_false_iff]
    intro hactive
    rw [(hclosed.channelActive.mp hactive).1] at hinactive
    cases hinactive

theorem step_orderly (options : RuntimeServiceOptions) (h : Orderly s) (event : ArchiveEvent) :
    Orderly (Archiving.step options s event) := by
  rcases step_cases options h event with hdoes | ⟨henrolled, hrest, hcalls⟩
  · exact h.of_does hdoes
  · refine ⟨hrest, fun call hcall => ?_⟩
    rw [hcalls] at hcall
    refine ⟨fun hunforced => ?_, (h.sound call hcall).counted⟩
    rw [channelActive_congr henrolled.channels]
    exact (h.sound call hcall).unforced hunforced

theorem step_tidy (options : RuntimeServiceOptions) (h : Orderly s) (event : ArchiveEvent) {channelId : String}
    (hstranded : Stranded (Archiving.step options s event).hosted.daemon.db channelId) :
    Stranded s.hosted.daemon.db channelId := by
  rcases step_cases options h event with hdoes | ⟨henrolled, _, _⟩
  · cases hdoes with
    | leaves hberths _ =>
      exact (stranded_congr (channels_of_berths hberths) (memberships_of_berths hberths)).mp hstranded
    | closes input response _ _ hclosed _ _ _ => exact hclosed.stranded.mp hstranded
  · obtain ⟨hclosed, hmembers⟩ := hstranded
    have hclosed' : ChannelClosedIn s.hosted.daemon.db channelId := by
      rwa [ChannelClosedIn, Database.currentChannel, henrolled.channels] at hclosed
    refine ⟨hclosed', ?_⟩
    obtain ⟨m, hm⟩ := List.exists_mem_of_ne_nil _ hmembers
    obtain ⟨hrow, rfl, hactive⟩ := mem_activeChannelMemberships.mp hm
    rcases henrolled.memberships m hrow hactive with ⟨m', hm', hsame, hactive'⟩ | hopen
    · exact List.ne_nil_of_mem (mem_activeChannelMemberships.mpr ⟨hm', hsame, hactive'⟩)
    · rw [(channelClosedIn_iff.mp hclosed').2] at hopen
      cases hopen

theorem archives_stranded (options : RuntimeServiceOptions) (h : Orderly s) {event : ArchiveEvent}
    (harchives : event.archives = true) {channelId : String} (hstranded : Stranded s.hosted.daemon.db channelId) :
    Stranded (Archiving.step options s event).hosted.daemon.db channelId := by
  cases step_does options h harchives with
  | leaves hberths _ =>
    exact (stranded_congr (channels_of_berths hberths) (memberships_of_berths hberths)).mpr hstranded
  | closes input response _ _ hclosed _ _ _ => exact hclosed.stranded.mpr hstranded

end Steps

/-- No transaction is open in the store, and no listener throws. -/
structure Unhindered (w : World) : Prop where
  transactionDepth : w.transactionDepth = 0
  importSession : w.importSession = none
  listeners : ∀ l ∈ w.listeners, ∀ seen change, l.reacts seen change = none

theorem broadcast_unhindered {ls : List Listener} (h : ∀ l ∈ ls, ∀ seen change, l.reacts seen change = none)
    (change : Change) : (broadcast change ls).2 = none ∧
      ∀ l ∈ (broadcast change ls).1, ∀ seen change, l.reacts seen change = none := by
  induction ls with
  | nil => exact ⟨rfl, h⟩
  | cons l ls ih =>
    obtain ⟨hfirst, hrest⟩ := List.forall_mem_cons.mp h
    obtain ⟨houtcome, htold⟩ := ih hrest
    unfold broadcast
    simp only [hfirst l.seen change]
    exact ⟨houtcome, List.forall_mem_cons.mpr ⟨hfirst, htold⟩⟩

theorem channelReference_some (db : Database) (channelId : String) :
    db.channelReference (some channelId) = (db.currentChannel channelId).isSome := by
  rw [Bool.eq_iff_iff, Database.currentChannel, Table.find?, List.find?_isSome]
  exact List.any_eq_true

section Unhindered

variable {α : Type} {w : World}

theorem wp_write_unhindered (hw : Unhindered w) {body : Command α} {Q : α → World → Prop} {E : Failure → World → Prop}
    (h : wp body (fun a w' => Q a { w' with transactionDepth := 0 }) (fun _ _ => False) w.entered) :
    wp (write body) Q E w := by
  rw [wp_write_outermost body hw.transactionDepth hw.importSession]
  exact wp_mono h (fun _ _ hpost => hpost) fun _ _ hfalse => hfalse.elim

theorem wp_appendChange_unhindered {channelId : Option String} {payload : Payload}
    {Q : MutationReceipt → World → Prop} {E : Failure → World → Prop}
    (hlisteners : ∀ l ∈ w.listeners, ∀ seen change, l.reacts seen change = none)
    (hreference : w.db.channelReference channelId = true)
    (h : (∀ l ∈ (w.appended channelId payload).listeners, ∀ seen change, l.reacts seen change = none) →
      ∀ receipt, Q receipt (w.appended channelId payload)) :
    wp (appendChange channelId payload) Q E w := by
  obtain ⟨houtcome, htold⟩ := broadcast_unhindered hlisteners (w.nextChange channelId payload)
  rw [wp_appendChange, houtcome]
  refine ⟨fun _ => h htold _, fun hdangling => ?_⟩
  rw [hreference] at hdangling
  cases hdangling

theorem recordRuntimeLifecycle_unhindered (hw : Unhindered w) {channelId : String}
    (hchannel : (w.db.currentChannel channelId).isSome = true) (sessionId runtimeId : String) (generation : Nat)
    (state : String) (endedAt : Option String) :
    wp (recordRuntimeLifecycle channelId sessionId runtimeId generation state endedAt) (fun _ w' => Unhindered w')
      (fun _ _ => False) w := by
  apply wp_write_unhindered hw
  rw [wp_bind, wp_database]
  have hlisteners : ∀ l ∈ w.entered.listeners, ∀ seen change, l.reacts seen change = none := hw.listeners
  have hreference : w.entered.db.channelReference (some channelId) = true := (channelReference_some _ _).trans hchannel
  exact wp_appendChange_unhindered hlisteners hreference fun htold _ => ⟨rfl, hw.importSession, htold⟩

end Unhindered

theorem closeChannel_unhindered {w : World} (hw : Unhindered w) {channelId : String}
    (hchannel : (w.db.currentChannel channelId).isSome = true) (htidy : ¬Stranded w.db channelId) :
    wp (closeChannel channelId)
      (fun _ w' => ChannelClosedIn w'.db channelId ∧ activeChannelMemberships w'.db channelId = []) (fun _ _ => False)
      w := by
  apply wp_write_unhindered hw
  rw [wp_bind, wp_database]
  obtain ⟨channel, hfound⟩ := Option.isSome_iff_exists.mp hchannel
  have hentered : w.entered.db.currentChannel channelId = some channel := hfound
  rw [hentered]
  simp only [wp_ite, wp_unchanged, wp_bind, wp_now, wp_modifyDatabase]
  constructor
  · intro hstate
    have hclosed : ChannelClosedIn w.db channelId := by
      rw [ChannelClosedIn, hfound, Option.map_some, hstate]
    refine ⟨hclosed, ?_⟩
    by_contra hmembers
    exact htidy ⟨hclosed, hmembers⟩
  · intro hopen
    have hactive : w.db.channelActive channelId = true := by
      cases hstate : channel.lifecycleState with
      | active => simp [Database.channelActive, hfound, hstate]
      | closed => exact absurd hstate hopen
    apply wp_appendChange_unhindered
    · exact hw.listeners
    · rw [channelReference_some]
      have hkept : (w.db.close channelId (w.clock w.ticks)).currentChannel channelId = _ :=
        currentChannel_close rfl channelId
      exact (congrArg Option.isSome hkept).trans (Option.isSome_map.trans hchannel)
    · intro _ receipt
      have hclose (db' : Database) (hchannels : db'.channels = (w.db.close channelId (w.clock w.ticks)).channels)
          (hmemberships : db'.memberships = (w.db.close channelId (w.clock w.ticks)).memberships) :
          ChannelClosedIn db' channelId ∧ activeChannelMemberships db' channelId = [] := by
        have hnow := ClosedNow.mk hactive _ hchannels hmemberships
        rw [activeChannelMemberships_close hmemberships, if_pos rfl, channelClosedIn_iff, hnow.isSome]
        refine ⟨⟨hchannel, Bool.eq_false_iff.mpr fun hstill => ?_⟩, rfl⟩
        exact (hnow.channelActive.mp hstill).2 rfl
      exact hclose _ rfl rfl

section Marking

variable {d : Daemon} {runtimeId channelId : String} {r : Runtime}

theorem emitLifecycle_unhindered (hd : Unhindered d.store) (hr : d.runtime runtimeId = some r)
    (hbound : (d.binding runtimeId).bind RuntimeBinding.channelId = some channelId)
    (hchannel : (d.db.currentChannel channelId).isSome = true) :
    wp (emitLifecycle runtimeId)
      (fun _ d' => Unhindered d'.store ∧ d'.bindings = d.bindings ∧ d'.runtimes = d.runtimes) (fun _ _ => False) d := by
  unfold emitLifecycle
  rw [wp_bind, wp_read, hr, hbound]
  simp only [wp_ite, wp_pure, wp_bind, wp_onStore]
  refine ⟨fun _ => ⟨hd, trivial, trivial⟩, fun _ => ?_⟩
  apply wp_mono (recordRuntimeLifecycle_unhindered hd hchannel _ _ _ _ _)
  · exact fun _ w' hw' => ⟨hw', trivial, trivial⟩
  · exact fun _ _ hfalse => hfalse

theorem markState_unhindered (hd : Unhindered d.store) (hr : d.runtime runtimeId = some r)
    (hbound : (d.binding runtimeId).bind RuntimeBinding.channelId = some channelId)
    (hchannel : (d.db.currentChannel channelId).isSome = true) (state : RuntimeState) (reason : Option String) :
    wp (markState runtimeId r.generation state reason)
      (fun _ d' => Unhindered d'.store ∧ d'.bindings = d.bindings ∧
        ∃ at', d'.runtimes = (RuntimeEdit.mark runtimeId r.generation state reason at').apply d.runtimes)
      (fun _ _ => False) d := by
  unfold markState
  rw [wp_bind, wp_transaction_iff]
  constructor
  · rintro (hdepth | himport)
    · rw [hd.transactionDepth] at hdepth
      cases hdepth
    · rw [hd.importSession] at himport
      cases himport
  · intro _
    simp only [requireRuntime, wp_bind, wp_read, hr, wp_pure, wp_ite, ne_eq, not_true_eq_false, false_implies,
      not_false_eq_true, true_implies, true_and, wp_onStore, wp_now, wp_modify]
    let edit : RuntimeEdit := .mark runtimeId r.generation state reason (d.store.clock d.store.ticks)
    let d₁ : Daemon := { d with store := { d.store with ticks := d.store.ticks + 1 }, runtimes := edit.apply d.runtimes }
    have hd₁ : Unhindered d₁.store := ⟨hd.transactionDepth, hd.importSession, hd.listeners⟩
    have hmarked : d₁.runtime runtimeId = some (edit.on r) := edit.find?_apply hr
    have hbound₁ : (d₁.binding runtimeId).bind RuntimeBinding.channelId = some channelId := hbound
    have hchannel₁ : (d₁.db.currentChannel channelId).isSome = true := hchannel
    have htold := emitLifecycle_unhindered hd₁ hmarked hbound₁ hchannel₁
    exact wp_mono htold (fun _ d' hpost => ⟨hpost.1, hpost.2.1, _, hpost.2.2⟩) fun _ _ hfalse => hfalse

end Marking

/-- The state of a forced call: what is attached is among the runtimes that remain to be ended. -/
structure Workable (channelId : String) (remaining : List ChannelArchiveRuntime) (d : Daemon) : Prop where
  unhindered : Unhindered d.store
  channel : (d.db.currentChannel channelId).isSome = true
  tidy : ¬Stranded d.db channelId
  attached : ∀ r ∈ d.runtimes.rows, attachedTo d channelId r = true → archiveRuntime r ∈ remaining
  bound : ∀ x ∈ remaining, (d.binding x.runtimeId).bind RuntimeBinding.channelId = some channelId
  found : ∀ x ∈ remaining, ∃ r, d.runtime x.runtimeId = some r ∧ r.generation = x.generation

section Workable

variable {channelId : String} {d : Daemon}

theorem workable_listed (hd : Unhindered d.store) (hchannel : (d.db.currentChannel channelId).isSome = true)
    (htidy : ¬Stranded d.db channelId) : Workable channelId (activeChannelRuntimes d channelId) d := by
  have hlisted {x : ChannelArchiveRuntime} (hx : x ∈ activeChannelRuntimes d channelId) :
      ∃ r ∈ d.runtimes.rows, attachedTo d channelId r = true ∧ archiveRuntime r = x := by
    obtain ⟨r, hr, rfl⟩ := List.mem_map.mp hx
    obtain ⟨hrow, hattached⟩ := List.mem_filter.mp hr
    exact ⟨r, mem_list.mp hrow, hattached, rfl⟩
  refine ⟨hd, hchannel, htidy, fun r hr hattached => ?_, fun x hx => ?_, fun x hx => ?_⟩
  · exact List.mem_map_of_mem (List.mem_filter.mpr ⟨mem_list.mpr hr, hattached⟩)
  · obtain ⟨r, _, hattached, rfl⟩ := hlisted hx
    simp only [attachedTo, Bool.and_eq_true, decide_eq_true_eq] at hattached
    exact hattached.1.1
  · obtain ⟨r, hr, _, rfl⟩ := hlisted hx
    exact ⟨r, Table.find?_of_mem hr, rfl⟩

/-- A termination that succeeds takes its runtime off the list. -/
theorem Workable.terminated {x : ChannelArchiveRuntime} {rest : List ChannelArchiveRuntime}
    (h : Workable channelId (x :: rest) d) : (terminated x .done d).1 = .terminated ∧
      Workable channelId rest (terminated x .done d).2 := by
  obtain ⟨r, hr, hgeneration⟩ := h.found x List.mem_cons_self
  have hberths := terminated_berths x .done d
  have hmark := markState_unhindered h.unhindered hr (h.bound x List.mem_cons_self) h.channel .terminated
    (some "operator terminated")
  rw [hgeneration] at hmark
  obtain ⟨_, d', hok, hunhindered, hbindings, at', hruntimes⟩ := exists_ok_of_wp hmark
  have hterminated : Lifecycle.terminated x .done d = (.terminated, d') := by
    unfold Lifecycle.terminated
    simp only [hok]
  rw [hterminated] at hberths ⊢
  let edit : RuntimeEdit := .mark x.runtimeId x.generation .terminated (some "operator terminated") at'
  have hbinding (runtimeId : String) : d'.binding runtimeId = d.binding runtimeId := by
    rw [Daemon.binding, hbindings, Daemon.binding]
  refine ⟨rfl, hunhindered, ?_, ?_, ?_, ?_, ?_⟩
  · rw [Database.currentChannel, channels_of_berths hberths]
    exact h.channel
  · exact fun hstranded => h.tidy ((stranded_congr (channels_of_berths hberths) (memberships_of_berths hberths)).mp hstranded)
  · intro s' hs' hattached
    rw [hruntimes] at hs'
    rcases RuntimeEdit.mem_apply hs' with ⟨s, hs, rfl⟩ | ⟨hinsert, _⟩
    · by_cases hmarked : s.runtimeId = x.runtimeId ∧ s.generation = x.generation
      · rw [RuntimeEdit.on, if_pos hmarked] at hattached
        simp [attachedTo, Runtime.marked, RuntimeState.ends_eq, RuntimeState.occupies] at hattached
      · rw [RuntimeEdit.on, if_neg hmarked] at hattached ⊢
        rw [attachedTo, hbinding] at hattached
        rcases List.mem_cons.mp (h.attached s hs hattached) with hsame | hrest
        · exact absurd ⟨congrArg ChannelArchiveRuntime.runtimeId hsame, congrArg ChannelArchiveRuntime.generation hsame⟩
            hmarked
        · exact hrest
    · cases hinsert
  · intro y hy
    rw [hbinding]
    exact h.bound y (List.mem_cons_of_mem x hy)
  · intro y hy
    obtain ⟨s, hs, hgeneration'⟩ := h.found y (List.mem_cons_of_mem x hy)
    have hfound := edit.find?_apply hs
    refine ⟨edit.on s, ?_, ?_⟩
    · rw [Daemon.runtime, hruntimes]
      exact hfound
    · rw [← hgeneration']
      rcases RuntimeEdit.on_mark x.runtimeId x.generation .terminated (some "operator terminated") at' s with
        ⟨hon, _⟩ | hon <;> rw [hon]
      rfl

/-- Once nothing remains to be ended the channel is closed, and nobody is left in it. -/
theorem Workable.closed (h : Workable channelId [] d) (policy : ArchivePolicy) (results : List RuntimeStep) :
    wp (closeArchived ⟨channelId, true⟩ policy results)
      (fun response d' => response.completed = true ∧ ChannelClosedIn d'.db channelId ∧ Unattached d' channelId)
      (fun _ _ => False) d := by
  have hruntimes : activeChannelRuntimes d channelId = [] := by
    rw [activeChannelRuntimes, List.map_eq_nil_iff, List.filter_eq_nil_iff]
    exact fun r hr hattached => List.not_mem_nil (h.attached r (mem_list.mp hr) hattached)
  unfold closeArchived
  rw [wp_bind, wp_onStore]
  apply wp_mono (closeChannel_unhindered h.unhindered h.channel h.tidy)
  · rintro receipt w' ⟨hclosed, hmembers⟩
    have hruntimes' : activeChannelRuntimes { d with store := w' } channelId = [] := hruntimes
    rw [wp_bind, wp_read, wp_pure]
    refine ⟨?_, hclosed, hmembers, hruntimes'⟩
    change (decide (ChannelClosedIn w'.db channelId) && (activeChannelMemberships w'.db channelId).length == 0 &&
      (activeChannelRuntimes { d with store := w' } channelId).length == 0) = true
    rw [hruntimes', hmembers]
    simp [hclosed]
  · exact fun _ _ hfalse => hfalse

end Workable

/-- A forced call has answered that it is completed, and so it is. -/
structure Completed (channelId : String) (responses : List (ChannelArchiveInput × Except Failure ArchiveResponse))
    (t : Archiving) : Prop where
  answered : ∃ response, t.responses = responses ++ [(⟨channelId, true⟩, .ok response)] ∧ response.completed = true
  closed : ChannelClosedIn t.hosted.daemon.db channelId
  unattached : Unattached t.hosted.daemon channelId

/-- A forced call, and the terminations it awaits one after another. -/
def forcedCall (s : Archiving) (channelId : String) : List ArchiveEvent :=
  .archive ⟨channelId, true⟩ ::
    List.replicate (activeChannelRuntimes s.hosted.daemon channelId).length (.settled s.calls.length .done)

theorem proceed_completed (options : RuntimeServiceOptions) {channelId : String} {policy : ArchivePolicy}
    {remaining : List ChannelArchiveRuntime} {results : List RuntimeStep} {s : Archiving}
    (h : Workable channelId remaining s.hosted.daemon) (hresults : ∀ step ∈ results, step.outcome = .terminated) :
    Completed channelId s.responses (Trace.run (Archiving.step options)
      (s.proceed ⟨channelId, true⟩ policy results remaining)
      (List.replicate remaining.length (.settled s.calls.length .done))) := by
  induction remaining generalizing s results with
  | nil =>
    have hnone : ¬(results.any fun step => step.outcome.isFailed) = true := by
      intro hfailed
      obtain ⟨step, hstep, hbad⟩ := List.any_eq_true.mp hfailed
      rw [hresults step hstep] at hbad
      cases hbad
    obtain ⟨response, d, hok, hcompleted, hclosed, hunattached⟩ := exists_ok_of_wp (h.closed policy results)
    change Completed channelId s.responses (s.proceed ⟨channelId, true⟩ policy results [])
    unfold Archiving.proceed
    rw [if_neg hnone, hok]
    exact ⟨⟨response, rfl, hcompleted⟩, hclosed, hunattached⟩
  | cons x rest ih =>
    let call : ArchiveCall := ⟨⟨channelId, true⟩, policy, results, x, rest⟩
    obtain ⟨houtcome, hworkable⟩ := h.terminated
    have hstep : Archiving.step options (s.proceed ⟨channelId, true⟩ policy results (x :: rest))
        (.settled s.calls.length .done) =
        (s.withDaemon (terminated x .done s.hosted.daemon).2).proceed ⟨channelId, true⟩ policy
          (results ++ [⟨x, .terminated⟩]) rest := by
      have hcall : (s.calls ++ [call])[s.calls.length]? = some call := List.getElem?_concat_length
      have herased : (s.calls ++ [call]).eraseIdx s.calls.length = s.calls := by
        rw [List.eraseIdx_append_of_length_le (Nat.le_refl _), Nat.sub_self]
        exact List.append_nil _
      refine (Archiving.step_settled options hcall .done).trans ?_
      change Archiving.settle { s with calls := (s.calls ++ [call]).eraseIdx s.calls.length } call .done = _
      rw [herased]
      unfold Archiving.settle
      simp only [call, houtcome]
    rw [List.length_cons, List.replicate_succ, Trace.run_cons, hstep]
    have hresults' : ∀ step ∈ results ++ [⟨x, .terminated⟩], step.outcome = .terminated := by
      intro step hstep'
      rcases List.mem_append.mp hstep' with hold | hnew
      · exact hresults step hold
      · rw [List.mem_singleton.mp hnew]
    exact ih (s := s.withDaemon (terminated x .done s.hosted.daemon).2) hworkable hresults'

theorem forced_completed (options : RuntimeServiceOptions) {s : Archiving} {channelId : String}
    (hs : Unhindered s.hosted.daemon.store) (hchannel : (s.hosted.daemon.db.currentChannel channelId).isSome = true)
    (htidy : ¬Stranded s.hosted.daemon.db channelId) :
    Completed channelId s.responses (Trace.run (Archiving.step options) s (forcedCall s channelId)) := by
  obtain ⟨channel, hfound⟩ := Option.isSome_iff_exists.mp hchannel
  have harchive : s.archive ⟨channelId, true⟩ = s.proceed ⟨channelId, true⟩ (archivePolicy s.hosted.daemon channel) []
      (activeChannelRuntimes s.hosted.daemon channelId) := by
    unfold Archiving.archive
    simp only [hfound, Bool.not_true, Bool.and_false, Bool.false_eq_true, if_false]
  unfold forcedCall
  rw [Trace.run_cons]
  change Completed channelId s.responses (Trace.run _ (s.archive ⟨channelId, true⟩) _)
  rw [harchive]
  exact proceed_completed options (workable_listed hs hchannel htidy) fun _ hstep => (List.not_mem_nil hstep).elim

/-- In a run no call closes without force a channel with anyone or anything attached; a call changes the channels or
their members only when it answers after all its terminations have succeeded; and in every state a forced call that
nothing disturbs ends with the channel closed and nobody left in it. -/
structure ArchiveKept (options : RuntimeServiceOptions) (s : Archiving) (events : List ArchiveEvent) : Prop where
  unforced : ∀ before event after channelId, events = before ++ event :: after →
    let t := Trace.run (Archiving.step options) s before
    let t' := Archiving.step options t event
    t.hosted.daemon.db.channelActive channelId = true → t'.hosted.daemon.db.channelActive channelId = false →
      (∃ response, t'.responses = t.responses ++ [(⟨channelId, true⟩, .ok response)]) ∨
        Unattached t.hosted.daemon channelId
  failed : ∀ before event after, events = before ++ event :: after → event.archives = true →
    let t := Trace.run (Archiving.step options) s before
    let t' := Archiving.step options t event
    t'.hosted.daemon.db.channels ≠ t.hosted.daemon.db.channels ∨
        t'.hosted.daemon.db.memberships ≠ t.hosted.daemon.db.memberships →
      ∃ input response, t'.responses = t.responses ++ [(input, .ok response)] ∧ Succeeded response
  forced : ∀ before after channelId, events = before ++ after →
    let t := Trace.run (Archiving.step options) s before
    Unhindered t.hosted.daemon.store → (t.hosted.daemon.db.currentChannel channelId).isSome = true →
      Completed channelId t.responses (Trace.run (Archiving.step options) t (forcedCall t channelId))

section Laws

variable {s s' : Archiving} {channelId : String}

theorem Does.unforced (h : Does s s') (hbefore : s.hosted.daemon.db.channelActive channelId = true)
    (hafter : s'.hosted.daemon.db.channelActive channelId = false) :
    (∃ response, s'.responses = s.responses ++ [(⟨channelId, true⟩, .ok response)]) ∨
      Unattached s.hosted.daemon channelId := by
  cases h with
  | leaves hberths _ =>
    rw [channelActive_congr (channels_of_berths hberths), hbefore] at hafter
    cases hafter
  | closes input response hresponses _ hclosed hforce _ _ =>
    obtain ⟨id, force⟩ := input
    have hid : channelId = id := by
      by_contra hother
      rw [hclosed.channelActive.mpr ⟨hbefore, hother⟩] at hafter
      cases hafter
    subst hid
    cases force with
    | true => exact .inl ⟨response, hresponses⟩
    | false =>
      rcases hforce rfl with hinactive | hunattached
      · rw [hbefore] at hinactive
        cases hinactive
      · exact .inr hunattached

theorem Does.failed (h : Does s s') (hchanged : s'.hosted.daemon.db.channels ≠ s.hosted.daemon.db.channels ∨
      s'.hosted.daemon.db.memberships ≠ s.hosted.daemon.db.memberships) :
    ∃ input response, s'.responses = s.responses ++ [(input, .ok response)] ∧ Succeeded response := by
  cases h with
  | leaves hberths _ =>
    rcases hchanged with hchannels | hmemberships
    · exact absurd (channels_of_berths hberths) hchannels
    · exact absurd (memberships_of_berths hberths) hmemberships
  | closes input response hresponses hsucceeded _ _ _ _ => exact ⟨input, response, hresponses, hsucceeded⟩

theorem forced_stranded (options : RuntimeServiceOptions) (h : Orderly s)
    (hstranded : Stranded s.hosted.daemon.db channelId) :
    Stranded (Trace.run (Archiving.step options) s (forcedCall s channelId)).hosted.daemon.db channelId := by
  have hsettled (n i : Nat) (t : Archiving) : Trace.Meets (Archiving.step options)
      (fun _ event => event.archives = true) t (List.replicate n (.settled i .done)) := by
    induction n generalizing t with
    | zero => trivial
    | succ n ih => exact ⟨rfl, ih _⟩
  have hmeets : Trace.Meets (Archiving.step options) (fun _ event => event.archives = true) s (forcedCall s channelId) :=
    ⟨rfl, hsettled _ _ _⟩
  have hkept := Trace.invariant_run (I := fun t => Orderly t ∧ Stranded t.hosted.daemon.db channelId)
    (fun t event ht harchives => ⟨step_orderly options ht.1 event, archives_stranded options ht.1 harchives ht.2⟩)
    ⟨h, hstranded⟩ hmeets
  exact hkept.2

end Laws

/-- The service with no archive under way, and its store at rest. -/
structure Fresh (s : Archiving) : Prop where
  calls : s.calls = []
  rest : s.hosted.daemon.AtRest

theorem Fresh.orderly {s : Archiving} (h : Fresh s) : Orderly s := by
  refine ⟨h.rest, fun call hcall => ?_⟩
  rw [h.calls] at hcall
  cases hcall

/-- A run strands no channel. -/
theorem run_tidy (options : RuntimeServiceOptions) {s : Archiving} (hs : Orderly s)
    (htidy : ∀ channelId, ¬Stranded s.hosted.daemon.db channelId) (events : List ArchiveEvent) (channelId : String) :
    ¬Stranded (Trace.run (Archiving.step options) s events).hosted.daemon.db channelId := by
  have hkept := Trace.invariant_of_step
    (I := fun t => Orderly t ∧ ∀ channelId, ¬Stranded t.hosted.daemon.db channelId)
    (fun t event ht => ⟨step_orderly options ht.1 event, fun id hstranded =>
      ht.2 id (step_tidy options ht.1 event hstranded)⟩) ⟨hs, htidy⟩ events
  exact hkept.2 channelId

/-- Archiving is safe and repeatable exactly in the runs that never come to a closed channel with an active member. -/
theorem archive_kept_iff (options : RuntimeServiceOptions) {s : Archiving} (hfresh : Fresh s)
    (events : List ArchiveEvent) :
    ArchiveKept options s events ↔ ∀ before after, events = before ++ after →
      Unhindered (Trace.run (Archiving.step options) s before).hosted.daemon.store → ∀ channelId,
        ¬Stranded (Trace.run (Archiving.step options) s before).hosted.daemon.db channelId := by
  have horderly (before : List ArchiveEvent) : Orderly (Trace.run (Archiving.step options) s before) :=
    Trace.invariant_of_step (I := Orderly) (fun _ event h => step_orderly options h event) hfresh.orderly before
  constructor
  · intro hkept before after hsplit hunhindered channelId hstranded
    obtain ⟨hchannel, _⟩ := channelClosedIn_iff.mp hstranded.1
    have hcompleted := hkept.forced before after channelId hsplit hunhindered hchannel
    exact (forced_stranded options (horderly before) hstranded).2 hcompleted.unattached.1
  · intro htidy
    refine ⟨?_, ?_, ?_⟩
    · intro before event after channelId _ t t' hbefore hafter
      rcases step_cases options (horderly before) event with hdoes | ⟨henrolled, _, _⟩
      · exact hdoes.unforced hbefore hafter
      · have hsame : t'.hosted.daemon.db.channelActive channelId = t.hosted.daemon.db.channelActive channelId :=
          channelActive_congr henrolled.channels channelId
        rw [hsame, hbefore] at hafter
        cases hafter
    · intro before event after _ harchives t t' hchanged
      exact (step_does options (horderly before) harchives).failed hchanged
    · intro before after channelId hsplit t hunhindered hchannel
      exact forced_completed options hunhindered hchannel (htidy before after hsplit hunhindered channelId)

/-- Bob is in the channel of the deck. -/
def deck : Archiving :=
  let enrol : Command MutationReceipt := do
    let _ ← insertSession { id := "bob", role := some .worker }
    let _ ← insertChannel "deck" none
    insertMembership "deck" "bob" (some .worker)
  ⟨⟨.initial (enrol (World.initial .empty tally tally)).2, .empty, fun _ => 32, [], []⟩, [], []⟩

/-- Bob's runtime is launched, and the channel is archived without force and with it. -/
def archivedTwice : List ArchiveEvent :=
  [.hosting (.create ⟨.ok "/ship", .ok (), .ok ()⟩
      { runtimeId := some "runtime-bob", homeAuthorityId := "", sessionId := "bob", channelId := some "deck" }
      (operatorActor "alice")),
    .hosting (.settled 0 .done), .archive ⟨"deck", false⟩, .archive ⟨"deck", true⟩, .settled 0 .done]

def completions (s : Archiving) : List (Option Bool) :=
  s.responses.map fun r => r.2.toOption.map ArchiveResponse.completed

theorem archive_kept_deck : ArchiveKept shipOptions deck archivedTwice ∧
    completions (Trace.run (Archiving.step shipOptions) deck archivedTwice) = [some false, some true] := by
  have hrest : deck.hosted.daemon.store.transactionDepth = 0 := by decide +kernel
  have hfresh : Fresh deck := ⟨rfl, hrest⟩
  have hopen : ∀ c ∈ deck.hosted.daemon.db.channels.rows, c.lifecycleState = .active := by decide +kernel
  have htidy (channelId : String) : ¬Stranded deck.hosted.daemon.db channelId := by
    rintro ⟨hclosed, _⟩
    rw [ChannelClosedIn, Option.map_eq_some_iff] at hclosed
    obtain ⟨channel, hfound, hstate⟩ := hclosed
    have hactive := hopen channel (Table.find?_some hfound).1
    rw [hstate] at hactive
    cases hactive
  refine ⟨(archive_kept_iff shipOptions hfresh archivedTwice).mpr fun before _ _ _ channelId => ?_, by decide +kernel⟩
  exact run_tidy shipOptions hfresh.orderly htidy before channelId

/-- The deck as a legacy journal has it: closed, with bob still in it. -/
def importedDeck : Archiving :=
  let event (record : ImportRecord) : StoreOp := .importAppend ⟨none, record, "2024-01-01T00:00:00.000Z", 0⟩
  let imported := Trace.run storeStep (World.initial .empty tally tally)
    [.importBegin "digest" 1, event (.session ⟨"bob", .text "1", none, none, some .worker⟩),
      event (.channel ⟨"deck", .text "1", none, none, none⟩), event (.membership ⟨"deck", "bob", .text "1", some .worker⟩),
      event (.channelClosed "deck" none), .importCommit]
  ⟨⟨.initial imported, .empty, fun _ => 32, [], []⟩, [], []⟩

theorem imported_deck_stays : ¬∀ (options : RuntimeServiceOptions) (s : Archiving) (events : List ArchiveEvent), Fresh s →
    ArchiveKept options s events := by
  intro h
  have hrest : importedDeck.hosted.daemon.store.transactionDepth = 0 := by decide +kernel
  have hfresh : Fresh importedDeck := ⟨rfl, hrest⟩
  have himport : importedDeck.hosted.daemon.store.importSession.isNone = true := by decide +kernel
  have hnone : importedDeck.hosted.daemon.store.listeners.isEmpty = true := by decide +kernel
  have hunhindered : Unhindered importedDeck.hosted.daemon.store := by
    refine ⟨hfresh.rest, Option.isNone_iff_eq_none.mp himport, fun l hl => ?_⟩
    rw [List.isEmpty_iff.mp hnone] at hl
    cases hl
  have hkept := (h shipOptions importedDeck [] hfresh).forced [] [] "deck" rfl hunhindered (by decide +kernel)
  have hmembers : (activeChannelMemberships (Trace.run (Archiving.step shipOptions) importedDeck
      (forcedCall importedDeck "deck")).hosted.daemon.db "deck").length = 1 := by decide +kernel
  have hnobody := hkept.unattached.1
  change activeChannelMemberships (Trace.run (Archiving.step shipOptions) importedDeck
    (forcedCall importedDeck "deck")).hosted.daemon.db "deck" = [] at hnobody
  rw [hnobody] at hmembers
  cases hmembers

end Wardroom.Lifecycle
