import Wardroom.Runtime.Liveness
import Wardroom.Runtime.Native.SendEffects

/-! # The quota of active runtimes

A machine has a quota of runtimes in an active state. The creation of a runtime looks at it; a call
that has waited for the host of a runtime makes the runtime active without looking.
-/

namespace Wardroom.Runtime
open Wardroom.Library Wardroom.Domain Wardroom.Storage Prog

/-- The runtimes that count against the quota of a machine. -/
def counts (machineId : String) (r : Runtime) : Bool := r.machineId = machineId && r.state.occupies

@[simp] theorem counts_iff {machineId : String} {r : Runtime} :
    counts machineId r = true ↔ r.machineId = machineId ∧ r.state.occupies = true := by simp [counts]

variable {limit : String → Nat} {marked : Option (String × RuntimeState)} {t : Runtimes} {e : RuntimeEdit}

def Within (limit : String → Nat) (t : Runtimes) : Prop := ∀ machineId, t.rows.countP (counts machineId) ≤ limit machineId

/-- The runtime that is marked counts already, or there is room for it. -/
def Room (limit : String → Nat) (marked : Option (String × RuntimeState)) (t : Runtimes) : Prop :=
  ∀ runtimeId state, marked = some (runtimeId, state) → state.occupies = true →
    ∀ r ∈ t.rows, r.runtimeId = runtimeId →
      r.state.occupies = true ∨ t.rows.countP (counts r.machineId) < limit r.machineId

/-- A row is inserted where there is room, by an event that marks none. -/
def QuotaEdits (limit : String → Nat) (marked : Option (String × RuntimeState)) (t : Runtimes) : RuntimeEdit → Prop
  | .insert r => marked = none ∧ t.rows.countP (counts r.machineId) < limit r.machineId
  | .mark runtimeId _ state _ _ => marked = some (runtimeId, state)
  | .hold _ _ _ => True

theorem rows_mark (t : Runtimes) (runtimeId : String) (generation : Nat) (state : RuntimeState) (reason : Option String)
    (at' : String) : ((RuntimeEdit.mark runtimeId generation state reason at').apply t).rows =
      t.rows.map (RuntimeEdit.mark runtimeId generation state reason at').on := by
  apply List.map_congr_left
  intro r _
  simp only [RuntimeEdit.on, decide_eq_true_eq]

theorem rows_hold (t : Runtimes) (runtimeId providerThreadId at' : String) :
    ((RuntimeEdit.hold runtimeId providerThreadId at').apply t).rows =
      t.rows.map (RuntimeEdit.hold runtimeId providerThreadId at').on := by
  apply List.map_congr_left
  intro r _
  simp only [RuntimeEdit.on, decide_eq_true_eq]

theorem counts_hold (machineId runtimeId providerThreadId at' : String) (r : Runtime) :
    counts machineId ((RuntimeEdit.hold runtimeId providerThreadId at').on r) = counts machineId r := by
  rcases RuntimeEdit.on_hold runtimeId providerThreadId at' r with ⟨h, _⟩ | ⟨h, _⟩ <;> rw [h]
  rfl

theorem within_insert {r : Runtime} (h : Within limit t) (hroom : t.rows.countP (counts r.machineId) < limit r.machineId) :
    Within limit (t.put r) := by
  intro machineId
  have hle := h machineId
  cases hinsert : t.insert? r with
  | none =>
    rw [Table.put, hinsert]
    exact hle
  | some u =>
    rw [Table.put, hinsert, Option.getD_some, Table.countP_insert hinsert]
    by_cases hcounts : counts machineId r = true
    · obtain rfl := (counts_iff.mp hcounts).1
      rw [if_pos hcounts]
      omega
    · rw [if_neg hcounts]
      omega

theorem within_mark {runtimeId : String} {generation : Nat} {state : RuntimeState} {reason : Option String} {at' : String}
    (h : Within limit t) (hroom : Room limit (some (runtimeId, state)) t) :
    Within limit ((RuntimeEdit.mark runtimeId generation state reason at').apply t) := by
  intro machineId
  have hle := h machineId
  by_cases hnew : ∃ r ∈ t.rows, r.runtimeId = runtimeId ∧ r.machineId = machineId ∧ r.state.occupies = false ∧
      state.occupies = true
  · obtain ⟨r, hr, hid, rfl, hoff, hoccupies⟩ := hnew
    have hlt : t.rows.countP (counts r.machineId) < limit r.machineId := by
      rcases hroom runtimeId state rfl hoccupies r hr hid with hon | hlt
      · rw [hoff] at hon
        cases hon
      · exact hlt
    have hrows : ((RuntimeEdit.mark runtimeId generation state reason at').apply t).rows = t.rows.map fun s =>
        if s.runtimeId = runtimeId then
          (if s.generation = generation then Runtime.marked state reason at' s else s) else s := by
      rw [rows_mark]
      apply List.map_congr_left
      intro s _
      by_cases hs : s.runtimeId = runtimeId <;> simp [RuntimeEdit.on, hs]
    have hsucc := Table.countP_rewrite_le_succ hrows (counts r.machineId)
    omega
  · rw [rows_mark, List.countP_map]
    refine Nat.le_trans (List.countP_mono_left fun s hs hcounts => ?_) hle
    rcases RuntimeEdit.on_mark runtimeId generation state reason at' s with ⟨hon, hid⟩ | hon
    · rw [Function.comp_apply, hon, counts_iff] at hcounts
      rw [counts_iff]
      refine ⟨hcounts.1, ?_⟩
      by_contra hoff
      exact hnew ⟨s, hs, hid, hcounts.1, by simpa using hoff, hcounts.2⟩
    · rwa [Function.comp_apply, hon] at hcounts

theorem room_mark {runtimeId : String} {generation : Nat} {state : RuntimeState} {reason : Option String} {at' : String}
    (hroom : Room limit (some (runtimeId, state)) t) :
    Room limit (some (runtimeId, state)) ((RuntimeEdit.mark runtimeId generation state reason at').apply t) := by
  rintro _ _ ⟨⟩ hoccupies r hr hid
  rw [rows_mark] at hr
  obtain ⟨s, hs, rfl⟩ := List.mem_map.mp hr
  rw [RuntimeEdit.runtimeId_on] at hid
  by_cases hgeneration : s.generation = generation
  · left
    rw [RuntimeEdit.on, if_pos ⟨hid, hgeneration⟩]
    exact hoccupies
  · have hsame : t.rows.map (RuntimeEdit.mark runtimeId generation state reason at').on = t.rows := by
      refine (List.map_congr_left fun u hu => ?_).trans (List.map_id t.rows)
      by_cases hu' : u.runtimeId = runtimeId
      · rw [Table.eq_of_key hu hs (hu'.trans hid.symm), RuntimeEdit.on, if_neg fun h => hgeneration h.2]
        rfl
      · rw [RuntimeEdit.on, if_neg fun h => hu' h.1]
        rfl
    rw [RuntimeEdit.on, if_neg fun h => hgeneration h.2, rows_mark, hsame]
    exact hroom runtimeId state rfl hoccupies s hs hid

theorem within_apply (h : Within limit t ∧ Room limit marked t) (he : QuotaEdits limit marked t e) :
    Within limit (e.apply t) ∧ Room limit marked (e.apply t) := by
  obtain ⟨hwithin, hroom⟩ := h
  cases e with
  | insert r =>
    obtain ⟨rfl, hlt⟩ := he
    exact ⟨within_insert hwithin hlt, fun _ _ hmarked => nomatch hmarked⟩
  | mark runtimeId generation state reason at' =>
    obtain rfl : marked = some (runtimeId, state) := he
    exact ⟨within_mark hwithin hroom, room_mark hroom⟩
  | hold runtimeId providerThreadId at' =>
    have hcount (machineId : String) : ((RuntimeEdit.hold runtimeId providerThreadId at').apply t).rows.countP
        (counts machineId) = t.rows.countP (counts machineId) := by
      rw [rows_hold, List.countP_map]
      apply List.countP_congr
      intro r _
      rw [Function.comp_apply, counts_hold]
    refine ⟨fun machineId => (hcount machineId).trans_le (hwithin machineId), ?_⟩
    intro markedId state hmarked hoccupies r hr hid
    rw [rows_hold] at hr
    obtain ⟨s, hs, rfl⟩ := List.mem_map.mp hr
    rw [RuntimeEdit.runtimeId_on] at hid
    rw [hcount]
    rcases RuntimeEdit.on_hold runtimeId providerThreadId at' s with ⟨hon, _⟩ | ⟨hon, _⟩ <;> rw [hon] <;>
      exact hroom markedId state hmarked hoccupies s hs hid

def limitOf (quotas : Table RuntimeQuota.machineId) (machineId : String) : Nat :=
  ((quotas.find? machineId).map RuntimeQuota.maxActiveRuntimes).getD 1000000

/-- The quotas are kept, and rows are inserted within them. -/
structure QuotaEdited (marked : Option (String × RuntimeState)) (d d' : Daemon) : Prop where
  quotas : d'.quotas = d.quotas
  edits : Edited (QuotaEdits (limitOf d.quotas) marked) d.runtimes d'.runtimes

instance (marked : Option (String × RuntimeState)) : IsPreorder Daemon (QuotaEdited marked) where
  refl _ := ⟨rfl, .refl⟩
  trans d d' d'' h h' := by
    refine ⟨h'.quotas.trans h.quotas, Relation.ReflTransGen.trans h.edits ?_⟩
    rw [← h.quotas]
    exact h'.edits

theorem steady_quotas : Steady Daemon.quotas where
  restore _ _ h := h
  runtimes _ _ := rfl
  now _ := rfl
  lifecycle _ _ _ _ _ _ _ := rfl
  delivery _ _ _ := rfl

theorem leads_quota {α : Type} {x : Action α} (hquotas : Frame Daemon.quotas x)
    (hedits : ∀ limit, Prog.Leads (EditedIn (QuotaEdits limit marked)) x) : Prog.Leads (QuotaEdited marked) x :=
  fun d => ⟨hquotas d, hedits _ d⟩

theorem createRuntime_within (d : Daemon) (input : CreateRuntimeInput) :
    (createRuntime input d).2.runtimes = d.runtimes ∨
      ∃ r : Runtime, d.activeRuntimes r.machineId < d.maxActiveRuntimes r.machineId ∧
        (createRuntime input d).2.runtimes = d.runtimes.put r := by
  let Created (t : Runtimes) : Prop := t = d.runtimes ∨
    ∃ r : Runtime, d.activeRuntimes r.machineId < d.maxActiveRuntimes r.machineId ∧ t = d.runtimes.put r
  have hcreated : wp (createRuntime input) (fun _ d' => Created d'.runtimes) (fun _ d' => Created d'.runtimes) d := by
    have hsame : Created d.runtimes := .inl rfl
    unfold createRuntime
    rw [wp_bind, wp_ofExcept]
    refine ⟨fun _ _ => wp_transaction hsame ?_, fun _ _ => hsame⟩
    simp only [wp_bind, wp_read, wp_ite, wp_fail, wp_onStore, wp_now]
    refine ⟨fun _ => hsame, fun hroom => ⟨fun _ => ?_, fun _ => ?_⟩⟩
    · cases hinsert : d.runtimes.insert? _ with
      | none => exact hsame
      | some runtimes =>
        simp only [wp_ite, wp_bind, wp_fail, wp_modify, wp_read]
        refine ⟨fun _ => hsame, fun _ => ?_⟩
        have hput : d.runtimes.put _ = runtimes := congrArg (Option.getD · d.runtimes) hinsert
        have hstored : Created runtimes := by
          refine .inr ⟨_, ?_, hput.symm⟩
          exact Nat.lt_of_not_le hroom
        generalize Daemon.runtime _ input.runtimeId = found
        cases found with
        | none => exact hsame
        | some runtime => exact hstored
    · generalize Daemon.runtime _ input.runtimeId = found
      cases found <;> exact hsame
  rcases cases_of_wp hcreated with ⟨_, _, h⟩ | ⟨_, _, h⟩ <;> exact h

theorem activeRuntimes_eq (d : Daemon) (machineId : String) :
    d.activeRuntimes machineId = d.runtimes.rows.countP (counts machineId) := Table.length_select _ _

theorem conducts_quota (marked : Option (String × RuntimeState)) : Conducts (QuotaEdited marked) marked where
  now := leads_quota (fun _ => rfl) fun _ => leads_onStore _
  randomUUID := leads_quota (fun _ => rfl) fun _ => leads_onStore _
  transaction := leads_quota (frame_transaction steady_quotas (frame_pure _)) fun _ =>
    leads_transaction (leads_pure _)
  create hnone input d := by
    refine ⟨frame_createRuntime steady_quotas input d, ?_⟩
    rcases createRuntime_within d input with hsame | ⟨r, hroom, hput⟩
    · rw [hsame]
      exact .refl
    · rw [hput]
      rw [activeRuntimes_eq] at hroom
      exact edited_one (e := .insert r) ⟨hnone, hroom⟩
  claim runtimeId providerThreadId := leads_quota
    (frame_setProviderThreadId steady_quotas (fun _ _ => rfl) runtimeId providerThreadId) fun _ =>
      leads_setProviderThreadId fun _ _ _ => trivial
  bind input := leads_quota (frame_bindRuntime steady_quotas (fun _ _ => rfl) input) fun _ => leads_bindRuntime input
  mark h := leads_quota (frame_markState steady_quotas _ _ _ _) fun _ => leads_markState fun _ _ => h

/-- On every machine the quota is kept. -/
def WithinQuota (d : Daemon) : Prop := ∀ machineId, d.activeRuntimes machineId ≤ d.maxActiveRuntimes machineId

/-- An event that marks an active state marks a runtime that is active already, or finds its machine with
quota left. -/
def MarksWithinQuota (h : Hosted) (event : HostingEvent) : Prop :=
  ∀ runtimeId state, marks h event = some (runtimeId, state) → state.occupies = true →
    ∀ r, h.daemon.runtime runtimeId = some r → r.state.occupies = true ∨
      h.daemon.activeRuntimes r.machineId < h.daemon.maxActiveRuntimes r.machineId

theorem withinQuota_iff {d : Daemon} : WithinQuota d ↔ Within (limitOf d.quotas) d.runtimes := by
  simp only [WithinQuota, Within, activeRuntimes_eq]
  rfl

theorem step_within (options : RuntimeServiceOptions) {h : Hosted} (event : HostingEvent) (hwithin : WithinQuota h.daemon)
    (hmarks : MarksWithinQuota h event) :
    WithinQuota (Hosting.step options h event).daemon ∧
      (Hosting.step options h event).daemon.quotas = h.daemon.quotas := by
  obtain ⟨hquotas, hedits⟩ := step_leads options h event (conducts_quota (marks h event))
  have hroom : Room (limitOf h.daemon.quotas) (marks h event) h.daemon.runtimes := by
    intro runtimeId state hmarked hoccupies r hr hid
    have hfound : h.daemon.runtime runtimeId = some r := by
      rw [Daemon.runtime, ← hid]
      exact Table.find?_of_mem hr
    rw [← activeRuntimes_eq]
    exact hmarks runtimeId state hmarked hoccupies r hfound
  have hkept := edited_keeps (I := fun t => Within (limitOf h.daemon.quotas) t ∧ Room (limitOf h.daemon.quotas) (marks h event) t)
    (fun _ _ ht he => within_apply ht he) hedits ⟨withinQuota_iff.mp hwithin, hroom⟩
  refine ⟨?_, hquotas⟩
  rw [withinQuota_iff, hquotas]
  exact hkept.1

/-- The tables of the daemon and what goes on in the service are as they were. -/
structure Unwritten (h h' : Hosted) : Prop where
  tables : h'.daemon.tables = h.daemon.tables
  attachments : h'.attachments = h.attachments
  awaiting : h'.awaiting = h.awaiting
  listeners : h'.listeners = h.listeners

/-- The quota of the machine that a request names is used up. -/
def Full (options : RuntimeServiceOptions) (request : RuntimeCreateRequest) (d : Daemon) : Prop :=
  d.maxActiveRuntimes (request.machineId.getD options.machineId) ≤
    d.activeRuntimes (request.machineId.getD options.machineId)

theorem createRuntime_full {d : Daemon} {input : CreateRuntimeInput}
    (hfull : d.maxActiveRuntimes input.machineId ≤ d.activeRuntimes input.machineId) :
    wp (createRuntime input) (fun _ _ => False) (fun _ d' => d'.tables = d.tables) d := by
  unfold createRuntime
  rw [wp_bind, wp_ofExcept]
  refine ⟨fun _ _ => wp_transaction rfl ?_, fun _ _ => rfl⟩
  simp only [wp_bind, wp_read, wp_ite, wp_fail]
  exact ⟨fun _ => rfl, fun hroom => absurd hfull hroom⟩

theorem beginCreate_full (options : RuntimeServiceOptions) (answer : LaunchAnswer) (request : RuntimeCreateRequest)
    (actor : RuntimeActor) {d : Daemon} (hfull : Full options request d) :
    wp (beginCreate options answer request actor) (fun _ _ => False) (fun _ d' => d'.tables = d.tables) d := by
  unfold beginCreate
  simp only [wp_bind, wp_read, wp_ite, wp_fail]
  refine ⟨fun _ => trivial, fun _ => ?_⟩
  have hchosen : wp request.chosenId
      (fun _ d' => Full options request d' ∧ d'.tables = d.tables) (fun _ d' => d'.tables = d.tables) d := by
    unfold RuntimeCreateRequest.chosenId
    cases request.runtimeId with
    | none => exact ⟨hfull, rfl⟩
    | some runtimeId => exact ⟨hfull, rfl⟩
  refine wp_mono hchosen (fun runtimeId d' hpost => ?_) fun _ _ hsame => hsame
  obtain ⟨hfull', hsame⟩ := hpost
  simp only [wp_bind, wp_ofExcept]
  refine ⟨fun launchCwd _ => ?_, fun _ _ => hsame⟩
  exact wp_mono (createRuntime_full hfull') (fun _ _ habsurd => habsurd.elim) fun _ _ hkept => hkept.trans hsame

theorem create_unwritten (options : RuntimeServiceOptions) (answer : LaunchAnswer) (request : RuntimeCreateRequest)
    (actor : RuntimeActor) {h : Hosted} (hfull : Full options request h.daemon) :
    Unwritten h (Hosting.step options h (.create answer request actor)) := by
  have hrefused : wp (Hosting.create options answer request actor) (fun _ h' => Unwritten h h') (fun _ h' => Unwritten h h')
      h := by
    unfold Hosting.create
    rw [wp_bind, wp_onDaemon]
    exact wp_mono (beginCreate_full options answer request actor hfull) (fun _ _ habsurd => habsurd.elim)
      fun _ _ hsame => ⟨hsame, rfl, rfl, rfl⟩
  rcases cases_of_wp hrefused with ⟨_, _, h⟩ | ⟨_, _, h⟩ <;> exact h

/-- In every state of a run the quota is kept, the quotas are those of the start, and a creation that finds its
quota used up leaves everything as it was. -/
structure QuotaHeld (options : RuntimeServiceOptions) (h : Hosted) (events : List HostingEvent) : Prop where
  within : ∀ before after, events = before ++ after → WithinQuota (Trace.run (Hosting.step options) h before).daemon
  quotas : ∀ before after, events = before ++ after →
    (Trace.run (Hosting.step options) h before).daemon.quotas = h.daemon.quotas
  refused : ∀ before answer request actor after, events = before ++ .create answer request actor :: after →
    Full options request (Trace.run (Hosting.step options) h before).daemon →
    Unwritten (Trace.run (Hosting.step options) h before)
      (Hosting.step options (Trace.run (Hosting.step options) h before) (.create answer request actor))

theorem quota_held (options : RuntimeServiceOptions) {h : Hosted} (hstart : WithinQuota h.daemon)
    {events : List HostingEvent} (hmeets : Trace.Meets (Hosting.step options) MarksWithinQuota h events) :
    QuotaHeld options h events := by
  have hkept (before after : List HostingEvent) (hsplit : events = before ++ after) :
      WithinQuota (Trace.run (Hosting.step options) h before).daemon ∧
        (Trace.run (Hosting.step options) h before).daemon.quotas = h.daemon.quotas := by
    rw [hsplit, Trace.meets_append] at hmeets
    refine Trace.invariant_run (I := fun s => WithinQuota s.daemon ∧ s.daemon.quotas = h.daemon.quotas)
      (fun s event ⟨hwithin, hquotas⟩ hmarks => ?_) ⟨hstart, rfl⟩ hmeets.1
    obtain ⟨hnext, hsame⟩ := step_within options event hwithin hmarks
    exact ⟨hnext, hsame.trans hquotas⟩
  exact ⟨fun before after hsplit => (hkept before after hsplit).1, fun before after hsplit => (hkept before after hsplit).2,
    fun _ answer request actor _ _ hfull => create_unwritten options answer request actor hfull⟩

/-- The ship has a quota of one runtime. -/
def oneRuntime : Hosted := { noHosts with daemon := { noHosts.daemon with quotas := ⟨[⟨"ship", 1, 32⟩], by decide⟩ } }

def launchBobby : HostingEvent :=
  .create ⟨.ok "/ship", .ok (), .ok ()⟩
    { runtimeId := some "runtime-bobby", homeAuthorityId := "", sessionId := "bobby" }
    (operatorActor "alice")

theorem quota_held_launched :
    QuotaHeld shipOptions oneRuntime [launchBob, .settled 0 .done, launchBobby] ∧
      (Trace.run (Hosting.step shipOptions) oneRuntime
        [launchBob, .settled 0 .done, launchBobby]).daemon.activeRuntimes "ship" = 1 := by
  have hempty : WithinQuota oneRuntime.daemon := fun machineId => Nat.zero_le _
  have hcreation (h : Hosted) (answer : LaunchAnswer) (request : RuntimeCreateRequest) (actor : RuntimeActor) :
      MarksWithinQuota h (.create answer request actor) := by
    intro _ _ hmarked
    cases hmarked
  refine ⟨quota_held shipOptions hempty ⟨hcreation _ _ _ _, ?_, hcreation _ _ _ _, trivial⟩, by decide +kernel⟩
  intro runtimeId state hmarked _ r hr
  cases hmarked
  left
  have hcreating : ((Hosting.step shipOptions oneRuntime launchBob).daemon.runtime "runtime-bob").map (·.state.occupies) =
      some true := by decide +kernel
  rw [hr] at hcreating
  exact Option.some.inj hcreating

/-- The first runtime is lost, the second takes its place, and the first is recovered. -/
def recoveredBeside : List HostingEvent :=
  [launchBob, .settled 0 .done, .deliver "runtime-bob", .settled 0 (.failed ⟨.runtime "connection refused", true, false⟩),
    launchBobby, .settled 0 .done, recoverBob "alice" .observe, .settled 0 .done]

theorem quota_exceeded : ¬∀ (options : RuntimeServiceOptions) (h : Hosted) (events : List HostingEvent),
    WithinQuota h.daemon → QuotaHeld options h events := by
  intro h
  have hheld := h shipOptions oneRuntime recoveredBeside fun machineId => Nat.zero_le _
  have htwo : (Trace.run (Hosting.step shipOptions) oneRuntime recoveredBeside).daemon.activeRuntimes "ship" = 2 ∧
      (Trace.run (Hosting.step shipOptions) oneRuntime recoveredBeside).daemon.maxActiveRuntimes "ship" = 1 := by
    decide +kernel
  have hle := hheld.within recoveredBeside [] (List.append_nil _).symm "ship"
  omega

end Wardroom.Runtime
