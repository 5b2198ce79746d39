import Wardroom.Library.TaskRely
import Wardroom.Lifecycle.Fencing
import Wardroom.Runtime.Native.RollbackIsolation

/-! # What a suspension has done when it is marked

A suspension claims its channel, captures the blueprint, stops the members and
marks the channel suspended, call by call. Between its calls its lease may run
out and others may take the channel over. What it has captured and recorded stands
for as long as the row names its owner, and only then can it mark the channel.
-/

namespace Wardroom.Runtime
open Wardroom.Library Wardroom.Domain Wardroom.Storage Wardroom.Lifecycle Task
open Prog (leads_bind leads_read)
open LifecycleTables (changed_updateWhere row_updateWhere outcomes_updateWhere memberStopped)
open LocalChannelLifecycle (suspendKey LifecyclePool LifecycleMove)

/-- Unless the channel has gone to another owner, the blueprint is stored and these members are recorded stopped. -/
def Covers (who : Coordinator) (blueprint : ResumableChannelBlueprint) (stopped : List ResumableMemberBlueprint)
    (t : LifecycleTables) : Prop :=
  ∀ r, t.row who.channelId = some r → r.state = .suspending → r.ownerId = some who.ownerId →
    r.blueprint = blueprint ∧ ∀ m ∈ stopped, t.memberStopped who.channelId m.priorSessionId = true

/-- What others do to the tables: a statement of another owner about the channel, or nothing that concerns it. -/
inductive OtherMove (who : Coordinator) (t t' : LifecycleTables) : Prop where
  | statement (call : StoreCall) (other : call.ownerId ≠ who.ownerId)
      (performed : t' = t.performed who.channelId call)
  | apart (row : t'.row who.channelId = t.row who.channelId)
      (outcomes : ∀ id, t'.outcome who.channelId id = t.outcome who.channelId id)

def OtherMoves (who : Coordinator) (w w' : LifecycleWorld) : Prop :=
  Relation.ReflTransGen (OtherMove who) w.tables w'.tables

instance (who : Coordinator) : IsPreorder LifecycleWorld (OtherMoves who) where
  refl _ := .refl
  trans _ _ _ h h' := h.trans h'

section Tables
variable {who : Coordinator} {blueprint : ResumableChannelBlueprint} {stopped : List ResumableMemberBlueprint}
  {t t' : LifecycleTables}

theorem Covers.apart (h : Covers who blueprint stopped t) (hrow : t'.row who.channelId = t.row who.channelId)
    (houtcomes : ∀ id, t'.outcome who.channelId id = t.outcome who.channelId id) :
    Covers who blueprint stopped t' := by
  intro r hr hstate howner
  obtain ⟨hblueprint, hstopped⟩ := h r (hrow ▸ hr) hstate howner
  refine ⟨hblueprint, fun m hm => ?_⟩
  rw [memberStopped, houtcomes]
  exact hstopped m hm

/-- An owner that is not named by the row has no part in it. -/
theorem Covers.other (h : Covers who blueprint stopped t) {call : StoreCall} (hother : call.ownerId ≠ who.ownerId) :
    Covers who blueprint stopped (t.performed who.channelId call) := by
  cases LifecycleTables.turn who.channelId t call with
  | refused hrefused => rwa [hrefused.2]
  | suspends r₁ claimed operation granted row taken =>
    intro r hr hstate howner
    obtain rfl : r₁ = r := Option.some.inj (row.symm.trans hr)
    exact absurd (Option.some.inj (taken.ownerId.symm.trans howner)) hother
  | resumes r₀ r₁ generation operation granted row row' taken =>
    intro r hr hstate howner
    obtain rfl : r₁ = r := Option.some.inj (row'.symm.trans hr)
    cases taken.state.symm.trans hstate
  | held r₀ r₁ claims row row' holds continues =>
    intro r hr hstate howner
    obtain rfl : r₁ = r := Option.some.inj (row'.symm.trans hr)
    obtain ⟨hbefore, hsame⟩ := continues.suspending hstate
    rcases holds with ⟨-, -, hown⟩ | ⟨token, -, hcurrent⟩
    · exact absurd (Option.some.inj (hown.symm.trans (hsame.symm.trans howner))) hother
    · cases hbefore.symm.trans (ChannelBlueprintRow.resumeCurrent_iff.mp hcurrent).1

theorem Covers.relied {w w' : LifecycleWorld} (h : Covers who blueprint stopped w.tables)
    (hmoves : OtherMoves who w w') : Covers who blueprint stopped w'.tables := by
  unfold OtherMoves at hmoves
  generalize w'.tables = t' at hmoves
  induction hmoves with
  | refl => exact h
  | tail _ hmove ih =>
    cases hmove with
    | statement call other performed =>
      rw [performed]
      exact ih.other other
    | apart row outcomes => exact ih.apart row outcomes

theorem Covers.updated (h : Covers who blueprint stopped t) (p : ChannelBlueprintRow → Bool)
    {f : ChannelBlueprintRow → ChannelBlueprintRow}
    (hf : ∀ r, (f r).state = r.state ∧ (f r).ownerId = r.ownerId ∧ (f r).blueprint = r.blueprint) :
    Covers who blueprint stopped (t.updateWhere who.channelId p f).2 := by
  intro r hr hstate howner
  rw [row_updateWhere] at hr
  obtain ⟨r₀, hr₀, rfl⟩ := Option.map_eq_some_iff.mp hr
  have hsame : (if p r₀ then r₀.amended f else r₀).state = r₀.state ∧
      (if p r₀ then r₀.amended f else r₀).ownerId = r₀.ownerId ∧
      (if p r₀ then r₀.amended f else r₀).blueprint = r₀.blueprint := by
    split_ifs
    · exact hf r₀
    · exact ⟨rfl, rfl, rfl⟩
  obtain ⟨hblueprint, hstopped⟩ := h r₀ hr₀ (hsame.1 ▸ hstate) (hsame.2.1 ▸ howner)
  refine ⟨hsame.2.2.trans hblueprint, fun m hm => ?_⟩
  rw [memberStopped, LifecycleTables.outcome, outcomes_updateWhere]
  exact hstopped m hm

theorem covers_captured (h : (t.capture who.channelId blueprint who.ownerId).1 = true) :
    Covers who blueprint [] (t.capture who.channelId blueprint who.ownerId).2 := by
  intro r hr hstate howner
  rw [LifecycleTables.capture, changed_updateWhere] at h
  rw [LifecycleTables.capture, row_updateWhere] at hr
  obtain ⟨r₀, hr₀, rfl⟩ := Option.map_eq_some_iff.mp hr
  rw [hr₀] at h
  rw [Option.any_some] at h
  refine ⟨?_, fun m hm => absurd hm List.not_mem_nil⟩
  rw [if_pos h]
  rfl

theorem Covers.recorded (h : Covers who blueprint stopped t) {member : ResumableMemberBlueprint}
    (hrecorded : (t.recordMemberOutcome who.channelId member.priorSessionId .stopped who.ownerId none).1 = true) :
    Covers who blueprint (stopped ++ [member])
      (t.recordMemberOutcome who.channelId member.priorSessionId .stopped who.ownerId none).2 := by
  unfold LifecycleTables.recordMemberOutcome at hrecorded ⊢
  split_ifs at hrecorded ⊢
  intro r hr hstate howner
  obtain ⟨hblueprint, hstopped⟩ := h r hr hstate howner
  refine ⟨hblueprint, fun m hm => ?_⟩
  rw [memberStopped, LifecycleTables.outcome, Table.find?_upsert]
  split_ifs with hkey
  · rfl
  · rcases List.mem_append.mp hm with hold | hnew
    · exact hstopped m hold
    · rw [List.mem_singleton.mp hnew] at hkey
      exact absurd rfl hkey

theorem Covers.found (h : Covers who blueprint stopped t) {member : ResumableMemberBlueprint}
    (hstopped : t.memberStopped who.channelId member.priorSessionId = true) :
    Covers who blueprint (stopped ++ [member]) t := by
  intro r hr hstate howner
  obtain ⟨hblueprint, hbefore⟩ := h r hr hstate howner
  refine ⟨hblueprint, fun m hm => ?_⟩
  rcases List.mem_append.mp hm with hold | hnew
  · exact hbefore m hold
  · rw [List.mem_singleton.mp hnew]
    exact hstopped

end Tables

section Calls
variable {α : Type} {who : Coordinator} {blueprint : ResumableChannelBlueprint}
  {stopped : List ResumableMemberBlueprint}

/-- A step that takes back nothing of what is covered. -/
def Preserves (who : Coordinator) (blueprint : ResumableChannelBlueprint) (stopped : List ResumableMemberBlueprint)
    (w w' : LifecycleWorld) : Prop :=
  Covers who blueprint stopped w.tables → Covers who blueprint stopped w'.tables

instance : IsPreorder LifecycleWorld (Preserves who blueprint stopped) where
  refl _ h := h
  trans _ _ _ h h' hcovers := h' (h hcovers)

theorem preserves_locked {x : Effect α} (h : Prog.Leads (Preserves who blueprint stopped) x) :
    Prog.Leads (Preserves who blueprint stopped) (locked x) := by
  intro w
  unfold locked
  split_ifs
  · exact fun hcovers => hcovers
  · exact h w

theorem preserves_renew (h : Heartbeat) : Prog.Leads (Preserves who blueprint stopped) (renew who.channelId h) := by
  unfold renew
  cases h.renewal with
  | suspend key => exact preserves_locked fun w hcovers => hcovers.updated _ fun _ => ⟨rfl, rfl, rfl⟩
  | resume key token => exact preserves_locked fun w hcovers => hcovers.updated _ fun _ => ⟨rfl, rfl, rfl⟩

theorem preserves_beats (target n : Nat) (w : LifecycleWorld) :
    Preserves who blueprint stopped w (beats who target n w) := by
  induction n generalizing w with
  | zero => exact refl_of (Preserves who blueprint stopped) w
  | succ n ih =>
    unfold beats
    cases w.heartbeats.find? who.ownerId with
    | none => exact refl_of (Preserves who blueprint stopped) w
    | some h =>
      dsimp only
      split_ifs
      · intro hcovers
        exact ih _ (preserves_renew h { w with now := max w.now h.nextBeat } hcovers)
      · exact refl_of (Preserves who blueprint stopped) w

theorem preserves_terminate (runtimeId : String) (generation : Nat) :
    Prog.Leads (Preserves who blueprint stopped) (execAct who (.terminate runtimeId generation)) := by
  refine leads_bind leads_read fun w => leads_bind leads_read fun w' => ?_
  refine leads_bind (fun _ hcovers => hcovers) fun _ => leads_bind ?_ fun _ => Prog.leads_ofExcept _
  exact fun w hcovers => preserves_beats _ _ w hcovers

def StopCall : Call → Prop
  | .look | .lookLocked | .leaseLost => True
  | .update (.renewSuspend _) => True
  | .act (.terminate _ _) | .act (.startHeartbeat _) | .act .stopHeartbeat => True
  | _ => False

theorem preserves_exec {k : Call} (hk : StopCall k) : Prog.Leads (Preserves who blueprint stopped) (exec who k) := by
  cases k with
  | look => exact leads_read
  | lookLocked => exact preserves_locked leads_read
  | leaseLost => exact fun _ hcovers => hcovers
  | launch request => cases hk
  | update u =>
    cases u with
    | renewSuspend key => exact preserves_locked fun w hcovers => hcovers.updated _ fun _ => ⟨rfl, rfl, rfl⟩
    | _ => cases hk
  | act a =>
    cases a with
    | terminate runtimeId generation => exact preserves_terminate runtimeId generation
    | startHeartbeat renewal => exact fun _ hcovers => hcovers
    | stopHeartbeat => exact fun _ hcovers => hcovers
    | _ => cases hk

end Calls

section Suspend
variable {α : Type} {l : LocalChannelLifecycle} {who : Coordinator} {key : String}
  {blueprint : ResumableChannelBlueprint} {stopped : List ResumableMemberBlueprint} {w : LifecycleWorld}

/-- The channel is marked only when all members of its blueprint are recorded stopped. -/
def MarksCovered (who : Coordinator) (key : String) (k : Call) (w : LifecycleWorld) : Prop :=
  k = .update (.markSuspended key) → ∃ blueprint, Covers who blueprint blueprint.members w.tables

abbrev Proceeds (who : Coordinator) (key : String) (Q : α → LifecycleWorld → Prop) (x : LifecycleTask α)
    (w : LifecycleWorld) : Prop :=
  x.Guarded (exec who) (OtherMoves who) (MarksCovered who key) Q w

theorem proceeds_unmarked {x : LifecycleTask α} (hx : x.Calls fun k => k ≠ .update (.markSuspended key)) :
    Proceeds who key (fun _ _ => True) x w :=
  guarded_calls (I := fun _ => True) hx (fun _ _ _ _ => trivial)
    (fun _ _ hk _ => ⟨fun hmark => absurd hmark hk, trivial⟩) trivial

theorem proceeds_stops {x : LifecycleTask α} (hx : x.Calls StopCall) (hw : Covers who blueprint stopped w.tables) :
    Proceeds who key (fun _ w => Covers who blueprint stopped w.tables) x w :=
  guarded_calls (I := fun w : LifecycleWorld => Covers who blueprint stopped w.tables) hx
    (fun _ _ hmoves hcovers => hcovers.relied hmoves)
    (fun k w hk hcovers => ⟨fun hmark => (by rw [hmark] at hk; cases hk), preserves_exec hk w hcovers⟩) hw

theorem proceeds_update {u : Update} {Q : Bool → LifecycleWorld → Prop}
    (hguard : ∀ w', OtherMoves who w w' → MarksCovered who key (.update u) w')
    (hchanged : ∀ w' : LifecycleWorld, OtherMoves who w w' → ∀ w'' : LifecycleWorld,
      w''.tables = (who.statement u w'.now w'.tables).2 → Q (who.statement u w'.now w'.tables).1 w'') :
    Proceeds who key Q (update u) w := by
  refine guarded_perform fun w' hmoves => ⟨hguard w' hmoves, fun changed w'' hcall => ?_⟩
  change locked (onTables (who.statement u)) w' = _ at hcall
  unfold locked at hcall
  split_ifs at hcall
  · cases hcall
  · cases hcall
    exact hchanged w' hmoves _ rfl

theorem proceeds_holding {u : Update} {lost : Failure} {Q : LifecycleWorld → Prop}
    (hguard : ∀ w', OtherMoves who w w' → MarksCovered who key (.update u) w')
    (hchanged : ∀ w' : LifecycleWorld, OtherMoves who w w' → (who.statement u w'.now w'.tables).1 = true →
      ∀ w'' : LifecycleWorld, w''.tables = (who.statement u w'.now w'.tables).2 → Q w'') :
    Proceeds who key (fun _ => Q) (holding (update u) lost) w := by
  refine guarded_bind (Q := fun changed w' => changed = true → Q w') (proceeds_update hguard ?_) ?_
  · exact fun w' hmoves w'' hw'' hchange => hchanged w' hmoves hchange w'' hw''
  · exact fun changed w' hw' => guarded_require hw'

theorem stops_look : (look : LifecycleTask LifecycleWorld).Calls StopCall := calls_perform trivial

theorem stops_renewing (lost : Failure) : (holding (update (.renewSuspend key)) lost).Calls StopCall :=
  calls_bind (calls_perform trivial) fun _ => calls_require _ _

theorem stops_leased {operation : LifecycleTask α} (h : operation.Calls StopCall) :
    (withSuspendLease key operation).Calls StopCall := by
  refine calls_bind (stops_renewing _) fun _ => calls_bind (calls_perform trivial) fun _ =>
    calls_bind (calls_attempt (calls_bind h fun result => ?_)) fun outcome =>
      calls_bind (calls_perform trivial) fun _ => calls_ofExcept outcome
  exact calls_bind (calls_perform trivial) fun isLost => calls_ite (calls_fail _)
    (calls_bind (stops_renewing _) fun _ => calls_pure _)

theorem stops_tolerating {stop : LifecycleTask Unit} (h : stop.Calls StopCall) :
    (tolerating stop).Calls StopCall :=
  calls_tryCatch h fun _ => calls_ite (calls_pure ()) (calls_fail _)

theorem stops_fence (ports : Ports) : (DurableChannelLifecycle.assertTeardownFence ports key).Calls StopCall :=
  calls_bind stops_look fun _ => calls_bind (calls_require _ _) fun _ => stops_renewing _

theorem stops_generation (priorSessionId : String) (generation : Nat) :
    (LocalChannelLifecycle.stopGeneration priorSessionId generation).Calls StopCall := by
  refine calls_bind stops_look fun w => ?_
  cases (LocalChannelLifecycle.generationRuntime w.daemon priorSessionId generation).filter
    fun r => !LocalChannelLifecycle.isOver r with
  | none => exact calls_pure ()
  | some r => exact calls_perform trivial

theorem stops_provider (member : ResumableMemberBlueprint) :
    (DurableChannelLifecycle.stopProvider (l.ports who) key member).Calls StopCall := by
  unfold DurableChannelLifecycle.stopProvider
  cases member.provider with
  | none => exact calls_pure ()
  | some ref =>
    refine stops_leased (calls_bind (stops_fence _) fun _ => stops_tolerating ?_)
    exact calls_bind (calls_ofExcept _) fun _ => calls_pure ()

theorem proceeds_stopMember (member : ResumableMemberBlueprint) (hw : Covers who blueprint stopped w.tables) :
    Proceeds who key (fun _ w => Covers who blueprint (stopped ++ [member]) w.tables)
      (DurableChannelLifecycle.stopMember (l.ports who) key member) w := by
  refine guarded_bind (proceeds_stops (stops_renewing _) hw) fun _ w hw => ?_
  refine guarded_bind (proceeds_stops (stops_leased (calls_bind (stops_fence _) fun _ =>
    stops_tolerating (stops_generation _ _))) hw) fun _ w hw => ?_
  refine guarded_bind (proceeds_stops (stops_provider member) hw) fun _ w hw => ?_
  refine proceeds_holding (fun w' _ hmark => by cases hmark) fun w' hmoves hrecorded w'' hw'' => ?_
  rw [hw'']
  exact (hw.relied hmoves).recorded hrecorded

theorem proceeds_suspendMember (active : List (String × Nat)) (member : ResumableMemberBlueprint)
    (hw : Covers who blueprint stopped w.tables) :
    Proceeds who key (fun _ w => Covers who blueprint (stopped ++ [member]) w.tables)
      (DurableChannelLifecycle.suspendMember (l.ports who) key active member) w := by
  refine guarded_bind (Q := fun seen w' => seen = w' ∧ Covers who blueprint stopped w'.tables) ?_
    fun seen w' hseen => ?_
  · refine guarded_perform fun w' hmoves => ⟨fun hmark => (by cases hmark), fun seen w'' hcall => ?_⟩
    change locked Prog.read w' = _ at hcall
    unfold locked at hcall
    split_ifs at hcall
    · cases hcall
    · cases hcall
      exact ⟨rfl, hw.relied hmoves⟩
  · obtain ⟨rfl, hcovers⟩ := hseen
    split_ifs with hpassed
    · exact hcovers.found hpassed.1
    · refine guarded_tryCatch (proceeds_stopMember member hcovers) fun error w' => ?_
      exact guarded_bind (proceeds_unmarked (calls_perform nofun)) fun _ _ _ => trivial

theorem proceeds_suspendClaimed (active : List (String × Nat)) :
    Proceeds who key (fun _ _ => True)
      (DurableChannelLifecycle.suspendClaimed (l.ports who) key blueprint active) w := by
  refine guarded_bind (Q := fun _ w => Covers who blueprint [] w.tables) ?_ fun _ w hcaptured => ?_
  · refine proceeds_holding (fun w' _ hmark => by cases hmark) fun w' hmoves hcapture w'' hw'' => ?_
    rw [hw'']
    exact covers_captured hcapture
  have hmembers : Proceeds who key (fun _ w => Covers who blueprint blueprint.members w.tables)
      (forEach (DurableChannelLifecycle.suspendMember (l.ports who) key active) blueprint.members) w :=
    guarded_forEach (J := fun stopped (w : LifecycleWorld) => Covers who blueprint stopped w.tables) blueprint.members
      (fun _ member _ hw => proceeds_suspendMember active member hw) hcaptured
  refine guarded_bind hmembers fun _ w hcovers => ?_
  refine guarded_bind (Q := fun _ _ => True) ?_ fun _ w _ => ?_
  · exact proceeds_holding (fun w' hmoves _ => ⟨blueprint, hcovers.relied hmoves⟩) fun _ _ _ _ _ => trivial
  · exact proceeds_unmarked (calls_bind (calls_perform nofun) fun _ => calls_pure _)

theorem proceeds_look (w : LifecycleWorld) : Proceeds who key (fun _ _ => True) look w :=
  proceeds_unmarked (calls_perform nofun)

theorem proceeds_durable (w : LifecycleWorld) :
    Proceeds who key (fun _ _ => True) (DurableChannelLifecycle.suspend (l.ports who) key blueprint) w := by
  refine guarded_bind (Q := fun _ _ => True) (guarded_ofExcept fun _ _ => trivial) fun _ w _ => ?_
  refine guarded_bind (proceeds_look w) fun seen w _ => ?_
  dsimp only
  split_ifs
  · trivial
  · trivial
  · refine guarded_bind (proceeds_look w) fun seen w _ => ?_
    split
    · trivial
    · refine guarded_bind (proceeds_unmarked (calls_perform nofun)) fun claimed w _ => ?_
      split_ifs
      · exact proceeds_suspendClaimed _
      · trivial

theorem proceeds_prepare (w : LifecycleWorld) :
    Proceeds who key (fun _ _ => True) (LocalChannelLifecycle.prepareSuspend who) w :=
  proceeds_unmarked (calls_bind (calls_perform nofun) fun _ => calls_bind (calls_perform nofun) fun _ =>
    calls_bind (calls_perform nofun) fun _ => calls_bind (calls_perform nofun) fun _ =>
      calls_forEach (fun _ => calls_bind (calls_perform nofun) fun _ => calls_perform nofun) _)

theorem proceeds_suspend (w : LifecycleWorld) :
    Proceeds who (suspendKey who.channelId) (fun _ _ => True) (l.suspend who) w := by
  refine guarded_bind (proceeds_look w) fun seen w _ => ?_
  split_ifs
  · trivial
  · refine guarded_bind (proceeds_prepare w) fun _ w _ => guarded_bind (proceeds_look w) fun seen w _ => ?_
    split
    · trivial
    · exact proceeds_durable w

end Suspend

/-- A suspension as a party of its own; its outcome is dropped. -/
def suspendParty (l : LocalChannelLifecycle) (who : Coordinator) : Party Coordinator Call Call.Reply Failure :=
  ⟨who, l.suspend who >>= fun _ => pure ()⟩

/-- The channel is suspended, and each member of its blueprint is recorded stopped. -/
def WhollySuspended (channelId : String) (t : LifecycleTables) : Prop :=
  ∃ r, t.row channelId = some r ∧ r.state = .suspended ∧
    ∀ m ∈ r.blueprint.members, t.memberStopped channelId m.priorSessionId = true

theorem suspended_of_covers {who : Coordinator} {key : String} {blueprint : ResumableChannelBlueprint}
    {t : LifecycleTables} (h : Covers who blueprint blueprint.members t)
    (hmarked : (t.markSuspended who.channelId key who.ownerId).1 = true) :
    WhollySuspended who.channelId (t.markSuspended who.channelId key who.ownerId).2 := by
  unfold LifecycleTables.markSuspended at hmarked ⊢
  rw [changed_updateWhere] at hmarked
  obtain ⟨r, hrow, hheld⟩ := (Option.any_eq_true _ _).mp hmarked
  obtain ⟨hstate, -, howner⟩ := ChannelBlueprintRow.suspendingBy_iff.mp hheld
  obtain ⟨hblueprint, hstopped⟩ := h r hrow hstate howner
  unfold WhollySuspended
  rw [row_updateWhere, hrow, Option.map_some, if_pos hheld]
  refine ⟨_, rfl, rfl, fun m hm => ?_⟩
  rw [memberStopped, LifecycleTables.outcome, outcomes_updateWhere]
  exact hstopped m (hblueprint ▸ hm)

/-- Whatever other owners do to the channel between the calls of a suspension, and whatever becomes of its stops, when
it marks the channel all members of the stored blueprint have been recorded stopped. -/
theorem marked_suspended (l : LocalChannelLifecycle) {who : Coordinator} {p : LifecyclePool} {i : Nat}
    (hparty : p.parties[i]? = some (suspendParty l who)) {ms : List LifecycleMove}
    (hothers : Trace.Meets (Pool.step exec) (fun p m => m ≠ .advance i →
      OtherMoves who p.world (Pool.step exec p m).world) p ms)
    (hmark : (Trace.run (Pool.step exec) p ms).pending i =
      some (.update (.markSuspended (suspendKey who.channelId)))) :
    let t := (Trace.run (Pool.step exec) p ms).world.tables
    let marked := t.markSuspended who.channelId (suspendKey who.channelId) who.ownerId
    marked.1 = true → WhollySuspended who.channelId marked.2 := by
  have hattends : Pool.Attends exec (OtherMoves who)
      (MarksCovered who (suspendKey who.channelId)) p i who :=
    ⟨_, hparty, guarded_bind (proceeds_suspend p.world) fun _ _ _ => trivial⟩
  obtain ⟨blueprint, hcovers⟩ := Pool.guarded_run hattends hothers hmark rfl
  exact suspended_of_covers hcovers

def redSuspender : Coordinator := LocalChannelLifecycle.resumer "red" "first"

def activeRed : ChannelBlueprintRow := { LocalChannelLifecycle.suspendedRow "red" "bob" with state := .active }

def suspendingRed : LifecyclePool :=
  ⟨{ LocalChannelLifecycle.twoSuspended with
      tables := { LifecycleTables.empty with blueprints := .ofRows [activeRed] } },
    [suspendParty ⟨"home", []⟩ redSuspender]⟩

/-- Another owner asks for the channel in the middle of the suspension. -/
def contestedMoves : List LifecycleMove :=
  List.replicate 12 (.advance 0) ++ .disturb (fun w =>
    { w with tables := w.tables.performed "red" ⟨w.now, "second", "key", .claimSuspend activeRed.blueprint⟩ }) ::
      List.replicate 11 (.advance 0)

theorem marked_suspended_contested :
    let t := (Trace.run (Pool.step exec) suspendingRed contestedMoves).world.tables
    let marked := t.markSuspended "red" "service-suspend-red" "first"
    marked.1 = true ∧ WhollySuspended "red" marked.2 := by
  have hown (n : Nat) (p : LifecyclePool) :
      Trace.Meets (Pool.step exec) (fun p m => m ≠ .advance 0 →
        OtherMoves redSuspender p.world (Pool.step exec p m).world) p (List.replicate n (.advance 0)) := by
    induction n generalizing p with
    | zero => trivial
    | succ n ih => exact ⟨fun hne => absurd rfl hne, ih _⟩
  have hparty : suspendingRed.parties[0]? = some (suspendParty ⟨"home", []⟩ redSuspender) := rfl
  have hothers : Trace.Meets (Pool.step exec) (fun p m => m ≠ .advance 0 →
      OtherMoves redSuspender p.world (Pool.step exec p m).world) suspendingRed contestedMoves := by
    rw [contestedMoves, Trace.meets_append]
    refine ⟨hown 12 _, fun _ => .single (.statement _ ?_ rfl), hown 11 _⟩
    change "second" ≠ "first"
    decide
  have haccepted : ((Trace.run (Pool.step exec) suspendingRed contestedMoves).world.tables.markSuspended "red"
      "service-suspend-red" "first").1 = true := by decide +kernel
  exact ⟨haccepted, marked_suspended _ hparty hothers rfl haccepted⟩

end Wardroom.Runtime
