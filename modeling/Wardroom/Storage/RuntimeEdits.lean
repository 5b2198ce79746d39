import Mathlib.Logic.Relation
import Wardroom.Runtime.Service

/-! # What the calls of the daemon do to the runtimes

A call inserts new runtimes, marks states and records provider conversations,
and nothing else. What is known of the edits of a call holds of each of them
at the table it is made in.
-/

namespace Wardroom.Domain.Runtime

/-- A runtime is inserted before anything has happened to it. -/
def Fresh (r : Runtime) : Prop := r.state = .creating ∧ r.endedAt = none

/-- The runtimes that hold their provider conversation against another. -/
def live (r : Runtime) : Bool := r.endedAt.isNone && r.state.occupies

end Wardroom.Domain.Runtime

namespace Wardroom.Domain.RuntimeState

theorem ends_eq (state : RuntimeState) : state.ends = !state.occupies := by
  cases state <;> rfl

end Wardroom.Domain.RuntimeState

namespace Wardroom.Storage
open Wardroom.Library Wardroom.Domain Prog

abbrev Runtimes := Table Runtime.runtimeId

inductive RuntimeEdit where
  | insert (r : Runtime)
  | mark (runtimeId : String) (generation : Nat) (state : RuntimeState) (reason : Option String)
      (at' : String)
  | hold (runtimeId providerThreadId at' : String)

/-- A row of the runtime id that another row holds is not inserted. -/
def RuntimeEdit.apply (t : Runtimes) : RuntimeEdit → Runtimes
  | insert r => t.put r
  | mark runtimeId generation state reason at' =>
    t.update (fun r => r.runtimeId = runtimeId ∧ r.generation = generation)
      (Runtime.marked state reason at') (Runtime.runtimeId_marked state reason at')
  | hold runtimeId providerThreadId at' =>
    t.update (fun r => r.runtimeId = runtimeId) (Runtime.holding providerThreadId at')
      (Runtime.runtimeId_holding providerThreadId at')

/-- What the edit makes of a row that is there. -/
def RuntimeEdit.on : RuntimeEdit → Runtime → Runtime
  | insert _, r => r
  | mark runtimeId generation state reason at', r =>
    if r.runtimeId = runtimeId ∧ r.generation = generation then Runtime.marked state reason at' r
    else r
  | hold runtimeId providerThreadId at', r =>
    if r.runtimeId = runtimeId then Runtime.holding providerThreadId at' r else r

theorem RuntimeEdit.on_mark (runtimeId : String) (generation : Nat) (state : RuntimeState)
    (reason : Option String) (at' : String) (r : Runtime) :
    (mark runtimeId generation state reason at').on r = Runtime.marked state reason at' r ∧
        r.runtimeId = runtimeId ∨
      (mark runtimeId generation state reason at').on r = r := by
  by_cases h : r.runtimeId = runtimeId ∧ r.generation = generation
  · exact .inl ⟨if_pos h, h.1⟩
  · exact .inr (if_neg h)

theorem RuntimeEdit.on_hold (runtimeId providerThreadId at' : String) (r : Runtime) :
    (hold runtimeId providerThreadId at').on r = Runtime.holding providerThreadId at' r ∧
        r.runtimeId = runtimeId ∨
      (hold runtimeId providerThreadId at').on r = r ∧ r.runtimeId ≠ runtimeId := by
  by_cases h : r.runtimeId = runtimeId
  · exact .inl ⟨if_pos h, h⟩
  · exact .inr ⟨if_neg h, h⟩

theorem RuntimeEdit.runtimeId_on (e : RuntimeEdit) (r : Runtime) :
    (e.on r).runtimeId = r.runtimeId := by
  cases e with
  | insert row => rfl
  | mark runtimeId generation state reason at' =>
    rcases on_mark runtimeId generation state reason at' r with ⟨h, _⟩ | h <;> rw [h]
    rfl
  | hold runtimeId providerThreadId at' =>
    rcases on_hold runtimeId providerThreadId at' r with ⟨h, _⟩ | ⟨h, _⟩ <;> rw [h]
    rfl

variable {t : Runtimes}

theorem RuntimeEdit.mem_apply {e : RuntimeEdit} {r : Runtime}
    (h : r ∈ (e.apply t).rows) :
    (∃ s ∈ t.rows, r = e.on s) ∨ e = .insert r ∧ t.has r.runtimeId = false := by
  cases e with
  | insert row =>
    cases hinsert : t.insert? row with
    | none =>
      rw [apply, Table.put, hinsert] at h
      exact .inl ⟨r, h, rfl⟩
    | some u =>
      obtain ⟨hnew, hrows⟩ := Table.insert?_eq_some.mp hinsert
      rw [apply, Table.put, hinsert, Option.getD_some, hrows, List.mem_append,
        List.mem_singleton] at h
      rcases h with hr | rfl
      · exact .inl ⟨r, hr, rfl⟩
      · exact .inr ⟨rfl, Bool.eq_false_iff.mpr hnew⟩
  | mark runtimeId generation state reason at' =>
    obtain ⟨s, hs, rfl⟩ := List.mem_map.mp h
    exact .inl ⟨s, hs, by simp only [on, decide_eq_true_eq]⟩
  | hold runtimeId providerThreadId at' =>
    obtain ⟨s, hs, rfl⟩ := List.mem_map.mp h
    exact .inl ⟨s, hs, by simp only [on, decide_eq_true_eq]⟩

theorem RuntimeEdit.mem_apply_of_mem (e : RuntimeEdit) {r : Runtime}
    (h : r ∈ t.rows) : e.on r ∈ (e.apply t).rows := by
  cases e with
  | insert row =>
    rcases Table.rows_put t row with hsame | hnew
    · exact hsame ▸ h
    · exact hnew ▸ List.mem_append_left _ h
  | mark runtimeId generation state reason at' =>
    refine List.mem_map.mpr ⟨r, h, ?_⟩
    simp only [on, decide_eq_true_eq]
  | hold runtimeId providerThreadId at' =>
    refine List.mem_map.mpr ⟨r, h, ?_⟩
    simp only [on, decide_eq_true_eq]

theorem RuntimeEdit.find?_apply (e : RuntimeEdit) {runtimeId : String} {r : Runtime}
    (h : t.find? runtimeId = some r) : (e.apply t).find? runtimeId = some (e.on r) := by
  obtain ⟨hr, hid⟩ := Table.find?_some h
  have hfound := Table.find?_of_mem (e.mem_apply_of_mem hr)
  rwa [e.runtimeId_on, hid] at hfound

/-- No live runtime but `runtimeId` holds the conversation. -/
def Unheld (t : Runtimes) (providerThreadId runtimeId : String) : Prop :=
  ∀ r ∈ t.rows, r.live = true → r.runtimeId ≠ runtimeId → r.providerThreadId ≠ some providerThreadId

section Edited

variable (P : Runtimes → RuntimeEdit → Prop)

def EditStep (t u : Runtimes) : Prop := ∃ e, P t e ∧ u = e.apply t

/-- Edits that satisfy `P` lead from one table to the other. -/
def Edited : Runtimes → Runtimes → Prop := Relation.ReflTransGen (EditStep P)

/-- The runtimes of two daemons. -/
def EditedIn (d d' : Daemon) : Prop := Edited P d.runtimes d'.runtimes

variable {P}

instance : IsPreorder Daemon (EditedIn P) where
  refl _ := .refl
  trans _ _ _ := Relation.ReflTransGen.trans

theorem edited_one {e : RuntimeEdit} (h : P t e) : Edited P t (e.apply t) :=
  .single ⟨e, h, rfl⟩

theorem edited_keeps {I : Runtimes → Prop} (hedit : ∀ t e, I t → P t e → I (e.apply t))
    {t u : Runtimes} (h : Edited P t u) (ht : I t) : I u := by
  induction h with
  | refl => exact ht
  | tail _ hlast ih =>
    obtain ⟨e, hP, rfl⟩ := hlast
    exact hedit _ e ih hP

theorem leads_of_runtimes {α : Type} {x : Action α} (h : Frame Daemon.runtimes x) :
    Leads (EditedIn P) x := by
  intro d
  change Edited P d.runtimes (x d).2.runtimes
  rw [h d]
  exact .refl

theorem leads_onStore {α : Type} (x : Command α) : Leads (EditedIn P) (onStore x) :=
  leads_of_runtimes fun _ => rfl

theorem leads_transaction {α : Type} {body : Action α} (h : Leads (EditedIn P) body) :
    Leads (EditedIn P) (transaction body) := by
  refine leads_of_wp fun d => wp_transaction (refl_of (EditedIn P) d) ?_
  exact wp_mono (h.wp d) (fun _ _ hled => hled) fun _ _ _ => refl_of (EditedIn P) d

theorem leads_emitLifecycle (runtimeId : String) :
    Leads (EditedIn P) (emitLifecycle runtimeId) := by
  refine leads_bind leads_read fun d => ?_
  cases d.runtime runtimeId with
  | none => exact leads_pure _
  | some runtime =>
    cases (d.binding runtimeId).bind RuntimeBinding.channelId with
    | none => exact leads_pure _
    | some channelId =>
      exact leads_ite (leads_pure _) (leads_bind (leads_onStore _) fun _ => leads_pure _)

theorem leads_requireRuntime {R : Daemon → Daemon → Prop} [IsPreorder Daemon R] (runtimeId : String) :
    Leads R (requireRuntime runtimeId) := by
  refine leads_bind leads_read fun d => ?_
  cases d.runtime runtimeId with
  | none => exact leads_fail _
  | some runtime => exact leads_pure _

theorem leads_markState {runtimeId : String} {generation : Nat} {state : RuntimeState}
    {reason : Option String} (h : ∀ t at', P t (.mark runtimeId generation state reason at')) :
    Leads (EditedIn P) (markState runtimeId generation state reason) := by
  refine leads_bind (leads_transaction ?_) fun _ => leads_emitLifecycle runtimeId
  refine leads_bind (leads_requireRuntime runtimeId) fun runtime => leads_ite (leads_fail _) ?_
  exact leads_bind (leads_onStore _) fun at' d => edited_one (h d.runtimes at')

theorem mem_list {d : Daemon} {r : Runtime} : r ∈ d.list ↔ r ∈ d.runtimes.rows :=
  List.mem_insertionSort _

theorem unheld_of_search {d : Daemon} {providerThreadId runtimeId : String}
    (h : d.providerThreadHolder providerThreadId runtimeId = none) :
    Unheld d.runtimes providerThreadId runtimeId := by
  intro r hr hlive hother hheld
  have hnot := List.find?_eq_none.mp h r (mem_list.mpr hr)
  have hparts : r.endedAt.isNone = true ∧ r.state.occupies = true := by
    simpa [Runtime.live] using hlive
  simp [hheld, hother, hparts] at hnot

theorem leads_tryClaim {runtimeId providerThreadId : String} {allowReplace : Bool}
    (h : ∀ t at', Unheld t providerThreadId runtimeId → P t (.hold runtimeId providerThreadId at')) :
    Leads (EditedIn P) (tryClaimProviderThreadId runtimeId providerThreadId allowReplace) := by
  refine leads_ite (leads_pure _) (leads_transaction ?_)
  refine leads_of_wp fun d => ?_
  rw [wp_bind, wp_read]
  cases d.runtime runtimeId with
  | none => exact refl_of (EditedIn P) d
  | some runtime =>
    have hsame := refl_of (EditedIn P) d
    simp only [wp_ite, wp_pure, wp_bind, wp_onStore, wp_now, wp_modify, wp_modifyDatabase]
    refine ⟨fun _ => hsame, fun _ => ⟨fun _ => hsame, fun _ => ⟨fun _ => hsame, fun hunheld => ?_⟩⟩⟩
    exact edited_one (h _ _ (unheld_of_search (by simpa using hunheld)))

theorem leads_setProviderThreadId {runtimeId providerThreadId : String}
    (h : ∀ t at', Unheld t providerThreadId runtimeId → P t (.hold runtimeId providerThreadId at')) :
    Leads (EditedIn P) (setProviderThreadId runtimeId providerThreadId) := by
  refine leads_bind (leads_tryClaim h) fun outcome => ?_
  cases outcome with
  | claimed runtime => exact leads_pure _
  | refused reason => cases reason <;> exact leads_fail _

structure CreateRuntimeInput.Inserts (input : CreateRuntimeInput) (r : Runtime) : Prop where
  fresh : r.Fresh
  runtimeId : r.runtimeId = input.runtimeId
  generation : r.generation = input.generation
  providerThreadId : r.providerThreadId = input.providerThreadId

/-- When a creation is stored. -/
def Daemon.accepts (d : Daemon) (input : CreateRuntimeInput) : Bool :=
  input.homeAuthorityId ≠ "" && input.sessionId ≠ "" && input.runtimeId ≠ "" &&
    1 ≤ input.generation && d.store.transactionDepth = 0 && d.store.importSession.isNone &&
    d.activeRuntimes input.machineId < d.maxActiveRuntimes input.machineId &&
    d.db.sessions.has input.sessionId && !d.runtimes.has input.runtimeId &&
    !d.generationTaken input.homeAuthorityId input.sessionId input.generation

theorem createRuntime_cases (d : Daemon) (input : CreateRuntimeInput) :
    d.accepts input = false ∧ (createRuntime input d).2.runtimes = d.runtimes ∨
      d.accepts input = true ∧ ∃ r, input.Inserts r ∧
        d.runtimes.insert? r = some (createRuntime input d).2.runtimes := by
  let Created (u : Runtimes) : Prop := d.accepts input = false ∧ u = d.runtimes ∨
    d.accepts input = true ∧ ∃ r, input.Inserts r ∧ d.runtimes.insert? r = some u
  have hcreated : wp (createRuntime input) (fun _ d' => Created d'.runtimes)
      (fun _ d' => Created d'.runtimes) d := by
    have hrefused : d.accepts input = false → Created d.runtimes := fun h => .inl ⟨h, rfl⟩
    unfold createRuntime
    rw [wp_bind, wp_ofExcept]
    refine ⟨fun _ hvalid => wp_transaction_iff.mpr ⟨fun hbusy => hrefused ?_, fun hfree => ?_⟩,
      fun _ hinvalid => hrefused ?_⟩
    · rcases hbusy with hdepth | hsession
      · simp [Daemon.accepts, hdepth.ne']
      · simp [Daemon.accepts, Option.isNone_eq_false_iff.mpr hsession]
    · simp only [wp_bind, wp_read, wp_ite, wp_fail, wp_onStore, wp_now]
      refine ⟨fun hfull => hrefused ?_, fun hroom => ⟨fun hknown => ?_, fun hunknown => ?_⟩⟩
      · simp [Daemon.accepts, hfull]
      · cases hinsert : d.runtimes.insert? _ with
        | none =>
          have htaken : d.runtimes.has input.runtimeId = true := Table.insert?_eq_none.mp hinsert
          exact hrefused (by simp [Daemon.accepts, htaken])
        | some runtimes =>
          simp only [wp_ite, wp_bind, wp_fail, wp_modify, wp_read]
          refine ⟨fun htaken => hrefused ?_, fun hnew => ?_⟩
          · simp [Daemon.accepts, htaken]
          · have hfound : runtimes.find? input.runtimeId = some _ :=
              (Table.find?_insert hinsert _).trans (if_pos rfl)
            simp only [Daemon.runtime, hfound]
            refine .inr ⟨?_, _, ⟨⟨rfl, rfl⟩, rfl, rfl, rfl⟩, hinsert⟩
            have hfresh : d.runtimes.has input.runtimeId = false :=
              Bool.eq_false_iff.mpr (Table.insert?_eq_some.mp hinsert).1
            have hnamed : ¬(input.homeAuthorityId = "" ∨ input.sessionId = "" ∨
                input.runtimeId = "" ∨ input.generation < 1) := by
              intro h
              rw [validateIdentity, if_pos h] at hvalid
              cases hvalid
            simp only [not_or, Nat.not_lt, Nat.le_zero, Bool.not_eq_true, Option.isSome_eq_false_iff]
              at hnamed hfree
            have hlimit : d.activeRuntimes input.machineId < d.maxActiveRuntimes input.machineId :=
              Nat.lt_of_not_le hroom
            simp [Daemon.accepts, hnamed, hfree.1, hfree.2, hlimit, hknown, hnew, hfresh]
      · have hno : Created d.runtimes := hrefused (by simp [Daemon.accepts, hunknown])
        generalize Daemon.runtime _ input.runtimeId = found
        cases found <;> exact hno
    · have hinvalid' : input.homeAuthorityId = "" ∨ input.sessionId = "" ∨ input.runtimeId = "" ∨
          input.generation < 1 := by
        by_contra hvalid
        rw [validateIdentity, if_neg hvalid] at hinvalid
        cases hinvalid
      rcases hinvalid' with h | h | h | h <;> simp [Daemon.accepts, h]
  rcases cases_of_wp hcreated with ⟨_, _, h⟩ | ⟨_, _, h⟩ <;> exact h

theorem leads_createRuntime {input : CreateRuntimeInput}
    (h : ∀ t r, input.Inserts r → P t (.insert r)) :
    Leads (EditedIn P) (createRuntime input) := by
  intro d
  rcases createRuntime_cases d input with ⟨_, hsame⟩ | ⟨_, r, hinserts, hinsert⟩
  · rw [EditedIn, hsame]
    exact .refl
  · have hput : (createRuntime input d).2.runtimes = RuntimeEdit.apply d.runtimes (.insert r) :=
      (congrArg (Option.getD · d.runtimes) hinsert).symm
    rw [EditedIn, hput]
    exact edited_one (h _ r hinserts)

theorem leads_bindRuntime (input : BindRuntimeInput) : Leads (EditedIn P) (bindRuntime input) := by
  refine leads_bind (leads_ofExcept _) fun _ => leads_ite (leads_fail _) ?_
  refine leads_bind (leads_transaction ?_) fun binding =>
    leads_bind (leads_emitLifecycle _) fun _ => leads_pure _
  refine leads_bind (leads_requireRuntime _) fun runtime => leads_ite (leads_fail _)
    (leads_ite (leads_fail _) (leads_bind (leads_onStore _) fun boundAt =>
      leads_bind leads_read fun d => ?_))
  dsimp only
  generalize d.bindings.insert? _ = inserted
  cases inserted with
  | none => exact leads_fail _
  | some bindings =>
    exact leads_ite (leads_fail _)
      (leads_bind (leads_of_runtimes (frame_modify fun _ => rfl)) fun _ => leads_pure _)

end Edited
end Wardroom.Storage
