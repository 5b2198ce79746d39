import Wardroom.Library.Trace
import Wardroom.Storage.RuntimeEdits

/-! # Which runtime holds a provider conversation

A claim looks for another live holder before it records a conversation. A
creation writes the conversation it was given without looking.
-/

namespace Wardroom.Runtime
open Wardroom.Library Wardroom.Domain Wardroom.Storage Prog

/-- The calls of the runtime repository that create runtimes, claim conversations and mark states. -/
inductive RepositoryCall where
  | create (input : CreateRuntimeInput)
  | tryClaimProviderThreadId (runtimeId providerThreadId : String) (allowReplace : Bool)
  | setProviderThreadId (runtimeId providerThreadId : String)
  | markState (runtimeId : String) (generation : Nat) (state : RuntimeState) (reason : Option String)

def RepositoryCall.after (d : Daemon) : RepositoryCall → Daemon
  | create input => (createRuntime input d).2
  | tryClaimProviderThreadId runtimeId providerThreadId allowReplace =>
    (Storage.tryClaimProviderThreadId runtimeId providerThreadId allowReplace d).2
  | setProviderThreadId runtimeId providerThreadId =>
    (Storage.setProviderThreadId runtimeId providerThreadId d).2
  | markState runtimeId generation state reason =>
    (Storage.markState runtimeId generation state reason d).2

/-- No two live runtimes hold one provider conversation. -/
def Exclusive (t : Runtimes) : Prop :=
  ∀ r ∈ t.rows, ∀ s ∈ t.rows, r.live = true → s.live = true →
    ∀ providerThreadId, r.providerThreadId = some providerThreadId →
      s.providerThreadId = some providerThreadId → r = s

/-- A runtime that has not ended is in a state that has not. -/
def Unended (t : Runtimes) : Prop := ∀ r ∈ t.rows, r.endedAt = none → r.state.occupies = true

/-- A creation that is stored names no conversation that a live runtime holds. -/
def OwnConversationNamed (d : Daemon) : RepositoryCall → Prop
  | .create input => d.accepts input = true → ∀ r ∈ d.runtimes.rows, r.live = true →
      ∀ providerThreadId, input.providerThreadId = some providerThreadId →
        r.providerThreadId ≠ some providerThreadId
  | _ => True

def Apart (t : Runtimes) : RuntimeEdit → Prop
  | .insert r => r.Fresh ∧ ∀ s ∈ t.rows, s.live = true →
      ∀ providerThreadId, r.providerThreadId = some providerThreadId →
        s.providerThreadId ≠ some providerThreadId
  | .mark _ _ _ _ _ => True
  | .hold runtimeId providerThreadId _ => Unheld t providerThreadId runtimeId

theorem live_marked {state : RuntimeState} {reason : Option String} {at' : String} {r : Runtime}
    (h : (Runtime.marked state reason at' r).live = true) : r.endedAt = none := by
  have hoccupies : state.occupies = true := (Bool.and_eq_true_iff.mp h).2
  have hends : state.ends = false := by rw [RuntimeState.ends_eq, hoccupies]; rfl
  have hopen := (Bool.and_eq_true_iff.mp h).1
  simpa [Runtime.marked, hends] using hopen

theorem live_on {t : Runtimes} (hunended : Unended t) {e : RuntimeEdit} {r : Runtime}
    (hr : r ∈ t.rows) (h : (e.on r).live = true) : r.live = true := by
  cases e with
  | insert row => exact h
  | mark runtimeId generation state reason at' =>
    rcases RuntimeEdit.on_mark runtimeId generation state reason at' r with ⟨hon, _⟩ | hon
    · rw [hon] at h
      have hopen := live_marked h
      simp [Runtime.live, hopen, hunended r hr hopen]
    · rwa [hon] at h
  | hold runtimeId providerThreadId at' =>
    rcases RuntimeEdit.on_hold runtimeId providerThreadId at' r with ⟨hon, _⟩ | ⟨hon, _⟩ <;>
      rw [hon] at h <;> exact h

theorem unended_apply {t : Runtimes} {e : RuntimeEdit} (h : Unended t) (he : Apart t e) :
    Unended (e.apply t) := by
  intro r hr hopen
  rcases RuntimeEdit.mem_apply hr with ⟨s, hs, rfl⟩ | ⟨rfl, _⟩
  · cases e with
    | insert row => exact h s hs hopen
    | mark runtimeId generation state reason at' =>
      rcases RuntimeEdit.on_mark runtimeId generation state reason at' s with ⟨hon, _⟩ | hon
      · rw [hon] at hopen ⊢
        cases hends : state.ends with
        | true => simp [Runtime.marked, hends] at hopen
        | false =>
          rw [RuntimeState.ends_eq, Bool.not_eq_false'] at hends
          exact hends
      · rw [hon] at hopen ⊢
        exact h s hs hopen
    | hold runtimeId providerThreadId at' =>
      rcases RuntimeEdit.on_hold runtimeId providerThreadId at' s with ⟨hon, _⟩ | ⟨hon, _⟩ <;>
        rw [hon] at hopen ⊢ <;> exact h s hs hopen
  · rw [he.1.1]
    rfl

theorem providerThreadId_on (e : RuntimeEdit) (r : Runtime) :
    (e.on r).providerThreadId = r.providerThreadId ∨
      ∃ providerThreadId at', e = .hold r.runtimeId providerThreadId at' ∧
        (e.on r).providerThreadId = some providerThreadId := by
  cases e with
  | insert row => exact .inl rfl
  | mark runtimeId generation state reason at' =>
    rcases RuntimeEdit.on_mark runtimeId generation state reason at' r with ⟨hon, _⟩ | hon <;>
      rw [hon] <;> exact .inl rfl
  | hold runtimeId providerThreadId at' =>
    rcases RuntimeEdit.on_hold runtimeId providerThreadId at' r with ⟨hon, rfl⟩ | ⟨hon, _⟩
    · exact .inr ⟨providerThreadId, at', rfl, by rw [hon]; rfl⟩
    · rw [hon]
      exact .inl rfl

theorem exclusive_apply {t : Runtimes} {e : RuntimeEdit} (hunended : Unended t)
    (h : Exclusive t) (he : Apart t e) : Exclusive (e.apply t) := by
  -- two old rows that share a conversation after the edit shared it before
  have hold : ∀ r ∈ t.rows, ∀ s ∈ t.rows, (e.on r).live = true → (e.on s).live = true →
      ∀ c, (e.on r).providerThreadId = some c → (e.on s).providerThreadId = some c → r = s := by
    intro r hr s hs hrlive hslive c hrc hsc
    have hrwas := live_on hunended hr hrlive
    have hswas := live_on hunended hs hslive
    rcases providerThreadId_on e r with hrsame | ⟨p, at', rfl, hrp⟩
    · rcases providerThreadId_on e s with hssame | ⟨p, at', rfl, hsp⟩
      · exact h r hr s hs hrwas hswas c (hrsame ▸ hrc) (hssame ▸ hsc)
      · obtain rfl : p = c := Option.some.inj (hsp.symm.trans hsc)
        by_contra hne
        exact he r hr hrwas (fun hid => hne (Table.eq_of_key hr hs hid)) (hrsame ▸ hrc)
    · obtain rfl : p = c := Option.some.inj (hrp.symm.trans hrc)
      by_contra hne
      have hother : s.runtimeId ≠ r.runtimeId := fun hid => hne (Table.eq_of_key hs hr hid).symm
      have hsheld : s.providerThreadId = some p := by
        simpa [RuntimeEdit.on, hother] using hsc
      exact he s hs hswas hother hsheld
  intro r hr s hs hrlive hslive c hrc hsc
  rcases RuntimeEdit.mem_apply hr with ⟨r, hr', rfl⟩ | ⟨rfl, _⟩
  · rcases RuntimeEdit.mem_apply hs with ⟨s, hs', rfl⟩ | ⟨rfl, _⟩
    · rw [hold r hr' s hs' hrlive hslive c hrc hsc]
    · exact absurd hrc (he.2 r hr' hrlive c hsc)
  · rcases RuntimeEdit.mem_apply hs with ⟨s, hs', rfl⟩ | ⟨hsame, _⟩
    · exact absurd hsc (he.2 s hs' hslive c hrc)
    · cases hsame
      rfl

/-- What every call of a run keeps: conversations are apart and no open runtime has ended. -/
def Settled (d : Daemon) : Prop := Exclusive d.runtimes ∧ Unended d.runtimes

theorem settled_of_edited {d d' : Daemon} (hd : Settled d) (h : EditedIn Apart d d') : Settled d' :=
  edited_keeps (I := fun t => Exclusive t ∧ Unended t)
    (fun _ _ ht he => ⟨exclusive_apply ht.2 ht.1 he, unended_apply ht.2 he⟩) h hd

theorem after_settled {d : Daemon} (hd : Settled d) (call : RepositoryCall)
    (h : OwnConversationNamed d call) : Settled (call.after d) := by
  cases call with
  | create input =>
    rcases createRuntime_cases d input with ⟨_, hsame⟩ | ⟨haccepts, r, hinserts, hinsert⟩
    · unfold Settled RepositoryCall.after
      rw [hsame]
      exact hd
    · have hput : (RepositoryCall.after d (.create input)).runtimes =
          RuntimeEdit.apply d.runtimes (.insert r) :=
        (congrArg (Option.getD · d.runtimes) hinsert).symm
      refine settled_of_edited hd ?_
      rw [EditedIn, hput]
      refine edited_one ⟨hinserts.fresh, fun s hs hlive c hc => h haccepts s hs hlive c ?_⟩
      rw [← hinserts.providerThreadId, hc]
  | tryClaimProviderThreadId runtimeId providerThreadId allowReplace =>
    exact settled_of_edited hd (leads_tryClaim (P := Apart) (fun _ _ hunheld => hunheld) d)
  | setProviderThreadId runtimeId providerThreadId =>
    exact settled_of_edited hd (leads_setProviderThreadId (P := Apart) (fun _ _ hunheld => hunheld) d)
  | markState runtimeId generation state reason =>
    exact settled_of_edited hd (leads_markState (P := Apart) (fun _ _ => trivial) d)

theorem named_of_exclusive {d : Daemon} (call : RepositoryCall)
    (h : Exclusive (call.after d).runtimes) : OwnConversationNamed d call := by
  cases call with
  | create input =>
    intro haccepts s hs hlive c hc hheld
    rcases createRuntime_cases d input with ⟨hrefused, _⟩ | ⟨_, r, hinserts, hinsert⟩
    · rw [haccepts] at hrefused
      cases hrefused
    · obtain ⟨hnew, hrows⟩ := Table.insert?_eq_some.mp hinsert
      have hr : r ∈ (createRuntime input d).2.runtimes.rows := by simp [hrows]
      have hs' : s ∈ (createRuntime input d).2.runtimes.rows := by simp [hrows, hs]
      have hrlive : r.live = true := by
        simp [Runtime.live, hinserts.fresh.1, hinserts.fresh.2, RuntimeState.occupies]
      have hsame := h r hr s hs' hrlive hlive c (hinserts.providerThreadId.trans hc) hheld
      rw [hsame] at hnew
      exact hnew ((Table.has_iff _ _).mpr (List.mem_map_of_mem hs))
  | tryClaimProviderThreadId runtimeId providerThreadId allowReplace => trivial
  | setProviderThreadId runtimeId providerThreadId => trivial
  | markState runtimeId generation state reason => trivial

/-- From a daemon without runtimes, conversations stay apart as long as, and only as long as, no
stored creation names one that a live runtime holds. -/
theorem exclusive_iff_named {d : Daemon} (hempty : d.runtimes = .empty) (calls : List RepositoryCall) :
    Trace.Meets RepositoryCall.after OwnConversationNamed d calls ↔
      Trace.Meets RepositoryCall.after (fun d call => Exclusive (call.after d).runtimes) d calls := by
  have hsettled : Settled d := by
    constructor <;> rw [hempty] <;> exact fun _ hr => (nomatch hr)
  clear hempty
  induction calls generalizing d with
  | nil => exact Iff.rfl
  | cons call calls ih =>
    constructor
    · rintro ⟨hnamed, hrest⟩
      have hnext := after_settled hsettled call hnamed
      exact ⟨hnext.1, (ih hnext).mp hrest⟩
    · rintro ⟨hexclusive, hrest⟩
      have hnamed := named_of_exclusive call hexclusive
      exact ⟨hnamed, (ih (after_settled hsettled call hnamed)).mpr hrest⟩

/-- Two sessions and no runtime. -/
def ashore : Daemon :=
  let enrol : Command MutationReceipt := do
    let _ ← insertSession { id := "bob", role := some .worker }
    insertSession { id := "bobby", role := some .worker }
  .initial (enrol (World.initial .empty tally tally)).2

def firstRuntime (sessionId : String) (providerThreadId : Option String) : CreateRuntimeInput where
  runtimeId := "runtime-" ++ sessionId
  homeAuthorityId := "home"
  sessionId := sessionId
  generation := 1
  machineId := "ship"
  providerThreadId := providerThreadId
  effectiveCwd := none
  effectiveHome := none

/-- Bobby's runtime finds the conversation of Bob's taken. -/
def claimedTwice : List RepositoryCall :=
  [.create (firstRuntime "bob" (some "conversation")), .create (firstRuntime "bobby" none),
    .tryClaimProviderThreadId "runtime-bobby" "conversation" false]

theorem exclusive_iff_named_claimed :
    Trace.Meets RepositoryCall.after (fun d call => Exclusive (call.after d).runtimes) ashore
      claimedTwice := by
  refine (exclusive_iff_named (d := ashore) rfl claimedTwice).mp ⟨?_, ?_, trivial, trivial⟩
  · intro _ r hr
    exact (nomatch hr)
  · intro _ r _ _ c hc
    cases hc

/-- Bobby's runtime is created with it. -/
def createdTwice : List RepositoryCall :=
  [.create (firstRuntime "bob" (some "conversation")),
    .create (firstRuntime "bobby" (some "conversation"))]

theorem created_not_exclusive :
    ¬Exclusive (Trace.run RepositoryCall.after ashore createdTwice).runtimes := by
  intro h
  have hshared : ∃ r ∈ (Trace.run RepositoryCall.after ashore createdTwice).runtimes.rows,
      ∃ s ∈ (Trace.run RepositoryCall.after ashore createdTwice).runtimes.rows,
        r.live = true ∧ s.live = true ∧ r.providerThreadId = some "conversation" ∧
          s.providerThreadId = some "conversation" ∧ r ≠ s := by
    decide +kernel
  obtain ⟨r, hr, s, hs, hrlive, hslive, hrc, hsc, hne⟩ := hshared
  exact hne (h r hr s hs hrlive hslive _ hrc hsc)

end Wardroom.Runtime
