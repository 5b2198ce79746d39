import Wardroom.Runtime.Native.Messages
import Wardroom.Runtime.Service
import Wardroom.Storage.Frames

/-! # What a send does to the store

A send commits what its plan describes, or nothing. What follows the commit
touches runtimes and journal rows that are no messages.
-/

namespace Wardroom.Storage
open Wardroom.Library Wardroom.Domain Prog

/-- What the authority of a send is read from: the roster, the threads and the messages. -/
def Database.conversation (db : Database) : Table Session.id × Table Channel.id ×
    Table Membership.key × Table ThreadLifecycle.threadRootEventId × List (Change × Json) :=
  (db.sessions, db.channels, db.memberships, db.messageThreads, db.changes.sent)

theorem unmoved_conversation {payload : Payload} (h : ∀ event, payload ≠ .messageSent event) :
    Unmoved Database.conversation payload := by
  intro db channelId at' ordinal
  simp only [Database.conversation, Database.record_sessions, Database.record_channels,
    Database.record_memberships, Database.record_messageThreads, Database.record_changes,
    sent_append_other h]

section Daemon

variable {α β : Type} {d : Daemon}

theorem frame_onStore {part : World → β} {x : Command α} (h : Frame part x) :
    Frame (fun d : Daemon => part d.store) (onStore x) := fun d => h d.store

/-- What neither the runtime tables nor the journal rows about runtimes and deliveries move. -/
structure Steady (part : Daemon → β) : Prop where
  restore : ∀ d d', part d' = part d → part (Daemon.restore d.tables d') = part d
  runtimes : ∀ d runtimes, part { d with runtimes := runtimes } = part d
  now : Frame part (onStore now)
  lifecycle : ∀ channelId sessionId runtimeId generation state endedAt,
    Frame part (onStore (recordRuntimeLifecycle channelId sessionId runtimeId generation state endedAt))
  delivery : ∀ messageId statuses, Frame part (onStore (appendMessageDelivery messageId statuses))

variable {part : Daemon → β}

theorem frame_transaction {body : Action α} (hsteady : Steady part) (h : Frame part body) :
    Frame part (transaction body) := by
  intro d
  unfold transaction
  by_cases hbusy : 0 < d.store.transactionDepth ∨ d.store.importSession.isSome
  · rw [if_pos hbusy]
  · rw [if_neg hbusy]
    have hrolled : Frame part (atomically Daemon.tables Daemon.restore body) := by
      refine frame_of_wp fun s => ?_
      rw [wp_atomically]
      exact wp_mono (h.wp s) (fun _ _ hsame => hsame) fun _ _ hsame => hsteady.restore _ _ hsame
    exact hrolled d

theorem frame_requireRuntime (runtimeId : String) : Frame part (requireRuntime runtimeId) := by
  refine frame_bind frame_read fun d => ?_
  cases d.runtime runtimeId with
  | none => exact frame_fail _
  | some runtime => exact frame_pure _

theorem frame_emitLifecycle (hsteady : Steady part) (runtimeId : String) :
    Frame part (emitLifecycle runtimeId) := by
  refine frame_bind frame_read fun d => ?_
  cases d.runtime runtimeId with
  | none => exact frame_pure _
  | some runtime =>
    cases (d.binding runtimeId).bind RuntimeBinding.channelId with
    | none => exact frame_pure _
    | some channelId =>
      exact frame_ite (frame_pure _)
        (frame_bind (hsteady.lifecycle _ _ _ _ _ _) fun _ => frame_pure _)

theorem frame_markState (hsteady : Steady part) (runtimeId : String) (generation : Nat)
    (state : RuntimeState) (reason : Option String) :
    Frame part (markState runtimeId generation state reason) := by
  refine frame_bind (frame_transaction hsteady ?_) fun _ => frame_emitLifecycle hsteady runtimeId
  refine frame_bind (frame_requireRuntime runtimeId) fun runtime => frame_ite (frame_fail _) ?_
  exact frame_bind hsteady.now fun _ => frame_modify fun d => hsteady.runtimes d _

theorem frame_createRuntime (hsteady : Steady part) (input : CreateRuntimeInput) :
    Frame part (createRuntime input) := by
  refine frame_bind (frame_ofExcept _) fun _ => frame_transaction hsteady
    (frame_bind frame_read fun d => frame_ite (frame_fail _) (frame_bind hsteady.now
      fun createdAt => frame_ite ?_ ?_))
  · generalize d.runtimes.insert? _ = inserted
    cases inserted with
    | none =>
      refine frame_bind (frame_fail _) fun _ => frame_bind frame_read fun d => ?_
      cases d.runtime input.runtimeId with
      | none => exact frame_fail _
      | some runtime => exact frame_pure _
    | some runtimes =>
      refine frame_ite (frame_bind (frame_fail _) fun _ => frame_bind frame_read fun d => ?_)
        (frame_bind (frame_modify fun d => hsteady.runtimes d _) fun _ => frame_bind frame_read fun d => ?_)
      all_goals
        cases d.runtime input.runtimeId with
        | none => exact frame_fail _
        | some runtime => exact frame_pure _
  · refine frame_bind frame_read fun d => ?_
    cases d.runtime input.runtimeId with
    | none => exact frame_fail _
    | some runtime => exact frame_pure _

theorem frame_bindRuntime (hsteady : Steady part)
    (hbindings : ∀ d bindings, part { d with bindings := bindings } = part d) (input : BindRuntimeInput) :
    Frame part (bindRuntime input) := by
  refine frame_bind (frame_ofExcept _) fun _ => frame_ite (frame_fail _)
    (frame_bind (frame_transaction hsteady ?_) fun binding =>
      frame_bind (frame_emitLifecycle hsteady _) fun _ => frame_pure _)
  refine frame_bind (frame_requireRuntime _) fun runtime => frame_ite (frame_fail _)
    (frame_ite (frame_fail _) (frame_bind hsteady.now fun boundAt =>
      frame_bind frame_read fun d => ?_))
  dsimp only
  generalize d.bindings.insert? _ = inserted
  cases inserted with
  | none => exact frame_fail _
  | some bindings =>
    exact frame_ite (frame_fail _)
      (frame_bind (frame_modify fun d => hbindings d _) fun _ => frame_pure _)

theorem frame_setProviderThreadId (hsteady : Steady part)
    (hsessions : ∀ f : Database → Table Session.id,
      Frame part (onStore (modifyDatabase fun db => { db with sessions := f db }))) (runtimeId providerThreadId : String) :
    Frame part (setProviderThreadId runtimeId providerThreadId) := by
  refine frame_bind (frame_ite (frame_pure _) (frame_transaction hsteady (frame_bind frame_read fun d => ?_)))
    fun outcome => ?_
  · cases d.runtime runtimeId with
    | none => exact frame_pure _
    | some runtime =>
      refine frame_ite (frame_pure _) (frame_ite (frame_pure _) (frame_ite (frame_pure _) ?_))
      exact frame_bind hsteady.now fun _ => frame_bind (frame_modify fun d => hsteady.runtimes d _) fun _ =>
        frame_bind (hsessions fun db => db.sessions.update (fun s => s.id = runtime.sessionId ∧ s.endedAt = none)
          (fun s => { s with providerThreadId := some providerThreadId }) (Session.id_holding providerThreadId)) fun _ =>
          frame_pure _
  · cases outcome with
    | claimed runtime => exact frame_pure _
    | refused reason => cases reason <;> exact frame_fail _

theorem frame_depth {x : Command α} {P : World → α → Database → Prop}
    (h : ∀ w, Ensures x w (P w)) : Frame World.transactionDepth x :=
  fun w => (h w).keeps.transactionDepth

theorem steady_conversation : Steady fun d : Daemon => d.db.conversation where
  restore _ _ _ := rfl
  runtimes _ _ := rfl
  now := frame_onStore (leaves_iff_frame.mp leaves_now)
  lifecycle _ _ _ _ _ _ := frame_onStore (leaves_iff_frame.mp
    (recordRuntimeLifecycle_leaves _ _ _ _ _ _ fun _ =>
      unmoved_conversation fun _ => Payload.noConfusion))
  delivery _ _ := frame_onStore (leaves_iff_frame.mp
    (appendMessageDelivery_leaves _ _ fun _ _ => unmoved_conversation fun _ => Payload.noConfusion))

theorem steady_depth : Steady fun d : Daemon => d.store.transactionDepth where
  restore _ _ h := h
  runtimes _ _ := rfl
  now _ := rfl
  lifecycle _ _ _ _ _ _ := frame_onStore
    (frame_depth fun w => recordRuntimeLifecycle_effect w _ _ _ _ _ _)
  delivery _ _ := frame_onStore (frame_depth fun w => appendMessageDelivery_effect w _ _)

end Daemon
end Wardroom.Storage

namespace Wardroom.Application
open Wardroom.Library Wardroom.Domain Wardroom.Storage Prog

theorem commitMessage_settles {w : World} (h : w.transactionDepth = 0)
    (input : CanonicalMessageCommitInput) :
    Settles (commitMessage input) w fun receipt db' => Committed input w.db receipt db' := by
  simp only [commitMessage, Settles, wp_bind, wp_throwIf]
  refine ⟨fun _ => ⟨trivial, .refl w⟩, fun _ => ⟨fun _ => ⟨trivial, .refl w⟩, fun _ => ?_⟩⟩
  exact write_settles rfl h (ensures_write fun n => commitMessage_effect _ input)

end Wardroom.Application

namespace Wardroom.Runtime
open Wardroom.Library Wardroom.Domain Wardroom.Storage Prog

variable {β : Type} {part : Daemon → β} {d : Daemon} {caller : Caller} {request : SendRequest}

theorem frame_authorizeDelivery (runtimeId : String) (generation : Nat) (messageId : String)
    (actor : RuntimeActor) : Frame part (authorizeDelivery runtimeId generation messageId actor) := by
  refine frame_bind (frame_requireRuntime runtimeId) fun runtime => frame_bind frame_read fun d => ?_
  refine frame_ite (frame_fail _) ?_
  cases (d.db.canonicalMessageSender messageId).filter fun id => id ≠ "" with
  | none => exact frame_fail _
  | some sender => exact frame_ite (frame_fail _) (frame_ite (frame_fail _) (frame_pure _))

theorem frame_hostAnswered (hsteady : Steady part) (runtime : Runtime) (answer : HostAnswer) :
    Frame part (hostAnswered runtime answer) := by
  cases answer with
  | acknowledged outcome => exact frame_pure _
  | absent error => exact frame_bind (frame_markState hsteady _ _ _ _) fun _ => frame_fail _
  | failed error => exact frame_fail _

/-- A submission touches the runtime, never the conversation. -/
theorem frame_deliverMessage (hosts : Hosts) (hsteady : Steady part) (runtimeId : String) (generation : Nat)
    (messageId : String) (actor : RuntimeActor) :
    Frame part (deliverMessage hosts runtimeId generation messageId actor) :=
  frame_bind (frame_authorizeDelivery _ _ _ _) fun runtime => frame_hostAnswered hsteady runtime _

theorem frame_deliverAll (hosts : Hosts) (hsteady : Steady part) (plan : SendPlan) (messageId : String)
    (recipients : List String) (statuses : RecipientStatuses) :
    Frame part (deliverAll hosts plan messageId statuses recipients) := by
  induction recipients generalizing statuses with
  | nil => exact frame_pure _
  | cons recipient rest ih =>
    unfold deliverAll
    cases plan.routing.runtimes.find? fun r => r.1 = recipient with
    | none => exact ih statuses
    | some found =>
      exact frame_bind (frame_succeeds (frame_deliverMessage hosts hsteady _ _ _ _)) fun _ => ih _

theorem frame_completeSend (hosts : Hosts) (hsteady : Steady part) (accepted : AcceptedSend) :
    Frame part (completeSend hosts accepted) := by
  refine frame_bind (frame_deliverAll hosts hsteady _ _ _ _) fun statuses => ?_
  exact frame_bind (hsteady.delivery _ _) fun _ => frame_ofExcept _

theorem acceptSend_effect (hrest : d.AtRest) :
    wp (acceptSend caller request)
      (fun accepted d' => planSend d caller request = .ok accepted.plan ∧
        Committed (accepted.plan.commitInput request) d.db accepted.receipt d'.db ∧ d'.AtRest)
      (fun _ d' => d'.db = d.db ∧ d'.AtRest) d := by
  simp only [acceptSend, wp_bind, wp_read, wp_ofExcept, wp_onStore]
  refine ⟨fun plan hplan => ?_, fun _ _ => ⟨trivial, hrest⟩⟩
  exact wp_mono (Application.commitMessage_settles hrest (plan.commitInput request))
    (fun receipt w' hpost => ⟨hplan, hpost.1, hpost.2.transactionDepth.trans hrest⟩)
    fun _ _ hpost => ⟨hpost.1, hpost.2.transactionDepth.trans hrest⟩

/-- A message that a send stored: its plan, and the row and event the commit built from it. -/
inductive Sent (d : Daemon) (caller : Caller) (request : SendRequest) : Change × Json → Prop
  | mk (plan : SendPlan) (reply : ReplyMetadata) (id occurredAt at' : String)
      (hplan : planSend d caller request = .ok plan) :
      Sent d caller request
        (⟨d.db.changes.latestCursor + 1, request.channelId,
            .messageSent (messageEvent (plan.commitInput request) reply id occurredAt), at', none⟩,
          messageEvent (plan.commitInput request) reply id occurredAt)

/-- The databases a send can leave: the roster is as before, and so are the messages but for the
one it sent. -/
inductive SendOutcome (d : Daemon) (caller : Caller) (request : SendRequest) (db' : Database) : Prop
  | unsent (hdb : db'.conversation = d.db.conversation)
  | sent (row : Change × Json) (hsent : Sent d caller request row)
      (hdb : db'.conversation = (d.db.sessions, d.db.channels, d.db.memberships,
        d.db.messageThreads, d.db.changes.sent ++ [row]))

theorem SendOutcome.frame {db db' : Database} (h : SendOutcome d caller request db)
    (hsame : db'.conversation = db.conversation) : SendOutcome d caller request db' := by
  cases h with
  | unsent hdb => exact .unsent (hsame.trans hdb)
  | sent row hsent hdb => exact .sent row hsent (hsame.trans hdb)

theorem Sent.of_committed {plan : SendPlan} {receipt : CommitReceipt} {db' : Database}
    (hplan : planSend d caller request = .ok plan)
    (h : Committed (plan.commitInput request) d.db receipt db') :
    SendOutcome d caller request db' := by
  cases h with
  | duplicate => exact .unsent rfl
  | fresh reply uuid occurredAt at' receipt =>
    refine .sent _ (.mk plan reply ("event_" ++ uuid) occurredAt at' hplan) ?_
    simp [Database.conversation, SendPlan.commitInput]

theorem send_effect (hrest : d.AtRest) (hosts : Hosts) (caller : Caller) (request : SendRequest) :
    SendOutcome d caller request (send hosts caller request d).2.db ∧
      (send hosts caller request d).2.AtRest := by
  have hwp : wp (send hosts caller request)
      (fun _ d' => SendOutcome d caller request d'.db ∧ d'.AtRest)
      (fun _ d' => SendOutcome d caller request d'.db ∧ d'.AtRest) d := by
    simp only [send, wp_bind]
    refine wp_mono (acceptSend_effect hrest) (fun accepted d₁ hpost => ?_)
      fun _ d' hpost => ⟨.unsent (congrArg Database.conversation hpost.1), hpost.2⟩
    obtain ⟨hplan, hcommitted, hrest₁⟩ := hpost
    have hstored : SendOutcome d caller request d₁.db := Sent.of_committed hplan hcommitted
    have hframe := wp_and ((frame_completeSend hosts steady_conversation accepted).wp d₁)
      ((frame_completeSend hosts steady_depth accepted).wp d₁)
    exact wp_mono hframe (fun _ _ h => ⟨hstored.frame h.1, h.2.trans hrest₁⟩)
      fun _ _ h => ⟨hstored.frame h.1, h.2.trans hrest₁⟩
  rcases cases_of_wp hwp with ⟨_, _, hpost⟩ | ⟨_, _, hpost⟩ <;> exact hpost

end Wardroom.Runtime
