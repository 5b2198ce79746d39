import Wardroom.Storage.Messages
import Wardroom.Storage.Effects

/-! # What each message command does to the database

A commit either hands back a stored event or appends the one event it built.
The members of that event are read here once and for all.
-/

namespace Wardroom.Storage
open Wardroom.Library Wardroom.Domain Prog

section Event

variable (input : CanonicalMessageCommitInput) (reply : ReplyMetadata) (id occurredAt : String)

@[simp] theorem messageEvent_id :
    (messageEvent input reply id occurredAt).member "id" = some (.str id) := by
  simp [messageEvent]

@[simp] theorem messageEvent_channelId :
    (messageEvent input reply id occurredAt).member "channelId" =
      some (Json.ofOption input.channelId) := by
  simp [messageEvent]

@[simp] theorem messageEvent_senderSessionId :
    (messageEvent input reply id occurredAt).member "senderSessionId" =
      some (.str input.senderSessionId) := by
  simp [messageEvent]

@[simp] theorem messageEvent_target :
    (messageEvent input reply id occurredAt).member "target" =
      input.target.map MessageTarget.toJson := by
  simp [messageEvent]

@[simp] theorem messageEvent_correlation :
    (messageEvent input reply id occurredAt).member "correlation" = reply.correlation := by
  simp [messageEvent]

@[simp] theorem messageEvent_replyToEventId :
    (messageEvent input reply id occurredAt).member "replyToEventId" =
      some (Json.ofOption reply.replyToEventId) := by
  simp [messageEvent]

@[simp] theorem messageEvent_threadRootEventId :
    (messageEvent input reply id occurredAt).member "threadRootEventId" =
      some (Json.ofOption reply.threadRootEventId) := by
  simp [messageEvent]

@[simp] theorem messageEvent_recipientStatuses :
    (messageEvent input reply id occurredAt).member "recipientStatuses" =
      some (statusesToJson (messageStatuses input)) := by
  simp [messageEvent]

@[simp] theorem messageEvent_deliveredRecipientSessionIds :
    (messageEvent input reply id occurredAt).member "deliveredRecipientSessionIds" =
      some (.arr ((messageDelivered input).map Json.ofOption)) := by
  simp [messageEvent]

end Event

@[simp] theorem sent_append_message (j : Journal) (channelId : Option String) (event : Json)
    (occurredAt : String) (ordinal : Option Int) :
    (j.append channelId (.messageSent event) occurredAt ordinal).sent =
      j.sent ++ [(⟨j.latestCursor + 1, channelId, .messageSent event, occurredAt, ordinal⟩, event)] := by
  simp [Journal.sent, Change.sent?]

variable {channelId : Option String}

theorem sent_append_other {j : Journal} {payload : Payload}
    {occurredAt : String} {ordinal : Option Int}
    (h : ∀ event, payload ≠ .messageSent event) :
    (j.append channelId payload occurredAt ordinal).sent = j.sent := by
  cases payload with
  | messageSent event => exact absurd rfl (h event)
  | _ => simp [Journal.sent, Change.sent?]

/-- What reply resolution returns: no reply, or the parent found, its root, and the mirror. -/
inductive Resolved (db : Database) (channelId : Option String)
    (replyToEventId correlation : Option Json) : ReplyMetadata → Prop
  | root (hnone : requestedReply replyToEventId correlation = .ok none) :
      Resolved db channelId replyToEventId correlation ⟨none, none, correlation⟩
  | reply (id root : String) (row : Change) (parent : Json)
      (hreply : requestedReply replyToEventId correlation = .ok (some id))
      (hparent : db.messageRow id = some (row, parent)) (hchannel : row.channelId = channelId)
      (hroot : replyRoot id parent = .ok root)
      (hopen : ((db.threadRow root).any fun t => t.state = .resolved) = false) :
      Resolved db channelId replyToEventId correlation
        ⟨some id, some root, some ((correlation.getD (.obj [])).set "replyToEventId" (.str id))⟩

theorem resolved_of_ok {db : Database}
    {replyToEventId correlation : Option Json} {reply : ReplyMetadata}
    (h : resolveReplyMetadata db channelId replyToEventId correlation = .ok reply) :
    Resolved db channelId replyToEventId correlation reply := by
  unfold resolveReplyMetadata at h
  cases hreq : requestedReply replyToEventId correlation with
  | error e =>
    rw [hreq] at h
    cases h
  | ok requested =>
    rw [hreq] at h
    cases requested with
    | none =>
      cases h
      exact .root hreq
    | some id =>
      simp only [bind, Except.bind] at h
      cases hrow : db.messageRow id with
      | none =>
        rw [hrow] at h
        cases h
      | some found =>
        obtain ⟨row, parent⟩ := found
        rw [hrow] at h
        by_cases hchannel : row.channelId ≠ channelId
        · simp only [if_pos hchannel] at h
          cases h
        · simp only [if_neg hchannel] at h
          cases hroot : replyRoot id parent with
          | error e =>
            rw [hroot] at h
            cases h
          | ok root =>
            rw [hroot] at h
            change (if (db.threadRow root).any (fun t => t.state = .resolved) = true then _ else _) = _ at h
            cases hthread : (db.threadRow root).any fun t => t.state = .resolved with
            | true =>
              rw [if_pos hthread] at h
              cases h
            | false =>
              rw [if_neg (by rw [hthread]; exact Bool.false_ne_true)] at h
              cases h
              exact .reply id root row parent hreq hrow (not_not.mp hchannel) hroot hthread

theorem Resolved.correlation_member {db : Database}
    {replyToEventId correlation : Option Json} {reply : ReplyMetadata} {k : String}
    (h : Resolved db channelId replyToEventId correlation reply) (hk : k ≠ "replyToEventId") :
    (reply.correlation.bind fun c => c.member k) = correlation.bind fun c => c.member k := by
  cases h with
  | root => rfl
  | reply id root row parent =>
    simp only [Option.bind_some, Json.member_set_ne hk]
    cases correlation with
    | none => rfl
    | some c => rfl

/-- The two ways a message commit returns. -/
inductive Committed (input : CanonicalMessageCommitInput) (db : Database) :
    CommitReceipt → Database → Prop
  | duplicate (reply : ReplyMetadata) (row : Change) (event : Json)
      (hrecipient : recipientKnown db input.target = true)
      (hreply : resolveReplyMetadata db input.channelId input.replyToEventId input.correlation =
        .ok reply)
      (hprior : priorMessage db (activeKey reply.correlation) = .ok (some (row, event))) :
      Committed input db ⟨⟨row.cursor, false, []⟩, event, true⟩ db
  | fresh (reply : ReplyMetadata) (uuid occurredAt at' : String) (receipt : MutationReceipt)
      (hrecipient : recipientKnown db input.target = true)
      (hreply : resolveReplyMetadata db input.channelId input.replyToEventId input.correlation =
        .ok reply)
      (hprior : priorMessage db (activeKey reply.correlation) = .ok none) :
      Committed input db ⟨receipt, messageEvent input reply ("event_" ++ uuid) occurredAt, false⟩
        (db.record input.channelId
          (.messageSent (messageEvent input reply ("event_" ++ uuid) occurredAt)) at' none)

theorem commitMessage_effect (w : World) (input : CanonicalMessageCommitInput) :
    Ensures (commitMessage input) w fun r db' => Committed input w.db r db' := by
  refine ensures_write fun n => ?_
  simp only [Ensures, wp_bind, wp_database, wp_throwIf, wp_ofExcept]
  refine ⟨fun _ => ⟨rfl, rfl, rfl, le_rfl⟩, fun hknown => ⟨fun reply hreply => ⟨fun prior hprior => ?_,
    fun _ _ => ⟨rfl, rfl, rfl, le_rfl⟩⟩, fun _ _ => ⟨rfl, rfl, rfl, le_rfl⟩⟩⟩
  have hrecipient : recipientKnown w.db input.target = true := by simpa using hknown
  rcases prior with _ | ⟨row, event⟩
  · simp only [wp_bind, wp_randomUUID, wp_now]
    exact ensures_appendChange ⟨rfl, rfl, rfl, Nat.le_succ _⟩ fun _ => .fresh reply _ _ _ _ hrecipient hreply hprior
  · exact ⟨.duplicate reply row event hrecipient hreply hprior, .refl _⟩

/-- A thread command leaves everything but the thread table and its own journal row. -/
inductive ThreadChanged (db : Database) : Database → Prop
  | same : ThreadChanged db db
  | resolved (threads : Table ThreadLifecycle.threadRootEventId) (thread : ThreadLifecycle)
      (channelId at' : String) : ThreadChanged db
        ({ db with messageThreads := threads }.record (some channelId) (.threadResolved thread) at' none)
  | reopened (threads : Table ThreadLifecycle.threadRootEventId) (thread : ThreadLifecycle)
      (channelId at' : String) : ThreadChanged db
        ({ db with messageThreads := threads }.record (some channelId) (.threadReopened thread) at' none)

theorem upsertResolved_effect (w : World) (threadRootEventId channelId actorSessionId changedAt : String) :
    Ensures (upsertResolved threadRootEventId channelId actorSessionId changedAt) w fun _ db' =>
      ∃ threads, db' = { w.db with messageThreads := threads } := by
  simp only [upsertResolved, Ensures, wp_bind, wp_database]
  cases w.db.messageThreads.insert? ⟨threadRootEventId, channelId, .resolved, some changedAt,
      some actorSessionId, none, none, some changedAt⟩ with
  | none => exact ⟨⟨_, rfl⟩, ⟨rfl, rfl, rfl, le_rfl⟩⟩
  | some threads =>
    simp only [wp_bind, wp_references, wp_modifyDatabase]
    exact ⟨fun _ => ⟨⟨threads, rfl⟩, ⟨rfl, rfl, rfl, le_rfl⟩⟩, fun _ => .refl w⟩

theorem setThreadState_effect (w : World) (threadRootEventId actorSessionId : String)
    (state : ThreadState) (channelId : Option String) :
    Ensures (setThreadState threadRootEventId actorSessionId state channelId) w fun _ db' =>
      ThreadChanged w.db db' := by
  refine ensures_write fun n => ?_
  simp only [Ensures, wp_bind, wp_database, wp_throwIf, wp_ofExcept]
  refine ⟨fun _ => .refl _, fun _ => ⟨fun current _ => ⟨fun _ => .refl _, fun _ => ?_⟩,
    fun _ _ => .refl _⟩⟩
  rw [wp_ite]
  refine ⟨fun _ => ⟨.same, .refl _⟩, fun _ => ?_⟩
  simp only [wp_bind, wp_now]
  cases state with
  | resolved =>
    rw [wp_bind]
    refine wp_mono (upsertResolved_effect _ threadRootEventId current.channelId actorSessionId _)
      ?_ fun _ _ hkeeps => ⟨hkeeps.transactionDepth, hkeeps.importSession, hkeeps.uuids, hkeeps.draws⟩
    rintro _ w' ⟨⟨threads, hdb⟩, hkeeps⟩
    simp only [wp_bind, wp_database, wp_ofExcept]
    have hkept : Keeps { w with transactionDepth := n } w' :=
      ⟨hkeeps.transactionDepth, hkeeps.importSession, hkeeps.uuids, hkeeps.draws⟩
    refine ⟨fun thread _ => ?_, fun _ _ => hkept⟩
    exact ensures_appendChange hkept fun _ => hdb ▸ .resolved threads thread _ _
  | «open» =>
    simp only [wp_bind, wp_modifyDatabase, wp_database, wp_ofExcept]
    refine ⟨fun thread _ => ?_, fun _ _ => ⟨rfl, rfl, rfl, le_rfl⟩⟩
    exact ensures_appendChange ⟨rfl, rfl, rfl, le_rfl⟩ fun _ => .reopened _ thread _ _

end Wardroom.Storage
