import Wardroom.Runtime.Native.Handler
import Wardroom.Runtime.Native.SendEffects
import Wardroom.Runtime.Native.Effects

/-! # Who a request acts for

A connection authenticates a session. A request over it may also name its actor
in a field of its own; the handlers of the membership calls believe that field,
and a registration asks for no actor at all.
-/

namespace Wardroom.Runtime
open Wardroom.Library Wardroom.Domain Wardroom.Storage Prog

/-- The session that a connection has authenticated. -/
def RoomsConnectionState.session (connection : RoomsConnectionState) : Option String :=
  connection.authenticatedSessionId.filter fun id => id ≠ ""

/-- The request with its identity fields as the authenticated session has them. -/
def HandlerRequest.boundTo (db : Database) (actor : String) : HandlerRequest → HandlerRequest
  | .registerSession request => .registerSession
      (if Text.given request.channelId ∧ request.sessionId = actor then
        { request with role := (db.sessionRole actor).or request.role }
      else request)
  | .join channelId sessionId _ => .join channelId sessionId (some actor)
  | .send request => .send { request with senderSessionId := some actor }
  | .commitControl input => .commitControl { input with senderSessionId := actor }
  | request => request

/-- The request threw and left the tables as they were. -/
def Rejected {α : Type} (x : Action α) (d : Daemon) : Prop :=
  (∃ e, (x d).1 = .error e) ∧ (x d).2.tables = d.tables

/-- A session that was not stored has entered, and nothing else has changed. -/
structure Enrolled (sessionId : String) (db db' : Database) : Prop where
  fresh : db.currentSession sessionId = none
  sessions : ∃ rows, db'.sessions.rows = db.sessions.rows ++ rows ∧ ∀ s ∈ rows, s.id = sessionId
  memberships : ∃ rows, db'.memberships.rows = db.memberships.rows ++ rows ∧
    ∀ m ∈ rows, m.sessionId = sessionId
  channels : db'.channels = db.channels
  messageThreads : db'.messageThreads = db.messageThreads
  sent : db'.changes.sent = db.changes.sent

/-- What a connection that authenticated nobody may do: nothing, or enrol its session. -/
def OwnEnrolment (request : HandlerRequest) (d d' : Daemon) : Prop :=
  d'.tables = d.tables ∨ (∃ registration, request = .registerSession registration ∧
    Enrolled registration.sessionId d.db d'.db)

/-- The caller counts only as the session that its connection authenticated. -/
def ActorBound (hosts : Hosts) (connection : RoomsConnectionState) (context : RequestContext)
    (request : HandlerRequest) (d : Daemon) : Prop :=
  match connection.session with
  | some actor =>
    handle hosts connection context request d =
        handle hosts connection { context with sessionId := some actor }
          (request.boundTo d.db actor) d ∨
      Rejected (handle hosts connection context request) d
  | none => OwnEnrolment request d (handle hosts connection context request d).2

/-- A join names no actor but the authenticated session, a leave acts for it, and a registration in a
channel is made by one session for another. -/
def NamesItself (connection : RoomsConnectionState) (context : RequestContext) :
    HandlerRequest → Prop
  | .registerSession request => Text.given request.channelId = true →
      ∃ actor, connection.session = some actor ∧ actor ≠ request.sessionId
  | .join _ _ authorizedBySessionId =>
      ∀ named, (authorizedBySessionId.or context.sessionId).filter (fun id => id ≠ "") = some named →
        connection.session = some named
  | .leave _ sessionId => connection.session = some (context.sessionId.getD sessionId)
  | _ => True

section Bound

variable {connection : RoomsConnectionState} {context : RequestContext} {hosts : Hosts}
  {d : Daemon} {actor : String}

theorem answer_apply {α : Type} (reply : α → Reply) (x : Command α) (d : Daemon) :
    answer reply x d = ((x d.store).1.map reply, { d with store := (x d.store).2 }) := by
  change Prog.bind (onStore x) (fun a => pure (reply a)) d = _
  unfold Prog.bind onStore
  rcases x d.store with ⟨r, w⟩
  cases r <;> rfl

theorem rejected_answer {α : Type} {reply : α → Reply} {x : Command α} {e : Failure}
    (herror : (x d.store).1 = .error e) (hdb : (x d.store).2.db = d.db) :
    Rejected (answer reply x) d := by
  refine ⟨⟨e, ?_⟩, ?_⟩
  · rw [answer_apply, herror]
    rfl
  · rw [answer_apply, Daemon.tables, hdb]
    rfl

variable {caller : Caller}

theorem authenticated_session {id : String} (h : authenticated caller = .ok id) :
    caller.connection.session = some id := by
  unfold authenticated at h
  cases hcredential : (caller.credential.filter fun c => c ≠ "").bind
      caller.connection.credentialSession with
  | none =>
    simp only [hcredential, Option.none_or] at h
    cases hsession : caller.connection.authenticatedSessionId.filter fun id => id ≠ "" with
    | none =>
      rw [hsession] at h
      cases h
    | some found =>
      rw [hsession] at h
      simp only [Text.given, Option.any_none, Bool.false_eq_true, false_and, if_false] at h
      cases h
      exact hsession
  | some named =>
    simp only [hcredential, Option.some_or] at h
    by_cases hempty : named = ""
    · rw [Option.filter_some, if_neg (by simpa using hempty)] at h
      cases h
    · rw [Option.filter_some, if_pos (by simpa using hempty)] at h
      by_cases hother : Text.given (some named) ∧
          caller.connection.authenticatedSessionId ≠ some named
      · simp only [if_pos hother] at h
        cases h
      · simp only [if_neg hother] at h
        cases h
        have hgiven : Text.given (some id) = true := by simpa [Text.given] using hempty
        have hsame : caller.connection.authenticatedSessionId = some id := by
          by_contra hne
          exact hother ⟨hgiven, hne⟩
        rw [RoomsConnectionState.session, hsame, Option.filter_some, if_pos (by simpa using hempty)]

theorem authenticated_none (h : caller.connection.session = none) :
    ∃ e, authenticated caller = .error e := by
  cases hok : authenticated caller with
  | error e => exact ⟨e, rfl⟩
  | ok id => cases h.symm.trans (authenticated_session hok)

theorem credentialed_session {id : String} (h : credentialed caller = .ok id) :
    caller.connection.session = some id := by
  unfold credentialed at h
  cases hcredential : caller.credential.filter fun c => !Text.blank c with
  | none =>
    rw [hcredential] at h
    cases h
  | some credential =>
    simp only [hcredential] at h
    cases hsession : (caller.connection.credentialSession credential).filter fun id => id ≠ "" with
    | none =>
      rw [hsession] at h
      cases h
    | some found =>
      simp only [hsession] at h
      by_cases hother : caller.connection.authenticatedSessionId ≠ some found
      · rw [if_pos hother] at h
        cases h
      · rw [if_neg hother] at h
        cases h
        have hnonempty := Option.filter_eq_some_iff.mp hsession
        rw [RoomsConnectionState.session, not_not.mp hother, Option.filter_some,
          if_pos hnonempty.2]

theorem join_unnamed (channelId sessionId : String) {authorizedBy claimed : Option String}
    (h : (authorizedBy.or claimed).filter (fun id => id ≠ "") = none) (w : World) :
    join channelId sessionId authorizedBy claimed w =
      (.error (.runtime "authorizedBySessionId is required"), w) := by
  unfold join
  rw [h]
  rfl

theorem join_named (channelId sessionId : String) {authorizedBy claimed : Option String}
    {named : String} (h : (authorizedBy.or claimed).filter (fun id => id ≠ "") = some named) :
    join channelId sessionId authorizedBy claimed = join channelId sessionId (some named) none := by
  have hnamed : ((some named).or none).filter (fun id => id ≠ "") = some named := by
    rw [Option.or_none, Option.filter_some, if_pos (Option.filter_eq_some_iff.mp h).2]
  unfold join
  rw [h, hnamed]

variable {request : SendRequest}

theorem acceptSend_refused {e : Failure}
    (h : planSend d caller request = .error e) : acceptSend caller request d = (.error e, d) := by
  change Prog.bind (ofExcept (planSend d caller request)) _ d = _
  rw [h]
  rfl

theorem send_refused {e : Failure}
    (h : planSend d caller request = .error e) : send hosts caller request d = (.error e, d) := by
  change Prog.bind (acceptSend caller request) _ d = _
  unfold Prog.bind
  rw [acceptSend_refused h]

theorem send_congr {claimed : Option String}
    (h : sendingSession caller request =
      sendingSession caller { request with senderSessionId := claimed }) :
    send hosts caller request d = send hosts caller { request with senderSessionId := claimed } d := by
  have hplan : planSend d caller request =
      planSend d caller { request with senderSessionId := claimed } := by
    unfold planSend
    rw [h]
    rfl
  have haccept : acceptSend caller request d =
      acceptSend caller { request with senderSessionId := claimed } d := by
    change Prog.bind (ofExcept (planSend d caller request)) _ d =
      Prog.bind (ofExcept (planSend d caller { request with senderSessionId := claimed })) _ d
    rw [hplan]
    rfl
  change Prog.bind (acceptSend caller request) (completeSend hosts) d =
    Prog.bind (acceptSend caller { request with senderSessionId := claimed }) (completeSend hosts) d
  unfold Prog.bind
  rw [haccept]

theorem handle_send (hosts : Hosts) (request : SendRequest) : handle hosts connection context
    (.send request) d = ((send hosts ⟨connection, context.credential⟩ request d).1.map .sent,
      (send hosts ⟨connection, context.credential⟩ request d).2) := by
  change Prog.bind (send hosts ⟨connection, context.credential⟩ request)
    (fun response => pure (Reply.sent response)) d = _
  unfold Prog.bind
  rcases send hosts ⟨connection, context.credential⟩ request d with ⟨r, d'⟩
  cases r <;> rfl

theorem send_bound (hsession : connection.session = some actor) :
    handle hosts connection context (.send request) d =
        handle hosts connection { context with sessionId := some actor }
          (.send { request with senderSessionId := some actor }) d ∨
      Rejected (handle hosts connection context (.send request)) d := by
  have hclaimed : sendingSession ⟨connection, context.credential⟩ request =
        sendingSession ⟨connection, context.credential⟩
          { request with senderSessionId := some actor } ∨
      ∃ e, sendingSession ⟨connection, context.credential⟩ request = .error e := by
    unfold sendingSession
    cases hactor : authenticated ⟨connection, context.credential⟩ with
    | error e => exact .inl rfl
    | ok id =>
      cases hsession.symm.trans (authenticated_session hactor)
      simp only [bind, Except.bind]
      by_cases hother : Text.given request.senderSessionId ∧ request.senderSessionId ≠ some actor
      · rw [if_pos hother]
        exact .inr ⟨_, rfl⟩
      · rw [if_neg hother, if_neg (by simp)]
        exact .inl rfl
  rcases hclaimed with hsame | ⟨e, herror⟩
  · left
    rw [handle_send, handle_send, send_congr hsame]
  · right
    have hplan : planSend d ⟨connection, context.credential⟩ request = .error e := by
      unfold planSend
      rw [herror]
      rfl
    unfold Rejected
    rw [handle_send, send_refused hplan]
    exact ⟨⟨e, rfl⟩, rfl⟩

theorem actorContext_actor {db : Database} {actorId credentialId : String} {missing : Failure}
    {command : Application.AuthenticatedCommandContext}
    (h : actorContext db actorId credentialId missing = .ok command) :
    command.actorSessionId = actorId := by
  unfold actorContext at h
  cases hrole : db.sessionRole actorId with
  | none =>
    rw [hrole] at h
    cases h
  | some role =>
    rw [hrole] at h
    cases h
    rfl

theorem commitControl_refused {w : World} (hrest : w.transactionDepth = 0) (input : ControlInput)
    (command : Application.AuthenticatedCommandContext)
    (hother : input.senderSessionId ≠ command.actorSessionId) :
    Settles (Application.commitControl input command) w fun _ _ => False := by
  simp only [Application.commitControl, Settles, wp_bind, wp_throwIf]
  refine ⟨fun _ => ⟨trivial, .refl w⟩, fun _ => ⟨fun _ => ⟨trivial, .refl w⟩, fun _ => ?_⟩⟩
  refine write_settles (P := fun _ _ => False) rfl hrest (ensures_write fun n => ?_)
  simp only [Ensures, wp_bind, wp_database, wp_throwIf]
  exact ⟨fun _ => ⟨rfl, rfl, rfl, le_rfl⟩, fun hallowed => absurd (Or.inr hother) hallowed⟩

theorem commitControl_bound {input : ControlInput} (hrest : d.AtRest)
    (hsession : connection.session = some actor) :
    handle hosts connection context (.commitControl input) d =
        handle hosts connection { context with sessionId := some actor }
          (.commitControl { input with senderSessionId := actor }) d ∨
      Rejected (handle hosts connection context (.commitControl input)) d := by
  by_cases hself : input.senderSessionId = actor
  · subst hself
    exact .inl rfl
  · right
    have hsettles : Settles (commitControl ⟨connection, context.credential⟩ input) d.store
        fun _ _ => False := by
      simp only [commitControl, Settles, wp_bind, wp_ofExcept, wp_database]
      refine ⟨fun actorId hactor => ⟨fun command hcommand => ?_, fun _ _ => ⟨trivial, .refl _⟩⟩,
        fun _ _ => ⟨trivial, .refl _⟩⟩
      refine commitControl_refused hrest input command ?_
      rw [actorContext_actor hcommand]
      cases hsession.symm.trans (authenticated_session hactor)
      exact hself
    rcases hsettles.outcome with ⟨_, _, hfalse⟩ | ⟨⟨e, herror⟩, hdb⟩
    · exact hfalse.elim
    · exact rejected_answer herror hdb

theorem bound_of_session (hrest : d.AtRest) {request : HandlerRequest}
    (hsession : connection.session = some actor)
    (hnames : NamesItself connection context request) :
    handle hosts connection context request d =
        handle hosts connection { context with sessionId := some actor }
          (request.boundTo d.db actor) d ∨
      Rejected (handle hosts connection context request) d := by
  cases request with
  | registerSession request =>
    have hother : ¬(Text.given request.channelId ∧ request.sessionId = actor) := by
      rintro ⟨hgiven, hself⟩
      obtain ⟨actor', hactor', hne⟩ := hnames hgiven
      cases hsession.symm.trans hactor'
      exact hne hself.symm
    rw [HandlerRequest.boundTo, if_neg hother]
    exact .inl rfl
  | join channelId sessionId authorizedBy =>
    cases hnamed : (authorizedBy.or context.sessionId).filter fun id => id ≠ "" with
    | none =>
      right
      have hjoin := join_unnamed channelId sessionId hnamed d.store
      exact rejected_answer (congrArg Prod.fst hjoin) (by rw [hjoin])
    | some named =>
      left
      have hself := hnames named hnamed
      cases hsession.symm.trans hself
      have hactor : ((some actor).or (some actor)).filter (fun id => id ≠ "") = some actor := by
        rw [Option.some_or, Option.filter_some, if_pos (Option.filter_eq_some_iff.mp hnamed).2]
      simp only [handle, HandlerRequest.boundTo, join_named channelId sessionId hnamed,
        join_named channelId sessionId hactor]
  | leave channelId sessionId =>
    left
    cases hsession.symm.trans hnames
    simp only [handle, HandlerRequest.boundTo, leave, Option.getD_some]
  | send request => exact send_bound hsession
  | commitControl input => exact commitControl_bound hrest hsession
  | _ => exact .inl rfl

theorem denied {α β : Type} {outcome : Except Failure α} {e : Failure} (h : outcome = .error e)
    (f : α → Command β) (w : World) : (ofExcept outcome >>= f : Command β) w = (.error e, w) := by
  rw [h]
  rfl

theorem tables_answer {α : Type} {reply : α → Reply} {x : Command α}
    (hdb : (x d.store).2.db = d.db) : (answer reply x d).2.tables = d.tables := by
  rw [answer_apply, Daemon.tables, hdb]
  rfl

theorem registerSession_anonymous {request : RegisterSessionRequest} {w : World}
    (hrest : w.transactionDepth = 0) (hsession : caller.connection.session = none)
    (hchannel : Text.given request.channelId = false) :
    (registerSession caller request w).2.db = w.db ∨
      Enrolled request.sessionId w.db (registerSession caller request w).2.db := by
  obtain ⟨e, hdenied⟩ := authenticated_none hsession
  have hpresent (hknown : (w.db.currentSession request.sessionId).isSome) :
      wp (registerUnlessPresent request) (fun _ w' => w'.db = w.db) (fun _ w' => w'.db = w.db) w := by
    simp only [registerUnlessPresent, wp_bind, wp_database, wp_ite, wp_pure]
    exact ⟨fun _ => trivial, fun hmissing => absurd hknown hmissing⟩
  have hmissing (hunknown : w.db.currentSession request.sessionId = none) :
      wp (registerUnlessPresent request)
        (fun _ w' => w'.db = w.db ∨ Enrolled request.sessionId w.db w'.db)
        (fun _ w' => w'.db = w.db ∨ Enrolled request.sessionId w.db w'.db) w := by
    simp only [registerUnlessPresent, wp_bind, wp_database, wp_ite, wp_pure]
    refine ⟨fun _ => .inl trivial, fun _ => ?_⟩
    refine wp_mono (write_settles rfl hrest (insertSession_effect w _)) (fun _ w' hpost => ?_)
      fun _ _ hpost => .inl hpost.1
    right
    obtain ⟨hinserted, _⟩ := hpost
    generalize w'.db = db' at hinserted
    cases hinserted with
    | mk registeredAt at' sessions hinsert =>
      refine ⟨hunknown, ⟨[_], (Table.insert?_eq_some.mp hinsert).2, fun s hs => ?_⟩,
        ⟨[], (List.append_nil _).symm, fun m hm => by cases hm⟩, rfl, rfl, ?_⟩
      · rw [List.mem_singleton.mp hs]
      · exact sent_append_other fun _ => Payload.noConfusion
  have hwp : wp (registerSession caller request)
      (fun _ w' => w'.db = w.db ∨ Enrolled request.sessionId w.db w'.db)
      (fun _ w' => w'.db = w.db ∨ Enrolled request.sessionId w.db w'.db) w := by
    simp only [registerSession, hchannel, Bool.false_eq_true, if_false, wp_bind, wp_database,
      wp_ite, wp_ofExcept, wp_throwIf, hdenied, reduceCtorEq, false_implies, implies_true, true_and]
    refine ⟨fun _ _ _ => .inl trivial, fun _ => ⟨fun _ => .inl trivial, fun _ => ?_⟩⟩
    cases hstored : w.db.currentSession request.sessionId with
    | none => exact hmissing hstored
    | some existing =>
      have hknown : (w.db.currentSession request.sessionId).isSome := by rw [hstored]; rfl
      exact wp_mono (hpresent hknown) (fun _ _ h => .inl h) fun _ _ h => .inl h
  rcases cases_of_wp hwp with ⟨_, _, hpost⟩ | ⟨_, _, hpost⟩ <;> exact hpost

theorem enrolment_of_anonymous (hrest : d.AtRest) {request : HandlerRequest}
    (hsession : connection.session = none) (hnames : NamesItself connection context request) :
    OwnEnrolment request d (handle hosts connection context request d).2 := by
  let caller : Caller := ⟨connection, context.credential⟩
  obtain ⟨e, hdenied⟩ : ∃ e, authenticated caller = .error e := authenticated_none hsession
  have hidle {α β : Type} {reply : β → Reply} {outcome : Except Failure α}
      (houtcome : outcome = .error e) (f : α → Command β) :
      (answer reply (ofExcept outcome >>= f) d).2.tables = d.tables :=
    tables_answer (by rw [denied houtcome])
  cases request with
  | createChannel => exact .inl (hidle hdenied _)
  | updateChannelLabel => exact .inl (hidle hdenied _)
  | updateChannelBroadcastPolicy => exact .inl (hidle hdenied _)
  | updateChannelCoordinationPolicy => exact .inl (hidle hdenied _)
  | closeChannel => exact .inl (hidle hdenied _)
  | endSession => exact .inl (hidle hdenied _)
  | commitControl => exact .inl (hidle hdenied _)
  | resolveThread => exact .inl (hidle hdenied _)
  | reopenThread => exact .inl (hidle hdenied _)
  | updateSessionRole channelId sessionId role =>
    left
    cases hcredential : credentialed ⟨connection, context.credential⟩ with
    | ok id => cases hsession.symm.trans (credentialed_session hcredential)
    | error e' =>
      refine tables_answer ?_
      unfold updateSessionRole
      rw [denied hcredential]
  | send request =>
    left
    have hplan : planSend d ⟨connection, context.credential⟩ request = .error e := by
      unfold planSend sendingSession
      rw [hdenied]
      rfl
    rw [handle_send, send_refused hplan]
  | join channelId sessionId authorizedBy =>
    left
    cases hnamed : (authorizedBy.or context.sessionId).filter fun id => id ≠ "" with
    | none => exact tables_answer (by rw [join_unnamed channelId sessionId hnamed])
    | some named => cases hsession.symm.trans (hnames named hnamed)
  | leave channelId sessionId => cases hsession.symm.trans hnames
  | registerSession request =>
    cases hchannel : Text.given request.channelId with
    | true =>
      obtain ⟨actor, hactor, _⟩ := hnames hchannel
      cases hsession.symm.trans hactor
    | false =>
      have hregistered : (registerSession caller request d.store).2.db = d.db ∨
          Enrolled request.sessionId d.db (registerSession caller request d.store).2.db :=
        registerSession_anonymous hrest hsession hchannel
      rcases hregistered with hsame | henrolled
      · exact .inl (tables_answer hsame)
      · refine .inr ⟨request, rfl, ?_⟩
        have hdb : (handle hosts connection context (.registerSession request) d).2.db =
            (registerSession ⟨connection, context.credential⟩ request d.store).2.db := by
          change (answer _ _ d).2.db = _
          rw [answer_apply]
        rw [hdb]
        exact henrolled

end Bound

end Wardroom.Runtime
