import Wardroom.Runtime.Native.ActorBinding

/-! # Requests in the name of another session

For each request that does not name its own session there is a store in which
the handler carries it out for the session it does name.
-/

namespace Wardroom.Runtime
open Wardroom.Library Wardroom.Domain Wardroom.Storage Prog

/-- A live session of a role that has told the daemon nothing else. -/
def plainSession (id : String) (role : Option SessionRole) : Session where
  id := id
  registeredAt := ""
  endedAt := none
  displayName := none
  role := role
  externalId := none
  providerThreadId := none
  deliveryMode := .runtime
  externalOwner := none
  externalAgentId := none

def plainChannel (id : String) (owner : Option String) : Channel where
  id := id
  label := none
  registeredAt := ""
  ownerOperatorSessionId := owner
  lifecycleState := .active
  closedAt := none
  broadcastPolicy := .all
  coordinationPolicy := .open

/-- A store of one open channel. -/
def berth (channelId : String) (owner : Option String) (sessions : List Session)
    (memberships : List Membership) : Database :=
  { Database.empty with
    sessions := .ofRows sessions
    channels := .ofRows [plainChannel channelId owner]
    memberships := .ofRows memberships }

/-- The daemon over a store that nobody listens to. -/
def daemonOver (db : Database) : Daemon := .initial (.initial db (fun _ => "") fun _ => "")

theorem daemonOver_rest (db : Database) : (daemonOver db).AtRest := rfl

section Berth

variable {channelId sessionId named : String} {owner : Option String} {sessions : List Session}
  {memberships : List Membership}

theorem currentSession_berth : (berth channelId owner sessions memberships).currentSession sessionId =
    sessions.find? fun s => s.id = sessionId :=
  Table.find?_ofRows sessions sessionId

theorem currentChannel_berth : (berth channelId owner sessions memberships).currentChannel channelId =
    some (plainChannel channelId owner) := by
  simp [berth, Database.currentChannel, plainChannel]

theorem reference_berth :
    (berth channelId owner sessions memberships).channelReference (some channelId) = true := by
  simp [berth, Database.channelReference, Table.ofRows, Table.put, Table.insert?, Table.has,
    Table.empty, plainChannel]

end Berth

theorem liveActor_of_stored {db : Database} {context : Application.AuthenticatedCommandContext}
    {stored : Session} (h : db.currentSession context.actorSessionId = some stored)
    (hlive : stored.endedAt = none) (hrole : stored.role = some context.role) :
    Application.liveActor db context = true := by
  simp [Application.liveActor, h, hlive, hrole]

section Returns

variable {w : World} {channelId sessionId : String}

/-- One more membership, of a given role. -/
def Added (role : Option SessionRole) (db db' : Database) : Prop :=
  ∃ m, db'.memberships.rows = db.memberships.rows ++ [m] ∧ m.role = role

theorem Added.record {role : Option SessionRole} {db db' : Database} (h : Added role db db')
    (channelId : Option String) (payload : Payload) (at' : String) :
    Added role db (db'.record channelId payload at' none) := h

theorem insertMembership_returns (hquiet : Quiet w) {role : Option SessionRole}
    (hactive : w.db.channelActive channelId = true) (hlive : w.db.sessionLive sessionId = true)
    (hmemberships : w.db.memberships = .empty)
    (hreference : w.db.channelReference (some channelId) = true) :
    Returns (insertMembership channelId sessionId role) w (Added role w.db) := by
  refine write_returns hquiet fun n => ?_
  simp only [Returns, wp_bind, wp_database, wp_throwIf, wp_ite, wp_now, wp_constrained,
    wp_modifyDatabase]
  refine ⟨fun hclosed => absurd hactive (by rw [hclosed]; decide), fun _ =>
    ⟨fun hended => absurd hlive (by rw [hended]; decide), fun _ => ⟨fun hmember => ?_, fun _ =>
      ⟨fun memberships hinsert => ?_, fun htaken => ?_⟩⟩⟩⟩
  · simp [Database.isActiveMember, Database.activeRows, hmemberships, Table.select] at hmember
  · have hadded : Added role w.db { w.db with memberships := memberships } :=
      ⟨_, (Table.insert?_eq_some.mp hinsert).2, rfl⟩
    change Returns (appendChange _ _) _ (Added role w.db)
    apply appendChange_returns
    · exact ⟨hquiet.importSession, hquiet.listeners⟩
    · exact hreference
    · exact hadded.record _ _ _
  · rw [hmemberships, Table.insert?, dif_neg (by simp [Table.has])] at htaken
    cases htaken

theorem join_returns (hquiet : Quiet w) {context : Application.AuthenticatedCommandContext}
    {channel : Channel} {target : Session} (hchannel : w.db.currentChannel channelId = some channel)
    (hopen : channel.lifecycleState = .active) (hactor : Application.liveActor w.db context = true)
    (howner : context.role = .operator ∧
      channel.ownerOperatorSessionId = some context.actorSessionId)
    (htarget : w.db.currentSession sessionId = some target) (hlive : target.endedAt = none)
    (hrole : target.role ≠ some .worker) (hmemberships : w.db.memberships = .empty)
    (hreference : w.db.channelReference (some channelId) = true) :
    Returns (Application.join channelId sessionId context) w (Added target.role w.db) := by
  have hnone (role : SessionRole) : w.db.activeMembershipCount channelId role = 0 := by
    simp [Database.activeMembershipCount, Database.activeHolders, hmemberships, Table.select]
  refine write_returns hquiet fun n => ?_
  simp only [Returns, wp_bind, wp_database, hchannel, htarget, wp_throwIf, hopen, hlive, hactor,
    hrole, howner, hnone, ne_eq, not_true_eq_false, false_implies, not_false_eq_true, true_implies,
    true_and, reduceCtorEq, Option.isSome_none, Bool.false_eq_true, Bool.true_eq_false, false_and,
    and_false, lt_irrefl, or_self, and_self]
  exact insertMembership_returns (w := { w with transactionDepth := n })
    ⟨hquiet.importSession, hquiet.listeners⟩ (Database.channelActive_iff.mpr ⟨channel, hchannel, hopen⟩)
    (Database.sessionLive_iff.mpr ⟨target, htarget, hlive⟩) hmemberships hreference

theorem join_unowned (w : World) {context : Application.AuthenticatedCommandContext}
    {target : Session} (hcontext : context.role ≠ .operator)
    (htarget : w.db.currentSession sessionId = some target) (hrole : target.role ≠ some .worker) :
    Ensures (Application.join channelId sessionId context) w fun _ _ => False := by
  refine ensures_write fun n => ?_
  simp only [Ensures, wp_bind, wp_database, htarget]
  cases w.db.currentChannel channelId with
  | none => exact .refl _
  | some channel =>
    simp only [wp_bind, wp_throwIf]
    exact ⟨fun _ => .refl _, fun _ => ⟨fun _ => .refl _, fun _ => ⟨fun _ => .refl _, fun _ =>
      ⟨fun _ => .refl _, fun _ => ⟨fun _ => .refl _, fun howned =>
        absurd ⟨hrole, fun howner => hcontext howner.1⟩ howned⟩⟩⟩⟩⟩

theorem leave_returns (hquiet : Quiet w) {context : Application.AuthenticatedCommandContext}
    (hactor : Application.liveActor w.db context = true) (hrole : context.role = .operator)
    (hmember : w.db.isActiveMember channelId sessionId = true)
    (hreference : w.db.channelReference (some channelId) = true) :
    Returns (Application.leave channelId sessionId context) w fun db' =>
      db'.memberships ≠ w.db.memberships := by
  refine write_returns hquiet fun n => ?_
  simp only [Returns, wp_bind, wp_database, wp_throwIf, hactor, hrole, hmember, ne_eq,
    not_true_eq_false, and_false, or_self, false_implies, not_false_eq_true, true_implies, true_and,
    Bool.true_eq_false]
  refine write_returns (w := { w with transactionDepth := n })
    (P := fun db' => db'.memberships ≠ w.db.memberships)
    ⟨hquiet.importSession, hquiet.listeners⟩ fun k => ?_
  simp only [Returns, wp_bind, wp_database]
  cases hjoined : latestJoined (w.db.activeRows channelId sessionId) with
  | none =>
    rw [Database.isActiveMember, latestJoined_eq_none.mp hjoined] at hmember
    cases hmember
  | some joined =>
    simp only [wp_bind, wp_now, wp_modifyDatabase]
    change Returns (appendChange _ _) _ fun db' => db'.memberships ≠ w.db.memberships
    apply appendChange_returns
    · exact ⟨hquiet.importSession, hquiet.listeners⟩
    · exact hreference
    · obtain ⟨hmem, hchannel, hsession, hactive⟩ :=
        Database.mem_activeRows.mp (latestJoined_mem hjoined)
      intro hsame
      have hleft : { joined with leftAt := some (w.clock w.ticks) } ∈ w.db.memberships.rows := by
        rw [← hsame]
        refine List.mem_map.mpr ⟨joined, hmem, ?_⟩
        rw [if_pos (by simp [Membership.key, hchannel, hsession])]
      have hkey := Table.eq_of_key hmem hleft rfl
      have hstill : joined.leftAt = none := by
        simp only [Membership.active, Bool.and_eq_true, Option.isNone_iff_eq_none] at hactive
        exact hactive.1
      rw [hkey] at hstill
      cases hstill

theorem wp_of_outcome {α : Type} {x : Command α} {a : α} {w' : World} {Q : α → World → Prop}
    {E : Failure → World → Prop} (h : x w = (.ok a, w')) : wp x Q E w ↔ Q a w' := by
  unfold wp
  rw [h]

theorem registerSession_returns (hquiet : Quiet w) {channel : Channel} {stored : Session}
    (hchannel : w.db.currentChannel channelId = some channel)
    (hopen : channel.lifecycleState = .active)
    (hstored : w.db.currentSession sessionId = some stored) (hlive : stored.endedAt = none)
    (deliveryMode : Option SessionDeliveryMode) (hmode : stored.deliveryMode = deliveryMode.getD .runtime)
    (hmemberships : w.db.memberships = .empty)
    (hreference : w.db.channelReference (some channelId) = true) (role : SessionRole) :
    Returns (Storage.registerSession channelId sessionId role stored.externalId deliveryMode {}) w
      (Added (some role) w.db) := by
  have hbound (w₁ : World) : bindExternalId sessionId (some stored) stored.externalId w₁ =
      (.ok (), w₁) := by
    by_cases hgiven : Text.given stored.externalId = true
    · simp [bindExternalId, hgiven, throwIf]
      rfl
    · simp [bindExternalId, hgiven]
      rfl
  have hsame (w₁ : World) : changeDeliveryMode sessionId (some stored) deliveryMode w₁ =
      (.ok (), w₁) := by
    cases deliveryMode with
    | none => rfl
    | some mode =>
      have hmode' : stored.deliveryMode = mode := hmode
      simp [changeDeliveryMode, hmode']
      rfl
  refine write_returns hquiet fun n => ?_
  simp only [Returns, wp_bind, wp_database, wp_throwIf, hchannel, hstored, reduceCtorEq,
    false_implies, not_false_eq_true, true_implies, true_and]
  refine ⟨fun hhalf => absurd rfl hhalf, fun _ => ?_⟩
  simp only [insertMissing, Option.isSome_some, if_true, wp_pure, bindProvenance, Text.trimmed,
    Option.map_none, Option.filter_none, Option.isSome_none, Bool.false_eq_true, if_false]
  rw [wp_bind, wp_of_outcome (hbound _), wp_bind, wp_of_outcome (hsame _)]
  simp only [joinMissing, wp_bind, wp_pure, wp_database, wp_ite]
  refine ⟨fun hmember => ?_, fun _ => ?_⟩
  · simp [Database.isActiveMember, Database.activeRows, hmemberships, Table.select] at hmember
  · exact insertMembership_returns (w := { w with transactionDepth := n })
      ⟨hquiet.importSession, hquiet.listeners⟩
      (Database.channelActive_iff.mpr ⟨channel, hchannel, hopen⟩)
      (Database.sessionLive_iff.mpr ⟨stored, hstored, hlive⟩) hmemberships hreference

end Returns

section Unbound

variable {connection : RoomsConnectionState} {context : RequestContext} {hosts : Hosts}

theorem not_actorBound {request : HandlerRequest} {d : Daemon}
    (hok : ∃ reply, (handle hosts connection context request d).1 = .ok reply)
    (hdiffers : ∀ actor, connection.session = some actor →
      handle hosts connection context request d ≠
        handle hosts connection { context with sessionId := some actor }
          (request.boundTo d.db actor) d)
    (hown : connection.session = none →
      ¬OwnEnrolment request d (handle hosts connection context request d).2) :
    ¬ActorBound hosts connection context request d := by
  intro hbound
  unfold ActorBound at hbound
  cases hsession : connection.session with
  | none =>
    rw [hsession] at hbound
    exact hown hsession hbound
  | some actor =>
    rw [hsession] at hbound
    rcases hbound with hsame | ⟨⟨e, herror⟩, _⟩
    · exact hdiffers actor hsession hsame
    · obtain ⟨reply, hreply⟩ := hok
      rw [hreply] at herror
      cases herror

theorem answer_ok {α : Type} (reply : α → Reply) {x : Command α} {d : Daemon}
    {P : Database → Prop} (h : Returns x d.store P) :
    (∃ r, (answer reply x d).1 = .ok r) ∧ P (answer reply x d).2.db := by
  obtain ⟨a, hok, hpost⟩ := h.ok
  rw [answer_apply]
  exact ⟨⟨reply a, by rw [hok]; rfl⟩, hpost⟩

theorem answer_ne {α : Type} {reply : α → Reply} {x : Command α} {d : Daemon}
    {outcome : Except Failure Reply × Daemon} {e : Failure} (hok : ∃ r, outcome.1 = .ok r)
    (herror : (x d.store).1 = .error e) : outcome ≠ answer reply x d := by
  intro hsame
  obtain ⟨r, hr⟩ := hok
  rw [hsame, answer_apply, herror] at hr
  cases hr

theorem actorContext_none {db : Database} {actorId credentialId : String} {missing : Failure}
    (h : db.sessionRole actorId = none) :
    actorContext db actorId credentialId missing = .error missing := by
  unfold actorContext
  rw [h]

theorem actorContext_role {db : Database} {actorId credentialId : String} {missing : Failure}
    {command : Application.AuthenticatedCommandContext} {stored : Session}
    (h : actorContext db actorId credentialId missing = .ok command)
    (hstored : db.currentSession actorId = some stored) : stored.role = some command.role := by
  unfold actorContext Database.sessionRole at h
  rw [hstored, Option.bind_some] at h
  cases hrole : stored.role with
  | none =>
    rw [hrole] at h
    cases h
  | some role =>
    rw [hrole] at h
    cases h
    rfl

/-- The store in which `named` owns the channel and may let `sessionId` in. -/
def joinable (channelId sessionId named : String) : Daemon :=
  daemonOver (berth channelId (some named)
    [plainSession named (some .operator), plainSession sessionId (some .reviewer)] [])

section Join

variable {channelId sessionId named actor : String}

theorem joinable_session : (joinable channelId sessionId named).db.currentSession actor =
    if named = actor then some (plainSession named (some .operator))
    else if sessionId = actor then some (plainSession sessionId (some .reviewer)) else none := by
  rw [joinable, daemonOver, Daemon.initial, Daemon.db, World.initial, currentSession_berth,
    List.find?_cons, List.find?_singleton]
  by_cases hnamed : named = actor
  · simp [plainSession, hnamed]
  · by_cases hsession : sessionId = actor <;> simp [plainSession, hnamed, hsession]

variable (channelId sessionId) in
theorem joinable_joins (hnamed : named ≠ "") : ∃ role,
    Returns (join channelId sessionId (some named) none)
      (joinable channelId sessionId named).store
      (Added role (joinable channelId sessionId named).db) := by
  have hactor : (joinable channelId sessionId named).db.currentSession named =
      some (plainSession named (some .operator)) := by
    rw [joinable_session, if_pos rfl]
  obtain ⟨target, htarget, hlive, hrole⟩ :
      ∃ target, (joinable channelId sessionId named).db.currentSession sessionId = some target ∧
        target.endedAt = none ∧ target.role ≠ some .worker := by
    rw [joinable_session]
    by_cases hself : named = sessionId
    · exact ⟨_, if_pos hself, rfl, by simp [plainSession]⟩
    · exact ⟨_, by rw [if_neg hself, if_pos rfl], rfl, by simp [plainSession]⟩
  refine ⟨target.role, ?_⟩
  have hfilter : ((some named).or none).filter (fun id => id ≠ "") = some named := by
    rw [Option.or_none, Option.filter_some, if_pos (by simpa using hnamed)]
  have hcontext : actorContext (joinable channelId sessionId named).db named
      "native-uncredentialed" (.runtime "authorizedBySessionId is required") =
        .ok ⟨"native-uncredentialed", named, .operator⟩ := by
    rw [actorContext, Database.sessionRole, hactor]
    rfl
  unfold Returns join
  rw [hfilter, wp_bind, wp_database]
  simp only [wp_bind, wp_ofExcept]
  rw [hcontext]
  refine ⟨fun context hok => ?_, fun e herror => by cases herror⟩
  cases hok
  exact join_returns (quiet_initial _ _ _) currentChannel_berth rfl
    (liveActor_of_stored hactor rfl rfl) ⟨rfl, rfl⟩ htarget hlive hrole rfl reference_berth

variable (channelId sessionId) in
theorem joinable_refuses (hother : actor ≠ named) : ∃ e,
    (join channelId sessionId (some actor) none (joinable channelId sessionId named).store).1 =
      .error e := by
  have hrefused : Ensures (join channelId sessionId (some actor) none)
      (joinable channelId sessionId named).store fun _ _ => False := by
    unfold Ensures join
    rw [wp_bind, wp_database]
    by_cases hempty : actor = ""
    · rw [Option.or_none, Option.filter_some, if_neg (by simpa using hempty)]
      exact .refl _
    · rw [Option.or_none, Option.filter_some, if_pos (by simpa using hempty)]
      simp only [wp_bind, wp_ofExcept]
      refine ⟨fun context hcontext => ?_, fun _ _ => .refl _⟩
      by_cases hself : sessionId = actor
      · subst hself
        have hstored : (joinable channelId sessionId named).db.currentSession sessionId =
            some (plainSession sessionId (some .reviewer)) := by
          rw [joinable_session, if_neg hother.symm, if_pos rfl]
        have hrole : some SessionRole.reviewer = some context.role :=
          actorContext_role hcontext hstored
        refine join_unowned _ (fun hoperator => ?_) hstored (by simp [plainSession])
        rw [hoperator] at hrole
        cases hrole
      · have hnone : (joinable channelId sessionId named).db.sessionRole actor = none := by
          rw [Database.sessionRole, joinable_session, if_neg hother.symm, if_neg hself]
          rfl
        cases (actorContext_none hnone).symm.trans hcontext
  cases houtcome : (join channelId sessionId (some actor) none
    (joinable channelId sessionId named).store).1 with
  | error e => exact ⟨e, rfl⟩
  | ok a => exact (hrefused.of_ok (Prod.ext houtcome rfl)).elim

theorem join_not_bound {authorizedBy : Option String}
    (hnamed : (authorizedBy.or context.sessionId).filter (fun id => id ≠ "") = some named)
    (hother : connection.session ≠ some named) :
    ¬ActorBound hosts connection context (.join channelId sessionId authorizedBy)
      (joinable channelId sessionId named) := by
  have hnonempty : named ≠ "" := by simpa using (Option.filter_eq_some_iff.mp hnamed).2
  obtain ⟨role, hjoins⟩ := joinable_joins channelId sessionId hnonempty
  rw [← join_named channelId sessionId hnamed] at hjoins
  obtain ⟨hok, m, hrows, _⟩ := answer_ok .mutation hjoins
  refine not_actorBound hok (fun actor hactor hsame => ?_) fun _ hown => ?_
  · have hne : actor ≠ named := fun heq => hother (heq ▸ hactor)
    obtain ⟨e, herror⟩ := joinable_refuses channelId sessionId hne
    have hself : ((some actor).or (some actor)).filter (fun id => id ≠ "") = some actor := by
      rw [Option.some_or, Option.filter_some, if_pos (Option.filter_eq_some_iff.mp hactor).2]
    rw [← join_named channelId sessionId hself] at herror
    exact answer_ne hok herror hsame
  · rcases hown with hidle | ⟨_, hregistration, _⟩
    · have hmemberships := hrows.symm.trans (congrArg (fun t => t.1.memberships.rows) hidle)
      exact absurd hmemberships (by simp [Daemon.tables])
    · cases hregistration

end Join

section Leave

variable {channelId sessionId named actor : String}

/-- The store in which `named` is an operator, and the member has no role. -/
def leavable (channelId sessionId named : String) : Daemon :=
  daemonOver (berth channelId none
    [plainSession named (some .operator), plainSession sessionId none]
    [⟨channelId, sessionId, "", none, none, none⟩])

variable (channelId sessionId named) in
theorem leavable_leaves : Returns (leave channelId sessionId (some named))
    (leavable channelId sessionId named).store
    (fun db' => db'.memberships ≠ (leavable channelId sessionId named).db.memberships) := by
  have hactor : (leavable channelId sessionId named).db.currentSession named =
      some (plainSession named (some .operator)) := by
    rw [leavable, daemonOver, Daemon.initial, Daemon.db, World.initial, currentSession_berth]
    simp [plainSession]
  have hmember : (leavable channelId sessionId named).db.isActiveMember channelId sessionId =
      true := by
    rw [Database.isActiveMember_iff]
    exact ⟨⟨channelId, sessionId, "", none, none, none⟩, List.mem_singleton_self _, rfl, rfl, rfl⟩
  have hcontext : actorContext (leavable channelId sessionId named).db named
      "native-uncredentialed" (.runtime "authorizedBySessionId is required") =
        .ok ⟨"native-uncredentialed", named, .operator⟩ := by
    rw [actorContext, Database.sessionRole, hactor]
    rfl
  unfold Returns leave
  rw [wp_bind, wp_database]
  simp only [wp_bind, wp_ofExcept, Option.getD_some]
  rw [hcontext]
  refine ⟨fun context hok => ?_, fun e herror => by cases herror⟩
  cases hok
  exact leave_returns (quiet_initial _ _ _) (liveActor_of_stored hactor rfl rfl) rfl hmember
    reference_berth

variable (channelId sessionId) in
theorem leavable_refuses (hother : actor ≠ named) : ∃ e,
    (leave channelId sessionId (some actor) (leavable channelId sessionId named).store).1 =
      .error e := by
  have hnone : (leavable channelId sessionId named).db.sessionRole actor = none := by
    rw [Database.sessionRole, leavable, daemonOver, Daemon.initial, Daemon.db, World.initial,
      currentSession_berth]
    by_cases hself : sessionId = actor <;> simp [plainSession, hother.symm, hself]
  exact ⟨_, congrArg Prod.fst (denied (actorContext_none hnone) _ _)⟩

theorem leave_not_bound (hother : connection.session ≠ some (context.sessionId.getD sessionId)) :
    ¬ActorBound hosts connection context (.leave channelId sessionId)
      (leavable channelId sessionId (context.sessionId.getD sessionId)) := by
  have hleaves := leavable_leaves channelId sessionId (context.sessionId.getD sessionId)
  have hsame : leave channelId sessionId (some (context.sessionId.getD sessionId)) =
      leave channelId sessionId context.sessionId := rfl
  rw [hsame] at hleaves
  obtain ⟨hok, hmemberships⟩ := answer_ok .mutation hleaves
  refine not_actorBound hok (fun actor hactor => ?_) fun _ hown => ?_
  · have hne : actor ≠ context.sessionId.getD sessionId := fun heq => hother (heq ▸ hactor)
    obtain ⟨e, herror⟩ := leavable_refuses channelId sessionId hne
    exact answer_ne hok herror
  · rcases hown with hidle | ⟨_, hregistration, _⟩
    · exact hmemberships (congrArg (fun t => t.1.memberships) hidle)
    · cases hregistration

end Leave

section Registration

def otherRole (role : SessionRole) : SessionRole := if role = .worker then .reviewer else .worker

theorem otherRole_ne (role : SessionRole) : otherRole role ≠ role := by
  cases role <;> decide

/-- The session of a registration, as it asks for it but in another role. -/
def registered (request : RegisterSessionRequest) : Session :=
  { plainSession request.sessionId (some (otherRole (request.role.getD .worker))) with
    externalId := request.externalId
    deliveryMode := request.deliveryMode.getD .runtime }

/-- The store in which the session of a registration is in no channel. -/
def registrable (request : RegisterSessionRequest) : Daemon :=
  daemonOver (berth (request.channelId.getD "") none [registered request] [])

theorem registrable_session (request : RegisterSessionRequest) :
    (registrable request).db.currentSession request.sessionId = some (registered request) := by
  rw [registrable, daemonOver, Daemon.initial, Daemon.db, World.initial, currentSession_berth]
  simp [registered, plainSession]

theorem registrable_registers {request : RegisterSessionRequest} (caller : Caller)
    (hchannel : Text.given request.channelId = true) (role : Option SessionRole) :
    Returns (registerSession caller { request with role := role }) (registrable request).store
      (Added (some (role.getD .worker)) (registrable request).db) := by
  unfold Returns registerSession
  rw [if_pos hchannel, wp_bind]
  exact registerSession_returns (quiet_initial _ _ _) currentChannel_berth rfl
    (registrable_session request) rfl request.deliveryMode rfl rfl reference_berth _

theorem registration_not_bound {request : RegisterSessionRequest}
    (hchannel : Text.given request.channelId = true)
    (hself : ∀ actor, connection.session = some actor → actor = request.sessionId) :
    ¬ActorBound hosts connection context (.registerSession request) (registrable request) := by
  let caller : Caller := ⟨connection, context.credential⟩
  obtain ⟨hok, m, hrows, hrole⟩ := answer_ok (fun _ => .registered)
    (registrable_registers caller hchannel request.role)
  refine not_actorBound hok (fun actor hactor hsame => ?_) fun _ hown => ?_
  · have hbound : (HandlerRequest.registerSession request).boundTo (registrable request).db actor =
        .registerSession { request with role := some (otherRole (request.role.getD .worker)) } := by
      have hactorRole : (registrable request).db.sessionRole actor =
          some (otherRole (request.role.getD .worker)) := by
        rw [hself actor hactor, Database.sessionRole, registrable_session]
        rfl
      rw [HandlerRequest.boundTo, if_pos ⟨hchannel, (hself actor hactor).symm⟩, hactorRole]
      rfl
    rw [hbound] at hsame
    obtain ⟨_, m', hrows', hrole'⟩ := answer_ok (fun _ => .registered)
      (registrable_registers caller hchannel (some (otherRole (request.role.getD .worker))))
    have hmemberships := hrows.symm.trans
      ((congrArg (fun r => r.2.db.memberships.rows) hsame).trans hrows')
    have hm : m = m' := by simpa using hmemberships
    rw [hm, hrole'] at hrole
    exact otherRole_ne _ (Option.some.inj hrole)
  · rcases hown with hidle | ⟨registration, hregistration, henrolled⟩
    · have hmemberships := hrows.symm.trans (congrArg (fun t => t.1.memberships.rows) hidle)
      exact absurd hmemberships (by simp [Daemon.tables])
    · cases hregistration
      cases (registrable_session request).symm.trans henrolled.fresh

end Registration

end Unbound

/-- Over every store a request counts only for the session of its connection, exactly if it names
itself. -/
theorem actor_bound_iff (hosts : Hosts) (connection : RoomsConnectionState)
    (context : RequestContext) (request : HandlerRequest) :
    (∀ d : Daemon, d.AtRest → ActorBound hosts connection context request d) ↔
      NamesItself connection context request := by
  constructor
  · intro hbound
    by_contra hforged
    cases request with
    | registerSession request =>
      unfold NamesItself at hforged
      push Not at hforged
      obtain ⟨hchannel, hself⟩ := hforged
      exact registration_not_bound hchannel hself (hbound _ (daemonOver_rest _))
    | join channelId sessionId authorizedBy =>
      unfold NamesItself at hforged
      push Not at hforged
      obtain ⟨named, hnamed, hother⟩ := hforged
      exact join_not_bound hnamed hother (hbound _ (daemonOver_rest _))
    | leave channelId sessionId =>
      exact leave_not_bound hforged (hbound _ (daemonOver_rest _))
    | _ => exact hforged trivial
  · intro hnames d hrest
    unfold ActorBound
    cases hsession : connection.session with
    | none => exact enrolment_of_anonymous hrest hsession hnames
    | some actor => exact bound_of_session hrest hsession hnames

/-- Mallory lets itself into the channel of alice, by naming her as who authorised it. -/
theorem forged_join_not_bound :
    (handle (fun _ _ => .acknowledged .written) ⟨[], some "mallory"⟩ {}
        (.join "harbour" "mallory" (some "alice"))
        (joinable "harbour" "mallory" "alice")).2.db.isActiveMember "harbour" "mallory" = true ∧
      ¬ActorBound (fun _ _ => .acknowledged .written) ⟨[], some "mallory"⟩ {}
        (.join "harbour" "mallory" (some "alice")) (joinable "harbour" "mallory" "alice") :=
  ⟨by decide, join_not_bound rfl (by decide)⟩

end Wardroom.Runtime
