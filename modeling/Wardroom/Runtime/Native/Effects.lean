import Wardroom.Rotation.Repository
import Wardroom.Runtime.Native.Composition

/-! # What a request does to the memberships

A request that returns had the effect of one repository command, and its checks
have passed; one that throws had no effect.
-/

namespace Wardroom.Application
open Wardroom.Library Wardroom.Domain Wardroom.Storage Prog

theorem registerChannel_effect (w : World) (id : String) (context : AuthenticatedCommandContext) :
    Ensures (registerChannel id context) w fun _ db' =>
      ChannelInserted id (some context.actorSessionId) w.db db' := by
  refine ensures_write fun n => ?_
  simp only [Ensures, wp_bind, wp_database, wp_throwIf]
  exact ⟨fun _ => .refl _, fun _ => insertChannel_effect _ id (some context.actorSessionId)⟩

/-- A join adds a planner or a reviewer only to a channel without one. -/
def Vacant (db : Database) (channelId : String) (role : Option SessionRole) : Prop :=
  (role = some .planner → db.activeMembershipCount channelId .planner = 0) ∧
    (role = some .reviewer → db.activeMembershipCount channelId .reviewer = 0)

theorem join_role_effect (w : World) (channelId sessionId : String)
    (context : AuthenticatedCommandContext) :
    Ensures (join channelId sessionId context) w fun _ db' =>
      Vacant w.db channelId (w.db.sessionRole sessionId) ∧
        Joined channelId sessionId (w.db.sessionRole sessionId) w.db db' := by
  refine ensures_write fun n => ?_
  simp only [Ensures, wp_bind, wp_database]
  cases w.db.currentChannel channelId with
  | none => exact .refl _
  | some channel =>
    simp only [wp_bind, wp_throwIf]
    refine ⟨fun _ => .refl _, fun _ => ⟨fun _ => .refl _, fun _ => ?_⟩⟩
    cases htarget : w.db.currentSession sessionId with
    | none => exact .refl _
    | some target =>
      have hrole : w.db.sessionRole sessionId = target.role := by
        rw [Database.sessionRole, htarget, Option.bind_some]
      rw [hrole]
      simp only [wp_bind, wp_throwIf]
      refine ⟨fun _ => .refl _, fun _ => ⟨fun _ => .refl _, fun _ => ⟨fun _ => .refl _, fun _ =>
        ⟨fun _ => .refl _, fun hholders => ?_⟩⟩⟩⟩
      obtain ⟨hplanner, hreviewer⟩ := not_or.mp hholders
      refine wp_mono (insertMembership_effect _ channelId sessionId target.role)
        (fun _ w' hpost => ⟨⟨⟨fun hrole => ?_, fun hrole => ?_⟩, hpost.1⟩, hpost.2⟩)
        (fun _ _ hkeeps => hkeeps)
      · exact Nat.eq_zero_of_not_pos fun hpos => hplanner ⟨hrole, hpos⟩
      · exact Nat.eq_zero_of_not_pos fun hpos => hreviewer ⟨hrole, hpos⟩

theorem endSession_effect (w : World) (sessionId : String) (context : AuthenticatedCommandContext) :
    Ensures (endSession sessionId context) w fun _ db' => SessionEnded sessionId w.db db' := by
  refine ensures_write fun n => ?_
  simp only [Ensures, wp_bind, wp_database, wp_ofExcept]
  exact ⟨fun _ _ => markSessionEnded_effect _ sessionId, fun _ _ => .refl _⟩

theorem closeChannel_effect (w : World) (channelId : String)
    (context : AuthenticatedCommandContext) :
    Ensures (closeChannel channelId context) w fun _ db' => ChannelClosed channelId w.db db' := by
  refine ensures_write fun n => ?_
  simp only [Ensures, wp_bind, wp_database, wp_throwIf]
  exact ⟨fun _ => .refl _, fun _ => Storage.closeChannel_effect _ channelId⟩

theorem leave_effect (w : World) (channelId sessionId : String)
    (context : AuthenticatedCommandContext) :
    Ensures (leave channelId sessionId context) w fun _ db' => Left channelId sessionId w.db db' := by
  refine ensures_write fun n => ?_
  simp only [Ensures, wp_bind, wp_database, wp_throwIf]
  exact ⟨fun _ => .refl _, fun _ => ⟨fun _ => .refl _,
    fun _ => leaveMembership_effect _ channelId sessionId⟩⟩

/-- What a role change checks of its actor and its target. -/
def roleChangeAllowed (db : Database) (channelId sessionId : String) (role : SessionRole)
    (context : AuthenticatedCommandContext) : Bool :=
  mayManage db channelId context && (db.currentChannel channelId).isSome &&
    db.sessionLive sessionId && role ≠ .operator &&
    !(db.activeMembershipChannels sessionId).any (roleConflict db channelId sessionId role)

theorem updateSessionRole_effect (w : World) (channelId sessionId : String) (role : SessionRole)
    (context : AuthenticatedCommandContext) :
    Ensures (updateSessionRole channelId sessionId role context) w fun _ db' =>
      roleChangeAllowed w.db channelId sessionId role context = true ∧
        RoleUpdated channelId sessionId role w.db db' := by
  refine ensures_write fun n => ?_
  simp only [Ensures, wp_bind, wp_database, wp_throwIf]
  refine ⟨fun _ => .refl _, fun hactor => ⟨fun _ => .refl _, fun hlive => ⟨fun _ => .refl _,
    fun hrole => ?_⟩⟩⟩
  cases hfind : (w.db.activeMembershipChannels sessionId).find?
      (roleConflict w.db channelId sessionId role) with
  | some affected => exact .refl _
  | none =>
    obtain ⟨hmanage, hchannel⟩ := not_or.mp hactor
    have hallowed : roleChangeAllowed w.db channelId sessionId role context = true := by
      rw [List.find?_eq_none] at hfind
      simp only [roleChangeAllowed, Bool.and_eq_true, Bool.not_eq_true', List.any_eq_false,
        decide_eq_true_eq]
      exact ⟨⟨⟨⟨by simpa using hmanage, Option.isSome_iff_ne_none.mpr hchannel⟩,
        by simpa using hlive⟩, hrole⟩, hfind⟩
    exact wp_mono (Storage.updateSessionRole_effect _ channelId sessionId role)
      (fun _ w' hpost => ⟨⟨hallowed, hpost.1⟩, hpost.2⟩) (fun _ _ hkeeps => hkeeps)

end Wardroom.Application

namespace Wardroom.Runtime
open Wardroom.Library Wardroom.Domain Wardroom.Storage Wardroom.Application Prog

section Requests

variable {w : World}

theorem createChannel_settles (h : w.transactionDepth = 0) (caller : Caller) (channelName : String) :
    Settles (createChannel caller channelName) w fun _ db' =>
      ∃ owner, ChannelInserted channelName owner w.db db' := by
  simp only [createChannel, Settles, wp_bind, wp_ofExcept, wp_database]
  refine ⟨fun actorId _ => ⟨fun context _ => ?_, fun _ _ => ⟨trivial, .refl w⟩⟩,
    fun _ _ => ⟨trivial, .refl w⟩⟩
  have hsettles : Settles (registerChannel channelName context) w fun _ db' =>
      ∃ owner, ChannelInserted channelName owner w.db db' :=
    (write_settles rfl h (registerChannel_effect w channelName context)).mono
      fun _ _ hinserted => ⟨_, hinserted⟩
  exact hsettles

theorem join_role_settles (h : w.transactionDepth = 0) (channelId sessionId : String)
    (authorizedBySessionId contextSessionId : Option String) :
    Settles (join channelId sessionId authorizedBySessionId contextSessionId) w fun _ db' =>
      Vacant w.db channelId (w.db.sessionRole sessionId) ∧
        Joined channelId sessionId (w.db.sessionRole sessionId) w.db db' := by
  simp only [join, Settles, wp_bind, wp_database]
  cases (authorizedBySessionId.or contextSessionId).filter fun id => id ≠ "" with
  | none => exact ⟨rfl, .refl w⟩
  | some actorId =>
    simp only [wp_bind, wp_ofExcept]
    refine ⟨fun context _ => ?_, fun _ _ => ⟨trivial, .refl w⟩⟩
    exact write_settles rfl h (Application.join_role_effect w channelId sessionId context)

theorem join_settles (h : w.transactionDepth = 0) (channelId sessionId : String)
    (authorizedBySessionId contextSessionId : Option String) :
    Settles (join channelId sessionId authorizedBySessionId contextSessionId) w fun _ db' =>
      ∃ role, Vacant w.db channelId role ∧ Joined channelId sessionId role w.db db' :=
  (join_role_settles h channelId sessionId authorizedBySessionId contextSessionId).mono
    fun _ _ hpost => ⟨_, hpost⟩

theorem leave_settles (h : w.transactionDepth = 0) (channelId sessionId : String)
    (contextSessionId : Option String) :
    Settles (leave channelId sessionId contextSessionId) w fun _ db' =>
      Left channelId sessionId w.db db' := by
  simp only [leave, Settles, wp_bind, wp_database, wp_ofExcept]
  refine ⟨fun context _ => ?_, fun _ _ => ⟨trivial, .refl w⟩⟩
  exact write_settles rfl h (Application.leave_effect w channelId sessionId context)

theorem closeChannel_settles (h : w.transactionDepth = 0) (caller : Caller) (channelId : String) :
    Settles (closeChannel caller channelId) w fun _ db' => ChannelClosed channelId w.db db' := by
  simp only [closeChannel, Settles, wp_bind, wp_ofExcept, wp_database]
  refine ⟨fun actorId _ => ⟨fun context _ => ?_, fun _ _ => ⟨trivial, .refl w⟩⟩,
    fun _ _ => ⟨trivial, .refl w⟩⟩
  exact write_settles rfl h (Application.closeChannel_effect w channelId context)

theorem endSession_settles (h : w.transactionDepth = 0) (caller : Caller) (sessionId : String) :
    Settles (endSession caller sessionId) w fun _ db' => SessionEnded sessionId w.db db' := by
  simp only [endSession, Settles, wp_bind, wp_ofExcept, wp_database]
  refine ⟨fun actorId _ => ⟨fun context _ => ?_, fun _ _ => ⟨trivial, .refl w⟩⟩,
    fun _ _ => ⟨trivial, .refl w⟩⟩
  exact write_settles rfl h (Application.endSession_effect w sessionId context)

/-- The credential names an operator who may give the session the role. -/
def roleRequestAllowed (db : Database) (caller : Caller) (channelId sessionId : String)
    (role : SessionRole) : Bool :=
  match credentialed caller with
  | .error _ => false
  | .ok actorId => db.sessionRole actorId = some .operator &&
      roleChangeAllowed db channelId sessionId role ⟨caller.credentialId, actorId, .operator⟩

theorem updateSessionRole_settles (h : w.transactionDepth = 0) (caller : Caller)
    (channelId sessionId : String) (role : SessionRole) :
    Settles (updateSessionRole caller channelId sessionId role) w fun _ db' =>
      roleRequestAllowed w.db caller channelId sessionId role = true ∧
        RoleUpdated channelId sessionId role w.db db' := by
  simp only [updateSessionRole, Settles, wp_bind, wp_ofExcept, wp_database, wp_throwIf]
  refine ⟨fun actorId hactor => ⟨fun _ => ⟨trivial, .refl w⟩, fun hoperator => ?_⟩,
    fun _ _ => ⟨trivial, .refl w⟩⟩
  have hsettles : Settles (Application.updateSessionRole channelId sessionId role
      ⟨caller.credentialId, actorId, .operator⟩) w fun _ db' =>
      roleRequestAllowed w.db caller channelId sessionId role = true ∧
        RoleUpdated channelId sessionId role w.db db' :=
    (write_settles rfl h (Application.updateSessionRole_effect w channelId sessionId role _)).mono
      fun _ _ hpost => ⟨by simp [roleRequestAllowed, hactor, not_not.mp hoperator, hpost.1], hpost.2⟩
  exact hsettles

/-- A registration without a channel may reactivate its session, and inserts a missing one. -/
inductive Enlisted (sessionId : String) (db : Database) : Database → Prop
  | same : Enlisted sessionId db db
  | reactivated {db₁ : Database} (h : Reactivated sessionId db db₁) : Enlisted sessionId db db₁
  | inserted {db₁ db₂ : Database} (h : Enlisted sessionId db db₁) (input : SessionInput)
      (hinserted : SessionInserted input db₁ db₂) : Enlisted sessionId db db₂

theorem registerUnlessPresent_enlisted {w₁ : World} (h : w₁.transactionDepth = 0)
    (request : RegisterSessionRequest) {db : Database}
    (henlisted : Enlisted request.sessionId db w₁.db) :
    wp (registerUnlessPresent request)
      (fun _ w' => Enlisted request.sessionId db w'.db ∧ Keeps w₁ w')
      (fun _ w' => Enlisted request.sessionId db w'.db ∧ Keeps w₁ w') w₁ := by
  simp only [registerUnlessPresent, wp_bind, wp_database, wp_ite, wp_pure]
  refine ⟨fun _ => ⟨henlisted, .refl w₁⟩, fun _ => ?_⟩
  have hsettles (input : SessionInput) : Settles (insertSession input) w₁ fun _ db' =>
      SessionInserted input w₁.db db' := write_settles rfl h (insertSession_effect w₁ input)
  exact wp_mono (hsettles _) (fun _ _ hpost => ⟨.inserted henlisted _ hpost.1, hpost.2⟩)
    fun _ _ hpost => ⟨hpost.1.symm ▸ henlisted, hpost.2⟩

theorem registerSession_enlisted (h : w.transactionDepth = 0) (caller : Caller)
    (request : RegisterSessionRequest) (hchannel : Text.given request.channelId = false) :
    Enlisted request.sessionId w.db (registerSession caller request w).2.db ∧
      Keeps w (registerSession caller request w).2 := by
  have hwp : wp (registerSession caller request)
      (fun _ w' => Enlisted request.sessionId w.db w'.db ∧ Keeps w w')
      (fun _ w' => Enlisted request.sessionId w.db w'.db ∧ Keeps w w') w := by
    simp only [registerSession, hchannel, Bool.false_eq_true, if_false, wp_bind, wp_database,
      wp_ite, wp_ofExcept, wp_throwIf]
    refine ⟨fun _ => ⟨fun actor _ => ⟨fun _ => ⟨.same, .refl w⟩, fun _ => ?_⟩,
      fun _ _ => ⟨.same, .refl w⟩⟩, fun _ => ⟨fun _ => ⟨.same, .refl w⟩, fun _ =>
        registerUnlessPresent_enlisted h request .same⟩⟩
    have hsettles : Settles (reactivateOperatorSession request.sessionId) w fun _ db' =>
        Reactivated request.sessionId w.db db' :=
      write_settles rfl h (reactivateOperatorSession_effect w request.sessionId)
    refine wp_mono hsettles (fun _ w₁ hpost => ?_) fun _ _ hpost =>
      ⟨hpost.1.symm ▸ .same, hpost.2⟩
    exact wp_mono (registerUnlessPresent_enlisted (hpost.2.transactionDepth.trans h) request
      (.reactivated hpost.1)) (fun _ _ h => ⟨h.1, hpost.2.trans h.2⟩)
      fun _ _ h => ⟨h.1, hpost.2.trans h.2⟩
  rcases cases_of_wp hwp with ⟨_, _, hpost⟩ | ⟨_, _, hpost⟩ <;> exact hpost

theorem registerSession_settles (h : w.transactionDepth = 0) (caller : Caller)
    (request : RegisterSessionRequest) (hchannel : Text.given request.channelId = true) :
    Settles (registerSession caller request) w fun _ db' =>
      Registered (request.channelId.getD "") request.sessionId (request.role.getD .worker)
        request.externalId w.db db' := by
  simp only [registerSession, hchannel, if_true, Settles, wp_bind]
  exact write_settles rfl h (registerSession_effect w _ _ _ _ _ _)

end Requests

end Wardroom.Runtime
