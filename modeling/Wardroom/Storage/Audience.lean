import Wardroom.Storage.Operations

/-! # What the listeners hear of a command

Inside a transaction, a command that returns has told the listeners of exactly
the rows it appended. All commands but one append last, so one that throws has
told them nothing. The rules follow the structure of a command: any number of
silent steps, then at most one appended row.
-/

namespace Wardroom.Storage
open Wardroom.Library Wardroom.Domain Prog

def Listener.hear (changes : List Change) (l : Listener) : Listener :=
  { l with seen := l.seen ++ changes }

/-- A listener that never throws. -/
def Listener.calm (l : Listener) : Prop := ∀ seen change, l.reacts seen change = none

def Calm (w : World) : Prop := ∀ l ∈ w.listeners, l.calm

/-- The listeners were told of exactly the rows that were appended. -/
structure Heard (w w' : World) : Prop where
  told : ∃ changes, w'.db.changes.rows = w.db.changes.rows ++ changes ∧
    w'.listeners = w.listeners.map (Listener.hear changes)
  transactionDepth : w'.transactionDepth = w.transactionDepth
  importSession : w'.importSession = w.importSession

/-- No row was appended and no listener told. -/
structure Still (w w' : World) : Prop where
  changes : w'.db.changes = w.db.changes
  listeners : w'.listeners = w.listeners
  transactionDepth : w'.transactionDepth = w.transactionDepth
  importSession : w'.importSession = w.importSession

section Relations

variable {w w' w'' : World}

theorem hear_nil (ls : List Listener) : ls.map (Listener.hear []) = ls := by
  calc
    ls.map (Listener.hear []) = ls.map id :=
      List.map_congr_left fun l _ => by simp [Listener.hear]
    _ = ls := List.map_id _

theorem hear_hear (ls : List Listener) (cs ds : List Change) :
    (ls.map (Listener.hear cs)).map (Listener.hear ds) = ls.map (Listener.hear (cs ++ ds)) := by
  rw [List.map_map]
  exact List.map_congr_left fun l _ => by simp [Listener.hear]

theorem Still.refl (w : World) : Still w w := ⟨rfl, rfl, rfl, rfl⟩

theorem Still.trans (h : Still w w') (h' : Still w' w'') : Still w w'' :=
  ⟨h'.changes.trans h.changes, h'.listeners.trans h.listeners,
    h'.transactionDepth.trans h.transactionDepth, h'.importSession.trans h.importSession⟩

theorem Still.heard (h : Still w w') : Heard w w' where
  told := ⟨[], by rw [h.changes, List.append_nil], by rw [hear_nil, h.listeners]⟩
  transactionDepth := h.transactionDepth
  importSession := h.importSession

theorem Heard.trans (h : Heard w w') (h' : Heard w' w'') : Heard w w'' := by
  obtain ⟨cs, hrows, hlisteners⟩ := h.told
  obtain ⟨ds, hrows', hlisteners'⟩ := h'.told
  refine ⟨⟨cs ++ ds, ?_, ?_⟩, h'.transactionDepth.trans h.transactionDepth,
    h'.importSession.trans h.importSession⟩
  · rw [hrows', hrows, List.append_assoc]
  · rw [hlisteners', hlisteners, hear_hear]

/-- What was heard is nothing if nothing was appended. -/
theorem Heard.still (h : Heard w w') (hchanges : w'.db.changes = w.db.changes) : Still w w' := by
  obtain ⟨cs, hrows, hlisteners⟩ := h.told
  rw [hchanges] at hrows
  have hnil : cs = [] := List.self_eq_append_right.mp hrows
  exact ⟨hchanges, by rw [hlisteners, hnil, hear_nil], h.transactionDepth, h.importSession⟩

theorem Calm.of_heard (hcalm : Calm w) (h : Heard w w') : Calm w' := by
  obtain ⟨cs, _, hlisteners⟩ := h.told
  intro l hl
  rw [hlisteners] at hl
  obtain ⟨k, hk, rfl⟩ := List.mem_map.mp hl
  exact hcalm k hk

end Relations

/-- Inside a transaction that no import holds, with listeners that never throw. -/
structure Attended (w : World) : Prop where
  calm : Calm w
  entered : 0 < w.transactionDepth
  idle : w.importSession = none

theorem Attended.of_heard {w w' : World} (hw : Attended w) (h : Heard w w') : Attended w' :=
  ⟨hw.calm.of_heard h, h.transactionDepth ▸ hw.entered, h.importSession.trans hw.idle⟩

section Judgements

variable {α β : Type}

/-- The command appends nothing. -/
def Silent (x : Command α) : Prop :=
  ∀ w, wp x (fun _ w' => Still w w') (fun _ w' => Still w w') w

/-- The command tells of what it appends, and appends nothing if it throws. -/
def Announces (x : Command α) : Prop :=
  ∀ w, Attended w → wp x (fun _ w' => Heard w w') (fun _ w' => Still w w') w

/-- The command tells of what it appends, also if it throws. -/
def Reports (x : Command α) : Prop :=
  ∀ w, Attended w → wp x (fun _ w' => Heard w w') (fun _ w' => Heard w w') w

variable {x y : Command α} {f : α → Command β}

theorem silent_pure (a : α) : Silent (pure a : Command α) := fun w => .refl w

theorem silent_fail (e : Failure) : Silent (fail e : Command α) := fun w => .refl w

theorem silent_database : Silent database := fun w => .refl w

theorem silent_now : Silent now := fun _ => ⟨rfl, rfl, rfl, rfl⟩

theorem silent_randomUUID : Silent randomUUID := fun _ => ⟨rfl, rfl, rfl, rfl⟩

theorem silent_throwIf (c : Prop) [Decidable c] (e : Failure) : Silent (throwIf c e) := fun w =>
  (wp_throwIf c e).mpr ⟨fun _ => .refl w, fun _ => .refl w⟩

theorem silent_constrained (outcome : Option α) (message : String) :
    Silent (constrained outcome message) := fun w =>
  (wp_constrained outcome message).mpr ⟨fun _ _ => .refl w, fun _ => .refl w⟩

theorem silent_references (present : Bool) : Silent (references present) :=
  silent_throwIf _ _

theorem silent_ofExcept (outcome : Except Failure α) : Silent (ofExcept outcome) := fun w =>
  (wp_ofExcept outcome).mpr ⟨fun _ _ => .refl w, fun _ _ => .refl w⟩

theorem silent_unchanged : Silent unchanged := fun w => .refl w

theorem silent_modifyDatabase {g : Database → Database} (h : ∀ db, (g db).changes = db.changes) :
    Silent (modifyDatabase g) := fun w => ⟨h w.db, rfl, rfl, rfl⟩

theorem silent_bind (hx : Silent x) (hf : ∀ a, Silent (f a)) : Silent (x >>= f) := fun w =>
  (wp_bind f).mpr <| wp_mono (hx w)
    (fun a w' h => wp_mono (hf a w') (fun _ _ => h.trans) (fun _ _ => h.trans)) (fun _ _ h => h)

theorem silent_ite {c : Prop} [Decidable c] (hx : Silent x) (hy : Silent y) :
    Silent (if c then x else y) := by
  by_cases h : c
  · rwa [if_pos h]
  · rwa [if_neg h]

theorem Silent.announces (h : Silent x) : Announces x := fun w _ =>
  wp_mono (h w) (fun _ _ => Still.heard) (fun _ _ h => h)

theorem Announces.reports (h : Announces x) : Reports x := fun w hw =>
  wp_mono (h w hw) (fun _ _ h => h) (fun _ _ => Still.heard)

theorem announces_bind (hx : Silent x) (hf : ∀ a, Announces (f a)) : Announces (x >>= f) := by
  intro w hw
  rw [wp_bind]
  refine wp_mono (hx w) (fun a w' h => ?_) (fun _ _ h => h)
  exact wp_mono (hf a w' (hw.of_heard h.heard)) (fun _ _ => h.heard.trans) (fun _ _ => h.trans)

theorem announces_map (hx : Announces x) (g : α → β) : Announces (x >>= fun a => pure (g a)) := by
  intro w hw
  rw [wp_bind]
  exact hx w hw

theorem announces_ite {c : Prop} [Decidable c] (hx : Announces x) (hy : Announces y) :
    Announces (if c then x else y) := by
  by_cases h : c
  · rwa [if_pos h]
  · rwa [if_neg h]

theorem broadcast_calm {ls : List Listener} (h : ∀ l ∈ ls, l.calm) (change : Change) :
    broadcast change ls = (ls.map (Listener.hear [change]), none) := by
  induction ls with
  | nil => rfl
  | cons l ls ih =>
    have hl := h l List.mem_cons_self l.seen change
    unfold broadcast
    rw [hl, ih fun k hk => h k (List.mem_cons_of_mem _ hk)]
    rfl

theorem announces_appendChange (channelId : Option String) (payload : Payload) :
    Announces (appendChange channelId payload) := by
  intro w hw
  have hbroadcast := broadcast_calm hw.calm (w.nextChange channelId payload)
  rw [wp_appendChange, hbroadcast]
  refine ⟨fun _ => ⟨⟨[w.nextChange channelId payload], rfl, ?_⟩, rfl, rfl⟩,
    fun _ => ⟨rfl, rfl, rfl, rfl⟩⟩
  exact congrArg Prod.fst hbroadcast

theorem announces_write (h : Announces x) : Announces (write x) := fun w hw =>
  (wp_write_nested x hw.entered).mpr (h w hw)

theorem reports_bind (hx : Reports x) (hf : ∀ a, Reports (f a)) : Reports (x >>= f) := by
  intro w hw
  rw [wp_bind]
  refine wp_mono (hx w hw) (fun a w' h => ?_) (fun _ _ h => h)
  exact wp_mono (hf a w' (hw.of_heard h)) (fun _ _ => h.trans) (fun _ _ => h.trans)

theorem reports_write (h : Reports x) : Reports (write x) := fun w hw =>
  (wp_write_nested x hw.entered).mpr (h w hw)

end Judgements

theorem insertSession_announces (input : SessionInput) : Announces (insertSession input) := by
  refine announces_write (announces_bind silent_database fun db => ?_)
  refine announces_bind (silent_throwIf _ _) fun _ => announces_bind silent_now fun _ => ?_
  refine announces_bind (silent_constrained _ _) fun _ => ?_
  exact announces_bind (silent_modifyDatabase fun _ => rfl) fun _ => announces_appendChange _ _

theorem insertChannel_announces (id : String) (owner : Option String) :
    Announces (insertChannel id owner) := by
  refine announces_write (announces_bind silent_database fun db => ?_)
  refine announces_bind (silent_throwIf _ _) fun _ => announces_bind silent_now fun _ => ?_
  refine announces_bind (silent_references _) fun _ => announces_bind (silent_constrained _ _) fun _ => ?_
  exact announces_bind (silent_modifyDatabase fun _ => rfl) fun _ => announces_appendChange _ _

theorem insertMembership_announces (channelId sessionId : String) (role : Option SessionRole) :
    Announces (insertMembership channelId sessionId role) := by
  refine announces_write (announces_bind silent_database fun db => ?_)
  refine announces_bind (silent_throwIf _ _) fun _ => announces_bind (silent_throwIf _ _) fun _ => ?_
  refine announces_ite silent_unchanged.announces (announces_bind silent_now fun _ => ?_)
  refine announces_bind (silent_constrained _ _) fun _ => ?_
  exact announces_bind (silent_modifyDatabase fun _ => rfl) fun _ => announces_appendChange _ _

theorem leaveMembership_announces (channelId sessionId : String) :
    Announces (leaveMembership channelId sessionId) := by
  refine announces_write (announces_bind silent_database fun db => ?_)
  cases latestJoined (db.activeRows channelId sessionId) with
  | none => exact (silent_fail _).announces
  | some joined =>
    refine announces_bind silent_now fun _ => ?_
    exact announces_bind (silent_modifyDatabase fun _ => rfl) fun _ => announces_appendChange _ _

theorem markSessionEnded_announces (sessionId : String) : Announces (markSessionEnded sessionId) := by
  refine announces_write (announces_bind silent_database fun db => ?_)
  refine announces_bind (silent_throwIf _ _) fun _ => announces_bind silent_now fun _ => ?_
  exact announces_bind (silent_modifyDatabase fun _ => rfl) fun _ => announces_appendChange _ _

theorem reactivateOperatorSession_announces (sessionId : String) :
    Announces (reactivateOperatorSession sessionId) := by
  refine announces_write (announces_bind silent_database fun db => ?_)
  refine announces_bind (silent_throwIf _ _) fun _ => announces_bind silent_now fun _ => ?_
  refine announces_bind (silent_modifyDatabase fun _ => rfl) fun _ => ?_
  refine announces_bind (silent_modifyDatabase fun _ => rfl) fun _ => ?_
  exact announces_ite silent_unchanged.announces (announces_appendChange _ _)

theorem closeChannel_announces (channelId : String) : Announces (closeChannel channelId) := by
  refine announces_write (announces_bind silent_database fun db => ?_)
  cases db.currentChannel channelId with
  | none => exact (silent_fail _).announces
  | some channel =>
    refine announces_ite silent_unchanged.announces (announces_bind silent_now fun _ => ?_)
    exact announces_bind (silent_modifyDatabase fun _ => rfl) fun _ => announces_appendChange _ _

theorem reopenChannel_announces (channelId : String) : Announces (reopenChannel channelId) := by
  refine announces_write (announces_bind silent_database fun db => ?_)
  cases db.currentChannel channelId with
  | none => exact (silent_fail _).announces
  | some channel =>
    refine announces_ite silent_unchanged.announces (announces_bind silent_now fun _ => ?_)
    exact announces_bind (silent_modifyDatabase fun _ => rfl) fun _ => announces_appendChange _ _

theorem updateChannelColumn_announces {β : Type} [DecidableEq β] (column : Channel → β)
    (assign : Channel → Channel) (hid : ∀ c, (assign c).id = c.id) (payload : Payload)
    (channelId : String) (value : β) :
    Announces (updateChannelColumn column assign hid payload channelId value) := by
  refine announces_write (announces_bind silent_database fun db => ?_)
  cases db.currentChannel channelId with
  | none => exact (silent_fail _).announces
  | some current =>
    refine announces_ite silent_unchanged.announces ?_
    exact announces_bind (silent_modifyDatabase fun _ => rfl) fun _ => announces_appendChange _ _

theorem demote_changes (ids : List String) (db : Database) :
    (ids.foldl (fun db id => db.assignRole id .worker) db).changes = db.changes := by
  induction ids generalizing db with
  | nil => rfl
  | cons id ids ih => exact ih _

theorem updateSessionRole_announces (channelId sessionId : String) (role : SessionRole) :
    Announces (updateSessionRole channelId sessionId role) := by
  refine announces_write (announces_bind silent_database fun db => ?_)
  cases db.sessionRole sessionId with
  | none => exact (silent_fail _).announces
  | some before =>
    refine announces_bind (silent_modifyDatabase fun _ => demote_changes _ _) fun _ => ?_
    exact announces_bind (silent_modifyDatabase fun _ => rfl) fun _ => announces_appendChange _ _

theorem recordRuntimeLifecycle_announces (channelId sessionId runtimeId : String)
    (generation : Nat) (state : String) (endedAt : Option String) :
    Announces (recordRuntimeLifecycle channelId sessionId runtimeId generation state endedAt) :=
  announces_write (announces_bind silent_database fun _ => announces_appendChange _ _)

theorem silent_assertFederatedAdmissionOwner (channelId actorSessionId : String)
    (requireActiveChannel : Bool) :
    Silent (assertFederatedAdmissionOwner channelId actorSessionId requireActiveChannel) := by
  refine silent_bind silent_database fun db => ?_
  cases db.currentChannel channelId with
  | none => exact silent_fail _
  | some channel => exact silent_bind (silent_throwIf _ _) fun _ => silent_throwIf _ _

theorem grantFederatedChannelAdmission_announces (channelId peer actor : String) :
    Announces (grantFederatedChannelAdmission channelId peer actor) := by
  refine announces_write (announces_bind (silent_assertFederatedAdmissionOwner _ _ _) fun _ => ?_)
  refine announces_bind silent_now fun _ => ?_
  refine announces_bind (silent_modifyDatabase fun _ => rfl) fun _ => ?_
  exact (silent_bind silent_database fun _ => silent_pure _).announces

theorem revokeFederatedChannelAdmission_announces (channelId peer actor : String) :
    Announces (revokeFederatedChannelAdmission channelId peer actor) := by
  refine announces_write (announces_bind (silent_assertFederatedAdmissionOwner _ _ _) fun _ => ?_)
  refine announces_bind silent_database fun db => ?_
  cases db.federationChannelAdmissions.find? (channelId, peer) with
  | none => exact (silent_fail _).announces
  | some existing =>
    have hfound : Silent (do
        let db ← database
        return db.federationChannelAdmissions.find? (channelId, peer)) :=
      silent_bind silent_database fun _ => silent_pure _
    refine (silent_ite (silent_bind silent_now fun _ => ?_) hfound).announces
    exact silent_bind (silent_modifyDatabase fun _ => rfl) fun _ => hfound

theorem silent_setSessionProviderThreadId (id providerThreadId : String) :
    Silent (setSessionProviderThreadId id providerThreadId) := by
  refine silent_bind (silent_throwIf _ _) fun _ => ?_
  refine silent_bind (silent_modifyDatabase fun _ => rfl) fun _ => silent_bind silent_database ?_
  intro db
  cases db.currentSession id with
  | none => exact silent_fail _
  | some value => exact silent_pure _

theorem commitMessage_announces (input : CanonicalMessageCommitInput) :
    Announces (commitMessage input) := by
  refine announces_write (announces_bind silent_database fun db => ?_)
  refine announces_bind (silent_throwIf _ _) fun _ => announces_bind (silent_ofExcept _) fun reply => ?_
  refine announces_bind (silent_ofExcept _) fun prior => ?_
  rcases prior with _ | ⟨row, event⟩
  · refine announces_bind silent_randomUUID fun _ => announces_bind silent_now fun _ => ?_
    exact announces_map (announces_appendChange _ _) _
  · exact (silent_pure _).announces

theorem silent_upsertResolved (threadRootEventId channelId actorSessionId changedAt : String) :
    Silent (upsertResolved threadRootEventId channelId actorSessionId changedAt) := by
  refine silent_bind silent_database fun db => ?_
  cases db.messageThreads.insert? ⟨threadRootEventId, channelId, .resolved, some changedAt,
      some actorSessionId, none, none, some changedAt⟩ with
  | none => exact silent_modifyDatabase fun _ => rfl
  | some threads =>
    exact silent_bind (silent_references _) fun _ => silent_modifyDatabase fun _ => rfl

theorem setThreadState_announces (threadRootEventId actorSessionId : String) (state : ThreadState)
    (channelId : Option String) :
    Announces (setThreadState threadRootEventId actorSessionId state channelId) := by
  refine announces_write (announces_bind silent_database fun db => ?_)
  refine announces_bind (silent_throwIf _ _) fun _ => announces_bind (silent_ofExcept _) fun _ => ?_
  refine announces_bind (silent_throwIf _ _) fun _ => ?_
  refine announces_ite (silent_bind silent_unchanged fun _ => silent_pure _).announces ?_
  refine announces_bind silent_now fun changedAt => ?_
  cases state with
  | resolved =>
    refine announces_bind (silent_upsertResolved _ _ _ _) fun _ => ?_
    refine announces_bind silent_database fun _ => announces_bind (silent_ofExcept _) fun _ => ?_
    exact announces_map (announces_appendChange _ _) _
  | «open» =>
    refine announces_bind (silent_modifyDatabase fun _ => rfl) fun _ => ?_
    refine announces_bind silent_database fun _ => announces_bind (silent_ofExcept _) fun _ => ?_
    exact announces_map (announces_appendChange _ _) _

theorem commitControl_announces (input : ControlInput) : Announces (commitControl input) := by
  refine announces_write (announces_bind silent_database fun db => ?_)
  cases db.controlRow input.channelId input.senderSessionId input.requestId with
  | some prior => exact (silent_pure _).announces
  | none =>
    refine announces_bind silent_randomUUID fun _ => announces_bind silent_now fun _ => ?_
    exact announces_map (announces_appendChange _ _) _

theorem appendMessageDelivery_announces (messageId : String) (statuses : RecipientStatuses) :
    Announces (appendMessageDelivery messageId statuses) := by
  refine announces_write (announces_bind silent_database fun db => ?_)
  rcases db.messageRow messageId with _ | ⟨row, event⟩
  · exact (silent_fail _).announces
  · refine announces_bind silent_now fun _ => ?_
    exact announces_map (announces_appendChange _ _) _

theorem insertMissing_announces (existing : Option Session) (input : SessionInput) :
    Announces (insertMissing existing input) :=
  announces_ite (silent_pure _).announces (announces_map (insertSession_announces input) _)

theorem silent_bindExternalId (sessionId : String) (existing : Option Session)
    (externalId : Option String) : Silent (bindExternalId sessionId existing externalId) := by
  cases existing with
  | none => exact silent_pure _
  | some current =>
    refine silent_ite (silent_bind (silent_throwIf _ _) fun _ => ?_) (silent_pure _)
    exact silent_ite (silent_pure _) (silent_modifyDatabase fun _ => rfl)

theorem changeDeliveryMode_announces (sessionId : String) (existing : Option Session)
    (deliveryMode : Option SessionDeliveryMode) :
    Announces (changeDeliveryMode sessionId existing deliveryMode) := by
  cases existing with
  | none => exact (silent_pure _).announces
  | some current =>
    cases deliveryMode with
    | none => exact (silent_pure _).announces
    | some mode =>
      refine announces_ite (silent_pure _).announces ?_
      refine announces_bind (silent_modifyDatabase fun _ => rfl) fun _ => ?_
      exact announces_map (announces_appendChange _ _) _

theorem silent_bindProvenance (sessionId : String) (existing : Option Session)
    (owner agent : Option String) : Silent (bindProvenance sessionId existing owner agent) := by
  cases existing with
  | none => exact silent_pure _
  | some current =>
    refine silent_ite (silent_bind (silent_throwIf _ _) fun _ => ?_) (silent_pure _)
    exact silent_ite (silent_pure _) (silent_modifyDatabase fun _ => rfl)

theorem joinMissing_announces (channelId sessionId : String) (role : SessionRole) :
    Announces (joinMissing channelId sessionId role) := by
  refine announces_bind silent_database fun db => ?_
  exact announces_ite (silent_pure _).announces
    (announces_map (insertMembership_announces channelId sessionId (some role)) _)

theorem registerSession_reports (channelId sessionId : String) (role : SessionRole)
    (externalId : Option String) (deliveryMode : Option SessionDeliveryMode)
    (provenance : ExternalProvenance) :
    Reports (registerSession channelId sessionId role externalId deliveryMode provenance) := by
  refine reports_write (reports_bind silent_database.announces.reports fun db => ?_)
  refine reports_bind (silent_throwIf _ _).announces.reports fun _ => ?_
  refine reports_bind (silent_throwIf _ _).announces.reports fun _ => ?_
  refine reports_bind (insertMissing_announces _ _).reports fun _ => ?_
  refine reports_bind (silent_bindExternalId _ _ _).announces.reports fun _ => ?_
  refine reports_bind (changeDeliveryMode_announces _ _ _).reports fun _ => ?_
  refine reports_bind (silent_bindProvenance _ _ _ _).announces.reports fun _ => ?_
  refine reports_bind (joinMissing_announces _ _ _).reports fun _ => ?_
  exact (silent_bind silent_database fun _ => silent_pure _).announces.reports

section Imports

variable {α β : Type} {x : Command α} {f : α → Command β}

/-- The command tells no listener anything, whatever it appends. -/
def Mute (x : Command α) : Prop :=
  ∀ w, wp x (fun _ w' => w'.listeners = w.listeners) (fun _ w' => w'.listeners = w.listeners) w

theorem Silent.mute (h : Silent x) : Mute x := fun w =>
  wp_mono (h w) (fun _ _ h => h.listeners) (fun _ _ h => h.listeners)

theorem mute_bind (hx : Mute x) (hf : ∀ a, Mute (f a)) : Mute (x >>= f) := fun w =>
  wp_seq (wp_mono_ok (hx w) fun _ _ h => h) fun a w' h =>
    wp_mono (hf a w') (fun _ _ h' => h'.trans h) (fun _ _ h' => h'.trans h)

theorem mute_read : Mute (Prog.read : Command World) := fun _ => rfl

theorem mute_modifyDatabase (g : Database → Database) : Mute (modifyDatabase g) := fun _ => rfl

theorem mute_ite {c : Prop} [Decidable c] {y : Command α} (hx : Mute x) (hy : Mute y) :
    Mute (if c then x else y) := by
  by_cases h : c
  · rwa [if_pos h]
  · rwa [if_neg h]

theorem mute_appendImportedChange (channelId : Option String) (payload : Payload)
    (event : CanonicalImportEvent) : Mute (appendImportedChange channelId payload event) :=
  mute_bind silent_database.mute fun _ =>
    mute_bind (silent_references _).mute fun _ => mute_modifyDatabase _

theorem silent_importChannel (value : LegacyChannel) : Silent (importChannel value) := by
  refine silent_bind (silent_ofExcept _) fun registeredAt => ?_
  refine silent_bind (silent_ofExcept _) fun closedAt => silent_bind silent_database fun db => ?_
  cases db.channels.insert? ⟨value.id, none, registeredAt, value.ownerOperatorSessionID,
      value.lifecycleState.getD .active, closedAt, .all, .open⟩ with
  | none => exact silent_pure _
  | some channels =>
    exact silent_bind (silent_references _) fun _ => silent_modifyDatabase fun _ => rfl

theorem silent_importSessionRow (value : LegacySession) : Silent (importSessionRow value) := by
  refine silent_bind (silent_ofExcept _) fun registeredAt => ?_
  refine silent_bind (silent_ofExcept _) fun endedAt => silent_bind silent_database fun db => ?_
  cases db.sessions.insert? ⟨value.id, registeredAt, endedAt, value.displayName, value.role,
      none, none, .runtime, none, none⟩ with
  | none => exact silent_pure _
  | some sessions => exact silent_modifyDatabase fun _ => rfl

theorem silent_insertImportedMembership (value : LegacyMembership) :
    Silent (insertImportedMembership value) := by
  refine silent_bind (silent_ofExcept _) fun joinedAt => silent_bind silent_database fun db => ?_
  cases db.memberships.insert?
      ⟨value.channelID, value.sessionID, joinedAt, none, none, value.role⟩ with
  | none => exact silent_pure _
  | some memberships =>
    exact silent_bind (silent_references _) fun _ => silent_modifyDatabase fun _ => rfl

theorem silent_endImportedMembership (session : ImportSession) (value : LegacyMembershipEnd) :
    Silent (endImportedMembership session value) :=
  silent_bind (silent_ofExcept _) fun _ => silent_modifyDatabase fun _ => rfl

theorem mute_importEffect (session : ImportSession) (event : CanonicalImportEvent) :
    Mute (importEffect session event) := by
  unfold importEffect
  cases event.record with
  | channel value => exact (silent_importChannel value).mute
  | session value => exact (silent_importSessionRow value).mute
  | sessionRoleAssignment sessionID role =>
    exact mute_ite (silent_pure _).mute (mute_modifyDatabase _)
  | channelOwnerAssignment channelID owner =>
    refine mute_ite (silent_pure _).mute (mute_bind silent_database.mute fun _ => ?_)
    exact mute_bind (silent_references _).mute fun _ => mute_modifyDatabase _
  | membership value => exact (silent_insertImportedMembership value).mute
  | membershipEnded value => exact (silent_endImportedMembership session value).mute
  | sessionEnded sessionID endedAt =>
    refine mute_bind (silent_ofExcept _).mute fun _ => ?_
    exact mute_ite (silent_pure _).mute (mute_modifyDatabase _)
  | message value =>
    refine mute_bind (silent_ofExcept _).mute fun _ => mute_bind (silent_ofExcept _).mute fun _ => ?_
    refine mute_bind silent_database.mute fun _ => mute_bind (silent_ofExcept _).mute fun _ => ?_
    exact mute_appendImportedChange _ _ _
  | workerJoin value => exact (silent_insertImportedMembership value).mute
  | workerTerminal value => exact (silent_endImportedMembership session value).mute
  | channelClosed id closedAt =>
    refine mute_ite (silent_pure _).mute (mute_bind (silent_ofExcept _).mute fun _ => ?_)
    exact mute_modifyDatabase _
  | workerAssignment _ => exact (silent_pure _).mute
  | workerReplacement _ => exact (silent_pure _).mute
  | workUnit _ => exact (silent_pure _).mute
  | unsupported kind => exact (silent_fail _).mute

theorem rollbackImport_listeners (w : World) : (rollbackImport w).listeners = w.listeners := by
  unfold rollbackImport
  cases w.importSession <;> rfl

theorem mute_importAppend (event : CanonicalImportEvent) : Mute (importAppend event) := by
  intro w
  unfold importAppend
  rw [wp_onError]
  refine wp_mono (mute_bind mute_read (fun w => ?_) w) (fun _ _ h => h)
    fun _ w' h => (rollbackImport_listeners w').trans h
  cases w.importSession with
  | none => exact (silent_fail _).mute
  | some session =>
    refine mute_bind (silent_throwIf _ _).mute fun _ => ?_
    refine mute_bind (mute_importEffect session event) fun _ => ?_
    exact mute_ite (silent_pure _).mute (mute_appendImportedChange _ _ _)

theorem mute_importBegin (sourceDigest : String) (sourceVersion : Int) :
    Mute (importBegin sourceDigest sourceVersion) := by
  refine mute_bind (silent_throwIf _ _).mute fun _ => mute_bind (fun _ => rfl) fun w => ?_
  refine mute_bind (silent_throwIf _ _).mute fun _ => mute_bind (silent_throwIf _ _).mute fun _ => ?_
  refine mute_bind silent_now.mute fun _ => mute_bind (silent_constrained _ _).mute fun _ => ?_
  exact fun _ => rfl

theorem mute_importCommit : Mute importCommit := by
  refine mute_bind (fun _ => rfl) fun w => mute_bind (silent_throwIf _ _).mute fun _ => ?_
  refine mute_bind silent_now.mute fun _ => mute_bind (mute_modifyDatabase _) fun _ => ?_
  exact fun _ => rfl

theorem mute_importRollback : Mute importRollback := rollbackImport_listeners

theorem Mute.listeners (h : Mute x) (w : World) : (x w).2.listeners = w.listeners := by
  rcases cases_of_wp (h w) with ⟨_, _, h⟩ | ⟨_, _, h⟩ <;> exact h

end Imports
end Wardroom.Storage
