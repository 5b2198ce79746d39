import Wardroom.Library.Trace
import Wardroom.Storage.Audience

/-! # Change listeners

Listeners are told of a change while the write transaction that appends it is
still open. What they have seen is what was committed, unless a listener
throws, a command throws after it has appended, or an import commits rows that
nobody was told of.
-/

namespace Wardroom.Feeds
open Wardroom.Library Wardroom.Domain Wardroom.Storage Prog

def joinRefused (db : Database) (channelId sessionId : String) (live : Bool) (joinedAt : String) :
    Bool :=
  !db.isActiveMember channelId sessionId &&
    (!db.channelActive channelId || !live || db.memberships.has (channelId, sessionId, joinedAt))

/-- The session is bound to another external owner or agent. -/
def provenanceTaken (current : Session) (owner agent : Option String) : Bool :=
  owner.isSome && Text.given current.externalOwner &&
    (current.externalOwner ≠ owner || current.externalAgentId ≠ agent)

/-- The registration throws after it has appended a change: it inserted the session, or changed its
delivery mode, and then a later step refuses. -/
def registrationStalls (w : World) (channelId sessionId : String) (externalId : Option String)
    (deliveryMode : Option SessionDeliveryMode) (provenance : ExternalProvenance) : Bool :=
  let owner := Text.trimmed provenance.externalOwner
  let agent := Text.trimmed provenance.externalAgentId
  (w.db.currentChannel channelId).isSome && owner.isNone == agent.isNone &&
    match w.db.currentSession sessionId with
    | none => joinRefused w.db channelId sessionId true (w.clock (w.ticks + 2))
    | some current =>
      externalIdFree (some current) externalId && deliveryMode.any (current.deliveryMode ≠ ·) &&
        (provenanceTaken current owner agent ||
          joinRefused w.db channelId sessionId current.endedAt.isNone (w.clock (w.ticks + 1)))

/-- What the earlier steps of a registration leave for the join. -/
structure Prepared (w w' : World) (ticks : Nat) : Prop where
  memberships : w'.db.memberships = w.db.memberships
  channels : w'.db.channels = w.db.channels
  clock : w'.clock = w.clock
  ticks : w'.ticks = w.ticks + ticks

section Registration

variable {w w' : World} {channelId sessionId : String}

theorem Prepared.joinRefused {ticks : Nat} (h : Prepared w w' ticks) (live : Bool) :
    joinRefused w'.db channelId sessionId live (w'.clock w'.ticks) =
      joinRefused w.db channelId sessionId live (w.clock (w.ticks + ticks)) := by
  unfold Feeds.joinRefused Database.isActiveMember Database.activeRows Database.channelActive
    Database.currentChannel
  rw [h.memberships, h.channels, h.clock, h.ticks]

theorem wp_appendChange_attended (hw : Attended w) {channel : Option String} {payload : Payload}
    {Q : MutationReceipt → World → Prop} {E : Failure → World → Prop}
    (hchannel : w.db.channelReference channel = true) :
    wp (appendChange channel payload) Q E w ↔
      Q ⟨w.db.changes.latestCursor + 1, true, [w.nextChange channel payload]⟩
        (w.appended channel payload) := by
  rw [wp_appendChange, broadcast_calm hw.calm]
  simp [hchannel]

theorem joinMissing_returns (hw : Attended w) (role : SessionRole)
    (hjoin : joinRefused w.db channelId sessionId (w.db.sessionLive sessionId) (w.clock w.ticks) =
      false) :
    wp (joinMissing channelId sessionId role) (fun _ _ => True) (fun _ _ => False) w := by
  unfold joinMissing
  rw [wp_bind, wp_database, wp_ite]
  refine ⟨fun _ => trivial, fun hmember => ?_⟩
  have hguards : w.db.channelActive channelId = true ∧ w.db.sessionLive sessionId = true ∧
      w.db.memberships.has (channelId, sessionId, w.clock w.ticks) = false := by
    simpa [joinRefused, Bool.not_eq_true _ ▸ hmember, and_assoc] using hjoin
  obtain ⟨hchannel, hlive, hfresh⟩ := hguards
  unfold insertMembership
  rw [wp_bind, wp_write_nested _ hw.entered]
  simp only [wp_bind, wp_database, wp_throwIf, wp_ite, wp_now, wp_constrained, wp_modifyDatabase,
    hchannel, hlive, hmember, reduceCtorEq, false_imp_iff, not_false_eq_true, true_imp_iff, true_and]
  refine ⟨fun memberships _ => ?_, fun hnone => ?_⟩
  · have hattended : Attended { w with
        db := { w.db with memberships := memberships }, ticks := w.ticks + 1 } :=
      ⟨hw.calm, hw.entered, hw.idle⟩
    refine (wp_appendChange_attended hattended ?_).mpr trivial
    obtain ⟨c, hc, _⟩ := Database.channelActive_iff.mp hchannel
    obtain ⟨hrow, hid⟩ := Table.find?_some hc
    change w.db.channels.has channelId = true
    rw [Table.has_iff]
    exact List.mem_map.mpr ⟨c, hrow, hid⟩
  · -- the key of the new row is free
    have hkey : w.db.memberships.has (Membership.key
        ⟨channelId, sessionId, w.clock w.ticks, none, none, some role⟩) = false := hfresh
    unfold Table.insert? at hnone
    rw [dif_neg (by rw [hkey]; exact Bool.false_ne_true)] at hnone
    cases hnone

theorem insertSession_prepares (hw : Attended w) (input : SessionInput) :
    wp (insertSession input)
      (fun _ w' => Prepared w w' 2 ∧ w'.db.sessionLive input.id = true) (fun _ _ => True) w := by
  unfold insertSession
  rw [wp_write_nested _ hw.entered]
  simp only [wp_bind, wp_database, wp_throwIf, wp_now, wp_constrained, wp_modifyDatabase]
  refine ⟨fun _ => trivial, fun _ => ⟨fun sessions hinsert => ?_, fun _ => trivial⟩⟩
  have hattended : Attended { w with
      db := { w.db with sessions := sessions }, ticks := w.ticks + 1 } :=
    ⟨hw.calm, hw.entered, hw.idle⟩
  refine (wp_appendChange_attended hattended rfl).mpr ⟨⟨rfl, rfl, rfl, rfl⟩, ?_⟩
  exact Database.sessionLive_iff.mpr ⟨_, (Table.find?_insert hinsert _).trans (if_pos rfl), rfl⟩

theorem Prepared.of_touched {ticks : Nat} (h : Touched sessionId w.db w'.db)
    (hclock : w'.clock = w.clock ∧ w'.ticks = w.ticks + ticks) : Prepared w w' ticks :=
  ⟨h.memberships, h.channels, hclock.1, hclock.2⟩

theorem bindExternalId_prepares (current : Session) (externalId : Option String) :
    wp (bindExternalId sessionId (some current) externalId)
      (fun _ w' => w'.clock = w.clock ∧ w'.ticks = w.ticks + 0) (fun _ _ => True) w := by
  simp only [bindExternalId, wp_ite, wp_bind, wp_throwIf, wp_pure, wp_modifyDatabase]
  exact ⟨fun _ => ⟨fun _ => trivial, fun _ => ⟨fun _ => ⟨trivial, rfl⟩, fun _ => ⟨trivial, rfl⟩⟩⟩,
    fun _ => ⟨trivial, rfl⟩⟩

variable {deliveryMode : Option SessionDeliveryMode}

theorem changeDeliveryMode_prepares (hw : Attended w) {current : Session}
    (hchanges : deliveryMode.any (current.deliveryMode ≠ ·) = true) :
    wp (changeDeliveryMode sessionId (some current) deliveryMode)
      (fun _ w' => w'.clock = w.clock ∧ w'.ticks = w.ticks + 1) (fun _ _ => True) w := by
  cases deliveryMode with
  | none => cases hchanges
  | some mode =>
    have hmode : current.deliveryMode ≠ mode := by simpa using hchanges
    simp only [changeDeliveryMode, if_neg hmode, wp_bind, wp_modifyDatabase]
    have hattended : Attended { w with db := { w.db with
        sessions := w.db.sessions.update (fun s => s.id = sessionId)
          (fun s => { s with deliveryMode := mode }) fun _ => rfl } } :=
      ⟨hw.calm, hw.entered, hw.idle⟩
    exact (wp_appendChange_attended hattended rfl).mpr ⟨rfl, rfl⟩

theorem silent_changeDeliveryMode {current : Session}
    (hkeeps : deliveryMode.any (current.deliveryMode ≠ ·) = false) :
    Silent (changeDeliveryMode sessionId (some current) deliveryMode) := by
  cases deliveryMode with
  | none => exact silent_pure _
  | some mode =>
    have hmode : current.deliveryMode = mode := by simpa using hkeeps
    simp only [changeDeliveryMode, if_pos hmode]
    exact silent_pure _

theorem bindProvenance_returns {current : Session} {owner agent : Option String}
    (hfree : provenanceTaken current owner agent = false) :
    wp (bindProvenance sessionId (some current) owner agent)
      (fun _ w' => w'.clock = w.clock ∧ w'.ticks = w.ticks + 0) (fun _ _ => False) w := by
  simp only [bindProvenance, wp_ite, wp_bind, wp_throwIf, wp_pure, wp_modifyDatabase]
  refine ⟨fun howner => ⟨fun htaken => ?_, fun _ => ⟨fun _ => ⟨trivial, rfl⟩,
    fun _ => ⟨trivial, rfl⟩⟩⟩, fun _ => ⟨trivial, rfl⟩⟩
  simp [provenanceTaken, howner, htaken.1] at hfree
  exact htaken.2.elim (fun hne => hne hfree.1) (fun hne => hne hfree.2)

theorem joinMissing_heard {w₀ : World} (hw₀ : Attended w₀) (hheard : Heard w₀ w)
    (role : SessionRole)
    (hjoin : joinRefused w.db channelId sessionId (w.db.sessionLive sessionId) (w.clock w.ticks) =
      false) :
    wp (joinMissing channelId sessionId role) (fun _ w' => Heard w₀ w') (fun _ w' => Still w₀ w')
      w := by
  have hw := hw₀.of_heard hheard
  have hboth := wp_and (joinMissing_announces channelId sessionId role w hw)
    (joinMissing_returns hw role hjoin)
  exact wp_mono hboth (fun _ _ h => hheard.trans h.1) (fun _ _ h => h.2.elim)

theorem registerSession_announces (hw : Attended w) {role : SessionRole}
    {externalId : Option String}
    {provenance : ExternalProvenance}
    (hstalls : registrationStalls w channelId sessionId externalId deliveryMode provenance = false) :
    wp (registerSession channelId sessionId role externalId deliveryMode provenance)
      (fun _ w' => Heard w w') (fun _ w' => Still w w') w := by
  unfold registerSession command
  rw [wp_write_nested _ hw.entered, wp_bind, wp_database, wp_bind, wp_throwIf]
  refine ⟨fun _ => .refl w, fun hchannel => ?_⟩
  rw [wp_bind, wp_throwIf]
  refine ⟨fun _ => .refl w, fun hprovenance => ?_⟩
  have hrest : (match w.db.currentSession sessionId with
      | none => joinRefused w.db channelId sessionId true (w.clock (w.ticks + 2))
      | some current => externalIdFree (some current) externalId &&
        deliveryMode.any (current.deliveryMode ≠ ·) &&
        (provenanceTaken current (Text.trimmed provenance.externalOwner)
            (Text.trimmed provenance.externalAgentId) ||
          joinRefused w.db channelId sessionId current.endedAt.isNone (w.clock (w.ticks + 1)))) =
      false := by
    have hsome : (w.db.currentChannel channelId).isSome = true :=
      Option.isSome_iff_ne_none.mpr hchannel
    have hpaired : ((Text.trimmed provenance.externalOwner).isNone ==
        (Text.trimmed provenance.externalAgentId).isNone) = true := by
      rw [beq_iff_eq]
      exact not_not.mp hprovenance
    unfold registrationStalls at hstalls
    simpa only [hsome, hpaired, Bool.true_and] using hstalls
  have hlast {w₁ : World} (hheard : Heard w w₁) : wp (do
      let db ← database
      return Registration.mk (db.currentSession sessionId)
        (latestJoined (db.memberships.select fun m =>
          m.channelId = channelId ∧ m.sessionId = sessionId))
        (w.db.currentSession sessionId).isSome) (fun _ w' => Heard w w') (fun _ w' => Still w w') w₁ :=
    hheard
  cases hexisting : w.db.currentSession sessionId with
  | none =>
    rw [hexisting] at hrest hlast
    have hinsert (input : SessionInput) : wp (insertMissing none input) (fun _ w₁ =>
        Heard w w₁ ∧ Prepared w w₁ 2 ∧ w₁.db.sessionLive input.id = true)
        (fun _ w₁ => Still w w₁) w := by
      unfold insertMissing
      rw [if_neg (by simp), wp_bind]
      exact wp_mono (wp_and (insertSession_announces input w hw) (insertSession_prepares hw input))
        (fun _ _ h => h) (fun _ _ h => h.1)
    refine wp_seq (hinsert _) ?_
    rintro _ w₁ ⟨hheard, hprepared, hlive⟩
    change wp (joinMissing channelId sessionId role >>= _) _ _ w₁
    refine wp_seq (joinMissing_heard hw hheard role ?_) fun _ w₂ h => hlast h
    rw [show w₁.db.sessionLive sessionId = true from hlive, hprepared.joinRefused]
    exact hrest
  | some current =>
    rw [hexisting] at hrest hlast
    have hlive : w.db.sessionLive sessionId = current.endedAt.isNone := by
      unfold Database.sessionLive
      rw [hexisting]
      rfl
    change wp (bindExternalId sessionId (some current) externalId >>= _) _ _ w
    have hbind := wp_and (silent_bindExternalId sessionId (some current) externalId w)
      (wp_and (bindExternalId_effect .same externalId) (bindExternalId_prepares current externalId))
    refine wp_seq (wp_mono hbind (fun _ _ h => h) (fun _ _ h => h.1)) ?_
    rintro _ w₁ ⟨hstill₁, ⟨⟨hfree, htouched₁⟩, _⟩, hclock₁⟩
    have hw₁ := hw.of_heard hstill₁.heard
    dsimp only at hrest
    rw [hfree, Bool.true_and] at hrest
    cases hchanges : deliveryMode.any (current.deliveryMode ≠ ·) with
    | false =>
      -- nothing but the join is journaled
      refine wp_seq (wp_mono (silent_changeDeliveryMode hchanges w₁) (fun _ _ h => hstill₁.trans h)
        (fun _ _ h => hstill₁.trans h)) fun _ w₂ hstill₂ => ?_
      refine wp_seq (wp_mono (silent_bindProvenance _ _ _ _ w₂) (fun _ _ h => hstill₂.trans h)
        (fun _ _ h => hstill₂.trans h)) fun _ w₃ hstill₃ => ?_
      refine wp_seq (wp_mono (joinMissing_announces channelId sessionId role w₃
        (hw.of_heard hstill₃.heard)) (fun _ _ h => hstill₃.heard.trans h)
        (fun _ _ h => hstill₃.trans h)) fun _ w₄ h => hlast h
    | true =>
      rw [hchanges, Bool.true_and, Bool.or_eq_false_iff] at hrest
      obtain ⟨hprovenance, hjoin⟩ := hrest
      have hmode := wp_and (changeDeliveryMode_announces sessionId (some current) deliveryMode w₁ hw₁)
        (wp_and (changeDeliveryMode_effect htouched₁ deliveryMode)
          (changeDeliveryMode_prepares hw₁ hchanges))
      refine wp_seq (wp_mono hmode (fun _ _ h => h) (fun _ _ h => hstill₁.trans h.1)) ?_
      rintro _ w₂ ⟨hheard₂, ⟨htouched₂, _⟩, hclock₂⟩
      have hbound := wp_and (silent_bindProvenance sessionId (some current) _ _ w₂)
        (wp_and (bindProvenance_effect htouched₂ _ _) (bindProvenance_returns hprovenance))
      refine wp_seq (wp_mono hbound (fun _ _ h => h) (fun _ _ h => h.2.2.elim)) ?_
      rintro _ w₃ ⟨hstill₃, ⟨htouched₃, _⟩, hclock₃⟩
      have hheard₃ := (hstill₁.heard.trans hheard₂).trans hstill₃.heard
      have hprepared : Prepared w w₃ 1 := by
        refine .of_touched htouched₃ ⟨hclock₃.1.trans (hclock₂.1.trans hclock₁.1), ?_⟩
        rw [hclock₃.2, hclock₂.2, hclock₁.2]
      refine wp_seq (joinMissing_heard hw hheard₃ role ?_) fun _ w₄ h => hlast h
      rw [htouched₃.sessionLive, hlive, hprepared.joinRefused]
      exact hjoin

end Registration

/-- What a composed command does to the store: it calls operations one after the other, each chosen
by what the earlier ones left, and ends by returning or by throwing. -/
inductive Script where
  | finish
  | fail (e : Failure)
  | call (op : StoreOp) (next : Except Failure Unit → Database → Script)

def Script.perform : Script → Command Unit
  | .finish => pure ()
  | .fail e => Prog.fail e
  | .call op next => fun w =>
    (next (storeCall op w).1 (storeCall op w).2.db).perform (storeCall op w).2

/-- The command throws in the end, and the journal is not the one it started with. -/
def Script.quits (start : Journal) : Script → World → Prop
  | .finish, _ => False
  | .fail _, w => w.db.changes ≠ start
  | .call op next, w =>
    (next (storeCall op w).1 (storeCall op w).2.db).quits start (storeCall op w).2

section Scripts

variable {w : World}

theorem reports_receiptless {α : Type} {x : Command α} (h : Reports x) : Reports (receiptless x) :=
  fun w hw => wp_receiptless.mpr (h w hw)

theorem rollbackImport_idle (hidle : w.importSession = none) : rollbackImport w = w := by
  unfold rollbackImport
  rw [hidle]

theorem storeCall_reports (op : StoreOp) : Reports (storeCall op) := by
  cases op with
  | insertSession => exact reports_receiptless (insertSession_announces _).reports
  | registerSession => exact reports_receiptless (registerSession_reports _ _ _ _ _ _)
  | insertChannel => exact reports_receiptless (insertChannel_announces _ _).reports
  | insertMembership => exact reports_receiptless (insertMembership_announces _ _ _).reports
  | leaveMembership => exact reports_receiptless (leaveMembership_announces _ _).reports
  | markSessionEnded => exact reports_receiptless (markSessionEnded_announces _).reports
  | reactivateOperatorSession =>
    exact reports_receiptless (reactivateOperatorSession_announces _).reports
  | closeChannel => exact reports_receiptless (closeChannel_announces _).reports
  | reopenChannel => exact reports_receiptless (reopenChannel_announces _).reports
  | updateChannelLabel =>
    exact reports_receiptless (updateChannelColumn_announces _ _ _ _ _ _).reports
  | updateChannelBroadcastPolicy =>
    exact reports_receiptless (updateChannelColumn_announces _ _ _ _ _ _).reports
  | updateChannelCoordinationPolicy =>
    exact reports_receiptless (updateChannelColumn_announces _ _ _ _ _ _).reports
  | updateSessionRole => exact reports_receiptless (updateSessionRole_announces _ _ _).reports
  | setSessionProviderThreadId =>
    exact reports_receiptless (silent_setSessionProviderThreadId _ _).announces.reports
  | recordRuntimeLifecycle =>
    exact reports_receiptless (recordRuntimeLifecycle_announces _ _ _ _ _ _).reports
  | grantFederatedChannelAdmission =>
    exact reports_receiptless (grantFederatedChannelAdmission_announces _ _ _).reports
  | revokeFederatedChannelAdmission =>
    exact reports_receiptless (revokeFederatedChannelAdmission_announces _ _ _).reports
  | commitMessage => exact reports_receiptless (commitMessage_announces _).reports
  | resolveThread => exact reports_receiptless (setThreadState_announces _ _ _ _).reports
  | reopenThread => exact reports_receiptless (setThreadState_announces _ _ _ _).reports
  | commitControl => exact reports_receiptless (commitControl_announces _).reports
  | appendMessageDelivery => exact reports_receiptless (appendMessageDelivery_announces _ _).reports
  | importBegin digest version =>
    refine reports_receiptless fun w hw => ?_
    simp only [importBegin, wp_bind, wp_throwIf, wp_read]
    refine ⟨fun _ => (Still.refl w).heard, fun _ => ⟨fun _ => (Still.refl w).heard, fun _ =>
      ⟨fun _ => (Still.refl w).heard, fun hfree => absurd (.inr hw.entered) hfree⟩⟩⟩
  | importAppend event =>
    refine reports_receiptless fun w hw => ?_
    simp only [importAppend, wp_onError, wp_bind, wp_read, hw.idle, wp_fail]
    exact (rollbackImport_idle hw.idle).symm ▸ (Still.refl w).heard
  | importCommit =>
    refine reports_receiptless fun w hw => ?_
    simp only [importCommit, wp_bind, wp_throwIf, wp_read, hw.idle]
    exact ⟨fun _ => (Still.refl w).heard, fun hopen => absurd rfl hopen⟩
  | importRollback =>
    refine reports_receiptless fun w hw => ?_
    change Heard w (rollbackImport w)
    rw [rollbackImport_idle hw.idle]
    exact (Still.refl w).heard

theorem perform_heard {w₀ : World} (hw₀ : Attended w₀) (script : Script) (hheard : Heard w₀ w)
    (hquits : ¬script.quits w₀.db.changes w) :
    wp script.perform (fun _ w' => Heard w₀ w') (fun _ w' => Still w₀ w') w := by
  induction script generalizing w with
  | finish => exact hheard
  | fail e => exact hheard.still (not_not.mp hquits)
  | call op next ih =>
    have hcall : Heard w (storeCall op w).2 := by
      rcases cases_of_wp (storeCall_reports op w (hw₀.of_heard hheard)) with
        ⟨_, _, h⟩ | ⟨_, _, h⟩ <;> exact h
    exact ih _ _ (hheard.trans hcall) hquits

end Scripts

/-- The journal rows that a reader on another connection would find. -/
def committed (w : World) : List Change :=
  (w.importSession.elim w.db ImportSession.before).changes.rows

/-- The listeners were told of exactly the rows that were committed. -/
structure Relayed (w w' : World) : Prop where
  told : ∃ changes, committed w' = committed w ++ changes ∧
    w'.listeners = w.listeners.map (Listener.hear changes)
  transactionDepth : w'.transactionDepth = w.transactionDepth

section Relayed

variable {α : Type} {x body : Command α} {w w' : World}

theorem Relayed.of_same (hcommitted : committed w' = committed w)
    (hlisteners : w'.listeners = w.listeners) (hdepth : w'.transactionDepth = w.transactionDepth) :
    Relayed w w' :=
  ⟨⟨[], by rw [hcommitted, List.append_nil], by rw [hear_nil, hlisteners]⟩, hdepth⟩

theorem Relayed.of_still (h : Still w w') : Relayed w w' := by
  refine .of_same ?_ h.listeners h.transactionDepth
  unfold committed
  rw [h.importSession]
  cases w.importSession with
  | none => exact congrArg Journal.rows h.changes
  | some session => rfl

theorem write_relayed (hx : x = write body) (hrest : w.transactionDepth = 0) (hcalm : Calm w)
    (h : w.importSession = none → Attended w.entered →
      wp x (fun _ w' => Heard w.entered w') (fun _ w' => Still w.entered w') w.entered) :
    Relayed w (receiptless x w).2 := by
  subst hx
  by_cases himport : w.importSession = none
  · have hattended : Attended w.entered := ⟨hcalm, Nat.succ_pos _, himport⟩
    have hbody := h himport hattended
    rw [wp_write_nested body hattended.entered] at hbody
    have hrun : wp (write body) (fun _ w' => Relayed w w') (fun _ w' => Relayed w w') w := by
      rw [wp_write_outermost body hrest himport]
      refine wp_mono hbody (fun _ w' hheard => ?_) (fun _ w' hstill => ?_)
      · obtain ⟨changes, hrows, hlisteners⟩ := hheard.told
        have hidle : w'.importSession = none := hheard.importSession.trans himport
        refine ⟨⟨changes, ?_, hlisteners⟩, hrest.symm⟩
        simp only [committed, hidle, himport, Option.elim_none]
        exact hrows
      · refine .of_same ?_ hstill.listeners hrest.symm
        have hidle : w'.importSession = none := hstill.importSession.trans himport
        simp only [committed, hidle, himport, Option.elim_none]
    rcases cases_of_wp hrun with ⟨_, _, hrelayed⟩ | ⟨_, _, hrelayed⟩ <;> exact hrelayed
  · have hrefused : (receiptless (write body) w).2 = w := by
      unfold receiptless write
      rw [if_neg (by omega), if_pos (Option.isSome_iff_ne_none.mpr himport)]
    rw [hrefused]
    exact .of_same rfl rfl rfl

theorem announced_relayed (hx : x = write body) (hrest : w.transactionDepth = 0) (hcalm : Calm w)
    (h : Announces x) : Relayed w (receiptless x w).2 :=
  write_relayed hx hrest hcalm fun _ hw => h w.entered hw

theorem mute_relayed (h : Mute x) (hcommitted : committed (x w).2 = committed w)
    (hdepth : (x w).2.transactionDepth = w.transactionDepth) : Relayed w (receiptless x w).2 :=
  .of_same hcommitted (h.listeners w) hdepth

end Relayed

/-- An import that commits has appended no row. -/
def importsNothing (w : World) : Prop :=
  ∀ session, w.importSession = some session → w.db.changes = session.before.changes

/-- A call that does not throw after its first append, and commits nothing that was not told. -/
def callHeeded (w : World) : StoreOp → Prop
  | .registerSession channelId sessionId _ externalId deliveryMode provenance =>
    w.importSession = none →
      registrationStalls w channelId sessionId externalId deliveryMode provenance = false
  | .importCommit => importsNothing w
  | _ => True

section Calls

variable {w : World}

theorem importBegin_committed (sourceDigest : String) (sourceVersion : Int) :
    committed (importBegin sourceDigest sourceVersion w).2 = committed w ∧
      (importBegin sourceDigest sourceVersion w).2.transactionDepth = w.transactionDepth := by
  rcases cases_of_wp (importBegin_effect w sourceDigest sourceVersion) with
    ⟨_, _, hbegan⟩ | ⟨_, _, hdb, hkeeps⟩
  · obtain ⟨session, hsession, hbefore⟩ := hbegan.importSession
    refine ⟨?_, hbegan.transactionDepth⟩
    simp only [committed, hsession, hbegan.idle, Option.elim_none, Option.elim_some, hbefore]
  · refine ⟨?_, hkeeps.transactionDepth⟩
    unfold committed
    rw [hkeeps.importSession, hdb]

theorem RolledBack.committed {w' : World} (h : RolledBack w w') : committed w' = committed w := by
  unfold Feeds.committed
  rw [h.importSession, Option.elim_none, h.db]

theorem importAppend_committed (event : CanonicalImportEvent) :
    committed (importAppend event w).2 = committed w ∧
      (importAppend event w).2.transactionDepth = w.transactionDepth := by
  rcases cases_of_wp (importAppend_effect w event) with
    ⟨_, _, hkeeps, session, hsession, _⟩ | ⟨_, _, hback⟩
  · refine ⟨?_, hkeeps.transactionDepth⟩
    unfold committed
    rw [hkeeps.importSession, hsession]
    rfl
  · exact ⟨RolledBack.committed hback, hback.transactionDepth⟩

theorem importCommit_committed (h : importsNothing w) :
    committed (importCommit w).2 = committed w ∧
      (importCommit w).2.transactionDepth = w.transactionDepth := by
  rcases cases_of_wp (importCommit_effect w) with ⟨_, _, hdone⟩ | ⟨_, _, hsame⟩
  · obtain ⟨batches, hdb⟩ := hdone.db
    refine ⟨?_, hdone.transactionDepth⟩
    unfold committed
    rw [hdone.importSession, hdb]
    cases hsession : w.importSession with
    | none => rfl
    | some session => exact congrArg Journal.rows (h session hsession)
  · rw [hsame]
    exact ⟨rfl, rfl⟩

theorem storeCall_relayed (hrest : w.transactionDepth = 0) (hcalm : Calm w) {op : StoreOp}
    (hop : callHeeded w op) : Relayed w (storeCall op w).2 := by
  cases op with
  | insertSession => exact announced_relayed rfl hrest hcalm (insertSession_announces _)
  | registerSession channelId sessionId role externalId deliveryMode provenance =>
    exact write_relayed rfl hrest hcalm fun hidle hw => registerSession_announces hw (hop hidle)
  | insertChannel => exact announced_relayed rfl hrest hcalm (insertChannel_announces _ _)
  | insertMembership => exact announced_relayed rfl hrest hcalm (insertMembership_announces _ _ _)
  | leaveMembership => exact announced_relayed rfl hrest hcalm (leaveMembership_announces _ _)
  | markSessionEnded => exact announced_relayed rfl hrest hcalm (markSessionEnded_announces _)
  | reactivateOperatorSession =>
    exact announced_relayed rfl hrest hcalm (reactivateOperatorSession_announces _)
  | closeChannel => exact announced_relayed rfl hrest hcalm (closeChannel_announces _)
  | reopenChannel => exact announced_relayed rfl hrest hcalm (reopenChannel_announces _)
  | updateChannelLabel =>
    exact announced_relayed rfl hrest hcalm (updateChannelColumn_announces _ _ _ _ _ _)
  | updateChannelBroadcastPolicy =>
    exact announced_relayed rfl hrest hcalm (updateChannelColumn_announces _ _ _ _ _ _)
  | updateChannelCoordinationPolicy =>
    exact announced_relayed rfl hrest hcalm (updateChannelColumn_announces _ _ _ _ _ _)
  | updateSessionRole => exact announced_relayed rfl hrest hcalm (updateSessionRole_announces _ _ _)
  | setSessionProviderThreadId id providerThreadId =>
    rcases cases_of_wp (silent_setSessionProviderThreadId id providerThreadId w) with
      ⟨_, _, hstill⟩ | ⟨_, _, hstill⟩ <;> exact .of_still hstill
  | recordRuntimeLifecycle =>
    exact announced_relayed rfl hrest hcalm (recordRuntimeLifecycle_announces _ _ _ _ _ _)
  | grantFederatedChannelAdmission =>
    exact announced_relayed rfl hrest hcalm (grantFederatedChannelAdmission_announces _ _ _)
  | revokeFederatedChannelAdmission =>
    exact announced_relayed rfl hrest hcalm (revokeFederatedChannelAdmission_announces _ _ _)
  | commitMessage => exact announced_relayed rfl hrest hcalm (commitMessage_announces _)
  | resolveThread => exact announced_relayed rfl hrest hcalm (setThreadState_announces _ _ _ _)
  | reopenThread => exact announced_relayed rfl hrest hcalm (setThreadState_announces _ _ _ _)
  | commitControl => exact announced_relayed rfl hrest hcalm (commitControl_announces _)
  | appendMessageDelivery =>
    exact announced_relayed rfl hrest hcalm (appendMessageDelivery_announces _ _)
  | importBegin digest version =>
    obtain ⟨hcommitted, hdepth⟩ := importBegin_committed (w := w) digest version
    exact mute_relayed (mute_importBegin digest version) hcommitted hdepth
  | importAppend event =>
    obtain ⟨hcommitted, hdepth⟩ := importAppend_committed (w := w) event
    exact mute_relayed (mute_importAppend event) hcommitted hdepth
  | importCommit =>
    obtain ⟨hcommitted, hdepth⟩ := importCommit_committed hop
    exact mute_relayed mute_importCommit hcommitted hdepth
  | importRollback =>
    exact mute_relayed mute_importRollback (RolledBack.committed (importRollback_effect w))
      (importRollback_effect w).transactionDepth

end Calls

/-- A call, a command that composes calls, or another listener. -/
inductive ListenedOp where
  | call (op : StoreOp)
  | command (script : Script)
  | onChange (reacts : List Change → Change → Option Failure)

def listenedStep (w : World) : ListenedOp → World
  | .call op => (storeCall op w).2
  | .command script => (receiptless (command script.perform) w).2
  | .onChange reacts => (onChange reacts w).2

/-- No listener that throws, no command that throws after an append, no import of untold rows. -/
def Heeded (w : World) : ListenedOp → Prop
  | .call op => callHeeded w op
  | .command script => w.importSession = none → ¬script.quits w.db.changes w.entered
  | .onChange reacts => ∀ seen change, reacts seen change = none

/-- The listener at a place has seen the committed rows but the first few. -/
structure Attends (place skipped : Nat) (reacts : List Change → Change → Option Failure)
    (w : World) : Prop where
  transactionDepth : w.transactionDepth = 0
  calm : Calm w
  bounded : skipped ≤ (committed w).length
  seen : w.listeners[place]? = some ⟨reacts, (committed w).drop skipped⟩

section Runs

variable {place skipped : Nat} {reacts : List Change → Change → Option Failure} {w w' : World}

theorem Attends.of_relayed (h : Attends place skipped reacts w) (hrelayed : Relayed w w') :
    Attends place skipped reacts w' := by
  obtain ⟨changes, hcommitted, hlisteners⟩ := hrelayed.told
  refine ⟨hrelayed.transactionDepth.trans h.transactionDepth, fun l hl => ?_, ?_, ?_⟩
  · rw [hlisteners] at hl
    obtain ⟨k, hk, rfl⟩ := List.mem_map.mp hl
    exact h.calm k hk
  · rw [hcommitted, List.length_append]
    exact h.bounded.trans (Nat.le_add_right _ _)
  · rw [hlisteners, List.getElem?_map, h.seen, hcommitted,
      List.drop_append_of_le_length h.bounded]
    rfl

theorem listenedStep_attends (h : Attends place skipped reacts w) {op : ListenedOp}
    (hop : Heeded w op) : Attends place skipped reacts (listenedStep w op) := by
  cases op with
  | call op => exact h.of_relayed (storeCall_relayed h.transactionDepth h.calm hop)
  | command script =>
    refine h.of_relayed (write_relayed rfl h.transactionDepth h.calm fun hidle hw => ?_)
    refine (wp_write_nested _ hw.entered).mpr ?_
    exact perform_heard hw script (Still.refl _).heard (hop hidle)
  | onChange reacts' =>
    refine ⟨h.transactionDepth, fun l hl => ?_, h.bounded, ?_⟩
    · rcases List.mem_append.mp hl with hl | hl
      · exact h.calm l hl
      · rw [List.mem_singleton.mp hl]
        exact hop
    · have hplace := (List.getElem?_eq_some_iff.mp h.seen).1
      exact (List.getElem?_append_left hplace).trans h.seen

theorem committed_ordered (w : World) :
    (committed w).Pairwise fun a b => a.cursor < b.cursor :=
  Journal.ordered _

/-- In every run whose steps meet the condition, a listener has been handed the rows committed since
its registration, in order and each once. -/
theorem listener_sees_committed (hrest : w.transactionDepth = 0) (hcalm : Calm w)
    (hreacts : ∀ seen change, reacts seen change = none) (ops : List ListenedOp)
    (hmeets : Trace.Meets listenedStep Heeded (onChange reacts w).2 ops) :
    ∃ seen, (Trace.run listenedStep (onChange reacts w).2 ops).listeners[w.listeners.length]? =
        some ⟨reacts, seen⟩ ∧
      seen = (committed (Trace.run listenedStep (onChange reacts w).2 ops)).drop
        (committed w).length ∧
      seen.Pairwise fun a b => a.cursor < b.cursor := by
  have hstart : Attends w.listeners.length (committed w).length reacts (onChange reacts w).2 := by
    refine ⟨hrest, fun l hl => ?_, le_refl _, ?_⟩
    · rcases List.mem_append.mp hl with hl | hl
      · exact hcalm l hl
      · rw [List.mem_singleton.mp hl]
        exact hreacts
    · change (w.listeners ++ [⟨reacts, []⟩])[w.listeners.length]? =
        some ⟨reacts, (committed w).drop (committed w).length⟩
      rw [List.getElem?_concat_length, List.drop_length]
  have hrun := Trace.invariant_run (I := Attends w.listeners.length (committed w).length reacts)
    (fun w op hI (hop : Heeded w op) => listenedStep_attends hI hop) hstart hmeets
  exact ⟨_, hrun.seen, rfl, (committed_ordered _).sublist (List.drop_sublist _ _)⟩

end Runs

/-- A listener that takes every change. -/
def attentive : List Change → Change → Option Failure := fun _ _ => none

/-- The store of a daemon that has just registered its first listener. -/
def listening (reacts : List Change → Change → Option Failure) : World :=
  (onChange reacts (.initial .empty tally tally)).2

/-- An operator with a channel of its own, entered and left in one command. -/
def visited : List ListenedOp :=
  [.call (.insertSession { id := "alice", role := some .operator }),
    .call (.insertChannel "harbour" (some "alice")),
    .command (.call (.insertMembership "harbour" "alice" (some .operator)) fun _ _ =>
      .call (.leaveMembership "harbour" "alice") fun
        | .ok _, _ => .finish
        | .error e, _ => .fail e)]

theorem listener_sees_committed_visit :
    ∃ seen, (Trace.run listenedStep (listening attentive) visited).listeners[0]? =
        some ⟨attentive, seen⟩ ∧
      seen = (committed (Trace.run listenedStep (listening attentive) visited)).drop 0 := by
  have hmeets : Trace.Meets listenedStep Heeded (listening attentive) visited :=
    ⟨trivial, trivial, fun _ hquits => hquits, trivial⟩
  obtain ⟨seen, hseen, hcommitted, _⟩ := listener_sees_committed
    (rfl : (World.initial .empty tally tally).transactionDepth = 0) (fun l hl => by cases hl)
    (fun _ _ => rfl : ∀ seen change, attentive seen change = none) visited hmeets
  exact ⟨seen, hseen, hcommitted⟩

/-- A registration into a closed channel is heard and rolled back, and its cursor is used again; and
a listener that throws undoes what it was told of. -/
theorem listener_hears_rolledBack :
    let w := Trace.run listenedStep (listening attentive)
      [.call (.insertSession { id := "alice", role := some .operator }),
        .call (.insertChannel "harbour" (some "alice")), .call (.closeChannel "harbour"),
        .call (.registerSession "harbour" "bob" .worker none none {}),
        .call (.reopenChannel "harbour")]
    let w' := listenedStep (listening fun _ _ => some (.listener "full"))
      (.call (.insertSession { id := "alice", role := some .operator }))
    (w.listeners[0]?.map fun l => l.seen.map Change.cursor) = some [1, 2, 3, 4, 4] ∧
      (committed w).map Change.cursor = [1, 2, 3, 4] ∧
      (w'.listeners[0]?.map fun l => l.seen.map Change.cursor) = some [1] ∧
      (committed w').map Change.cursor = [] :=
  ⟨rfl, rfl, rfl, rfl⟩

end Wardroom.Feeds
