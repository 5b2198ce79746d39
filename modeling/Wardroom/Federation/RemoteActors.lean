import Wardroom.Federation.ChannelCommands

/-! # Whom a command of a peer acts as

What a command does to the store concerns the session it acts as and nobody
else, and that session carries the authority of the peer in its id.
-/

namespace Wardroom.Application
open Wardroom.Library Wardroom.Domain Wardroom.Storage Prog

theorem leave_settles {w : World} (hrest : w.transactionDepth = 0) (channelId sessionId : String)
    (context : AuthenticatedCommandContext) :
    Settles (leave channelId sessionId context) w fun _ db' => Left channelId sessionId w.db db' := by
  refine write_settles rfl hrest (ensures_write fun n => ?_)
  unfold Ensures
  rw [wp_bind, wp_database, wp_bind, wp_throwIf]
  refine ⟨fun _ => ⟨rfl, rfl, rfl, le_rfl⟩, fun _ => ?_⟩
  rw [wp_bind, wp_throwIf]
  exact ⟨fun _ => ⟨rfl, rfl, rfl, le_rfl⟩, fun _ => leaveMembership_effect _ channelId sessionId⟩

end Wardroom.Application

namespace Wardroom.Federation
open Wardroom.Library Wardroom.Library.JsonText Wardroom.Domain Wardroom.Storage Wardroom.Runtime Prog

/-- The session that a change of the journal is about, or whose message it is. -/
def subject : Payload → Option String
  | .sessionRegistered id .. => some id
  | .sessionDeliveryUpdated id _ => some id
  | .membershipJoined _ sessionId _ _ => some sessionId
  | .membershipLeft _ sessionId _ _ => some sessionId
  | .messageSent event => (event.member "senderSessionId").bind Json.extractText
  | _ => none

/-- Rows of one session are written, and no others. -/
structure ActsAs (actor : String) (db db' : Database) : Prop where
  sessions : ∀ id, id ≠ actor → db'.currentSession id = db.currentSession id
  memberships : db'.memberships.rows.filter (fun m => m.sessionId ≠ actor) =
    db.memberships.rows.filter fun m => m.sessionId ≠ actor
  channels : db'.channels = db.channels
  messageThreads : db'.messageThreads = db.messageThreads
  admissions : db'.federationChannelAdmissions = db.federationChannelAdmissions
  changes : ∃ rows, db'.changes.rows = db.changes.rows ++ rows ∧ ∀ c ∈ rows, subject c.payload = some actor

section ActsAs

variable {actor : String} {db db₁ db₂ : Database}

theorem ActsAs.refl (actor : String) (db : Database) : ActsAs actor db db :=
  ⟨fun _ _ => rfl, rfl, rfl, rfl, rfl, [], (List.append_nil _).symm, fun _ h => (List.not_mem_nil h).elim⟩

theorem ActsAs.trans (h : ActsAs actor db db₁) (h' : ActsAs actor db₁ db₂) : ActsAs actor db db₂ := by
  obtain ⟨rows, hrows, hsubject⟩ := h.changes
  obtain ⟨rows', hrows', hsubject'⟩ := h'.changes
  refine ⟨fun id hne => (h'.sessions id hne).trans (h.sessions id hne), h'.memberships.trans h.memberships,
    h'.channels.trans h.channels, h'.messageThreads.trans h.messageThreads, h'.admissions.trans h.admissions,
    rows ++ rows', ?_, fun c hc => ?_⟩
  · rw [hrows', hrows, List.append_assoc]
  · rcases List.mem_append.mp hc with hc | hc
    · exact hsubject c hc
    · exact hsubject' c hc

theorem actsAs_record {payload : Payload} (hsubject : subject payload = some actor) (db : Database)
    (channelId : Option String) (at' : String) (ordinal : Option Int) :
    ActsAs actor db (db.record channelId payload at' ordinal) := by
  refine ⟨fun _ _ => rfl, rfl, rfl, rfl, rfl, _, Journal.rows_append _ _ _ _ _, fun c hc => ?_⟩
  obtain rfl := List.mem_singleton.mp hc
  exact hsubject

theorem actsAs_sessions {sessions : Table Session.id}
    (h : ∀ id, id ≠ actor → sessions.find? id = db.sessions.find? id) :
    ActsAs actor db { db with sessions := sessions } :=
  { ActsAs.refl actor db with sessions := h }

theorem actsAs_memberships {memberships : Table Membership.key}
    (h : memberships.rows.filter (fun m => m.sessionId ≠ actor) =
      db.memberships.rows.filter fun m => m.sessionId ≠ actor) :
    ActsAs actor db { db with memberships := memberships } :=
  { ActsAs.refl actor db with memberships := h }

theorem actsAs_sessionInserted {input : SessionInput} (h : SessionInserted input db db₁) :
    ActsAs input.id db db₁ := by
  cases h with
  | mk registeredAt at' sessions hinsert =>
    refine (actsAs_sessions fun id hne => ?_).trans (actsAs_record rfl _ _ _ _)
    rw [Table.find?_insert hinsert]
    exact if_neg (Ne.symm hne)

theorem actsAs_joined {channelId : String} {role : Option SessionRole}
    (h : Joined channelId actor role db db₁) : ActsAs actor db db₁ := by
  cases h with
  | already => exact .refl actor db
  | joined joinedAt at' memberships _ _ _ hinsert =>
    refine (actsAs_memberships ?_).trans (actsAs_record rfl _ _ _ _)
    obtain ⟨_, hrows⟩ := Table.insert?_eq_some.mp hinsert
    rw [hrows, List.filter_append]
    simp

theorem actsAs_touched (h : Touched actor db db₁) : ActsAs actor db db₁ := by
  induction h with
  | same => exact .refl actor db
  | @columns db₁ _ assign hid _ _ ih =>
    refine ih.trans (actsAs_sessions fun id hne => ?_)
    rw [Table.find?_rewrite (Table.rows_update _ _ _ _) hid]
    cases hfind : db₁.sessions.find? id with
    | none => rfl
    | some s =>
      have hother : s.id ≠ actor := (Table.find?_some hfind).2 ▸ hne
      simp [hother]
  | delivery _ mode at' ih => exact ih.trans (actsAs_record rfl _ _ _ _)

theorem actsAs_registered {channelId : String} {role : SessionRole} {externalId : Option String}
    (h : Registered channelId actor role externalId db db₁) : ActsAs actor db db₁ := by
  cases h with
  | inserted input hid _ hinserted hjoined =>
    exact (hid ▸ actsAs_sessionInserted hinserted).trans (actsAs_joined hjoined)
  | found _ _ htouched hjoined => exact (actsAs_touched htouched).trans (actsAs_joined hjoined)

theorem filter_rewritten {rows : List Membership} {p q : Membership → Bool} {f : Membership → Membership}
    (h : ∀ m, p m = true → q m = false ∧ q (f m) = false) :
    (rows.map fun m => if p m then f m else m).filter q = rows.filter q := by
  induction rows with
  | nil => rfl
  | cons m rows ih =>
    rw [List.map_cons, List.filter_cons, List.filter_cons, ih]
    by_cases hp : p m = true
    · obtain ⟨hout, hout'⟩ := h m hp
      rw [if_pos hp, hout, hout', if_neg Bool.false_ne_true, if_neg Bool.false_ne_true]
    · rw [if_neg hp]

theorem actsAs_left {channelId : String} (h : Left channelId actor db db₁) : ActsAs actor db db₁ := by
  cases h with
  | mk joined leftAt at' hjoined =>
    refine (actsAs_memberships ?_).trans (actsAs_record rfl _ _ _ _)
    rw [Table.rows_update]
    refine filter_rewritten fun m hkey => ?_
    have hactor : m.sessionId = actor := congrArg (fun k : String × String × String => k.2.1) (of_decide_eq_true hkey)
    simp [hactor]

theorem actsAs_committed {input : CanonicalMessageCommitInput} {receipt : CommitReceipt}
    (h : Committed input db receipt db₁) : ActsAs input.senderSessionId db db₁ := by
  cases h with
  | duplicate => exact .refl _ db
  | fresh reply uuid occurredAt at' receipt _ _ _ => exact actsAs_record rfl _ _ _ _

end ActsAs

/-- Whatever comes of an action, it acts as one session and leaves the store at rest. -/
def Acts {α : Type} (actor : String) (x : Action α) : Prop :=
  ∀ d : Daemon, d.AtRest → wp x (fun _ d' => ActsAs actor d.db d'.db ∧ Keeps d.store d'.store)
    (fun _ d' => ActsAs actor d.db d'.db ∧ Keeps d.store d'.store) d

section Acts

variable {α β : Type} {actor : String}

theorem acts_pure (a : α) : Acts actor (pure a : Action α) := fun d _ => ⟨.refl actor d.db, .refl _⟩

theorem acts_fail (e : Domain.Failure) : Acts actor (Prog.fail e : Action α) := fun d _ => ⟨.refl actor d.db, .refl _⟩

theorem acts_read : Acts actor (read : Action Daemon) := fun d _ => ⟨.refl actor d.db, .refl _⟩

theorem acts_checked (outcome : Except CommandFailure α) : Acts actor (checked outcome) := by
  intro d _
  rw [checked, wp_ofExcept]
  exact ⟨fun _ _ => ⟨.refl actor d.db, .refl _⟩, fun _ _ => ⟨.refl actor d.db, .refl _⟩⟩

theorem acts_bind {x : Action α} {f : α → Action β} (hx : Acts actor x) (hf : ∀ a, Acts actor (f a)) :
    Acts actor (x >>= f) := by
  intro d hrest
  rw [wp_bind]
  refine wp_mono (hx d hrest) (fun a d₁ hfirst => ?_) fun _ _ h => h
  obtain ⟨hacts, hkeeps⟩ := hfirst
  have hrest₁ : d₁.AtRest := hkeeps.transactionDepth.trans hrest
  exact wp_mono (hf a d₁ hrest₁) (fun _ _ h => ⟨hacts.trans h.1, hkeeps.trans h.2⟩)
    fun _ _ h => ⟨hacts.trans h.1, hkeeps.trans h.2⟩

theorem acts_onStore {x : Command α} {P : World → α → Database → Prop}
    (hx : ∀ w : World, w.transactionDepth = 0 → Settles x w (P w))
    (hP : ∀ w a db', P w a db' → ActsAs actor w.db db') : Acts actor (onStore x) := by
  intro d hrest
  rw [wp_onStore]
  refine wp_mono (hx d.store hrest) (fun a w' h => ⟨hP _ _ _ h.1, h.2⟩) fun _ w' h => ⟨?_, h.2⟩
  have hsame : w'.db = d.db := h.1
  change ActsAs actor d.db w'.db
  rw [hsame]
  exact .refl actor d.db

theorem acts_onStore_reading {x : Command α} (hx : ∀ w : World, (x w).2 = w) : Acts actor (onStore x) := by
  intro d _
  have hsame : (onStore x d).2 = d := by
    change { d with store := (x d.store).2 } = d
    rw [hx d.store]
  refine wp_of_cases (fun a d' hok => ?_) fun e d' herror => ?_
  · obtain rfl : d' = d := (congrArg Prod.snd hok).symm.trans hsame
    exact ⟨.refl actor d'.db, .refl _⟩
  · obtain rfl : d' = d := (congrArg Prod.snd herror).symm.trans hsame
    exact ⟨.refl actor d'.db, .refl _⟩

end Acts

section Operations

variable (peer : AuthenticatedPeer) (actor : JsString) (payload : Tree)

theorem acts_takeRegister : Acts (sqlText actor) (takeRegister peer actor payload) := by
  refine acts_bind acts_read fun d => acts_bind (acts_checked _) fun channelId =>
    acts_bind (acts_checked _) fun _ => acts_bind ?_ fun _ => acts_bind acts_read fun _ => acts_pure _
  exact acts_onStore (fun w hrest => write_settles rfl hrest (registerSession_effect w _ _ _ _ _ _))
    fun _ _ _ h => actsAs_registered h

theorem acts_takeDirectSend : Acts (sqlText actor) (takeDirectSend peer actor payload) := by
  refine acts_bind acts_read fun d => acts_bind (acts_checked _) fun target =>
    acts_bind (acts_checked _) fun _ => acts_bind (acts_checked _) fun body => acts_bind ?_ fun _ => acts_pure _
  exact acts_onStore (fun w hrest => Application.commitMessage_settles hrest _) fun _ _ _ h => actsAs_committed h

theorem acts_takeSend : Acts (sqlText actor) (takeSend peer actor payload) := by
  refine acts_bind acts_read fun d => acts_bind (acts_checked _) fun channelId =>
    acts_bind (acts_checked _) fun body => acts_bind ?_ fun _ => acts_pure _
  exact acts_onStore (fun w hrest => Application.commitMessage_settles hrest _) fun _ _ _ h => actsAs_committed h

theorem acts_takeLeave : Acts (sqlText actor) (takeLeave peer actor payload) := by
  refine acts_bind acts_read fun d => acts_bind (acts_checked _) fun channelId => acts_bind ?_ fun _ => acts_pure _
  exact acts_onStore (fun w hrest => Application.leave_settles hrest _ _ _) fun _ _ _ h => actsAs_left h

theorem acts_takeSnapshot : Acts (sqlText actor) (takeSnapshot peer actor payload) := by
  refine acts_bind acts_read fun d => acts_bind (acts_checked _) fun channelId => acts_bind ?_ fun _ => acts_pure _
  refine acts_onStore_reading fun w => ?_
  unfold Storage.snapshot
  split <;> rfl

theorem acts_takeMessages : Acts (sqlText actor) (takeMessages peer actor payload) :=
  acts_bind acts_read fun _ => acts_bind (acts_checked _) fun _ => acts_pure _

theorem acts_takeOperation (operation : ChannelOperation) :
    Acts (sqlText actor) (takeOperation peer actor payload operation) := by
  cases operation with
  | register => exact acts_takeRegister peer actor payload
  | leave => exact acts_takeLeave peer actor payload
  | send => exact acts_takeSend peer actor payload
  | directSend => exact acts_takeDirectSend peer actor payload
  | snapshot => exact acts_takeSnapshot peer actor payload
  | messages => exact acts_takeMessages peer actor payload

end Operations

theorem acts_takeCommand (homeAuthorityId : JsString) (peer : AuthenticatedPeer) (command : ChannelCommand) :
    Acts (sqlText (command.actor peer)) (takeCommand homeAuthorityId (some peer) command) := by
  unfold takeCommand
  by_cases hhome : command.homeAuthorityId ≠ homeAuthorityId
  · simp only [if_pos hhome]
    exact acts_fail _
  · simp only [if_neg hhome]
    cases decodePayload command.payload with
    | error message => exact acts_fail _
    | ok payload => exact acts_takeOperation peer (command.actor peer) payload command.operation

section Checks

variable {α : Type} {d : Daemon}

@[simp] theorem wp_checked {Q : α → Daemon → Prop} {E : Domain.Failure → Daemon → Prop}
    (outcome : Except CommandFailure α) :
    wp (checked outcome) Q E d ↔
      (∀ a, outcome = .ok a → Q a d) ∧ ∀ e, outcome = .error e → E e.thrown d := by
  cases outcome with
  | ok a => simp [checked, Except.mapError]
  | error e => simp [checked, Except.mapError]

theorem requiredString_value {value : Option Tree} {field : String} {max : Nat} {s : JsString}
    (h : requiredString value field max = .ok s) : value = some (.string s) := by
  cases value with
  | none => cases h
  | some tree =>
    cases tree with
    | string s' =>
      rw [requiredString] at h
      split at h
      · cases h
        rfl
      · cases h
    | _ => cases h

theorem requireCommand_ok {c : Prop} [Decidable c] {message : JsString}
    (h : requireCommand c message = .ok ()) : c := by
  by_contra hc
  rw [requireCommand, if_neg hc] at h
  cases h

/-- The payload names a channel that the peer is admitted to. -/
def Admits (db : Database) (peer : AuthenticatedPeer) (payload : Tree) : Prop :=
  ∃ channelId, payload.get (text "channelId") = some (.string channelId) ∧
    isFederatedPeerAdmitted db (sqlText channelId) (sqlText peer.authorityId) = true

variable {db : Database} {peer : AuthenticatedPeer} {actor : JsString} {payload : Tree}

theorem admits_of_admittedChannel {channelId : JsString} (h : admittedChannel db peer actor payload = .ok channelId) :
    Admits db peer payload := by
  obtain ⟨named, hchannel, hrest⟩ := ok_of_bind h
  obtain ⟨_, hadmitted, _⟩ := ok_of_bind hrest
  obtain ⟨_, _, hrest⟩ := ok_of_bind hchannel
  obtain ⟨required, hnamed, hrest⟩ := ok_of_bind hrest
  obtain ⟨_, _, hrest⟩ := ok_of_bind hrest
  cases hrest
  exact ⟨named, requiredString_value hnamed, requireCommand_ok hadmitted⟩

theorem channelMessages_eq (db : Database) (peer : AuthenticatedPeer) (actor : JsString) (payload : Tree) :
    channelMessages db peer.authorityId actor payload = (do
      let channelId ← admittedChannel db peer actor payload
      let afterCursor := match payload.get (text "afterCursor") with
        | some (.string s) => s
        | _ => text "0"
      let changes ← replayChannelMessages db afterCursor channelId (MESSAGE_PAGE_LIMIT + 1)
      return channelMessagePage changes afterCursor) := by
  simp only [channelMessages, admittedChannel, remoteChannel, bind_assoc, pure_bind] <;> rfl

theorem admits_of_channelMessages {page : MessagePage}
    (h : channelMessages db peer.authorityId actor payload = .ok page) : Admits db peer payload := by
  rw [channelMessages_eq] at h
  obtain ⟨channelId, hchannel, _⟩ := ok_of_bind h
  exact admits_of_admittedChannel hchannel

end Checks

/-- Everything but a departure and a direct send needs an admission. -/
def ChannelOperation.guarded : ChannelOperation → Bool
  | .leave => false
  | .directSend => false
  | _ => true

theorem admits_of_takeOperation (peer : AuthenticatedPeer) (actor : JsString) (payload : Tree) (d : Daemon)
    {operation : ChannelOperation} (hguarded : operation.guarded = true) :
    wp (takeOperation peer actor payload operation) (fun _ _ => Admits d.db peer payload) (fun _ _ => True) d := by
  have hafter {α : Type} (x : Action α) (d' : Daemon) (h : Admits d.db peer payload) :
      wp x (fun _ _ => Admits d.db peer payload) (fun _ _ => True) d' :=
    wp_of_cases (fun _ _ _ => h) fun _ _ _ => trivial
  cases operation with
  | leave => cases hguarded
  | directSend => cases hguarded
  | register =>
    simp only [takeOperation, takeRegister, wp_bind, wp_read, wp_checked]
    refine ⟨fun channelId hnamed => ⟨fun _ hadmitted => hafter _ _ ?_, fun _ _ => trivial⟩, fun _ _ => trivial⟩
    exact ⟨channelId, requiredString_value hnamed, requireCommand_ok hadmitted⟩
  | send =>
    simp only [takeOperation, takeSend, wp_bind, wp_read, wp_checked]
    refine ⟨fun channelId hchannel => ⟨fun _ _ => hafter _ _ ?_, fun _ _ => trivial⟩, fun _ _ => trivial⟩
    exact admits_of_admittedChannel hchannel
  | snapshot =>
    simp only [takeOperation, takeSnapshot, wp_bind, wp_read, wp_checked]
    exact ⟨fun channelId hchannel => hafter _ _ (admits_of_admittedChannel hchannel), fun _ _ => trivial⟩
  | messages =>
    simp only [takeOperation, takeMessages, wp_bind, wp_read, wp_checked]
    exact ⟨fun page hpage => admits_of_channelMessages hpage, fun _ _ => trivial⟩

/-- The channel that the payload of a command names. -/
def ChannelCommand.channel (command : ChannelCommand) : Option JsString :=
  match decodePayload command.payload with
  | .ok payload =>
    match payload.get (text "channelId") with
    | some (.string channelId) => some channelId
    | _ => none
  | .error _ => none

variable {homeAuthorityId : JsString} {command : ChannelCommand}

theorem takeCommand_admitted {peer : AuthenticatedPeer}
    {d d' : Daemon} {taken : Taken} (hguarded : command.operation.guarded = true)
    (h : takeCommand homeAuthorityId (some peer) command d = (.ok taken, d')) :
    ∃ channelId, command.channel = some channelId ∧
      isFederatedPeerAdmitted d.db (sqlText channelId) (sqlText peer.authorityId) = true := by
  simp only [takeCommand] at h
  split at h
  · cases h
  · cases hpayload : decodePayload command.payload with
    | error message =>
      simp only [hpayload] at h
      cases h
    | ok payload =>
      simp only [hpayload] at h
      obtain ⟨channelId, hnamed, hadmitted⟩ :=
        wp_of_ok (admits_of_takeOperation peer (command.actor peer) payload d hguarded) h
      refine ⟨channelId, ?_, hadmitted⟩
      simp only [ChannelCommand.channel, hpayload, hnamed]

theorem handleChannel_taken {hosts : Hosts} {peer : Option AuthenticatedPeer}
    {reply : ChannelReply} {d d' : Daemon}
    (h : handleChannel hosts homeAuthorityId peer command d = (.ok reply, d')) :
    ∃ taken d₁, takeCommand homeAuthorityId peer command d = (.ok taken, d₁) := by
  rw [handleChannel, bind_eq] at h
  rcases htaken : takeCommand homeAuthorityId peer command d with ⟨r, d₁⟩
  rw [htaken] at h
  cases r with
  | error e => cases (Prod.mk.inj h).1
  | ok taken => exact ⟨taken, d₁, rfl⟩

/-- The deliveries of a command are made as the session that it acts as. -/
def Delivers (actor : String) (x : Action Taken) : Prop :=
  ∀ d : Daemon, wp x (fun taken _ => ∀ receipt runtimeActor, taken = .committed receipt runtimeActor →
    runtimeActor.sessionId = actor) (fun _ _ => True) d

theorem delivers_bind {α : Type} {actor : String} (x : Action α) {f : α → Action Taken}
    (hf : ∀ a, Delivers actor (f a)) : Delivers actor (x >>= f) := by
  intro d
  rw [wp_bind]
  exact wp_of_cases (fun a d' _ => hf a d') fun _ _ _ => trivial

theorem delivers_answered (actor : String) (reply : ChannelReply) : Delivers actor (pure (.answered reply)) := by
  intro d receipt runtimeActor h
  cases h

theorem delivers_committed (receipt : CommitReceipt) (actor : RuntimeActor) :
    Delivers actor.sessionId (pure (.committed receipt actor)) := by
  intro d receipt' actor' h
  cases h
  rfl

theorem takeOperation_delivers (peer : AuthenticatedPeer) (actor : JsString) (payload : Tree)
    (operation : ChannelOperation) : Delivers (sqlText actor) (takeOperation peer actor payload operation) := by
  cases operation with
  | register =>
    exact delivers_bind _ fun _ => delivers_bind _ fun _ => delivers_bind _ fun _ => delivers_bind _ fun _ =>
      delivers_bind _ fun _ => delivers_answered _ _
  | leave => exact delivers_bind _ fun _ => delivers_bind _ fun _ => delivers_bind _ fun _ => delivers_answered _ _
  | snapshot => exact delivers_bind _ fun _ => delivers_bind _ fun _ => delivers_bind _ fun _ => delivers_answered _ _
  | messages => exact delivers_bind _ fun _ => delivers_bind _ fun _ => delivers_answered _ _
  | send =>
    exact delivers_bind _ fun _ => delivers_bind _ fun _ => delivers_bind _ fun _ => delivers_bind _ fun _ =>
      delivers_committed _ _
  | directSend =>
    exact delivers_bind _ fun _ => delivers_bind _ fun _ => delivers_bind _ fun _ => delivers_bind _ fun _ =>
      delivers_bind _ fun _ => delivers_committed _ _

theorem takeCommand_committed {peer : AuthenticatedPeer}
    {d d' : Daemon} {receipt : CommitReceipt} {actor : RuntimeActor}
    (h : takeCommand homeAuthorityId (some peer) command d = (.ok (.committed receipt actor), d')) :
    actor.sessionId = sqlText (command.actor peer) := by
  simp only [takeCommand] at h
  split at h
  · cases h
  · cases hpayload : decodePayload command.payload with
    | error message =>
      simp only [hpayload] at h
      cases h
    | ok payload =>
      simp only [hpayload] at h
      have hdelivers := wp_of_ok (takeOperation_delivers peer (command.actor peer) payload command.operation d) h
      exact hdelivers receipt actor rfl

section Ids
open JsString (chars isPaired unitChar isHigh)

theorem chars_append_plain {s : JsString} (h : ∀ c ∈ s, isHigh c = false) (rest : JsString) :
    chars (s ++ rest) = chars s ++ chars rest := by
  induction s with
  | nil => rfl
  | cons c s ih =>
    have hc : isHigh c = false := h c List.mem_cons_self
    rw [List.cons_append, JsString.chars_cons hc, JsString.chars_cons hc, List.cons_append,
      ih fun d hd => h d (List.mem_cons_of_mem _ hd)]

theorem length_chars_plain {s : JsString} (h : ∀ c ∈ s, isHigh c = false) : (chars s).length = s.length := by
  induction s with
  | nil => rfl
  | cons c s ih =>
    rw [JsString.chars_cons (h c List.mem_cons_self), List.length_cons, List.length_cons,
      ih fun d hd => h d (List.mem_cons_of_mem _ hd)]

/-- What the ids of the sessions of a peer start with. -/
def AuthenticatedPeer.qualifier (peer : AuthenticatedPeer) : JsString :=
  text "federation:" ++ peer.authorityId ++ text ":"

theorem authorityId_spec (peer : AuthenticatedPeer) :
    peer.authorityId.length = 74 ∧ ∀ c ∈ peer.authorityId, c.toNat < 0x80 := by
  have hpattern := peer.wellFormed
  rw [AUTHORITY_ID_PATTERN] at hpattern
  cases hstrip : strip (text "authority-") peer.authorityId with
  | none =>
    rw [hstrip] at hpattern
    cases hpattern
  | some digits =>
    rw [hstrip] at hpattern
    simp only [Bool.and_eq_true, decide_eq_true_eq, List.all_eq_true] at hpattern
    obtain ⟨hlength, hhex⟩ := hpattern
    have hwhole := strip_eq_some.mp hstrip
    rw [hwhole]
    refine ⟨?_, fun c hc => ?_⟩
    · rw [List.length_append, hlength]
      rfl
    · rcases List.mem_append.mp hc with hc | hc
      · have hletters : (text "authority-").all (fun c => c.toNat < 0x80) = true := by decide +kernel
        exact of_decide_eq_true (List.all_eq_true.mp hletters c hc)
      · have hdigit := hhex c hc
        simp only [isLowerHex, JsonText.isDigit, Bool.or_eq_true, Bool.and_eq_true, decide_eq_true_eq,
          UInt16.le_iff_toNat_le] at hdigit
        have hnine : (0x39 : CodeUnit).toNat = 57 ∧ (0x66 : CodeUnit).toNat = 102 := by decide
        omega

theorem qualifier_spec (peer : AuthenticatedPeer) :
    peer.qualifier.length = 86 ∧ ∀ c ∈ peer.qualifier, c.toNat < 0x80 := by
  obtain ⟨hlength, hplain⟩ := authorityId_spec peer
  have hfixed : (text "federation:" ++ text ":").all (fun c => c.toNat < 0x80) = true := by decide +kernel
  refine ⟨?_, fun c hc => ?_⟩
  · rw [AuthenticatedPeer.qualifier, List.length_append, List.length_append, hlength]
    rfl
  · rw [AuthenticatedPeer.qualifier, List.mem_append, List.mem_append] at hc
    rcases hc with (hc | hc) | hc
    · exact of_decide_eq_true (List.all_eq_true.mp hfixed c (List.mem_append_left _ hc))
    · exact hplain c hc
    · exact of_decide_eq_true (List.all_eq_true.mp hfixed c (List.mem_append_right _ hc))

theorem not_surrogate_of_lt {c : CodeUnit} (h : c.toNat < 0x80) : JsString.isSurrogate c = false := by
  have hbounds : (0xD800 : CodeUnit).toNat = 55296 ∧ (0xDC00 : CodeUnit).toNat = 56320 := by decide
  rw [JsString.isSurrogate, JsString.isHigh, JsString.isLow, Bool.or_eq_false_iff, Bool.and_eq_false_iff,
    Bool.and_eq_false_iff]
  refine ⟨.inl (decide_eq_false fun hle => ?_), .inl (decide_eq_false fun hle => ?_)⟩
  all_goals
    have hnat := UInt16.le_iff_toNat_le.mp hle
    omega

theorem not_high_of_lt {c : CodeUnit} (h : c.toNat < 0x80) : isHigh c = false :=
  (Bool.or_eq_false_iff.mp (not_surrogate_of_lt h)).1

theorem chars_actor (peer : AuthenticatedPeer) (command : ChannelCommand) :
    chars (command.actor peer) = chars peer.qualifier ++ chars command.actorSessionId :=
  chars_append_plain (fun c hc => not_high_of_lt ((qualifier_spec peer).2 c hc)) _

theorem qualified (peer : AuthenticatedPeer) (command : ChannelCommand) :
    sqlText (command.actor peer) = sqlText peer.qualifier ++ sqlText command.actorSessionId := by
  rw [sqlText, chars_actor, String.ofList_append]
  rfl

/-- A session whose id is not of that form is none of a peer's. -/
theorem federation_prefix (peer : AuthenticatedPeer) (command : ChannelCommand) :
    "federation:".toList <+: (sqlText (command.actor peer)).toList := by
  have hplain : (text "federation:").all (fun c => c.toNat < 0x80) = true := by decide +kernel
  have hfront : chars (text "federation:" ++ (peer.authorityId ++ text ":")) =
      chars (text "federation:") ++ chars (peer.authorityId ++ text ":") :=
    chars_append_plain (fun c hc => not_high_of_lt (of_decide_eq_true (List.all_eq_true.mp hplain c hc))) _
  rw [sqlText, chars_actor, AuthenticatedPeer.qualifier, List.append_assoc, hfront,
    show chars (text "federation:") = "federation:".toList from JsString.chars_ofString _, List.append_assoc]
  exact (congrArg ("federation:".toList <+: ·) String.toList_ofList).mpr (List.prefix_append _ _)

theorem peer_of_actor {peer peer' : AuthenticatedPeer} {command command' : ChannelCommand}
    (h : sqlText (command.actor peer) = sqlText (command'.actor peer')) : peer.authorityId = peer'.authorityId := by
  have hchars : chars (command.actor peer) = chars (command'.actor peer') := String.ofList_injective h
  rw [chars_actor, chars_actor] at hchars
  have hlength (peer : AuthenticatedPeer) : (chars peer.qualifier).length = 86 := by
    rw [length_chars_plain fun c hc => not_high_of_lt ((qualifier_spec peer).2 c hc)]
    exact (qualifier_spec peer).1
  have hqualifier := (List.append_inj hchars ((hlength peer).trans (hlength peer').symm)).1
  have hpaired (peer : AuthenticatedPeer) : isPaired peer.qualifier = true :=
    JsString.isPaired_of_all fun c hc => not_surrogate_of_lt ((qualifier_spec peer).2 c hc)
  have hsame : peer.qualifier = peer'.qualifier := by
    rw [← JsString.ofChars_chars (hpaired peer), hqualifier, JsString.ofChars_chars (hpaired peer')]
  rw [AuthenticatedPeer.qualifier, AuthenticatedPeer.qualifier] at hsame
  exact List.append_cancel_left (List.append_cancel_right hsame)

end Ids

end Wardroom.Federation
