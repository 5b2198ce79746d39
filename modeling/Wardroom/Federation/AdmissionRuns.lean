import Wardroom.Federation.Admissions
import Wardroom.Federation.RemoteActors

/-! # Admissions over the life of a home

Owners decide on peers, channels close and open again, everything else happens
to the store, and peers send their commands. The log keeps the decisions that
were made.
-/

namespace Wardroom.Federation
open Wardroom.Library Wardroom.Library.JsonText Wardroom.Domain Wardroom.Storage Wardroom.Runtime Prog

structure Decision where
  channelId : String
  peerAuthorityId : String
  granted : Bool

/-- The decision that a call makes, where it is not refused. -/
def decision (w : World) : StoreOp → Option Decision
  | .grantFederatedChannelAdmission channelId peer actor =>
    (grantFederatedChannelAdmission channelId peer actor w).1.toOption.map fun _ => ⟨channelId, peer, true⟩
  | .revokeFederatedChannelAdmission channelId peer actor =>
    (revokeFederatedChannelAdmission channelId peer actor w).1.toOption.map fun _ => ⟨channelId, peer, false⟩
  | _ => none

def latestDecision (decisions : List Decision) (channelId peerAuthorityId : String) : Option Decision :=
  decisions.reverse.find? fun d => (channelId, peerAuthorityId) = (d.channelId, d.peerAuthorityId)

/-- A daemon that is the home of some channels, with the log of the decisions. -/
structure Home where
  daemon : Daemon
  decisions : List Decision

/-- A call of the store, a command of a peer up to where it yields, or a delivery that follows one. -/
inductive HomeEvent where
  | store (op : StoreOp)
  | command (peer : Option AuthenticatedPeer) (command : ChannelCommand)
  | delivery (messageId recipient : String) (actor : RuntimeActor)

section Home

variable (hosts : Hosts) (homeAuthorityId : JsString)

def Home.step (h : Home) : HomeEvent → Home
  | .store op => ⟨{ h.daemon with store := storeStep h.daemon.store op },
      h.decisions ++ (decision h.daemon.store op).toList⟩
  | .command peer command => { h with daemon := (takeCommand homeAuthorityId peer command h.daemon).2 }
  | .delivery messageId recipient actor =>
    { h with daemon := (deliverLocalRuntime hosts messageId recipient actor h.daemon).2 }

def Home.run (h : Home) (events : List HomeEvent) : Home := events.foldl (Home.step hosts homeAuthorityId) h

/-- A store with nobody admitted and nothing open, as a migration leaves it. -/
structure Unadmitted (d : Daemon) : Prop where
  rest : d.AtRest
  closed : d.store.importSession = none
  nobody : d.db.federationChannelAdmissions.rows = []

/-- The admissions are what the latest decisions say, also after a rollback of an open import. -/
structure FollowsDecisions (h : Home) : Prop where
  rest : h.daemon.AtRest
  admitted : ∀ channelId peer, isFederatedPeerAdmitted h.daemon.db channelId peer = true ↔
    (latestDecision h.decisions channelId peer).any (fun d => d.granted) = true
  durable : Durable (fun db => db.federationChannelAdmissions = h.daemon.db.federationChannelAdmissions)
    h.daemon.store

end Home

section Steps

variable {h : Home} {d' : Daemon}

theorem latestDecision_append (decisions : List Decision) (d : Decision) (channelId peer : String) :
    latestDecision (decisions ++ [d]) channelId peer =
      if (channelId, peer) = (d.channelId, d.peerAuthorityId) then some d
      else latestDecision decisions channelId peer := by
  rw [latestDecision, List.reverse_append, List.reverse_singleton, List.singleton_append, List.find?_cons]
  by_cases hsame : (channelId, peer) = (d.channelId, d.peerAuthorityId)
  · rw [if_pos hsame, decide_eq_true hsame]
  · rw [if_neg hsame, decide_eq_false hsame]
    rfl

theorem apart_admissions : Apart fun db => db.federationChannelAdmissions where
  tables _ _ _ _ _ _ := rfl
  rows _ _ _ _ _ _ := rfl

theorem admitted_of_admissions {db db' : Database}
    (h : db'.federationChannelAdmissions = db.federationChannelAdmissions) (channelId peer : String) :
    isFederatedPeerAdmitted db' channelId peer = isFederatedPeerAdmitted db channelId peer := by
  rw [isFederatedPeerAdmitted, isFederatedPeerAdmitted, h]

/-- A step that leaves the table of admissions makes no decision. -/
theorem FollowsDecisions.idle (hfollows : FollowsDecisions h) (hrest : d'.AtRest)
    (hdurable : Durable (fun db => db.federationChannelAdmissions = h.daemon.db.federationChannelAdmissions) d'.store) :
    FollowsDecisions ⟨d', h.decisions⟩ where
  rest := hrest
  admitted channelId peer := by
    rw [admitted_of_admissions hdurable.1]
    exact hfollows.admitted channelId peer
  durable := ⟨rfl, fun session hs => (hdurable.2 session hs).trans hdurable.1.symm⟩

theorem FollowsDecisions.keeps (hfollows : FollowsDecisions h) (hkeeps : Keeps h.daemon.store d'.store)
    (hsame : d'.db.federationChannelAdmissions = h.daemon.db.federationChannelAdmissions) :
    FollowsDecisions ⟨d', h.decisions⟩ :=
  hfollows.idle (hkeeps.transactionDepth.trans hfollows.rest)
    ⟨hsame, fun session hs => hfollows.durable.2 session (hkeeps.importSession ▸ hs)⟩

/-- A decision of an owner, or its refusal. -/
theorem FollowsDecisions.decide {α : Type} (hfollows : FollowsDecisions h) {x body : Command α} (hx : x = write body)
    {channelId peer actor : String} {granted : Bool}
    (hsettles : Settles x h.daemon.store fun _ db' => Decided channelId peer actor granted h.daemon.db db') :
    FollowsDecisions ⟨{ h.daemon with store := (x h.daemon.store).2 },
      h.decisions ++ ((x h.daemon.store).1.toOption.map fun _ => (⟨channelId, peer, granted⟩ : Decision)).toList⟩ := by
  have hkeeps := hsettles.keeps
  rcases houtcome : x h.daemon.store with ⟨r, w'⟩
  rw [houtcome] at hkeeps
  cases r with
  | error e =>
    have hdb : w'.db = h.daemon.db := (wp_of_error hsettles houtcome).1
    simp only [Except.toOption, Option.map_none, Option.toList_none, List.append_nil]
    exact FollowsDecisions.keeps hfollows hkeeps (congrArg Database.federationChannelAdmissions hdb)
  | ok a =>
    have hdecided := hsettles.of_ok houtcome
    have hclosed : h.daemon.store.importSession = none := write_ok hfollows.rest (hx ▸ houtcome)
    refine ⟨hkeeps.transactionDepth.trans hfollows.rest, fun c p => ?_, rfl, fun session hs => ?_⟩
    · change isFederatedPeerAdmitted w'.db c p = true ↔ _
      rw [hdecided.admitted c p, Except.toOption, Option.map_some, Option.toList_some, latestDecision_append]
      by_cases hsame : (c, p) = (channelId, peer)
      · rw [if_pos hsame, if_pos hsame, Option.any_some]
      · rw [if_neg hsame, if_neg hsame]
        exact hfollows.admitted c p
    · cases (hkeeps.importSession.trans hclosed).symm.trans hs

theorem FollowsDecisions.store (hfollows : FollowsDecisions h) (op : StoreOp) :
    FollowsDecisions ⟨{ h.daemon with store := storeStep h.daemon.store op },
      h.decisions ++ (decision h.daemon.store op).toList⟩ := by
  cases htouches : touches op with
  | false =>
    have hnone : decision h.daemon.store op = none := by
      cases op <;> first | rfl | cases htouches
    rw [hnone, Option.toList_none, List.append_nil]
    refine FollowsDecisions.idle hfollows ?_ ?_
    · exact (storeStep_transition hfollows.rest op).transactionDepth.trans hfollows.rest
    · exact apart_admissions.storeStep hfollows.rest htouches hfollows.durable
  | true =>
    cases op with
    | grantFederatedChannelAdmission channelId peer actor =>
      exact hfollows.decide (x := grantFederatedChannelAdmission channelId peer actor) rfl
        (grant_settles _ channelId peer actor hfollows.rest)
    | revokeFederatedChannelAdmission channelId peer actor =>
      exact hfollows.decide (x := revokeFederatedChannelAdmission channelId peer actor) rfl
        (revoke_settles _ channelId peer actor hfollows.rest)
    | commitControl input =>
      have hleaves := @commitControl_leaves _ (fun db => db.federationChannelAdmissions) input
        (fun _ _ _ _ _ _ => rfl) h.daemon.store
      have hlog : h.decisions ++ (decision h.daemon.store (.commitControl input)).toList = h.decisions :=
        List.append_nil _
      rw [hlog]
      exact FollowsDecisions.keeps hfollows (commitControl_effect _ input).keeps hleaves
    | _ => cases htouches

/-- What a delivery leaves of the store. -/
def standing (d : Daemon) :=
  (d.store.transactionDepth, d.store.importSession, d.db.federationChannelAdmissions)

theorem frame_standing {α : Type} {x : Command α} (hkeeps : ∀ w, Keeps w (x w).2)
    (hleaves : Storage.Leaves (fun db => db.federationChannelAdmissions) x) : Frame standing (onStore x) := fun d =>
  Prod.ext (hkeeps d.store).transactionDepth (Prod.ext (hkeeps d.store).importSession (hleaves d.store))

theorem steady_standing : Steady standing where
  restore _ _ h := Prod.ext (Prod.mk.inj h).1 (Prod.ext (Prod.mk.inj (Prod.mk.inj h).2).1 rfl)
  runtimes _ _ := rfl
  now _ := rfl
  lifecycle _ _ _ _ _ _ := frame_standing (fun w => (recordRuntimeLifecycle_effect w _ _ _ _ _ _).keeps)
    (recordRuntimeLifecycle_leaves _ _ _ _ _ _ fun _ _ _ _ _ => rfl)
  delivery _ _ := frame_standing (fun w => (appendMessageDelivery_effect w _ _).keeps)
    (appendMessageDelivery_leaves _ _ fun _ _ _ _ _ _ => rfl)

theorem frame_deliverLocalRuntime (hosts : Hosts) (messageId recipient : String) (actor : RuntimeActor) :
    Frame standing (deliverLocalRuntime hosts messageId recipient actor) := by
  refine frame_tryCatch (frame_bind frame_read fun d => frame_ite (frame_fail _) ?_) fun _ =>
    frame_ite (frame_pure _) (frame_fail _)
  cases d.deliveryRuntime recipient with
  | none => exact frame_fail _
  | some runtime => exact frame_bind (frame_deliverMessage hosts steady_standing _ _ _ _) fun _ => frame_pure _

/-- What one event keeps. -/
theorem FollowsDecisions.step (hfollows : FollowsDecisions h) (hosts : Hosts) (homeAuthorityId : JsString)
    (event : HomeEvent) : FollowsDecisions (h.step hosts homeAuthorityId event) := by
  cases event with
  | store op => exact hfollows.store op
  | command peer command =>
    cases peer with
    | none => exact FollowsDecisions.keeps hfollows (.refl _) rfl
    | some peer =>
      rcases cases_of_wp (acts_takeCommand homeAuthorityId peer command h.daemon hfollows.rest) with
        ⟨_, _, hacts, hkeeps⟩ | ⟨_, _, hacts, hkeeps⟩
      · exact hfollows.keeps hkeeps hacts.admissions
      · exact hfollows.keeps hkeeps hacts.admissions
  | delivery messageId recipient actor =>
    obtain ⟨hdepth, hstanding⟩ := Prod.mk.inj (frame_deliverLocalRuntime hosts messageId recipient actor h.daemon)
    obtain ⟨himport, hadmissions⟩ := Prod.mk.inj hstanding
    exact hfollows.idle (hdepth.trans hfollows.rest)
      ⟨hadmissions, fun session hs => hfollows.durable.2 session (himport.symm.trans hs)⟩

theorem FollowsDecisions.run (hfollows : FollowsDecisions h) (hosts : Hosts) (homeAuthorityId : JsString)
    (events : List HomeEvent) : FollowsDecisions (h.run hosts homeAuthorityId events) := by
  induction events generalizing h with
  | nil => exact hfollows
  | cons event events ih => exact ih (hfollows.step hosts homeAuthorityId event)

theorem Unadmitted.follows {d : Daemon} (hd : Unadmitted d) : FollowsDecisions ⟨d, []⟩ where
  rest := hd.rest
  admitted channelId peer := by
    rw [isFederatedPeerAdmitted, hd.nobody]
    exact Iff.rfl
  durable := ⟨rfl, fun session hs => by cases hd.closed.symm.trans hs⟩

end Steps

/-- What admits a peer to a channel, who decides on it, and whom a peer can act as. -/
structure AdmissionLaw (homeAuthorityId : JsString) (h : Home) : Prop where
  admitted : ∀ peer command taken d', takeCommand homeAuthorityId (some peer) command h.daemon = (.ok taken, d') →
    command.operation.guarded = true → ∃ channelId, command.channel = some channelId ∧
      latestDecision h.decisions (sqlText channelId) (sqlText peer.authorityId) =
        some ⟨sqlText channelId, sqlText peer.authorityId, true⟩
  handled : ∀ hosts peer command reply d',
    handleChannel hosts homeAuthorityId (some peer) command h.daemon = (.ok reply, d') →
      command.operation.guarded = true → ∃ channelId, command.channel = some channelId ∧
        latestDecision h.decisions (sqlText channelId) (sqlText peer.authorityId) =
          some ⟨sqlText channelId, sqlText peer.authorityId, true⟩
  grants : ∀ channelId peer actor admission w',
    grantFederatedChannelAdmission channelId peer actor h.daemon.store = (.ok admission, w') →
      Owns h.daemon.db channelId actor
  revokes : ∀ channelId peer actor admission w',
    revokeFederatedChannelAdmission channelId peer actor h.daemon.store = (.ok admission, w') →
      Owns h.daemon.db channelId actor
  acts : ∀ peer command, ActsAs (sqlText (command.actor peer)) h.daemon.db
    (takeCommand homeAuthorityId (some peer) command h.daemon).2.db
  delivers : ∀ peer command receipt actor d',
    takeCommand homeAuthorityId (some peer) command h.daemon = (.ok (.committed receipt actor), d') →
      actor.sessionId = sqlText (command.actor peer)
  qualified : ∀ (peer : AuthenticatedPeer) (command : ChannelCommand),
    sqlText (command.actor peer) = sqlText peer.qualifier ++ sqlText command.actorSessionId
  foreign : ∀ sessionId : String, ¬"federation:".toList <+: sessionId.toList →
    ∀ (peer : AuthenticatedPeer) (command : ChannelCommand), sqlText (command.actor peer) ≠ sessionId
  apart : ∀ (peer peer' : AuthenticatedPeer) (command command' : ChannelCommand),
    sqlText (command.actor peer) = sqlText (command'.actor peer') → peer.authorityId = peer'.authorityId

theorem latestDecision_granted {decisions : List Decision} {channelId peer : String}
    (h : (latestDecision decisions channelId peer).any (fun d => d.granted) = true) :
    latestDecision decisions channelId peer = some ⟨channelId, peer, true⟩ := by
  obtain ⟨⟨c, p, granted⟩, hlatest, hgranted⟩ := Option.any_eq_true _ _ |>.mp h
  have hsame : (channelId, peer) = (c, p) := by simpa using List.find?_some hlatest
  obtain ⟨rfl, rfl⟩ := Prod.mk.inj hsame
  obtain rfl : granted = true := hgranted
  exact hlatest

theorem FollowsDecisions.taken {h : Home} (hfollows : FollowsDecisions h) {homeAuthorityId : JsString}
    {peer : AuthenticatedPeer} {command : ChannelCommand} {taken : Taken} {d' : Daemon}
    (htaken : takeCommand homeAuthorityId (some peer) command h.daemon = (.ok taken, d'))
    (hguarded : command.operation.guarded = true) :
    ∃ channelId, command.channel = some channelId ∧
      latestDecision h.decisions (sqlText channelId) (sqlText peer.authorityId) =
        some ⟨sqlText channelId, sqlText peer.authorityId, true⟩ := by
  obtain ⟨channelId, hchannel, hadmitted⟩ := takeCommand_admitted hguarded htaken
  exact ⟨channelId, hchannel, latestDecision_granted ((hfollows.admitted _ _).mp hadmitted)⟩

theorem FollowsDecisions.law {h : Home} (hfollows : FollowsDecisions h) (homeAuthorityId : JsString) :
    AdmissionLaw homeAuthorityId h where
  admitted peer command taken d' htaken hguarded := hfollows.taken htaken hguarded
  handled hosts peer command reply d' hhandled hguarded := by
    obtain ⟨taken, d₁, htaken⟩ := handleChannel_taken hhandled
    exact hfollows.taken htaken hguarded
  grants channelId peer actor admission w' hgrant :=
    ((grant_settles _ channelId peer actor hfollows.rest).of_ok hgrant).owns
  revokes channelId peer actor admission w' hrevoke :=
    ((revoke_settles _ channelId peer actor hfollows.rest).of_ok hrevoke).owns
  acts peer command := by
    rcases cases_of_wp (acts_takeCommand homeAuthorityId peer command h.daemon hfollows.rest) with
      ⟨_, _, hacts, _⟩ | ⟨_, _, hacts, _⟩
    · exact hacts
    · exact hacts
  delivers peer command receipt actor d' htaken := takeCommand_committed htaken
  qualified := qualified
  foreign sessionId hlocal peer command hsame := hlocal (hsame ▸ federation_prefix peer command)
  apart peer peer' command command' hsame := peer_of_actor hsame

/-- The law holds at every time in the life of a home. -/
theorem admission_enforced (d : Daemon) (hd : Unadmitted d) (hosts : Hosts) (homeAuthorityId : JsString)
    (events : List HomeEvent) :
    AdmissionLaw homeAuthorityId (Home.run hosts homeAuthorityId ⟨d, []⟩ events) :=
  (hd.follows.run hosts homeAuthorityId events).law homeAuthorityId

def samplePeer : AuthenticatedPeer where
  authorityId := text "authority-" ++ List.replicate 64 0x30
  wellFormed := by decide +kernel

/-- The owner registers itself and its channel and admits the peer. -/
def sampleEvents : List HomeEvent :=
  [.store (.insertSession { id := "o", role := some .operator }), .store (.insertChannel "c" (some "o")),
    .store (.grantFederatedChannelAdmission "c" (sqlText samplePeer.authorityId) "o")]

/-- The payload is `{"channelId":"c"}`. -/
def sampleRegister : ChannelCommand where
  homeAuthorityId := text "h"
  operation := .register
  actorSessionId := text "w"
  payload := [0x7B, 0x22, 0x63, 0x68, 0x61, 0x6E, 0x6E, 0x65, 0x6C, 0x49, 0x64, 0x22, 0x3A, 0x22, 0x63, 0x22, 0x7D]

def sampleDaemon : Daemon := .initial (.initial .empty tally tally)

def sampleHosts : Hosts := fun _ _ => .failed (.runtime "no host")

theorem sampleRegister_taken :
    (takeCommand (text "h") (some samplePeer) sampleRegister
      (Home.run sampleHosts (text "h") ⟨sampleDaemon, []⟩ sampleEvents).daemon).1.isOk = true := by
  decide +kernel

/-- The worker of the admitted peer is taken in, so the latest decision let it in. -/
theorem admission_enforced_worker :
    ∃ channelId, sampleRegister.channel = some channelId ∧
      latestDecision (Home.run sampleHosts (text "h") ⟨sampleDaemon, []⟩ sampleEvents).decisions (sqlText channelId)
        (sqlText samplePeer.authorityId) = some ⟨sqlText channelId, sqlText samplePeer.authorityId, true⟩ := by
  have hlaw := admission_enforced sampleDaemon ⟨rfl, rfl, rfl⟩ sampleHosts (text "h") sampleEvents
  have htaken := sampleRegister_taken
  rcases houtcome : takeCommand (text "h") (some samplePeer) sampleRegister
    (Home.run sampleHosts (text "h") ⟨sampleDaemon, []⟩ sampleEvents).daemon with ⟨r, d'⟩
  rw [houtcome] at htaken
  cases r with
  | error e => cases htaken
  | ok taken => exact hlaw.admitted samplePeer sampleRegister taken d' houtcome rfl

end Wardroom.Federation
