import Wardroom.Runtime.Native.SendEffects

/-! # The authority of a send

A broadcast is checked against the roster of its channel and a direct message
against the channels its two sessions share. The listed sessions of any other
target, the end of the sender, and the channel a message is stored in are not
checked by the handler, by the application or by the store.
-/

namespace Wardroom.Conversations
open Wardroom.Library Wardroom.Domain Wardroom.Storage Wardroom.Runtime

def messageSender (event : Json) : Option String :=
  (event.member "senderSessionId").bind Json.extractText

def targetMember (event : Json) (name : String) : Option Json :=
  (event.member "target").bind fun target => target.member name

/-- The sessions that the resolved target of a message addresses. -/
def addressees (event : Json) : List String :=
  if (targetMember event "kind").bind Json.extractText = some "direct" then
    ((targetMember event "sessionId").bind Json.extractText).toList
  else
    match targetMember event "sessionIds" with
    | some (.arr ids) => Json.texts ids
    | _ => []

/-- The sessions that a target lists. -/
def listed (target : MessageTarget) : List String :=
  if target.kind = some "direct" then target.sessionId.toList else target.sessionIds.getD []

theorem toJson_kind (target : MessageTarget) :
    target.toJson.member "kind" = target.kind.map .str := by
  simp [MessageTarget.toJson]

theorem toJson_sessionId (target : MessageTarget) :
    target.toJson.member "sessionId" = target.sessionId.map .str := by
  simp [MessageTarget.toJson]

theorem toJson_sessionIds (target : MessageTarget) :
    target.toJson.member "sessionIds" = target.sessionIds.map fun ids => .arr (ids.map .str) := by
  simp [MessageTarget.toJson]

theorem extractText_str (text : Option String) :
    (text.map Json.str).bind Json.extractText = text := by
  cases text <;> rfl

theorem addressees_messageEvent {input : CanonicalMessageCommitInput} {target : MessageTarget}
    (h : input.target = some target) (reply : ReplyMetadata) (id occurredAt : String) :
    addressees (messageEvent input reply id occurredAt) = listed target := by
  unfold addressees listed targetMember
  rw [messageEvent_target, h]
  simp only [Option.map_some, Option.bind_some, toJson_kind, toJson_sessionId, toJson_sessionIds,
    extractText_str]
  by_cases hkind : target.kind = some "direct"
  · rw [if_pos hkind, if_pos hkind]
  · rw [if_neg hkind, if_neg hkind]
    cases target.sessionIds with
    | none => rfl
    | some ids => exact Json.texts_map_str ids

theorem messageSender_messageEvent (input : CanonicalMessageCommitInput) (reply : ReplyMetadata)
    (id occurredAt : String) :
    messageSender (messageEvent input reply id occurredAt) = some input.senderSessionId := by
  simp [messageSender, Json.extractText]

section Plan

variable {d : Daemon} {db : Database} {caller : Caller} {request : SendRequest}
  {sender channelId : String} {target : MessageTarget} {recipients : List String}

def broadcasts (request : SendRequest) : Bool := request.requested.kind = some "broadcast"

theorem sendingSession_ok (h : sendingSession caller request = .ok sender) :
    authenticated caller = .ok sender := by
  obtain ⟨sessionId, hsession, hok⟩ := ok_of_bind h
  by_cases hnamed : Text.given request.senderSessionId ∧ request.senderSessionId ≠ some sessionId
  · rw [if_pos hnamed] at hok
    cases hok
  · rw [if_neg hnamed] at hok
    cases hok
    exact hsession

structure Planned (d : Daemon) (caller : Caller) (request : SendRequest) (plan : SendPlan) : Prop where
  sender : authenticated caller = .ok plan.actor.sessionId
  target : resolveTarget d.db plan.actor.sessionId request = .ok plan.target
  upstream : checkUpstream d.db plan.actor.sessionId request plan.target = .ok ()
  recipients : acceptedRecipients d.db plan.actor.sessionId plan.target = .ok plan.recipients

theorem planned_of_ok {plan : SendPlan} (h : planSend d caller request = .ok plan) :
    Planned d caller request plan := by
  obtain ⟨sessionId, hsession, h⟩ := ok_of_bind h
  obtain ⟨target, htarget, h⟩ := ok_of_bind h
  obtain ⟨_, hupstream, h⟩ := ok_of_bind h
  obtain ⟨recipients, hrecipients, h⟩ := ok_of_bind h
  obtain ⟨routing, _, h⟩ := ok_of_bind h
  cases h
  exact ⟨sendingSession_ok hsession, htarget, hupstream, hrecipients⟩

theorem acceptedRecipients_listed (h : acceptedRecipients db sender target = .ok recipients) :
    recipients = listed target := by
  unfold acceptedRecipients at h
  unfold listed
  by_cases hkind : target.kind = some "direct"
  · rw [if_pos hkind] at h ⊢
    cases hsession : target.sessionId with
    | none =>
      rw [hsession] at h
      cases h
    | some recipient =>
      simp only [hsession] at h
      by_cases hshared : (db.activeMembershipChannels recipient).any
          fun channelId => channelId ∈ db.activeMembershipChannels sender
      · rw [if_pos hshared] at h
        cases h
        rfl
      · rw [if_neg hshared] at h
        cases h
  · rw [if_neg hkind] at h ⊢
    by_cases hempty : target.sessionIds.getD [] = []
    · rw [if_pos hempty] at h
      cases h
    · rw [if_neg hempty] at h
      cases h
      rfl

theorem mem_roster {entry : Database.RosterEntry} (h : entry ∈ db.roster channelId) :
    db.isActiveMember channelId entry.sessionId = true := by
  obtain ⟨m, hm, hentry⟩ := List.mem_filterMap.mp h
  obtain ⟨s, hs, rfl⟩ := Option.map_eq_some_iff.mp hentry
  rw [Database.activeMemberships, List.mem_insertionSort, Table.mem_select] at hm
  simp only [Bool.decide_and, Bool.and_eq_true, decide_eq_true_eq] at hm
  have hid : s.id = m.sessionId := (Table.find?_some hs).2
  exact Database.isActiveMember_iff.mpr ⟨m, hm.1, hm.2.1, hid.symm, by simpa using hm.2.2⟩

/-- The channel keeps its broadcasts to the operator and the planner. -/
def privileged (db : Database) (channelId : String) : Bool :=
  (db.currentChannel channelId).any fun c => c.broadcastPolicy = .privileged

def leads (db : Database) (sessionId : String) : Bool :=
  db.sessionRole sessionId = some .operator || db.sessionRole sessionId = some .planner

/-- A broadcast goes out from a member of its channel, to members of it, and in a privileged channel
from a lead. -/
structure BroadcastChecked (db : Database) (sender : String) (request : SendRequest)
    (target : MessageTarget) (channelId : String) : Prop where
  channel : request.channelId = some channelId
  named : channelId ≠ ""
  kind : target.kind = some "broadcast"
  senderMember : db.isActiveMember channelId sender = true
  members : ∀ recipient ∈ listed target, db.isActiveMember channelId recipient = true
  lead : privileged db channelId = true → leads db sender = true

theorem resolveTarget_broadcast (hbroadcast : broadcasts request = true)
    (h : resolveTarget db sender request = .ok target) :
    ∃ channelId, BroadcastChecked db sender request target channelId := by
  have hkind : request.requested.kind = some "broadcast" := by simpa [broadcasts] using hbroadcast
  unfold resolveTarget at h
  rw [if_pos hkind] at h
  cases hchannel : request.channelId with
  | none =>
    rw [hchannel] at h
    unfold broadcastTarget at h
    rw [if_pos (.inl rfl)] at h
    cases h
  | some channelId =>
    rw [hchannel, Option.getD_some] at h
    unfold broadcastTarget at h
    by_cases hmember : channelId = "" ∨ db.isActiveMember channelId sender = false
    · rw [if_pos hmember] at h
      cases h
    · rw [if_neg hmember] at h
      by_cases hrestricted : ((db.currentChannel channelId).any
          fun c => c.broadcastPolicy = .privileged) ∧
          db.sessionRole sender ≠ some .operator ∧ db.sessionRole sender ≠ some .planner
      · rw [if_pos hrestricted] at h
        cases h
      · rw [if_neg hrestricted] at h
        cases h
        refine ⟨channelId, hchannel, (not_or.mp hmember).1, rfl, by simpa using (not_or.mp hmember).2,
          ?_, ?_⟩
        · intro recipient hrecipient
          simp only [listed, Option.some.injEq, String.reduceEq, if_false, Option.getD_some] at hrecipient
          obtain ⟨hmem, _⟩ := List.mem_filter.mp hrecipient
          obtain ⟨entry, hentry, rfl⟩ := List.mem_map.mp hmem
          exact mem_roster hentry
        · intro hprivileged
          simp only [leads, Bool.or_eq_true, decide_eq_true_eq]
          by_contra hneither
          exact hrestricted ⟨hprivileged, not_or.mp hneither⟩

theorem resolveTarget_other (hbroadcast : broadcasts request = false)
    (h : resolveTarget db sender request = .ok target) : target = request.requested := by
  have hkind : request.requested.kind ≠ some "broadcast" := by simpa [broadcasts] using hbroadcast
  unfold resolveTarget at h
  rw [if_neg hkind] at h
  cases h
  rfl

end Plan

/-- The two sessions are active members of one open channel. -/
def ShareOpenChannel (db : Database) (a b : String) : Prop :=
  ∃ channelId, db.channelActive channelId = true ∧ db.isActiveMember channelId a = true ∧
    db.isActiveMember channelId b = true

/-- Who may send a message of a channel, or of none, to whom. -/
structure SendAuthority (db : Database) (channelId : Option String) (sender : String)
    (recipients : List String) : Prop where
  live : db.sessionLive sender = true
  channel : ∀ c, channelId = some c → db.channelActive c = true ∧ db.isActiveMember c sender = true
  members : ∀ c, channelId = some c → ∀ r ∈ recipients, db.isActiveMember c r = true
  shared : channelId = none → ∀ r ∈ recipients, ShareOpenChannel db sender r
  single : ∀ c, channelId = some c → privileged db c = true → leads db sender = false →
    ∀ r ∈ recipients, ∀ r' ∈ recipients, r = r'

/-- What no send checks: that its sender is not ended and its channel not closed, and, unless it is
a broadcast, that the channel it names has its sender and the listed sessions as members, or where
it names none that each listed session shares an open one, and that a privileged channel is not
asked to reach several. -/
structure Vouched (db : Database) (sender : String) (request : SendRequest) : Prop where
  live : db.sessionLive sender = true
  openChannel : ∀ c, request.channelId = some c → db.channelActive c = true
  senderMember : broadcasts request = false → ∀ c, request.channelId = some c →
    db.isActiveMember c sender = true
  members : broadcasts request = false → ∀ c, request.channelId = some c →
    ∀ r ∈ listed request.requested, db.isActiveMember c r = true
  shared : broadcasts request = false → request.channelId = none →
    ∀ r ∈ listed request.requested, ShareOpenChannel db sender r
  single : broadcasts request = false → ∀ c, request.channelId = some c → privileged db c = true →
    leads db sender = false →
      ∀ r ∈ listed request.requested, ∀ r' ∈ listed request.requested, r = r'

theorem sendAuthority_iff {d : Daemon} {caller : Caller} {request : SendRequest} {plan : SendPlan}
    (h : Planned d caller request plan) :
    SendAuthority d.db request.channelId plan.actor.sessionId (listed plan.target) ↔
      Vouched d.db plan.actor.sessionId request := by
  cases hbroadcast : broadcasts request with
  | false =>
    rw [resolveTarget_other hbroadcast h.target]
    constructor
    · intro hauthority
      exact ⟨hauthority.live, fun c hc => (hauthority.channel c hc).1,
        fun _ c hc => (hauthority.channel c hc).2, fun _ => hauthority.members,
        fun _ => hauthority.shared, fun _ => hauthority.single⟩
    · intro hvouched
      exact ⟨hvouched.live, fun c hc => ⟨hvouched.openChannel c hc, hvouched.senderMember hbroadcast c hc⟩,
        hvouched.members hbroadcast, hvouched.shared hbroadcast, hvouched.single hbroadcast⟩
  | true =>
    obtain ⟨channelId, hchecked⟩ := resolveTarget_broadcast hbroadcast h.target
    have hnamed : ∀ c, request.channelId = some c → c = channelId := by
      intro c hc
      exact Option.some.inj (hc.symm.trans hchecked.channel)
    constructor
    · intro hauthority
      refine ⟨hauthority.live, fun c hc => (hauthority.channel c hc).1, ?_, ?_, ?_, ?_⟩ <;>
        intro hother <;> rw [hbroadcast] at hother <;> cases hother
    · intro hvouched
      refine ⟨hvouched.live, fun c hc => ⟨hvouched.openChannel c hc, ?_⟩, fun c hc => ?_,
        fun hnone => ?_, fun c hc hprivileged hlead => ?_⟩
      · rw [hnamed c hc]
        exact hchecked.senderMember
      · rw [hnamed c hc]
        exact hchecked.members
      · rw [hchecked.channel] at hnone
        cases hnone
      · rw [hnamed c hc] at hprivileged
        rw [hchecked.lead hprivileged] at hlead
        cases hlead

/-- Whatever a send stores was sent with authority exactly if the request passes the checks that no
send makes. -/
theorem send_authority_iff {d : Daemon} (hrest : d.AtRest) {hosts : Hosts} {caller : Caller}
    {request : SendRequest} {row : Change × Json}
    (hcommit : (send hosts caller request d).2.db.changes.sent = d.db.changes.sent ++ [row]) :
    ∃ sender, authenticated caller = .ok sender ∧ messageSender row.2 = some sender ∧
      (SendAuthority d.db row.1.channelId sender (addressees row.2) ↔
        Vouched d.db sender request) := by
  cases (send_effect hrest hosts caller request).1 with
  | unsent hdb =>
    have hsame : (send hosts caller request d).2.db.changes.sent = d.db.changes.sent :=
      congrArg (fun c => c.2.2.2.2) hdb
    rw [hsame] at hcommit
    exact absurd hcommit (by simp)
  | sent row' hsent hdb =>
    have hrow : (send hosts caller request d).2.db.changes.sent = d.db.changes.sent ++ [row'] :=
      congrArg (fun c => c.2.2.2.2) hdb
    have heq : row' = row := by simpa using hrow.symm.trans hcommit
    subst heq
    obtain ⟨plan, reply, id, occurredAt, at', hplan⟩ := hsent
    have hplanned := planned_of_ok hplan
    refine ⟨plan.actor.sessionId, hplanned.sender, messageSender_messageEvent _ _ _ _, ?_⟩
    rw [addressees_messageEvent (rfl : (plan.commitInput request).target = some plan.target)]
    exact sendAuthority_iff hplanned

/-- A channel of the operator alice with the worker bob, and carol ashore; all three read the log. -/
def moored : Daemon :=
  let setUp : Command MutationReceipt := do
    let _ ← insertSession { id := "alice", role := some .operator, deliveryMode := some .log }
    let _ ← insertSession { id := "bob", role := some .worker, deliveryMode := some .log }
    let _ ← insertSession { id := "carol", role := some .worker, deliveryMode := some .log }
    let _ ← insertChannel "harbour" (some "alice")
    let _ ← insertMembership "harbour" "alice" (some .operator)
    insertMembership "harbour" "bob" (some .worker)
  .initial (setUp (World.initial .empty tally tally)).2

def signedIn (sessionId : String) : Caller := ⟨⟨[], some sessionId⟩, none⟩

def quietHosts : Hosts := fun _ _ => .acknowledged .written

/-- A message to a listed set of sessions. -/
def hail (channelId : Option String) (recipients : List String) : SendRequest :=
  { channelId := channelId, target := some ⟨some "here", none, none, some recipients⟩, body := "ahoy" }

def hailInput (recipient : String) : CanonicalMessageCommitInput where
  channelId := some "harbour"
  senderSessionId := "alice"
  body := "ahoy"
  target := some ⟨some "here", none, none, some [recipient]⟩
  replyToEventId := none
  correlation := none
  deliveryStatuses := some [(recipient, .delivered)]
  attachmentReferences := none

def hailRow (recipient : String) : Change × Json :=
  let event := messageEvent (hailInput recipient) ⟨none, none, none⟩ "event_" (tally 12)
  (⟨7, some "harbour", .messageSent event, tally 13, none⟩, event)

theorem send_authority_iff_hailed :
    ∃ sender, authenticated (signedIn "alice") = .ok sender ∧
      messageSender (hailRow "bob").2 = some sender ∧
      (SendAuthority moored.db (hailRow "bob").1.channelId sender (addressees (hailRow "bob").2) ↔
        Vouched moored.db sender (hail (some "harbour") ["bob"])) := by
  have hstored : (send quietHosts (signedIn "alice") (hail (some "harbour") ["bob"])
      moored).2.db.changes.sent = moored.db.changes.sent ++ [hailRow "bob"] := rfl
  exact send_authority_iff (d := moored) rfl hstored

/-- Carol, who is in no channel, is sent a message of alice's channel. -/
theorem send_reaches_stranger :
    (send quietHosts (signedIn "alice") (hail (some "harbour") ["carol"]) moored).2.db.changes.sent =
        moored.db.changes.sent ++ [hailRow "carol"] ∧
      ¬SendAuthority moored.db (hailRow "carol").1.channelId "alice"
        (addressees (hailRow "carol").2) := by
  refine ⟨rfl, fun hauthority => ?_⟩
  have haddressed : addressees (hailRow "carol").2 = ["carol"] := by
    have htarget : (hailInput "carol").target = some ⟨some "here", none, none, some ["carol"]⟩ := rfl
    exact addressees_messageEvent htarget _ _ _
  have hmember := hauthority.members "harbour" rfl "carol" (by rw [haddressed]; simp)
  revert hmember
  decide

end Wardroom.Conversations
