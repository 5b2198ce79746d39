import Wardroom.Conversations.Authority
import Wardroom.Crew.RoleCopies

/-! # The lead of a worker

In a channel under the lead-upstream policy a worker writes to the planner, or
to the owner where there is no planner. The handler looks the policy up in the
channel that the request names; a request that names no channel, or another
one, is not held to it.
-/

namespace Wardroom.Conversations
open Wardroom.Library Wardroom.Domain Wardroom.Storage Wardroom.Runtime Wardroom.Crew

def leadUpstream (db : Database) (channelId : String) : Bool :=
  (db.currentChannel channelId).any fun c => c.coordinationPolicy = .leadUpstream

def shares (db : Database) (channelId a b : String) : Bool :=
  db.isActiveMember channelId a && db.isActiveMember channelId b

/-- The two share channels, and none that is not under the policy. -/
def OnlyUpstream (db : Database) (a b : String) : Prop :=
  (∃ c, shares db c a b = true) ∧ ∀ c, shares db c a b = true → leadUpstream db c = true

/-- An active planner of the channel, or its owning operator where there is none. -/
def IsUpstream (db : Database) (channelId sessionId : String) : Prop :=
  (∃ planner ∈ planners db channelId, planner.sessionId = sessionId) ∨
    (planners db channelId = [] ∧
      ∃ channel, db.currentChannel channelId = some channel ∧
        channel.ownerOperatorSessionId = some sessionId)

/-- A worker writes to a session with which it shares only channels under the policy if that is the
upstream of one of them. -/
def Confined (db : Database) (sender : String) (recipients : List String) : Prop :=
  db.sessionRole sender = some .worker → ∀ r ∈ recipients, OnlyUpstream db sender r →
    ∃ c, shares db c sender r = true ∧ IsUpstream db c r

/-- The request of a worker names, for each listed session with which it shares only channels under
the policy, one of these channels, and one without a second planner. -/
def NamesPolicy (d : Daemon) (caller : Caller) (request : SendRequest) : Prop :=
  ∀ sender, authenticated caller = .ok sender → d.db.sessionRole sender = some .worker →
    broadcasts request = false → ∀ r ∈ listed request.requested, OnlyUpstream d.db sender r →
      ∃ c, request.channelId = some c ∧ c ≠ "" ∧ shares d.db c sender r = true ∧
        (planners d.db c).length ≤ 1

section Policy

variable {db : Database} {sender channelId recipient : String} {request : SendRequest}
  {target : MessageTarget}

theorem checkUpstream_direct (hworker : db.sessionRole sender = some .worker)
    (hchannel : request.channelId = some channelId) (hnamed : channelId ≠ "")
    (hpolicy : leadUpstream db channelId = true)
    (h : checkUpstream db sender request target = .ok ()) :
    ∃ channel upstream, db.currentChannel channelId = some channel ∧
      upstreamSessionId db channel = some upstream ∧ target.kind = some "direct" ∧
        target.sessionId = some upstream := by
  obtain ⟨channel, hfound, hlead⟩ := (Option.any_eq_true _ _).mp hpolicy
  have hlead' : channel.coordinationPolicy = .leadUpstream := by simpa using hlead
  unfold checkUpstream at h
  have hlookup : (request.channelId.filter fun id => id ≠ "").bind db.currentChannel =
      some channel := by
    rw [hchannel, Option.filter_some, if_pos (by simpa using hnamed), Option.bind_some, hfound]
  rw [hlookup] at h
  simp only [hlead', hworker, and_self, if_true] at h
  cases hupstream : upstreamSessionId db channel with
  | none =>
    rw [hupstream] at h
    cases h
  | some upstream =>
    by_cases hempty : upstream = ""
    · rw [hupstream, Option.filter_some, if_neg (by simpa using hempty)] at h
      cases h
    · rw [hupstream, Option.filter_some, if_pos (by simpa using hempty)] at h
      by_cases hother : target.kind ≠ some "direct" ∨ target.sessionId ≠ some upstream
      · simp only [if_pos hother] at h
        cases h
      · obtain ⟨hkind, hsession⟩ := not_or.mp hother
        exact ⟨channel, upstream, hfound, hupstream, not_not.mp hkind, not_not.mp hsession⟩

theorem isUpstream_of_upstreamSessionId {channel : Channel} {upstream : String}
    (hfound : db.currentChannel channelId = some channel)
    (hupstream : upstreamSessionId db channel = some upstream)
    (hsingle : (planners db channelId).length ≤ 1) : IsUpstream db channelId upstream := by
  have hid : channel.id = channelId := (Table.find?_some hfound).2
  unfold upstreamSessionId at hupstream
  rw [hid] at hupstream
  cases hleads : planners db channelId with
  | nil =>
    rw [hleads] at hupstream
    exact .inr ⟨hleads, channel, hfound, hupstream⟩
  | cons planner rest =>
    rw [hleads] at hupstream hsingle
    cases rest with
    | nil =>
      refine .inl ⟨planner, ?_, Option.some.inj hupstream⟩
      rw [hleads]
      exact List.mem_singleton_self planner
    | cons second rest =>
      simp only [List.length_cons] at hsingle
      omega

theorem confined_of_planned {d : Daemon} {caller : Caller} {plan : SendPlan}
    (h : Planned d caller request plan) (hnames : NamesPolicy d caller request) :
    Confined d.db plan.actor.sessionId (listed plan.target) := by
  intro hworker r hr honly
  cases hbroadcast : broadcasts request with
  | true =>
    -- the policy of its channel refuses a worker's broadcast, and an open channel is shared with all
    obtain ⟨channelId, hchecked⟩ := resolveTarget_broadcast hbroadcast h.target
    have hshared : shares d.db channelId plan.actor.sessionId r = true := by
      simp [shares, hchecked.senderMember, hchecked.members r hr]
    obtain ⟨_, _, _, _, hkind, _⟩ := checkUpstream_direct hworker hchecked.channel hchecked.named
      (honly.2 channelId hshared) h.upstream
    exact absurd (hchecked.kind.symm.trans hkind) (by decide)
  | false =>
    have htarget := resolveTarget_other hbroadcast h.target
    obtain ⟨c, hchannel, hnamed, hshared, hsingle⟩ :=
      hnames _ h.sender hworker hbroadcast r (htarget ▸ hr) honly
    obtain ⟨channel, upstream, hfound, hupstream, hkind, hsession⟩ :=
      checkUpstream_direct hworker hchannel hnamed (honly.2 c hshared) h.upstream
    have hrecipient : r = upstream := by
      rw [listed, if_pos hkind, hsession] at hr
      simpa using hr
    rw [hrecipient] at hshared ⊢
    exact ⟨c, hshared, isUpstream_of_upstreamSessionId hfound hupstream hsingle⟩

end Policy

/-- A request about the crew or a command of the store, a change of the runtimes, or a send. -/
inductive TrafficOp where
  | native (op : NativeOp)
  | runtimes (runtimes : Table Runtime.runtimeId) (bindings : Table RuntimeBinding.runtimeId)
  | send (hosts : Hosts) (caller : Caller) (request : SendRequest)

def trafficStep (d : Daemon) : TrafficOp → Daemon
  | .native op => { d with store := nativeStep d.store op }
  | .runtimes runtimes bindings => { d with runtimes := runtimes, bindings := bindings }
  | .send hosts caller request => (Runtime.send hosts caller request d).2

def sentBy (d : Daemon) : TrafficOp → List (Change × Json)
  | .send hosts caller request =>
    (trafficStep d (.send hosts caller request)).db.changes.sent.drop d.db.changes.sent.length
  | _ => []

/-- The messages sent in a run, each with the database it was committed to. -/
def traffic : Daemon → List TrafficOp → List (Database × Json)
  | _, [] => []
  | d, op :: ops => (sentBy d op).map (fun row => (d.db, row.2)) ++ traffic (trafficStep d op) ops

def MessageConfined (db : Database) (event : Json) : Prop :=
  ∀ sender, messageSender event = some sender → Confined db sender (addressees event)

/-- The sends of a run name the channels whose policy binds them. -/
def TrafficNamed (d : Daemon) : TrafficOp → Prop
  | .send _ caller request => NamesPolicy d caller request
  | _ => True

theorem trafficStep_rest {d : Daemon} (hrest : d.AtRest) (op : TrafficOp) :
    (trafficStep d op).AtRest := by
  cases op with
  | native op =>
    cases op with
    | request op => exact (crewStep_keeps hrest op).transactionDepth.trans hrest
    | store op => exact (storeStep_transition hrest op).transactionDepth.trans hrest
  | runtimes => exact hrest
  | send hosts caller request => exact (send_effect hrest hosts caller request).2

theorem sentBy_confined {d : Daemon} (hrest : d.AtRest) {op : TrafficOp} (hop : TrafficNamed d op)
    {row : Change × Json} (hrow : row ∈ sentBy d op) : MessageConfined d.db row.2 := by
  cases op with
  | native => cases hrow
  | runtimes => cases hrow
  | send hosts caller request =>
    simp only [sentBy, trafficStep] at hrow
    cases (send_effect hrest hosts caller request).1 with
    | unsent hdb =>
      have hsame : (Runtime.send hosts caller request d).2.db.changes.sent = d.db.changes.sent :=
        congrArg (fun c => c.2.2.2.2) hdb
      rw [hsame, List.drop_length] at hrow
      cases hrow
    | sent row' hsent hdb =>
      have hstored : (Runtime.send hosts caller request d).2.db.changes.sent =
          d.db.changes.sent ++ [row'] := congrArg (fun c => c.2.2.2.2) hdb
      rw [hstored, List.drop_left, List.mem_singleton] at hrow
      subst hrow
      obtain ⟨plan, reply, id, occurredAt, at', hplan⟩ := hsent
      intro sender hsender
      rw [messageSender_messageEvent] at hsender
      cases hsender
      rw [addressees_messageEvent (rfl : (plan.commitInput request).target = some plan.target)]
      exact confined_of_planned (planned_of_ok hplan) hop

/-- In a run whose sends name the channels that bind them, every message of a worker is confined. -/
theorem traffic_confined {d : Daemon} (hrest : d.AtRest) (ops : List TrafficOp)
    (hmeets : Trace.Meets trafficStep TrafficNamed d ops) :
    ∀ entry ∈ traffic d ops, MessageConfined entry.1 entry.2 := by
  induction ops generalizing d with
  | nil =>
    intro entry hentry
    cases hentry
  | cons op ops ih =>
    intro entry hentry
    rcases List.mem_append.mp hentry with hnow | hlater
    · obtain ⟨row, hrow, rfl⟩ := List.mem_map.mp hnow
      exact sentBy_confined hrest hmeets.1 hrow
    · exact ih (trafficStep_rest hrest op) hmeets.2 entry hlater

/-- A message to one session. -/
def note (channelId : Option String) (recipient : String) : SendRequest :=
  { channelId := channelId, target := some ⟨some "direct", some recipient, none, none⟩, body := "ahoy" }

/-- Carol comes aboard, and the channel of alice and bob gets the policy. -/
def mustered : List TrafficOp :=
  [.native (.store (.insertMembership "harbour" "carol" (some .worker)) rfl),
    .native (.store (.updateChannelCoordinationPolicy "harbour" .leadUpstream) rfl)]

/-- The worker bob writes. -/
def bobSends (request : SendRequest) : List TrafficOp :=
  mustered ++ [.send quietHosts (signedIn "bob") request]

theorem traffic_confined_reported :
    traffic moored (bobSends (note (some "harbour") "alice")) ≠ [] ∧
      ∀ entry ∈ traffic moored (bobSends (note (some "harbour") "alice")),
        MessageConfined entry.1 entry.2 := by
  refine ⟨by decide +kernel, traffic_confined (d := moored) rfl _ ⟨trivial, trivial, ?_, trivial⟩⟩
  intro sender hsender _ _ r hr _
  cases hsender
  have hrecipient : r = "alice" := by simpa [listed, note, SendRequest.requested] using hr
  subst hrecipient
  exact ⟨"harbour", rfl, by decide, by decide, by decide⟩

/-- What the commit of bob's note to carol is given. -/
def noteInput : CanonicalMessageCommitInput where
  channelId := none
  senderSessionId := "bob"
  body := "ahoy"
  target := some ⟨some "direct", some "carol", none, none⟩
  replyToEventId := none
  correlation := none
  deliveryStatuses := some [("carol", .delivered)]
  attachmentReferences := none

/-- Bob writes to carol, another worker of the channel, by not naming the channel. -/
theorem worker_reaches_worker :
    ∃ entry ∈ traffic moored (bobSends (note none "carol")), ¬MessageConfined entry.1 entry.2 := by
  let db := (Trace.run trafficStep moored mustered).db
  let event := messageEvent noteInput ⟨none, none, none⟩ "event_" (tally 15)
  have hsent : traffic moored (bobSends (note none "carol")) = [(db, event)] := rfl
  refine ⟨(db, event), by rw [hsent]; exact List.mem_singleton_self _, fun hconfined => ?_⟩
  have htarget : noteInput.target = some ⟨some "direct", some "carol", none, none⟩ := rfl
  have hcarol : "carol" ∈ addressees event := by
    rw [addressees_messageEvent htarget]
    exact List.mem_singleton_self _
  have honly : ∀ m ∈ db.memberships.rows, m.channelId = "harbour" := by decide
  have hharbour : ∀ c, shares db c "bob" "carol" = true → c = "harbour" := by
    intro c hshared
    obtain ⟨m, hm, hchannel, _⟩ := Database.isActiveMember_iff.mp (Bool.and_eq_true_iff.mp hshared).1
    exact hchannel.symm.trans (honly m hm)
  obtain ⟨c, hshared, hupstream⟩ := hconfined "bob" rfl (by decide) "carol" hcarol
    ⟨⟨"harbour", by decide⟩, fun c hc => by rw [hharbour c hc]; decide⟩
  rw [hharbour c hshared] at hupstream
  rcases hupstream with ⟨planner, hplanner, _⟩ | ⟨_, channel, hchannel, howner⟩
  · have hnone : planners db "harbour" = [] := by decide
    rw [hnone] at hplanner
    cases hplanner
  · have halice : (db.currentChannel "harbour").bind Channel.ownerOperatorSessionId = some "alice" := by
      decide
    rw [hchannel, Option.bind_some, howner] at halice
    exact absurd halice (by decide)

end Wardroom.Conversations
