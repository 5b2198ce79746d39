import Wardroom.Conversations.Deduplication
import Wardroom.Runtime.Native.Retries
import Wardroom.Runtime.Service

/-! # Calls to the leads of channels

A call takes its channels one after the other. Each gets a send to its lead, and
everything else may run while the host of a lead has not answered. The ledger
keeps the messages that the calls have committed, with the leads that the
channel had at that moment.
-/

namespace Wardroom.Runtime
open Wardroom.Library Wardroom.Domain Wardroom.Storage Wardroom.Feeds Wardroom.Conversations Prog

/-- Who calls, under which key, and to which channel. -/
structure Triple where
  actorSessionId : String
  idempotencyKey : String
  channelId : String
  deriving DecidableEq

def Triple.key (t : Triple) : String := leadDeduplicationKey t.actorSessionId t.idempotencyKey t.channelId

structure LeadResult where
  channelId : String
  status : String
  leadSessionId : Option String := none
  eventId : Option String := none
  wasDeduplicated : Option Bool := none
  error : Option (String × String) := none

structure LeadCall where
  actor : RuntimeActor
  caller : Caller
  request : LeadBroadcastRequest
  idempotencyKey : String
  rest : List String
  /-- The channel and the lead of a send that has not settled, with the place of the send. -/
  waiting : Option (String × String × Nat)
  results : List LeadResult

def LeadCall.triple (call : LeadCall) (channelId : String) : Triple :=
  ⟨call.actor.sessionId, call.idempotencyKey, channelId⟩

def LeadCall.result (call : LeadCall) (result : LeadResult) : LeadCall :=
  { call with waiting := none, results := call.results ++ [result] }

/-- A message that a call has committed. -/
structure LeadCommit where
  triple : Triple
  messageId : String
  leads : List String

structure Leads where
  sends : Sends
  calls : List LeadCall
  ledger : List LeadCommit

inductive LeadEvent where
  | call (caller : Caller) (request : LeadBroadcastRequest)
  | turn (k : Nat) (transcripts : Transcripts)
  | settle (k : Nat)
  /-- Any other command that commits a message. -/
  | commit (input : CanonicalMessageCommitInput)
  | send (caller : Caller) (request : SendRequest) (transcripts : Transcripts)
  | submit (i : Nat)
  | answer (i : Nat) (answer : HostAnswer)
  | other (meanwhile : Meanwhile)

/-- `error.code ?? "deliveryFailed"`. -/
def deliveryCode : Failure → String
  | .rooms code _ => code
  | .sqlite _ => "ERR_SQLITE_ERROR"
  | _ => "deliveryFailed"

/-- The result of a send that threw. -/
def LeadResult.thrown (channelId leadSessionId : String) (error : Failure) : LeadResult where
  channelId := channelId
  status := if deliveryCode error ∈ ["runtimeNotFound", "recipientUndeliverable", "noAcceptedRecipients"] then
    "unavailable" else "failed"
  leadSessionId := some leadSessionId
  error := some (deliveryCode error, error.message)

def LeadResult.sent (channelId : String) (leadSessionId : Option String) (event : Json) (wasDeduplicated : Bool) :
    LeadResult where
  channelId := channelId
  status := "sent"
  leadSessionId := leadSessionId
  eventId := some (Runtime.eventId event)
  wasDeduplicated := some wasDeduplicated

namespace Leads

def initial (d : Daemon) : Leads := ⟨.initial d, [], []⟩

def setCall (s : Leads) (k : Nat) (call : LeadCall) : Leads := { s with calls := s.calls.set k call }

/-- A call that fails its checks throws. -/
def call (s : Leads) (caller : Caller) (request : LeadBroadcastRequest) : Leads :=
  match runtimeActor s.sends.daemon.db caller, request.check with
  | .ok actor, .ok idempotencyKey =>
    { s with calls := s.calls ++ [⟨actor, caller, request, idempotencyKey, request.channelIds, none, []⟩] }
  | _, _ => s

/-- What is written to the ledger when a send is accepted. -/
def entered (d : Daemon) (triple : Triple) (receipt : CommitReceipt) : List LeadCommit :=
  if receipt.wasDeduplicated then []
  else [⟨triple, eventId receipt.event, (planners d.db triple.channelId).map Database.RosterEntry.sessionId⟩]

/-- The send of a turn, up to its first submission. -/
def sendLead (s : Leads) (k : Nat) (call : LeadCall) (channelId leadSessionId : String) (request : SendRequest)
    (transcripts : Transcripts) : Leads :=
  let sends := s.sends.accept call.caller request transcripts
  match (acceptSend call.caller request s.sends.daemon).1 with
  | .error e => { s with sends := sends }.setCall k (call.result (.thrown channelId leadSessionId e))
  | .ok accepted =>
    { s with sends := sends, ledger := s.ledger ++ entered s.sends.daemon (call.triple channelId) accepted.receipt }.setCall
      k { call with waiting := some (channelId, leadSessionId, s.sends.sends.length) }

/-- The next channel of a call. -/
def turn (s : Leads) (k : Nat) (call : LeadCall) (transcripts : Transcripts) : Leads :=
  match call.waiting, call.rest with
  | none, channelId :: rest =>
    let call := { call with rest := rest }
    match leadTurn s.sends.daemon call.actor call.request call.idempotencyKey channelId with
    | .refused status code message =>
      s.setCall k (call.result { channelId := channelId, status := status, error := some (code, message) })
    | .alreadySent prior =>
      s.setCall k (call.result (.sent channelId
        (((prior.member "target").bind fun t => t.member "sessionId").bind Json.extractText) prior true))
    | .send leadSessionId request => s.sendLead k call channelId leadSessionId request transcripts
  | _, _ => s

/-- A call goes on when its send has settled. -/
def settle (s : Leads) (k : Nat) (call : LeadCall) : Leads :=
  match call.waiting with
  | none => s
  | some (channelId, leadSessionId, i) =>
    match s.sends.sends[i]? with
    | none => s
    | some send =>
      match send.progress with
      | .settled _ (.ok response) =>
        s.setCall k (call.result (.sent channelId (some leadSessionId) response.event response.wasDeduplicated))
      | .settled _ (.error e) => s.setCall k (call.result (.thrown channelId leadSessionId e))
      | _ => s

def step (s : Leads) : LeadEvent → Leads
  | .call caller request => s.call caller request
  | .turn k transcripts =>
    match s.calls[k]? with
    | none => s
    | some call => s.turn k call transcripts
  | .settle k =>
    match s.calls[k]? with
    | none => s
    | some call => s.settle k call
  | .commit input =>
    { s with sends := { s.sends with daemon := (onStore (Application.commitMessage input) s.sends.daemon).2 } }
  | .send caller request transcripts => { s with sends := s.sends.step (.send caller request transcripts) }
  | .submit i => { s with sends := s.sends.step (.submit i) }
  | .answer i answer => { s with sends := s.sends.step (.answer i answer) }
  | .other meanwhile => { s with sends := s.sends.step (.other meanwhile) }

end Leads

def leadTarget (leadSessionId : String) : MessageTarget := ⟨some "direct", some leadSessionId, none, some [leadSessionId]⟩

/-- The message of a commit is stored in its channel and addressed to the one lead that the channel had. -/
def LeadCommit.Stored (c : LeadCommit) (db : Database) : Prop :=
  ∃ row event lead, (row, event) ∈ db.changes.sent ∧ row.channelId = some c.triple.channelId ∧
    event.member "id" = some (.str c.messageId) ∧ c.leads = [lead] ∧
    event.member "target" = some (leadTarget lead).toJson

structure LeadLaw (s : Leads) : Prop where
  /-- For each triple at most one message is committed. -/
  once : (s.ledger.map LeadCommit.triple).Nodup
  /-- No two commits share a message. -/
  apart : (s.ledger.map LeadCommit.messageId).Nodup
  /-- Whatever is reported as sent was committed for the triple it is reported to. -/
  sent : ∀ call ∈ s.calls, ∀ result ∈ call.results, result.status = "sent" →
    ∃ c ∈ s.ledger, c.triple = call.triple result.channelId ∧ result.eventId = some c.messageId ∧
      c.Stored s.sends.daemon.db

/-- The stored messages that carry the key of a triple were committed for this very triple. -/
def Unclaimed (s : Leads) (t : Triple) : Prop :=
  ∀ r ∈ s.sends.daemon.db.changes.sent, (deduplicationKey r.2).any (fun k => sqlEquals k (.str t.key)) = true →
    ∃ c ∈ s.ledger, c.triple = t ∧ r.2.member "id" = some (.str c.messageId)

/-- A call that comes to a channel finds nobody else's message under its key. -/
def TurnsUnclaimed (s : Leads) : LeadEvent → Prop
  | .turn k _ => ∀ call ∈ s.calls[k]?, call.waiting = none →
      ∀ channelId ∈ call.rest.head?, Unclaimed s (call.triple channelId)
  | _ => True

instance (s : Leads) (t : Triple) : Decidable (Unclaimed s t) :=
  inferInstanceAs (Decidable (∀ r ∈ s.sends.daemon.db.changes.sent,
    (deduplicationKey r.2).any (fun k => sqlEquals k (.str t.key)) = true →
      ∃ c ∈ s.ledger, c.triple = t ∧ r.2.member "id" = some (.str c.messageId)))

instance (s : Leads) (e : LeadEvent) : Decidable (TurnsUnclaimed s e) :=
  match e with
  | .turn k _ => inferInstanceAs (Decidable (∀ call ∈ s.calls[k]?, call.waiting = none →
      ∀ channelId ∈ call.rest.head?, Unclaimed s (call.triple channelId)))
  | .call .. | .settle _ | .commit _ | .send .. | .submit _ | .answer .. | .other _ => isTrue trivial

section Turn

variable {d : Daemon} {actor : RuntimeActor} {request : LeadBroadcastRequest} {idempotencyKey channelId : String}

theorem leadTurn_cases (d : Daemon) (actor : RuntimeActor) (request : LeadBroadcastRequest)
    (idempotencyKey channelId : String) :
    (∃ status code message, leadTurn d actor request idempotencyKey channelId = .refused status code message ∧
      status ≠ "sent") ∨
    (∃ prior cursor, leadTurn d actor request idempotencyKey channelId = .alreadySent prior ∧
      d.db.messageByDeduplicationKey (leadDeduplicationKey actor.sessionId idempotencyKey channelId) channelId =
        some (prior, cursor)) ∨
    ∃ lead, leadTurn d actor request idempotencyKey channelId =
        .send lead (leadRequest actor request idempotencyKey channelId lead) ∧
      (planners d.db channelId).map Database.RosterEntry.sessionId = [lead] := by
  unfold leadTurn
  cases d.db.currentChannel channelId with
  | none => exact .inl ⟨_, _, _, rfl, by decide⟩
  | some channel =>
    dsimp only
    split
    · exact .inl ⟨_, _, _, rfl, by decide⟩
    split
    · exact .inl ⟨_, _, _, rfl, by decide⟩
    cases hprior : (d.db.messageByDeduplicationKey (leadDeduplicationKey actor.sessionId idempotencyKey channelId)
        channelId).filter fun prior => deliveredAlready prior.1 with
    | some prior => exact .inr (.inl ⟨prior.1, prior.2, rfl, (Option.filter_eq_some_iff.mp hprior).1⟩)
    | none =>
      dsimp only
      cases hplanners : planners d.db channelId with
      | nil => exact .inl ⟨_, _, _, rfl, by decide⟩
      | cons lead others =>
        cases others with
        | cons next rest => exact .inl ⟨_, _, _, rfl, by decide⟩
        | nil =>
          dsimp only
          cases d.deliveryRuntime lead.sessionId with
          | none => exact .inl ⟨_, _, _, rfl, by decide⟩
          | some runtime => exact .inr (.inr ⟨lead.sessionId, rfl, rfl⟩)

theorem mem_putEvent {event e : Json} {events : List Json} (h : e ∈ putEvent event events) : e = event ∨ e ∈ events := by
  induction events with
  | nil => exact .inl (List.mem_singleton.mp h)
  | cons first rest ih =>
    rw [putEvent] at h
    split at h
    · exact (List.mem_cons.mp h).imp_right (List.mem_cons_of_mem _)
    · rcases List.mem_cons.mp h with rfl | hrest
      · exact .inr List.mem_cons_self
      · exact (ih hrest).imp_right (List.mem_cons_of_mem _)

theorem id_of_folded {rows : List Change} {id : String}
    (h : ∀ c ∈ rows, ∀ event, c.payload = .messageSent event → (event.member "id").bind Json.extractText = some id) :
    ∀ e ∈ foldMessageEvents rows, (e.member "id").bind Json.extractText = some id := by
  induction rows using List.reverseRecOn with
  | nil => exact fun e he => (List.not_mem_nil he).elim
  | append_singleton rows c ih =>
    have hrows := ih fun c hc => h c (List.mem_append_left _ hc)
    have hlast := h c (List.mem_append_right _ List.mem_cons_self)
    rw [foldMessageEvents_append]
    intro e he
    cases hpayload : c.payload with
    | messageSent event =>
      rw [foldMessageEvent, hpayload] at he
      rcases mem_putEvent he with rfl | hold
      · exact hlast e hpayload
      · exact hrows e hold
    | messageDelivery messageId statuses delivered occurredAt =>
      rw [foldMessageEvent, hpayload] at he
      obtain ⟨e', he', rfl⟩ := List.mem_map.mp he
      by_cases hhas : hasId messageId e' = true
      · rw [if_pos hhas, deliver_id]
        exact hrows e' he'
      · rw [if_neg hhas]
        exact hrows e' he'
    | _ =>
      rw [foldMessageEvent, hpayload] at he
      exact hrows e he

theorem stored_of_messageByDeduplicationKey {db : Database} {key : String} {prior : Json} {cursor : Nat}
    (h : db.messageByDeduplicationKey key channelId = some (prior, cursor)) :
    ∃ r ∈ db.changes.sent, (deduplicationKey r.2).any (fun k => sqlEquals k (.str key)) = true ∧
      r.2.member "id" = some (.str (eventId prior)) := by
  unfold Database.messageByDeduplicationKey at h
  cases hrow : db.deduplicationRowIn channelId (.str key) with
  | none =>
    rw [hrow] at h
    cases h
  | some r =>
    obtain ⟨row, stored⟩ := r
    rw [hrow] at h
    dsimp only at h
    have hmem : (row, stored) ∈ db.changes.sent := List.mem_of_find?_eq_some hrow
    have hfound := List.find?_some hrow
    rw [decide_eq_true_eq] at hfound
    split at h
    · rename_i id hid
      split at h
      · cases h
      · obtain ⟨e, he, hprior⟩ := Option.map_eq_some_iff.mp h
        cases hprior
        have hhistory := @id_of_folded (db.messageHistory channelId id) id (fun c hc event hevent => by
          obtain ⟨_, hmatch⟩ := List.mem_filter.mp hc
          rw [hevent, Bool.and_eq_true] at hmatch
          exact of_decide_eq_true hmatch.2) prior (List.mem_of_mem_head? he)
        refine ⟨(row, stored), hmem, hfound.2, ?_⟩
        rw [hid, eventId, hhistory]
        rfl
    · cases h

end Turn

/-- The response of a settled send shows its own message. -/
def Delivering.Responds (send : Delivering) : Prop :=
  ∀ recorded response, send.progress = .settled recorded (.ok response) → eventId response.event = send.messageId

theorem eventId_respond {accepted : AcceptedSend} {statuses : RecipientStatuses} {response : SendResponse}
    (h : accepted.respond statuses = .ok response) : eventId response.event = eventId accepted.receipt.event := by
  unfold AcceptedSend.respond at h
  dsimp only at h
  split at h
  · cases h
  · cases h
    rw [eventId, deliveredEvent, Json.member_set_ne (by decide), Json.member_set_ne (by decide), eventId]

namespace Sends

variable {s : Sends}

def Responding (s : Sends) : Prop := ∀ send ∈ s.sends, send.Responds

theorem Responding.setSend (h : s.Responding) (d : Daemon) (jobs : Jobs) (i : Nat) {send : Delivering}
    (hsend : send.Responds) : ({ s with daemon := d, jobs := jobs }.setSend i send).Responding := by
  intro x hx
  rcases mem_setSend hx with rfl | hold
  · exact hsend
  · exact h x hold

theorem responds_of_busy {send : Delivering} (h : ∀ recorded outcome, send.progress ≠ .settled recorded outcome) :
    send.Responds := fun recorded _ hsettled => absurd hsettled (h recorded _)

theorem responds_failed (send : Delivering) (recorded : Bool) (e : Failure) :
    ({ send with progress := .settled recorded (.error e) } : Delivering).Responds := by
  intro _ _ hsettled
  cases hsettled

theorem responds_answered (send : Delivering) (statuses : RecipientStatuses) :
    ({ send with progress := .settled true (send.accepted.respond statuses) } : Delivering).Responds := by
  intro recorded response hsettled
  exact eventId_respond (SendProgress.settled.inj hsettled).2

theorem Responding.record (h : s.Responding) (i : Nat) (send : Delivering) : (s.record i send).Responding := by
  unfold Sends.record
  split
  · exact h.setSend _ s.jobs i (responds_failed send false _)
  · dsimp only
    split
    · exact h.setSend _ s.jobs i (responds_answered send _)
    · split
      · exact h.setSend _ s.jobs i (responds_failed send true _)
      · exact h.setSend _ _ i (responds_answered send _)

theorem Responding.submit (h : s.Responding) (i : Nat) (send : Delivering) : (s.submit i send).Responding := by
  unfold Sends.submit
  split
  · exact h.record i send
  · split
    · exact h.setSend s.daemon s.jobs i (responds_of_busy fun _ _ hbad => by cases hbad)
    · split
      · exact h.setSend _ s.jobs i (responds_of_busy fun _ _ hbad => by cases hbad)
      · exact h.setSend _ s.jobs i (responds_of_busy fun _ _ hbad => by cases hbad)
  · exact h

theorem Responding.answer (h : s.Responding) (i : Nat) (send : Delivering) (hostAnswer : HostAnswer) :
    (s.answer i send hostAnswer).Responding := by
  unfold Sends.answer
  split
  · split
    · exact h.setSend _ s.jobs i (responds_of_busy fun _ _ hbad => by cases hbad)
    · exact h.setSend _ s.jobs i (responds_of_busy fun _ _ hbad => by cases hbad)
  · exact h

theorem Responding.accept (h : s.Responding) (caller : Caller) (request : SendRequest) (transcripts : Transcripts) :
    (s.accept caller request transcripts).Responding := by
  unfold Sends.accept
  split
  · exact h
  · intro send hsend
    rcases List.mem_append.mp hsend with hold | hnew
    · exact h send hold
    · rw [List.mem_singleton.mp hnew]
      exact responds_of_busy fun _ _ hbad => by cases hbad

theorem Responding.step (h : s.Responding) (e : SendEvent) : (s.step e).Responding := by
  cases e with
  | send caller request transcripts => exact h.accept caller request transcripts
  | lead caller request channelId transcripts =>
    rw [Sends.step]
    split
    · exact h
    · exact h.accept _ _ _
  | submit i =>
    rw [Sends.step]
    split
    · exact h
    · exact h.submit i _
  | answer i hostAnswer =>
    rw [Sends.step]
    split
    · exact h
    · exact h.answer i _ hostAnswer
  | other meanwhile => exact h

end Sends

section Places

variable {s s' : Sends}

def KeepsPlaces (s s' : Sends) : Prop :=
  ∀ (i : Nat) (send : Delivering), s.sends[i]? = some send →
    ∃ send' : Delivering, s'.sends[i]? = some send' ∧ send'.accepted = send.accepted

theorem keepsPlaces_daemon (s : Sends) (d : Daemon) : KeepsPlaces s { s with daemon := d } :=
  fun _ send hsend => ⟨send, hsend, rfl⟩

theorem keepsPlaces_append (s : Sends) (d : Daemon) (sends : List Delivering) :
    KeepsPlaces s { s with daemon := d, sends := s.sends ++ sends } := by
  intro i send hsend
  refine ⟨send, ?_, rfl⟩
  rw [List.getElem?_append_left (List.getElem?_eq_some_iff.mp hsend).1]
  exact hsend

theorem keepsPlaces_set (d : Daemon) (jobs : Jobs) {k : Nat} {old new : Delivering} (hold : s.sends[k]? = some old)
    (haccepted : new.accepted = old.accepted) :
    KeepsPlaces s ({ s with daemon := d, jobs := jobs }.setSend k new) := by
  intro i send hsend
  by_cases hik : k = i
  · subst hik
    cases hold.symm.trans hsend
    exact ⟨new, List.getElem?_set_self (List.getElem?_eq_some_iff.mp hsend).1, haccepted⟩
  · exact ⟨send, (List.getElem?_set_ne hik).trans hsend, rfl⟩

theorem Moves.keepsPlaces {e : SendEvent} (h : Moves s e s') : KeepsPlaces s s' := by
  cases h with
  | unsaid d' _ => exact keepsPlaces_daemon s d'
  | accepted d' _ _ _ _ _ _ => exact keepsPlaces_append s d' _
  | turned i send send' d' hsend hturns _ _ => exact keepsPlaces_set d' s.jobs hsend hturns.onward.accepted
  | unrecorded i send d' error hsend _ _ => exact keepsPlaces_set d' s.jobs hsend rfl
  | recorded i send d' jobs outcome _ hsend _ _ _ => exact keepsPlaces_set d' jobs hsend rfl

/-- No stored message is lost. -/
theorem Moves.sent {e : SendEvent} (h : Moves s e s') (hkept : SendsKept s) :
    ∀ r ∈ s.daemon.db.changes.sent, r ∈ s'.daemon.db.changes.sent := by
  cases h with
  | unsaid d' hunsaid => exact fun r hr => hunsaid.sent ▸ hr
  | accepted d' _ _ _ _ _ hstores => exact (hstores.delivery hkept.delivery).2.1
  | turned i send send' d' _ _ hunsaid _ => exact fun r hr => hunsaid.sent ▸ hr
  | unrecorded i send d' error _ _ hunsaid => exact fun r hr => hunsaid.sent ▸ hr
  | recorded i send d' jobs outcome _ _ _ hrecords _ => exact fun r hr => hrecords.sent ▸ hr

end Places

/-- Beside what it promises, a commit stores its key. -/
def LeadCommit.Recorded (c : LeadCommit) (db : Database) : Prop :=
  ∃ row event lead, (row, event) ∈ db.changes.sent ∧ row.channelId = some c.triple.channelId ∧
    event.member "id" = some (.str c.messageId) ∧ c.leads = [lead] ∧
    event.member "target" = some (leadTarget lead).toJson ∧ deduplicationKey event = some (.str c.triple.key)

variable {c : LeadCommit}

theorem LeadCommit.Recorded.stored {db : Database} (h : c.Recorded db) : c.Stored db := by
  obtain ⟨row, event, lead, hmem, hchannel, hid, hleads, htarget, -⟩ := h
  exact ⟨row, event, lead, hmem, hchannel, hid, hleads, htarget⟩

/-- The message was committed for the triple of the call and the channel. -/
def CommittedFor (s : Leads) (call : LeadCall) (channelId messageId : String) : Prop :=
  ∃ c ∈ s.ledger, c.triple = call.triple channelId ∧ c.messageId = messageId

structure CallSound (s : Leads) (call : LeadCall) : Prop where
  waiting : ∀ channelId lead i, call.waiting = some (channelId, lead, i) →
    ∃ send, s.sends.sends[i]? = some send ∧ CommittedFor s call channelId send.messageId
  results : ∀ result ∈ call.results, result.status = "sent" →
    ∃ messageId, result.eventId = some messageId ∧ CommittedFor s call result.channelId messageId

structure LeadKept (s : Leads) : Prop where
  kept : SendsKept s.sends
  responding : s.sends.Responding
  recorded : ∀ c ∈ s.ledger, c.Recorded s.sends.daemon.db
  once : (s.ledger.map LeadCommit.triple).Nodup
  apart : (s.ledger.map LeadCommit.messageId).Nodup
  calls : ∀ call ∈ s.calls, CallSound s call

theorem LeadKept.law {s : Leads} (h : LeadKept s) : LeadLaw s where
  once := h.once
  apart := h.apart
  sent call hcall result hresult hstatus := by
    obtain ⟨messageId, hid, c, hc, htriple, hmessage⟩ := (h.calls call hcall).results result hresult hstatus
    exact ⟨c, hc, htriple, by rw [hid, hmessage], (h.recorded c hc).stored⟩

section Steps

variable {s : Leads}

theorem Recorded.mono {db db' : Database} (h : c.Recorded db)
    (hsent : ∀ r ∈ db.changes.sent, r ∈ db'.changes.sent) : c.Recorded db' := by
  obtain ⟨row, event, lead, hmem, hrest⟩ := h
  exact ⟨row, event, lead, hsent _ hmem, hrest⟩

theorem CallSound.mono {s' : Leads} {call : LeadCall} (h : CallSound s call) (hledger : ∀ c ∈ s.ledger, c ∈ s'.ledger)
    (hplaces : KeepsPlaces s.sends s'.sends) : CallSound s' call where
  waiting channelId lead i hwaiting := by
    obtain ⟨send, hsend, c, hc, hcommitted⟩ := h.waiting channelId lead i hwaiting
    obtain ⟨send', hsend', haccepted⟩ := hplaces i send hsend
    refine ⟨send', hsend', c, hledger c hc, ?_⟩
    rw [Delivering.messageId, Delivering.event, haccepted]
    exact hcommitted
  results result hresult hstatus := by
    obtain ⟨messageId, hid, c, hc, hcommitted⟩ := h.results result hresult hstatus
    exact ⟨messageId, hid, c, hledger c hc, hcommitted⟩

/-- A step of the sends. -/
theorem LeadKept.sends (h : LeadKept s) {sends : Sends} (hkept : SendsKept sends) (hresponding : sends.Responding)
    (hsent : ∀ r ∈ s.sends.daemon.db.changes.sent, r ∈ sends.daemon.db.changes.sent)
    (hplaces : KeepsPlaces s.sends sends) : LeadKept { s with sends := sends } where
  kept := hkept
  responding := hresponding
  recorded c hc := Recorded.mono (h.recorded c hc) hsent
  once := h.once
  apart := h.apart
  calls call hcall := (h.calls call hcall).mono (fun _ hc => hc) hplaces

theorem LeadKept.event (h : LeadKept s) (e : SendEvent) : LeadKept { s with sends := s.sends.step e } := by
  have hmoves := Sends.step_moves h.kept.delivery.transactionDepth e
  exact h.sends (h.kept.step hmoves) (h.responding.step e) (hmoves.sent h.kept) hmoves.keepsPlaces

theorem LeadKept.setCall (h : LeadKept s) (k : Nat) {call : LeadCall} (hcall : CallSound s call) :
    LeadKept (s.setCall k call) where
  kept := h.kept
  responding := h.responding
  recorded := h.recorded
  once := h.once
  apart := h.apart
  calls x hx := by
    rcases List.mem_or_eq_of_mem_set hx with hold | rfl
    · exact (h.calls x hold).mono (fun _ hc => hc) (keepsPlaces_daemon s.sends s.sends.daemon)
    · exact hcall.mono (fun _ hc => hc) (keepsPlaces_daemon s.sends s.sends.daemon)

/-- One more result. -/
theorem CallSound.result {call : LeadCall} (h : CallSound s call) {result : LeadResult}
    (hresult : result.status = "sent" →
      ∃ messageId, result.eventId = some messageId ∧ CommittedFor s call result.channelId messageId) :
    CallSound s (call.result result) where
  waiting channelId lead i hwaiting := by cases hwaiting
  results r hr hstatus := by
    rcases List.mem_append.mp hr with hold | hnew
    · exact h.results r hold hstatus
    · obtain rfl := List.mem_singleton.mp hnew
      exact hresult hstatus

theorem thrown_status (channelId lead : String) (e : Failure) : (LeadResult.thrown channelId lead e).status ≠ "sent" := by
  unfold LeadResult.thrown
  dsimp only
  split <;> decide

theorem LeadKept.settle (h : LeadKept s) (k : Nat) {call : LeadCall} (hcall : call ∈ s.calls) :
    LeadKept (s.settle k call) := by
  unfold Leads.settle
  split
  · exact h
  · rename_i channelId lead i hwaiting
    split
    · exact h
    · rename_i send hsend
      have hsound := h.calls call hcall
      split
      · rename_i recorded response hprogress
        refine h.setCall k (hsound.result fun _ => ⟨_, rfl, ?_⟩)
        obtain ⟨send', hsend', hcommitted⟩ := hsound.waiting channelId lead i hwaiting
        cases hsend.symm.trans hsend'
        rw [h.responding send (List.mem_of_getElem? hsend) recorded response hprogress]
        exact hcommitted
      · exact h.setCall k (hsound.result fun hstatus => absurd hstatus (thrown_status _ _ _))
      · exact h

/-- A message of any other command. -/
theorem LeadKept.commit (h : LeadKept s) (input : CanonicalMessageCommitInput) :
    LeadKept (s.step (.commit input)) := by
  have hrest := h.kept.delivery.transactionDepth
  rcases cases_of_wp (commitMessage_stores hrest input) with ⟨receipt, hok, hstores⟩ | ⟨_, herror, hunsaid⟩
  · obtain ⟨hdelivery, hsent, -⟩ := hstores.delivery h.kept.delivery
    refine h.sends ⟨hdelivery, fun send hsend => ?_, h.kept.sound⟩ h.responding hsent (keepsPlaces_daemon _ _)
    obtain ⟨r, hr, hevent⟩ := h.kept.stored send hsend
    exact ⟨r, hsent r hr, hevent⟩
  · refine h.sends ⟨hunsaid.delivery h.kept.delivery, fun send hsend => ?_, h.kept.sound⟩ h.responding
      (fun r hr => hunsaid.sent ▸ hr) (keepsPlaces_daemon _ _)
    exact hunsaid.sent ▸ h.kept.stored send hsend

theorem LeadKept.call (h : LeadKept s) (caller : Caller) (request : LeadBroadcastRequest) :
    LeadKept (s.call caller request) := by
  unfold Leads.call
  split
  · refine ⟨h.kept, h.responding, h.recorded, h.once, h.apart, fun call hcall => ?_⟩
    rcases List.mem_append.mp hcall with hold | hnew
    · exact (h.calls call hold).mono (fun _ hc => hc) (keepsPlaces_daemon s.sends s.sends.daemon)
    · rw [List.mem_singleton.mp hnew]
      refine ⟨fun _ _ _ hwaiting => ?_, fun _ hr => (List.not_mem_nil hr).elim⟩
      cases hwaiting
  · exact h

section SendLead

variable {call : LeadCall} {channelId lead : String} {d : Daemon}

theorem append_ne_empty {a : String} (h : a ≠ "") (b : String) : a ++ b ≠ "" := by
  intro hempty
  have hlength := congrArg String.length hempty
  rw [String.length_append, String.length_empty] at hlength
  exact h (String.length_eq_zero_iff.mp (Nat.eq_zero_of_add_eq_zero_right hlength))

theorem leadDeduplicationKey_ne_empty (sessionId idempotencyKey channelId : String) :
    leadDeduplicationKey sessionId idempotencyKey channelId ≠ "" := by
  have hfixed : "lead-broadcast:" ≠ "" := by decide +kernel
  exact append_ne_empty (append_ne_empty (append_ne_empty (append_ne_empty (append_ne_empty hfixed _) _) _) _) _

theorem activeKey_leadRequest (actor : RuntimeActor) (request : LeadBroadcastRequest)
    (idempotencyKey channelId lead : String) :
    activeKey (leadRequest actor request idempotencyKey channelId lead).correlation =
      some (.str (leadDeduplicationKey actor.sessionId idempotencyKey channelId)) := by
  have hkey : (leadRequest actor request idempotencyKey channelId lead).correlation.bind
      (fun c => c.member "deduplicationKey") =
        some (.str (leadDeduplicationKey actor.sessionId idempotencyKey channelId)) := rfl
  have hfilled := leadDeduplicationKey_ne_empty actor.sessionId idempotencyKey channelId
  generalize leadDeduplicationKey actor.sessionId idempotencyKey channelId = key at hkey hfilled ⊢
  rw [activeKey, hkey, Option.filter_some, if_pos]
  exact decide_eq_true hfilled

theorem recorded_of_message {db : Database} {input : CanonicalMessageCommitInput} {reply : ReplyMetadata}
    {uuid occurredAt at' : String} {triple : Triple} {leads : List String}
    (hchannel : input.channelId = some triple.channelId) (htarget : input.target = some (leadTarget lead))
    (hleads : leads = [lead])
    (hkey : deduplicationKey (messageEvent input reply ("event_" ++ uuid) occurredAt) = some (.str triple.key)) :
    LeadCommit.Recorded ⟨triple, eventId (messageEvent input reply ("event_" ++ uuid) occurredAt), leads⟩
      (db.record input.channelId (.messageSent (messageEvent input reply ("event_" ++ uuid) occurredAt)) at' none) := by
  have hsent := sent_append_message db.changes input.channelId
    (messageEvent input reply ("event_" ++ uuid) occurredAt) at' none
  refine ⟨_, _, lead, hsent ▸ List.mem_append_right _ List.mem_cons_self, hchannel, ?_, hleads, ?_, hkey⟩
  · rw [eventId, messageEvent_id]
    rfl
  · rw [messageEvent_target, htarget]
    rfl

/-- What the send of a turn leaves, if it is accepted: the message of an earlier commit with its key, or a new
message for its triple. -/
theorem sendLead_spec (hdelivery : DeliveryInvariant d.store)
    (hleads : (planners d.db channelId).map Database.RosterEntry.sessionId = [lead]) :
    wp (acceptSend call.caller (leadRequest call.actor call.request call.idempotencyKey channelId lead))
      (fun accepted d' =>
        (accepted.receipt.wasDeduplicated = true ∧ ∃ r ∈ d.db.changes.sent, r.2 = accepted.receipt.event ∧
          (deduplicationKey r.2).any (fun k => sqlEquals k (.str (call.triple channelId).key)) = true) ∨
        (accepted.receipt.wasDeduplicated = false ∧
          (∀ r ∈ d.db.changes.sent, deduplicationKey r.2 ≠ some (.str (call.triple channelId).key)) ∧
          (∀ r ∈ d.db.changes.sent, r.2.member "id" ≠ some (.str (eventId accepted.receipt.event))) ∧
          LeadCommit.Recorded ⟨call.triple channelId, eventId accepted.receipt.event,
            (planners d.db channelId).map Database.RosterEntry.sessionId⟩ d'.db))
      (fun _ _ => True) d := by
  have hrest := hdelivery.transactionDepth
  refine wp_mono (wp_and (acceptSend_effect hrest) (acceptSend_stores hrest _ _)) (fun accepted d' hpost => ?_)
    fun _ _ _ => trivial
  obtain ⟨⟨hplan, hcommitted, -⟩, -, hstores⟩ := hpost
  have htarget : accepted.plan.target = leadTarget lead := (Except.ok.inj (planned_of_ok hplan).target).symm
  have hinput : (accepted.plan.commitInput (leadRequest call.actor call.request call.idempotencyKey channelId lead)).correlation =
      (leadRequest call.actor call.request call.idempotencyKey channelId lead).correlation := rfl
  have hactive := activeKey_leadRequest call.actor call.request call.idempotencyKey channelId lead
  obtain ⟨plan, receipt⟩ := accepted
  dsimp only at hplan hcommitted htarget hinput hstores ⊢
  generalize hdb : d'.db = db' at hcommitted
  cases hcommitted with
  | duplicate reply row event _ hreply hprior =>
    rw [activeKey_resolved hreply, hinput, hactive] at hprior
    have hrow : d.db.deduplicationRow (.str (call.triple channelId).key) = some (row, event) := Except.ok.inj hprior
    have hfound := List.find?_some hrow
    exact .inl ⟨rfl, (row, event), List.mem_of_find?_eq_some hrow, rfl, hfound⟩
  | fresh reply uuid occurredAt at' receipt _ hreply hprior =>
    have hkey : deduplicationKey (messageEvent (plan.commitInput
        (leadRequest call.actor call.request call.idempotencyKey channelId lead)) reply ("event_" ++ uuid) occurredAt) =
          some (.str (call.triple channelId).key) :=
      congrArg Carrier.key (ofEvent_messageEvent ("event_" ++ uuid) occurredAt hreply)
    rw [activeKey_resolved hreply, hinput, hactive] at hprior
    have hnone : d.db.deduplicationRow (.str (call.triple channelId).key) = none := Except.ok.inj hprior
    refine .inr ⟨rfl, fun r hr hsame => ?_, ?_, ?_⟩
    · have hno := List.find?_eq_none.mp hnone r hr
      rw [hsame] at hno
      exact hno (decide_eq_true rfl)
    · cases hstores with
      | duplicate row hmem hunsaid =>
        have hgrown : d'.db.changes.sent.length = d.db.changes.sent.length + 1 := by
          rw [hdb]
          exact (congrArg List.length (sent_append_message d.db.changes _ _ _ _)).trans List.length_append
        rw [hunsaid.sent] at hgrown
        exact absurd hgrown (Nat.ne_of_lt (Nat.lt_succ_self _))
      | fresh c reply' occurredAt' hevent _ _ _ _ _ =>
        have hid := congrArg (fun event => event.member "id") hevent
        dsimp only at hid
        rw [messageEvent_id, messageEvent_id] at hid
        intro r hr
        rw [eventId, messageEvent_id, hid]
        exact fresh_id hdelivery r hr
    · exact recorded_of_message rfl (congrArg some htarget) hleads hkey

/-- One more commit. -/
theorem LeadKept.enter (h : LeadKept s) (hrecorded : c.Recorded s.sends.daemon.db)
    (honce : c.triple ∉ s.ledger.map LeadCommit.triple) (hapart : c.messageId ∉ s.ledger.map LeadCommit.messageId) :
    LeadKept { s with ledger := s.ledger ++ [c] } where
  kept := h.kept
  responding := h.responding
  recorded x hx := by
    rcases List.mem_append.mp hx with hold | hnew
    · exact h.recorded x hold
    · exact List.mem_singleton.mp hnew ▸ hrecorded
  once := by
    rw [List.map_append, List.map_cons, List.map_nil, ← List.concat_eq_append]
    exact List.Nodup.concat honce h.once
  apart := by
    rw [List.map_append, List.map_cons, List.map_nil, ← List.concat_eq_append]
    exact List.Nodup.concat hapart h.apart
  calls x hx := (h.calls x hx).mono (fun _ hc => List.mem_append_left _ hc) (keepsPlaces_daemon s.sends s.sends.daemon)

/-- A message whose key no stored message has is the first of its triple, and its id is new. -/
theorem LeadKept.entered (h : LeadKept s) {sends : Sends} (hsends : LeadKept { s with sends := sends })
    (hkey : ∀ r ∈ s.sends.daemon.db.changes.sent, deduplicationKey r.2 ≠ some (.str c.triple.key))
    (hid : ∀ r ∈ s.sends.daemon.db.changes.sent, r.2.member "id" ≠ some (.str c.messageId))
    (hrecorded : c.Recorded sends.daemon.db) : LeadKept { s with sends := sends, ledger := s.ledger ++ [c] } := by
  refine hsends.enter hrecorded (fun hmem => ?_) fun hmem => ?_
  · obtain ⟨old, hold, htriple⟩ := List.mem_map.mp hmem
    obtain ⟨row, event, -, hstored, -, -, -, -, holdKey⟩ := h.recorded old hold
    exact hkey (row, event) hstored (htriple ▸ holdKey)
  · obtain ⟨old, hold, hmessage⟩ := List.mem_map.mp hmem
    obtain ⟨row, event, -, hstored, -, holdId, -⟩ := h.recorded old hold
    exact hid (row, event) hstored (hmessage ▸ holdId)

theorem LeadKept.sendLead (h : LeadKept s) (k : Nat) (hcall : CallSound s call)
    (hleads : (planners s.sends.daemon.db channelId).map Database.RosterEntry.sessionId = [lead])
    (hunclaimed : Unclaimed s (call.triple channelId)) (transcripts : Transcripts) :
    LeadKept (s.sendLead k call channelId lead
      (leadRequest call.actor call.request call.idempotencyKey channelId lead) transcripts) := by
  have hspec := @sendLead_spec call channelId lead _ h.kept.delivery hleads
  generalize leadRequest call.actor call.request call.idempotencyKey channelId lead = request at hspec ⊢
  have hsends := h.event (.send call.caller request transcripts)
  have hplaces := (Sends.step_moves h.kept.delivery.transactionDepth (.send call.caller request transcripts)).keepsPlaces
  rw [Sends.step] at hsends hplaces
  unfold Leads.sendLead
  unfold Sends.accept at hsends hplaces ⊢
  rcases hrun : acceptSend call.caller request s.sends.daemon with ⟨result, d'⟩
  rw [hrun] at hsends hplaces
  cases result with
  | error e =>
    have hsame : CallSound { s with sends := { s.sends with daemon := d' } } _ := hcall.mono (fun _ hc => hc) hplaces
    exact hsends.setCall k (hsame.result fun hstatus => absurd hstatus (thrown_status _ _ _))
  | ok accepted =>
    dsimp only at hsends hplaces ⊢
    -- the call waits at the place where its send was put
    have hplace : (s.sends.sends ++ [Delivering.start s.sends.daemon transcripts request accepted])[s.sends.sends.length]? =
        some (.start s.sends.daemon transcripts request accepted) := by
      rw [List.getElem?_append_right le_rfl, Nat.sub_self]
      rfl
    generalize s.sends.sends ++ [Delivering.start s.sends.daemon transcripts request accepted] = sends
      at hsends hplaces hplace ⊢
    have hwaits {ledger : List LeadCommit} (hold : ∀ c ∈ s.ledger, c ∈ ledger)
        (hcommitted : ∃ c ∈ ledger, c.triple = call.triple channelId ∧ c.messageId = eventId accepted.receipt.event) :
        CallSound ⟨⟨d', sends, s.sends.jobs⟩, s.calls, ledger⟩
          { call with waiting := some (channelId, lead, s.sends.sends.length) } := by
      refine ⟨fun channelId' lead' i hwaiting => ?_, (hcall.mono hold hplaces).results⟩
      cases hwaiting
      exact ⟨_, hplace, hcommitted⟩
    rcases wp_of_ok hspec hrun with ⟨hduplicate, r, hr, hevent, hkey⟩ | ⟨hfresh, hkey, hid, hrecorded⟩
    · obtain ⟨c, hc, htriple, hmessage⟩ := hunclaimed r hr hkey
      have hsame := id_of_stored h.kept.delivery hr
      rw [hmessage, hevent] at hsame
      rw [Leads.entered, if_pos hduplicate, List.append_nil]
      exact hsends.setCall k (hwaits (fun _ hc => hc) ⟨c, hc, htriple, Json.str.inj (Option.some.inj hsame)⟩)
    · rw [Leads.entered, if_neg (by rw [hfresh]; exact Bool.false_ne_true)]
      have hentered := h.entered (c := ⟨call.triple channelId, eventId accepted.receipt.event,
        (planners s.sends.daemon.db channelId).map Database.RosterEntry.sessionId⟩) hsends hkey hid hrecorded
      exact hentered.setCall k (hwaits (fun _ hc => List.mem_append_left _ hc)
        ⟨_, List.mem_append_right _ List.mem_cons_self, rfl, rfl⟩)

end SendLead

theorem LeadKept.turn (h : LeadKept s) (k : Nat) {call : LeadCall} (hcall : CallSound s call) (transcripts : Transcripts)
    (hunclaimed : call.waiting = none → ∀ channelId ∈ call.rest.head?, Unclaimed s (call.triple channelId)) :
    LeadKept (s.turn k call transcripts) := by
  unfold Leads.turn
  split
  · rename_i channelId rest hwaiting hrest
    have hhere := hunclaimed hwaiting channelId (by rw [hrest]; rfl)
    have hsound : CallSound s { call with rest := rest } := ⟨hcall.waiting, hcall.results⟩
    rcases leadTurn_cases s.sends.daemon call.actor call.request call.idempotencyKey channelId with
      ⟨status, code, message, hturn, hstatus⟩ | ⟨prior, cursor, hturn, hprior⟩ | ⟨lead, hturn, hleads⟩
    · dsimp only
      rw [hturn]
      exact h.setCall k (hsound.result fun hsent => absurd hsent hstatus)
    · dsimp only
      rw [hturn]
      refine h.setCall k (hsound.result fun _ => ⟨_, rfl, ?_⟩)
      obtain ⟨r, hr, hkey, hid⟩ := stored_of_messageByDeduplicationKey hprior
      obtain ⟨c, hc, htriple, hmessage⟩ := hhere r hr hkey
      rw [hid] at hmessage
      exact ⟨c, hc, htriple, (Json.str.inj (Option.some.inj hmessage)).symm⟩
    · dsimp only
      rw [hturn]
      exact h.sendLead k hsound hleads hhere transcripts
  · exact h

theorem LeadKept.step (h : LeadKept s) {e : LeadEvent} (hunclaimed : TurnsUnclaimed s e) : LeadKept (s.step e) := by
  cases e with
  | call caller request => exact h.call caller request
  | turn k transcripts =>
    rw [Leads.step]
    cases hcall : s.calls[k]? with
    | none => exact h
    | some call => exact h.turn k (h.calls call (List.mem_of_getElem? hcall)) transcripts (hunclaimed call hcall)
  | settle k =>
    rw [Leads.step]
    cases hcall : s.calls[k]? with
    | none => exact h
    | some call => exact h.settle k (List.mem_of_getElem? hcall)
  | commit input => exact h.commit input
  | send caller request transcripts => exact h.event (.send caller request transcripts)
  | submit i => exact h.event (.submit i)
  | answer i hostAnswer => exact h.event (.answer i hostAnswer)
  | other meanwhile => exact h.event (.other meanwhile)

end Steps

theorem LeadKept.run {s : Leads} (h : LeadKept s) (events : List LeadEvent)
    (hunclaimed : Trace.Meets Leads.step TurnsUnclaimed s events) : LeadKept (Trace.run Leads.step s events) := by
  induction events generalizing s with
  | nil => exact h
  | cons e events ih => exact ih (h.step hunclaimed.1) hunclaimed.2

theorem Fresh.leadKept {d : Daemon} (hd : Fresh d) : LeadKept (.initial d) where
  kept := hd.sendsKept
  responding _ hsend := (List.not_mem_nil hsend).elim
  recorded _ hc := (List.not_mem_nil hc).elim
  once := List.nodup_nil
  apart := List.nodup_nil
  calls _ hcall := (List.not_mem_nil hcall).elim

/-- While no call comes to a channel where its key is already somebody else's, the calls keep their promise. -/
theorem leads_kept {d : Daemon} (hd : Fresh d) (events : List LeadEvent)
    (h : Trace.Meets Leads.step TurnsUnclaimed (.initial d) events) :
    LeadLaw (Trace.run Leads.step (.initial d) events) :=
  (hd.leadKept.run events h).law

/-- One call to one channel, up to its result. -/
def calledOnce (k : Nat) (request : LeadBroadcastRequest) : List LeadEvent :=
  [.call aliceCredentialed request, .turn k noTranscripts, .submit k, .answer k (.acknowledged .written), .submit k,
    .settle k]

theorem ledByBob_fresh : Fresh ledByBob := ⟨rfl, tally_injective, by decide +kernel⟩

/-- A call and its retry. -/
theorem leads_kept_again : LeadLaw (Trace.run Leads.step (.initial ledByBob)
    (calledOnce 0 callToLeads ++ [.call aliceCredentialed callToLeads, .turn 1 noTranscripts])) :=
  leads_kept ledByBob_fresh _ (by decide +kernel)

/-- Alice owns two channels that bob leads, and the name of one ends with a colon and the name of the other. -/
def ledTwice : Daemon :=
  let setUp : Command MutationReceipt := do
    let _ ← insertSession { id := "alice", role := some .operator, deliveryMode := some .log }
    let _ ← insertSession { id := "bob", role := some .planner }
    let _ ← insertChannel "harbour" (some "alice")
    let _ ← insertChannel "quay:harbour" (some "alice")
    let _ ← insertMembership "harbour" "alice" (some .operator)
    let _ ← insertMembership "harbour" "bob" (some .planner)
    let _ ← insertMembership "quay:harbour" "alice" (some .operator)
    insertMembership "quay:harbour" "bob" (some .planner)
  { Daemon.initial (setUp (World.initial .empty tally tally)).2 with runtimes := Table.empty.put bobRuntime }

theorem ledTwice_fresh : Fresh ledTwice := ⟨rfl, tally_injective, by decide +kernel⟩

/-- The keys of the two calls join to one text, and the second call gets the message of the first. -/
def joinedAlike : List LeadEvent :=
  calledOnce 0 ⟨"call-1:quay", "report", ["harbour"], [], none⟩ ++
    calledOnce 1 ⟨"call-1", "report", ["quay:harbour"], [], none⟩

/-- Two triples share a message: the second call reports as sent what is stored in the other channel. -/
theorem shared_message : Fresh ledTwice ∧ ¬ LeadLaw (Trace.run Leads.step (.initial ledTwice) joinedAlike) := by
  refine ⟨ledTwice_fresh, fun hlaw => ?_⟩
  have hledger : ∀ c ∈ (Trace.run Leads.step (.initial ledTwice) joinedAlike).ledger,
      c.triple.channelId = "harbour" := by decide +kernel
  have hsent : ∃ call ∈ (Trace.run Leads.step (.initial ledTwice) joinedAlike).calls, ∃ result ∈ call.results,
      result.status = "sent" ∧ result.channelId = "quay:harbour" := by decide +kernel
  obtain ⟨call, hcall, result, hresult, hstatus, hchannel⟩ := hsent
  obtain ⟨c, hc, htriple, -⟩ := hlaw.sent call hcall result hresult hstatus
  have hhere := hledger c hc
  rw [htriple, LeadCall.triple, hchannel] at hhere
  exact absurd hhere (show "quay:harbour" ≠ "harbour" by decide)

end Wardroom.Runtime
