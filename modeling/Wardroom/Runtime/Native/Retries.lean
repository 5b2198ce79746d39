import Wardroom.Runtime.Native.Delivered

/-! # Retries and the record of a delivery

A send under a key that is taken commits nothing. It still submits its message
and appends a record of its own to the earlier one, and the fold replaces the
statuses of the message by the last record. Nothing is lost while each record
reports every recipient that was delivered before, and no one else than the
recipients of the stored target.
-/

namespace Wardroom.Runtime
open Wardroom.Library Wardroom.Domain Wardroom.Storage Wardroom.Feeds Wardroom.Conversations

/-- Everyone who was reported as delivered still is. -/
def StaysDelivered (s s' : Sends) : Prop := ∀ messageId recipient,
  foldedStatus s.daemon.db.changes.rows messageId recipient = some (.str "delivered") →
    foldedStatus s'.daemon.db.changes.rows messageId recipient = some (.str "delivered")

/-- Everyone who is reported belongs to the target stored in the message. -/
def Addressed (s : Sends) : Prop := ∀ messageId recipient status,
  foldedStatus s.daemon.db.changes.rows messageId recipient = some status →
    ∃ r ∈ s.daemon.db.changes.sent, r.2.member "id" = some (.str messageId) ∧ recipient ∈ addressees r.2

/-- Both, from every state of a run on. -/
def DeliveryKept (d : Daemon) (events : List SendEvent) : Prop := ∀ before after, events = before ++ after →
  StaysDelivered (Trace.run Sends.step (.initial d) before) (Trace.run Sends.step (.initial d) events) ∧
    Addressed (Trace.run Sends.step (.initial d) events)

def reportedDelivered (rows : List Change) (messageId : String) : List String :=
  (((foldedStatuses rows messageId).elim [] Json.members).map Prod.fst).filter fun recipient =>
    isText (foldedStatus rows messageId recipient) "delivered"

/-- The send addressed nobody but recipients of the stored target, and everyone who had been delivered is
log-delivered in this send too, or was taken again by his host. -/
def Delivering.Repeats (rows : List Change) (send : Delivering) : Prop :=
  (∀ r ∈ send.plan.recipients, r ∈ addressees send.event) ∧
    ∀ r ∈ reportedDelivered rows send.messageId, r ∈ send.logged ∨ (send.lastAnswer r).any Option.isSome = true

/-- Every recipient has had its turn, and the record has not been made. -/
def Delivering.ready (send : Delivering) : Bool :=
  match send.progress with
  | .submitting [] => true
  | _ => false

/-- A send that is about to record its deliveries repeats the earlier ones. -/
def RecordsForward (s : Sends) : SendEvent → Prop
  | .submit i => ∀ send ∈ s.sends[i]?, send.ready = true → send.Repeats s.daemon.db.changes.rows
  | _ => True

instance (s : Sends) (e : SendEvent) : Decidable (RecordsForward s e) := by
  unfold RecordsForward Delivering.Repeats
  split <;> infer_instance

theorem mem_reportedDelivered {rows : List Change} {messageId recipient : String}
    (h : foldedStatus rows messageId recipient = some (.str "delivered")) :
    recipient ∈ reportedDelivered rows messageId := by
  refine List.mem_filter.mpr ⟨?_, by rw [h]; rfl⟩
  obtain ⟨statuses, hstatuses, hmember⟩ := Option.bind_eq_some_iff.mp h
  rw [hstatuses]
  change recipient ∈ statuses.members.map Prod.fst
  unfold Json.member at hmember
  generalize statuses.members = members at hmember
  induction members with
  | nil => cases hmember
  | cons first rest ih =>
    rw [Json.lookup_cons] at hmember
    by_cases hfirst : first.1 = recipient
    · exact hfirst ▸ List.mem_cons_self
    · rw [if_neg hfirst] at hmember
      exact List.mem_cons_of_mem _ (ih hmember)

/-- The state in a run that records forward. -/
structure KeptForward (s : Sends) : Prop where
  kept : SendsKept s
  addressed : Addressed s

section

variable {s s' : Sends} {e : SendEvent}

theorem StaysDelivered.refl (s : Sends) : StaysDelivered s s := fun _ _ h => h

theorem StaysDelivered.trans {s'' : Sends} (h : StaysDelivered s s') (h' : StaysDelivered s' s'') : StaysDelivered s s'' :=
  fun messageId recipient hdelivered => h' messageId recipient (h messageId recipient hdelivered)

theorem kept_of_unsaid (h : Addressed s) (hunsaid : Unsaid s.daemon s'.daemon) : StaysDelivered s s' ∧ Addressed s' := by
  refine ⟨fun id r hdelivered => ?_, fun id r status hstatus => ?_⟩
  · rw [foldedStatus, hunsaid.foldedStatuses]
    exact hdelivered
  · rw [foldedStatus, hunsaid.foldedStatuses] at hstatus
    rw [hunsaid.sent]
    exact h id r status hstatus

theorem statusOf_of_folded {rows : List Change} {messageId recipient : String} {statuses : RecipientStatuses}
    {status : Json} (hstatuses : foldedStatuses rows messageId = some (statusesToJson statuses))
    (h : foldedStatus rows messageId recipient = some status) : ∃ st, statusOf statuses recipient = some st := by
  rw [foldedStatus, hstatuses, Option.bind_some, member_statusesToJson] at h
  obtain ⟨st, hst, -⟩ := Option.map_eq_some_iff.mp h
  exact ⟨st, hst⟩

theorem kept_of_accepted (h : KeptForward s) {d' : Daemon} {caller : Caller} {request : SendRequest}
    (transcripts : Transcripts) {accepted : AcceptedSend}
    (hplan : planSend s.daemon caller request = .ok accepted.plan)
    (hstores : Stores s.daemon (accepted.plan.commitInput request) accepted.receipt d') (hs' : s'.daemon = d') :
    StaysDelivered s s' ∧ Addressed s' := by
  subst hs'
  obtain ⟨hdelivery, hkept, stored, hstored, hevent⟩ := hstores.delivery h.kept.delivery
  refine ⟨fun id r hdelivered => ?_, fun id r status hstatus => ?_⟩
  · rcases hstores.folded h.kept.delivery id with hsame | ⟨-, hnone, -⟩
    · rw [foldedStatus, hsame]
      exact hdelivered
    · rw [foldedStatus, hnone] at hdelivered
      cases hdelivered
  · rcases hstores.folded h.kept.delivery id with hsame | ⟨hid, -, hnew, reply, id', occurredAt, hmessage⟩
    · rw [foldedStatus, hsame] at hstatus
      obtain ⟨row, hrow, haddressed⟩ := h.addressed id r status hstatus
      exact ⟨row, hkept row hrow, haddressed⟩
    · -- the statuses of a new message are those of its own recipients
      obtain ⟨st, hst⟩ := statusOf_of_folded hnew hstatus
      have hmem := (Delivering.start_sound hplan transcripts).listed r st hst
      refine ⟨stored, hstored, ?_, ?_⟩
      · rw [id_of_stored hdelivery hstored, hevent, hid]
      · have htarget : (accepted.plan.commitInput request).target = some accepted.plan.target := rfl
        rw [hevent, hmessage, addressees_messageEvent htarget,
          ← acceptedRecipients_listed (planned_of_ok hplan).recipients]
        exact hmem

theorem kept_of_recorded (h : KeptForward s) {i : Nat} {send : Delivering} {d' : Daemon} (hsend : s.sends[i]? = some send)
    (hprogress : send.progress = .submitting []) (hforward : RecordsForward s (.submit i))
    (hrecords : Records s.daemon send.messageId send.statuses d') (hs' : s'.daemon = d') :
    StaysDelivered s s' ∧ Addressed s' := by
  subst hs'
  have hsound := h.kept.sound send (List.mem_of_getElem? hsend)
  have hready : send.ready = true := by rw [Delivering.ready, hprogress]
  obtain ⟨hown, hagain⟩ := hforward send hsend hready
  refine ⟨fun id r hdelivered => ?_, fun id r status hstatus => ?_⟩
  · rw [foldedStatus, hrecords.folded h.kept.delivery]
    by_cases hid : id = send.messageId
    · subst hid
      have hstatus : statusOf send.statuses r = some .delivered := by
        rcases hagain r (mem_reportedDelivered hdelivered) with hlogged | hanswered
        · exact (hsound.logged r hlogged).1
        · obtain ⟨answer, hlast, hsome⟩ := (Option.any_eq_true _ _).mp hanswered
          rw [hsound.answered r answer hlast, if_pos hsome]
      rw [if_pos rfl, Option.bind_some, member_statusesToJson, hstatus]
      rfl
    · rw [if_neg hid]
      exact hdelivered
  · rw [foldedStatus, hrecords.folded h.kept.delivery] at hstatus
    rw [hrecords.sent]
    by_cases hid : id = send.messageId
    · subst hid
      rw [if_pos rfl, Option.bind_some, member_statusesToJson] at hstatus
      obtain ⟨st, hst, -⟩ := Option.map_eq_some_iff.mp hstatus
      obtain ⟨row, hrow, hevent⟩ := h.kept.stored send (List.mem_of_getElem? hsend)
      refine ⟨row, hrow, ?_, ?_⟩
      · rw [id_of_stored h.kept.delivery hrow, hevent]
        rfl
      · rw [hevent]
        exact hown r (hsound.listed r st hst)
    · rw [if_neg hid] at hstatus
      exact h.addressed id r status hstatus

theorem KeptForward.step (h : KeptForward s) (hforward : RecordsForward s e) (hmoves : Moves s e s') :
    KeptForward s' ∧ StaysDelivered s s' := by
  have hkept := h.kept.step hmoves
  suffices hboth : StaysDelivered s s' ∧ Addressed s' from ⟨⟨hkept, hboth.2⟩, hboth.1⟩
  cases hmoves with
  | unsaid d' hunsaid => exact kept_of_unsaid h.addressed hunsaid
  | accepted d' caller request transcripts accepted hplan hstores =>
    exact kept_of_accepted h transcripts hplan hstores rfl
  | turned i send send' d' hsend hturns hunsaid hheard => exact kept_of_unsaid h.addressed hunsaid
  | unrecorded i send d' error hsend hprogress hunsaid => exact kept_of_unsaid h.addressed hunsaid
  | recorded i send d' jobs outcome hevent hsend hprogress hrecords hjobs =>
    subst hevent
    exact kept_of_recorded h hsend hprogress hforward hrecords rfl

theorem kept_run (hs : KeptForward s) (events : List SendEvent) (h : Trace.Meets Sends.step RecordsForward s events) :
    StaysDelivered s (Trace.run Sends.step s events) ∧ KeptForward (Trace.run Sends.step s events) := by
  induction events generalizing s with
  | nil => exact ⟨.refl s, hs⟩
  | cons e events ih =>
    obtain ⟨hforward, hrest⟩ := h
    obtain ⟨hkept, hstays⟩ := hs.step hforward (Sends.step_moves hs.kept.delivery.transactionDepth e)
    obtain ⟨hlater, hend⟩ := ih hkept hrest
    exact ⟨hstays.trans hlater, hend⟩

end

/-- While every record repeats the earlier ones, a delivered recipient stays delivered, and nobody is
reported who was not addressed. -/
theorem delivery_kept {d : Daemon} (hd : Fresh d) (events : List SendEvent)
    (h : Trace.Meets Sends.step RecordsForward (.initial d) events) : DeliveryKept d events := by
  have hstart : KeptForward (.initial d) := by
    refine ⟨hd.sendsKept, fun id r status hstatus => ?_⟩
    change foldedStatus d.db.changes.rows id r = _ at hstatus
    rw [foldedStatus, hd.foldedStatuses] at hstatus
    cases hstatus
  rintro before after rfl
  rw [Trace.meets_append] at h
  obtain ⟨hbefore, hafter⟩ := h
  obtain ⟨-, hmiddle⟩ := kept_run hstart before hbefore
  obtain ⟨hstays, hend⟩ := kept_run hmiddle after hafter
  rw [Trace.run_append]
  exact ⟨hstays, hend.addressed⟩

/-- Alice sends the order and sends it again; the host takes it, and then answers once more. -/
def orderedAgain (answer : HostAnswer) : List SendEvent :=
  ordered (.acknowledged .written) ++
    [.send aliceSignedIn sailingOrder noTranscripts, .submit 1, .answer 1 answer, .submit 1]

theorem delivery_kept_again : DeliveryKept manned (orderedAgain (.acknowledged .duplicate)) :=
  delivery_kept manned_fresh _ (by decide +kernel)

def aliceCredentialed : Caller := ⟨⟨[("credential-1", "alice")], some "alice"⟩, some "credential-1"⟩

/-- A channel of the operator alice whose planner is bob, with carol as a worker; both have runtimes. -/
def ledByBob : Daemon :=
  let setUp : Command MutationReceipt := do
    let _ ← insertSession { id := "alice", role := some .operator, deliveryMode := some .log }
    let _ ← insertSession { id := "bob", role := some .planner }
    let _ ← insertSession { id := "carol", role := some .worker }
    let _ ← insertChannel "harbour" (some "alice")
    let _ ← insertMembership "harbour" "alice" (some .operator)
    let _ ← insertMembership "harbour" "bob" (some .planner)
    insertMembership "harbour" "carol" (some .worker)
  { Daemon.initial (setUp (World.initial .empty tally tally)).2 with
    runtimes := (Table.empty.put bobRuntime).put { bobRuntime with runtimeId := "runtime-carol", sessionId := "carol" } }

/-- Bob and carol change places. -/
def carolLeads : Meanwhile where
  change d := { d with store := { d.store with db := { d.store.db with
    sessions := d.store.db.sessions.update (fun s => s.id = "bob" || s.id = "carol")
      (fun s => { s with role := if s.id = "carol" then some .planner else some .worker }) fun _ => rfl } } }
  unsaid _ := ⟨rfl, rfl, le_rfl, [], (List.append_nil _).symm, fun _ hc => nomatch hc⟩

def callToLeads : LeadBroadcastRequest := ⟨"call-1", "report", ["harbour"], [], none⟩

/-- The host of the first lead fails, and the broadcast is repeated under the next one. -/
def calledAgain : List SendEvent :=
  [.lead aliceCredentialed callToLeads "harbour" noTranscripts, .submit 0, .answer 0 (.failed (.coded "hostTimeout")),
    .submit 0, .other carolLeads, .lead aliceCredentialed callToLeads "harbour" noTranscripts, .submit 1, .submit 1]

/-- A retry whose host fails takes the delivery back, and a broadcast to the next lead reports a
session that the message never addressed. -/
theorem retry_rewrites_delivery :
    ¬ DeliveryKept manned (orderedAgain (.failed (.coded "hostTimeout"))) ∧ ¬ DeliveryKept ledByBob calledAgain := by
  constructor
  · intro hkept
    obtain ⟨hstays, -⟩ := hkept (ordered (.acknowledged .written)) _ rfl
    have hlost := hstays "event_" "bob" rfl
    have hundeliverable : foldedStatus
        (Trace.run Sends.step (.initial manned) (orderedAgain (.failed (.coded "hostTimeout")))).daemon.db.changes.rows
        "event_" "bob" = some (.str "undeliverable") := rfl
    have hsame := Json.str.inj (Option.some.inj (hlost.symm.trans hundeliverable))
    exact absurd hsame (by decide)
  · intro hkept
    obtain ⟨-, haddressed⟩ := hkept [] _ rfl
    have hreported : foldedStatus (Trace.run Sends.step (.initial ledByBob) calledAgain).daemon.db.changes.rows
        "event_" "carol" = some (.str "undeliverable") := rfl
    have honly : ∀ r ∈ (Trace.run Sends.step (.initial ledByBob) calledAgain).daemon.db.changes.sent,
        addressees r.2 = ["bob"] := by decide +kernel
    obtain ⟨r, hr, -, hmem⟩ := haddressed _ _ _ hreported
    rw [honly r hr] at hmem
    exact absurd (List.mem_singleton.mp hmem) (by decide)

end Wardroom.Runtime
