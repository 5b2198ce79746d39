import Wardroom.Runtime.Native.SendRuns

/-! # Delivered means written

A send takes a submission that does not throw for a delivered one. The hosts
answer what they wrote, what they had written before, and what they are not
sure of; only the first two are a success. With hosts that are sure, a recipient
is reported as delivered only if the log or its host took the message.
-/

namespace Wardroom.Runtime
open Wardroom.Library Wardroom.Domain Wardroom.Storage Wardroom.Feeds

/-- The bytes reached the host, now or before. -/
def Host.DeliveryOutcome.accepted : Host.DeliveryOutcome → Bool
  | .written => true
  | .duplicate => true
  | .uncertain => false

def Delivering.Recorded (send : Delivering) : Prop := ∃ outcome, send.progress = .settled true outcome

/-- A send found the recipient log-delivered, or its host took the message. -/
def Taken (s : Sends) (messageId recipient : String) : Prop :=
  ∃ send ∈ s.sends, send.messageId = messageId ∧
    (recipient ∈ send.logged ∨ ∃ outcome, (recipient, some outcome) ∈ send.answers ∧ outcome.accepted = true)

structure DeliveredMeansWritten (s : Sends) : Prop where
  delivered : ∀ messageId recipient,
    foldedStatus s.daemon.db.changes.rows messageId recipient = some (.str "delivered") → Taken s messageId recipient
  recorded : ∀ c ∈ s.daemon.db.changes.rows, ∀ messageId statuses delivered at',
    c.payload = .messageDelivery messageId statuses delivered at' →
      ∃ send ∈ s.sends, send.messageId = messageId ∧ send.statuses = statuses ∧ send.Recorded
  refused : ∀ send ∈ s.sends, ∀ recipient outcome, send.lastAnswer recipient = some outcome →
    outcome.any Host.DeliveryOutcome.accepted = false → statusOf send.statuses recipient = some .undeliverable
  jobs : ∀ job ∈ s.jobs.rows, ∃ send ∈ s.sends, send.messageId = job.sourceEventId ∧ send.Recorded ∧
    ∃ outcome, send.lastAnswer job.providerSessionId = some (some outcome) ∧ outcome.accepted = true

/-- The host that a send waits for is sure of what it did. -/
def HostsCertain (s : Sends) : SendEvent → Prop
  | .answer i answer =>
    match (s.sends[i]?).map Delivering.progress with
    | some (.awaiting _ _ _) => answer ≠ .acknowledged .uncertain
    | _ => True
  | _ => True

instance (s : Sends) (e : SendEvent) : Decidable (HostsCertain s e) := by
  unfold HostsCertain
  split
  · split <;> infer_instance
  · infer_instance

section

variable {send : Delivering} {recipient : String}

theorem Delivering.mem_answers {answer : Option Host.DeliveryOutcome} (h : send.lastAnswer recipient = some answer) :
    (recipient, answer) ∈ send.answers := by
  obtain ⟨last, hlast, rfl⟩ := Option.map_eq_some_iff.mp h
  obtain ⟨hmem, hsame⟩ := List.mem_filter.mp (List.mem_of_getLast? hlast)
  rwa [← of_decide_eq_true hsame]

theorem Delivering.job_spec {at' : String} {job : ProviderReplyJob} (h : send.job at' = some job) :
    job.sourceEventId = send.messageId ∧ statusOf send.statuses job.providerSessionId = some .delivered ∧
      send.runtime job.providerSessionId ≠ none := by
  unfold Delivering.job at h
  split at h
  · split_ifs at h with hdelivered
    obtain ⟨runtime, hruntime, rfl⟩ := Option.map_eq_some_iff.mp h
    exact ⟨rfl, hdelivered.2, by rw [hruntime]; exact fun hbad => nomatch hbad⟩
  · cases h

theorem Delivering.Sound.job_answered (hsound : send.Sound) {at' : String} {job : ProviderReplyJob}
    (h : send.job at' = some job) : ∃ outcome, send.lastAnswer job.providerSessionId = some (some outcome) := by
  obtain ⟨-, hdelivered, hruntime⟩ := Delivering.job_spec h
  rcases hsound.delivered _ hdelivered with hlogged | hanswered
  · exact absurd (hsound.logged _ hlogged).2 hruntime
  · exact hanswered

end

/-- No host was unsure in an answer so far. -/
structure SurelySent (s : Sends) : Prop where
  kept : SendsKept s
  certain : ∀ send ∈ s.sends, ∀ recipient outcome, (recipient, some outcome) ∈ send.answers → outcome.accepted = true
  meaning : DeliveredMeansWritten s

section

variable {s s' : Sends} {e : SendEvent}

theorem Taken.onward {messageId recipient : String} (h : Taken s messageId recipient)
    (honward : ∀ send ∈ s.sends, ∃ send' ∈ s'.sends, Onward send send') : Taken s' messageId recipient := by
  obtain ⟨send, hsend, hid, htaken⟩ := h
  obtain ⟨send', hsend', hon⟩ := honward send hsend
  refine ⟨send', hsend', by rw [← hid, Delivering.messageId, Delivering.event, hon.accepted]; rfl, ?_⟩
  rcases htaken with hlogged | ⟨outcome, hanswer, haccepted⟩
  · exact .inl (hon.logged ▸ hlogged)
  · exact .inr ⟨outcome, hon.answers.subset hanswer, haccepted⟩

theorem Turns.certain {send send' : Delivering} (h : Turns send send')
    (hold : ∀ recipient outcome, (recipient, some outcome) ∈ send.answers → outcome.accepted = true)
    (hheard : ∀ recipient outcome, send'.answers = send.answers ++ [(recipient, some outcome)] → outcome.accepted = true) :
    ∀ recipient outcome, (recipient, some outcome) ∈ send'.answers → outcome.accepted = true := by
  intro r o hmem
  have hlast {recipient : String} {answer : Option Host.DeliveryOutcome}
      (hanswers : send'.answers = send.answers ++ [(recipient, answer)]) : o.accepted = true := by
    rw [hanswers, List.mem_append, List.mem_singleton] at hmem
    rcases hmem with hmem | hnew
    · exact hold r o hmem
    · cases hnew
      exact hheard r o hanswers
  cases h with
  | passed recipient rest hprogress => exact hold r o hmem
  | waits recipient runtime rest hprogress hruntime => exact hold r o hmem
  | refused recipient rest hprogress hruntime => exact hlast rfl
  | answered recipient runtime rest outcome hprogress => exact hlast rfl

/-- An answer that a send waited for was sure. -/
theorem HostsCertain.accepted {i : Nat} {send send' : Delivering} (h : HostsCertain s e) (hsend : s.sends[i]? = some send)
    (hturns : Turns send send')
    (hheard : ∀ recipient outcome, send'.answers = send.answers ++ [(recipient, some outcome)] →
      e = .answer i (.acknowledged outcome)) (recipient : String) (outcome : Host.DeliveryOutcome)
    (hanswers : send'.answers = send.answers ++ [(recipient, some outcome)]) : outcome.accepted = true := by
  have hevent := hheard recipient outcome hanswers
  subst hevent
  have hawaiting : ∃ r runtime rest, send.progress = .awaiting r runtime rest := by
    cases hturns with
    | passed r rest hprogress => exact absurd hanswers (by simp)
    | waits r runtime rest hprogress hruntime => exact absurd hanswers (by simp)
    | refused r rest hprogress hruntime => cases List.append_cancel_left hanswers
    | answered r runtime rest outcome hprogress => exact ⟨r, runtime, rest, hprogress⟩
  obtain ⟨r, runtime, rest, hprogress⟩ := hawaiting
  have hsure : HostAnswer.acknowledged outcome ≠ .acknowledged .uncertain := by
    simp only [HostsCertain, hsend, Option.map_some, hprogress] at h
    exact h
  cases outcome with
  | written => rfl
  | duplicate => rfl
  | uncertain => exact absurd rfl hsure

theorem refused_of_certain {send : Delivering} (hsound : send.Sound)
    (hcertain : ∀ recipient outcome, (recipient, some outcome) ∈ send.answers → outcome.accepted = true)
    {recipient : String} {outcome : Option Host.DeliveryOutcome} (hlast : send.lastAnswer recipient = some outcome)
    (hrefused : outcome.any Host.DeliveryOutcome.accepted = false) :
    statusOf send.statuses recipient = some .undeliverable := by
  cases outcome with
  | none => exact hsound.answered recipient none hlast
  | some outcome =>
    have haccepted := hcertain recipient outcome (Delivering.mem_answers hlast)
    rw [Option.any_some, haccepted] at hrefused
    cases hrefused

theorem Delivering.Recorded.onward {send send' : Delivering} (h : send.Recorded) (hon : Onward send send') :
    send' = send := hon.settled true _ h.choose_spec

theorem recorded_step {s s' : Sends} (h : DeliveredMeansWritten s)
    (honward : ∀ send ∈ s.sends, ∃ send' ∈ s'.sends, Onward send send') {c : Change}
    (hc : c ∈ s.daemon.db.changes.rows) {messageId : String} {statuses : RecipientStatuses} {delivered : List String}
    {at' : String} (hpayload : c.payload = .messageDelivery messageId statuses delivered at') :
    ∃ send ∈ s'.sends, send.messageId = messageId ∧ send.statuses = statuses ∧ send.Recorded := by
  obtain ⟨send, hsend, hid, hstatuses, hrecorded⟩ := h.recorded c hc messageId statuses delivered at' hpayload
  obtain ⟨send', hsend', hon⟩ := honward send hsend
  cases hrecorded.onward hon
  exact ⟨send, hsend', hid, hstatuses, hrecorded⟩

theorem jobs_step {s s' : Sends} (h : DeliveredMeansWritten s)
    (honward : ∀ send ∈ s.sends, ∃ send' ∈ s'.sends, Onward send send') {job : ProviderReplyJob}
    (hjob : job ∈ s.jobs.rows) :
    ∃ send ∈ s'.sends, send.messageId = job.sourceEventId ∧ send.Recorded ∧
      ∃ outcome, send.lastAnswer job.providerSessionId = some (some outcome) ∧ outcome.accepted = true := by
  obtain ⟨send, hsend, hid, hrecorded, hanswer⟩ := h.jobs job hjob
  obtain ⟨send', hsend', hon⟩ := honward send hsend
  cases hrecorded.onward hon
  exact ⟨send, hsend', hid, hrecorded, hanswer⟩

theorem Unsaid.delivery_old {d d' : Daemon} (h : Unsaid d d') {c : Change} (hc : c ∈ d'.db.changes.rows)
    (hmessage : Change.isMessage c = true) : c ∈ d.db.changes.rows := by
  obtain ⟨rows, hrows, hquiet⟩ := h.changes
  rw [hrows, List.mem_append] at hc
  rcases hc with hc | hc
  · exact hc
  · rw [hquiet c hc] at hmessage
    cases hmessage

theorem DeliveredMeansWritten.unsaid {s s' : Sends} (h : DeliveredMeansWritten s) (hkept : SendsKept s')
    (hcertain : ∀ send ∈ s'.sends, ∀ recipient outcome, (recipient, some outcome) ∈ send.answers → outcome.accepted = true)
    (hunsaid : Unsaid s.daemon s'.daemon) (honward : ∀ send ∈ s.sends, ∃ send' ∈ s'.sends, Onward send send')
    (hjobs : s'.jobs = s.jobs) : DeliveredMeansWritten s' := by
  refine ⟨fun id r hdelivered => ?_, fun c hc id statuses delivered at' hpayload => ?_, fun send hsend r outcome => ?_,
    fun job hjob => ?_⟩
  · rw [foldedStatus, hunsaid.foldedStatuses] at hdelivered
    exact (h.delivered id r hdelivered).onward honward
  · have hold := hunsaid.delivery_old hc (by simp [Change.isMessage, hpayload])
    exact recorded_step h honward hold hpayload
  · exact refused_of_certain (hkept.sound send hsend) (hcertain send hsend)
  · rw [hjobs] at hjob
    exact jobs_step h honward hjob

theorem SurelySent.step {s s' : Sends} {e : SendEvent} (h : SurelySent s) (hsure : HostsCertain s e) (hmoves : Moves s e s') :
    SurelySent s' := by
  have hkept := h.kept.step hmoves
  have honward := hmoves.onward
  cases hmoves with
  | unsaid d' hunsaid => exact ⟨hkept, h.certain, h.meaning.unsaid hkept h.certain hunsaid honward rfl⟩
  | accepted d' caller request transcripts accepted hplan hstores =>
    have hcertain : ∀ send ∈ s.sends ++ [.start s.daemon transcripts request accepted], ∀ recipient outcome,
        (recipient, some outcome) ∈ send.answers → outcome.accepted = true := by
      intro send hsend r outcome hanswer
      rcases List.mem_append.mp hsend with hold | hnew
      · exact h.certain send hold r outcome hanswer
      · rw [List.mem_singleton.mp hnew] at hanswer
        cases hanswer
    refine ⟨hkept, hcertain, fun id r hdelivered => ?_, fun c hc id statuses delivered at' hpayload => ?_,
      fun send hsend r outcome => refused_of_certain (hkept.sound send hsend) (hcertain send hsend),
      fun job hjob => jobs_step h.meaning honward hjob⟩
    · rcases hstores.folded h.kept.delivery id with hsame | ⟨hid, -, hnew, -⟩
      · rw [foldedStatus, hsame] at hdelivered
        exact (h.meaning.delivered id r hdelivered).onward honward
      · -- a new message is reported as its plan has it
        have hstatus := delivered_of_folded hnew hdelivered
        refine ⟨_, List.mem_append_right _ List.mem_cons_self, hid.symm, .inl ?_⟩
        rcases (Delivering.start_sound hplan transcripts).delivered r hstatus with hlogged | ⟨outcome, hlast⟩
        · exact hlogged
        · cases hlast
    · cases hstores with
      | duplicate row hmem hunsaid =>
        exact recorded_step h.meaning honward (hunsaid.delivery_old hc (by simp [Change.isMessage, hpayload])) hpayload
      | fresh c' reply occurredAt hevent hsent hrows hdepth huuids hdraws =>
        rw [hrows, List.mem_append, List.mem_singleton] at hc
        rcases hc with hold | rfl
        · exact recorded_step h.meaning honward hold hpayload
        · rw [payload_of_sent hsent] at hpayload
          cases hpayload
  | turned i send send' d' hsend hturns hunsaid hheard =>
    have hmem := List.mem_of_getElem? hsend
    have hcertain : ∀ x ∈ s.sends.set i send', ∀ recipient outcome,
        (recipient, some outcome) ∈ x.answers → outcome.accepted = true := by
      intro x hx
      rcases mem_setSend hx with rfl | hold
      · exact hturns.certain (h.certain send hmem) (hsure.accepted hsend hturns hheard)
      · exact h.certain x hold
    exact ⟨hkept, hcertain, h.meaning.unsaid hkept hcertain hunsaid honward rfl⟩
  | unrecorded i send d' error hsend hprogress hunsaid =>
    have hmem := List.mem_of_getElem? hsend
    have hcertain : ∀ x ∈ s.sends.set i { send with progress := .settled false (.error error) }, ∀ recipient outcome,
        (recipient, some outcome) ∈ x.answers → outcome.accepted = true := by
      intro x hx
      rcases mem_setSend hx with rfl | hold
      · exact h.certain send hmem
      · exact h.certain x hold
    exact ⟨hkept, hcertain, h.meaning.unsaid hkept hcertain hunsaid honward rfl⟩
  | recorded i send d' jobs outcome hevent hsend hprogress hrecords hjobs =>
    have hmem := List.mem_of_getElem? hsend
    obtain ⟨hlt, -⟩ := List.getElem?_eq_some_iff.mp hsend
    have hsound := h.kept.sound send hmem
    have hnew : { send with progress := .settled true outcome } ∈
        s.sends.set i { send with progress := .settled true outcome } := List.mem_set hlt _
    have hcertain : ∀ x ∈ s.sends.set i { send with progress := .settled true outcome }, ∀ recipient outcome,
        (recipient, some outcome) ∈ x.answers → outcome.accepted = true := by
      intro x hx
      rcases mem_setSend hx with rfl | hold
      · exact h.certain send hmem
      · exact h.certain x hold
    refine ⟨hkept, hcertain, fun id r hdelivered => ?_, fun c hc id statuses delivered at' hpayload => ?_,
      fun x hx r outcome => refused_of_certain (hkept.sound x hx) (hcertain x hx), fun job hjob => ?_⟩
    · by_cases hid : id = send.messageId
      · have hfolded := hrecords.folded h.kept.delivery id
        rw [if_pos hid] at hfolded
        refine ⟨_, hnew, hid.symm, ?_⟩
        rcases hsound.delivered r (delivered_of_folded hfolded hdelivered) with hlogged | ⟨outcome, hlast⟩
        · exact .inl hlogged
        · have hanswer := Delivering.mem_answers hlast
          exact .inr ⟨outcome, hanswer, h.certain send hmem r outcome hanswer⟩
      · change foldedStatus d'.db.changes.rows id r = _ at hdelivered
        rw [foldedStatus, hrecords.folded h.kept.delivery id, if_neg hid] at hdelivered
        exact (h.meaning.delivered id r hdelivered).onward honward
    · cases hrecords with
      | mk row event c' delivered' occurredAt hrow hpayload' hrows hchannel hkeeps =>
        change c ∈ d'.db.changes.rows at hc
        rw [hrows, List.mem_append, List.mem_singleton] at hc
        rcases hc with hold | rfl
        · exact recorded_step h.meaning honward hold hpayload
        · cases hpayload.symm.trans hpayload'
          exact ⟨_, hnew, rfl, rfl, outcome, rfl⟩
    · rcases hjobs with rfl | ⟨new, at', hjob', henqueue⟩
      · exact jobs_step h.meaning honward hjob
      · rcases mem_enqueue henqueue hjob with hold | rfl
        · exact jobs_step h.meaning honward hold
        · obtain ⟨given, hlast⟩ := hsound.job_answered hjob'
          exact ⟨_, hnew, (Delivering.job_spec hjob').1.symm, ⟨outcome, rfl⟩, given, hlast,
            h.certain send hmem _ given (Delivering.mem_answers hlast)⟩

end

def bobRuntime : Runtime where
  runtimeId := "runtime-bob"
  homeAuthorityId := "home"
  sessionId := "bob"
  generation := 1
  state := .running
  machineId := "ship"
  providerThreadId := some "thread"
  effectiveCwd := none
  effectiveHome := none
  createdAt := "1"
  updatedAt := "1"
  endedAt := none
  exitReason := none

/-- A channel of the operator alice, who reads the log, with the worker bob in a claude runtime. -/
def manned : Daemon :=
  let setUp : Command MutationReceipt := do
    let _ ← insertSession { id := "alice", role := some .operator, deliveryMode := some .log }
    let _ ← insertSession { id := "bob", role := some .worker }
    let _ ← insertChannel "harbour" (some "alice")
    let _ ← insertMembership "harbour" "alice" (some .operator)
    insertMembership "harbour" "bob" (some .worker)
  { Daemon.initial (setUp (World.initial .empty tally tally)).2 with
    runtimes := Table.empty.put bobRuntime
    bindings := Table.empty.put ⟨"runtime-bob", "home", "bob", 1, some "harbour", "claude", none, "1"⟩ }

theorem manned_fresh : Fresh manned := ⟨rfl, tally_injective, by decide⟩

def aliceSignedIn : Caller := ⟨⟨[], some "alice"⟩, none⟩

/-- A direct message that may be sent again under the same key. -/
def sailingOrder : SendRequest where
  channelId := some "harbour"
  target := some ⟨some "direct", some "bob", none, some ["bob"]⟩
  body := "weigh anchor"
  correlation := some (.obj [("deduplicationKey", .str "order-1")])

def noTranscripts : Transcripts := ⟨fun _ _ _ => [], fun _ => none⟩

/-- Alice sends the order, and the host answers once. -/
def ordered (answer : HostAnswer) : List SendEvent :=
  [.send aliceSignedIn sailingOrder noTranscripts, .submit 0, .answer 0 answer, .submit 0]

end Wardroom.Runtime
