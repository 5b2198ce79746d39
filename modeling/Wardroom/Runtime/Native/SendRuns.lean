import Wardroom.Conversations.Authority
import Wardroom.Feeds.Statuses
import Wardroom.Library.Trace
import Wardroom.Runtime.Native.Sending

/-! # What a send does, step by step

A commit stores one message or finds an earlier one, an answer of a host touches
no message, and a record appends one delivery change. The statuses of a send
follow from what it found in the log and what the hosts answered.
-/

namespace Wardroom.Runtime
open Wardroom.Library Wardroom.Domain Wardroom.Storage Wardroom.Feeds Wardroom.Conversations Prog

section Journal

variable {d d' : Daemon}

theorem Unsaid.refl (d : Daemon) : Unsaid d d := ⟨rfl, rfl, le_rfl, [], (List.append_nil _).symm, fun _ hc => nomatch hc⟩

theorem Unsaid.of_keeps (hkeeps : Keeps d.store d'.store) (hdb : d'.db = d.db) : Unsaid d d' :=
  ⟨hkeeps.transactionDepth, hkeeps.uuids, hkeeps.draws, [], by rw [hdb, List.append_nil], fun _ hc => nomatch hc⟩

theorem emitLifecycle_unsaid (h : d.AtRest) (runtimeId : String) :
    wp (emitLifecycle runtimeId) (fun _ d' => Unsaid d d') (fun _ d' => Unsaid d d') d := by
  unfold emitLifecycle
  rw [wp_bind, wp_read]
  cases d.runtime runtimeId with
  | none => exact .refl d
  | some runtime =>
    cases (d.binding runtimeId).bind RuntimeBinding.channelId with
    | none => exact .refl d
    | some channelId =>
      simp only [wp_ite, wp_pure, wp_bind, wp_onStore]
      refine ⟨fun _ => .refl d, fun _ => ?_⟩
      have hsettles : Settles (recordRuntimeLifecycle channelId runtime.sessionId runtime.runtimeId
          runtime.generation runtime.state.text runtime.endedAt) d.store fun _ db' => QuietGrowth d.db db' := by
        refine write_settles rfl h (ensures_write fun n => ?_)
        simp only [Ensures, wp_bind, wp_database]
        refine ensures_appendChange (P := fun _ db' => QuietGrowth d.db db') ⟨rfl, rfl, rfl, le_rfl⟩
          fun _ => ⟨_, rfl, fun c hc => ?_⟩
        rw [List.mem_singleton.mp hc]
        rfl
      exact wp_mono hsettles
        (fun _ _ hpost => ⟨hpost.2.transactionDepth, hpost.2.uuids, hpost.2.draws, hpost.1⟩)
        fun _ _ hpost => .of_keeps hpost.2 hpost.1

theorem Unsaid.trans {d'' : Daemon} (h : Unsaid d d') (h' : Unsaid d' d'') : Unsaid d d'' := by
  obtain ⟨rows, hrows, hquiet⟩ := h.changes
  obtain ⟨rows', hrows', hquiet'⟩ := h'.changes
  refine ⟨h'.transactionDepth.trans h.transactionDepth, h'.uuids.trans h.uuids, h.draws.trans h'.draws,
    rows ++ rows', by rw [hrows', hrows, List.append_assoc], fun c hc => ?_⟩
  rcases List.mem_append.mp hc with hc | hc
  · exact hquiet c hc
  · exact hquiet' c hc

theorem markState_unsaid (h : d.AtRest) (runtimeId : String) (generation : Nat) (state : RuntimeState)
    (reason : Option String) :
    wp (markState runtimeId generation state reason) (fun _ d' => Unsaid d d') (fun _ d' => Unsaid d d') d := by
  unfold markState
  rw [wp_bind]
  refine wp_transaction (.refl d) ?_
  unfold requireRuntime
  simp only [wp_bind, wp_read]
  cases d.runtime runtimeId with
  | none => exact .refl d
  | some runtime =>
    simp only [wp_pure, wp_ite, wp_bind, wp_onStore, wp_now, wp_modify]
    refine ⟨fun _ => .refl d, fun _ => ?_⟩
    have hmarked (d₁ : Daemon) (hsame : Unsaid d d₁) :
        wp (emitLifecycle runtimeId) (fun _ d' => Unsaid d d') (fun _ d' => Unsaid d d') d₁ :=
      wp_mono (emitLifecycle_unsaid (hsame.transactionDepth.trans h) runtimeId) (fun _ _ hpost => hsame.trans hpost)
        fun _ _ hpost => hsame.trans hpost
    exact hmarked _ ⟨rfl, rfl, le_rfl, [], (List.append_nil _).symm, fun _ hc => (List.not_mem_nil hc).elim⟩

theorem hostAnswered_unsaid (h : d.AtRest) (runtime : Runtime) (answer : HostAnswer) :
    Unsaid d (hostAnswered runtime answer d).2 := by
  have hwp : wp (hostAnswered runtime answer) (fun _ d' => Unsaid d d') (fun _ d' => Unsaid d d') d := by
    cases answer with
    | acknowledged outcome => exact .refl d
    | failed error => exact .refl d
    | absent error =>
      unfold hostAnswered
      rw [wp_bind]
      exact wp_mono (markState_unsaid h _ _ _ _) (fun _ _ hpost => hpost) fun _ _ hpost => hpost
  rcases cases_of_wp hwp with ⟨_, _, hpost⟩ | ⟨_, _, hpost⟩ <;> exact hpost

theorem acknowledged_of_ok {runtime : Runtime} {answer : HostAnswer} {outcome : Host.DeliveryOutcome}
    (h : hostAnswered runtime answer d = (.ok outcome, d')) : answer = .acknowledged outcome := by
  cases answer with
  | acknowledged given =>
    cases h
    rfl
  | failed error => cases h
  | absent error =>
    rw [hostAnswered, bind_eq] at h
    generalize markState runtime.runtimeId runtime.generation .crashed (some "runtime host is absent") d = marked at h
    obtain ⟨result, d₁⟩ := marked
    cases result <;> cases h

theorem authorizeDelivery_same (d : Daemon) (runtimeId : String) (generation : Nat) (messageId : String)
    (actor : RuntimeActor) : (authorizeDelivery runtimeId generation messageId actor d).2 = d :=
  @frame_authorizeDelivery _ id runtimeId generation messageId actor d

/-- What a commit of the handler does: it finds an earlier message of the same key, or stores one
under the next id. -/
inductive Stores (d : Daemon) (input : CanonicalMessageCommitInput) (receipt : CommitReceipt) (d' : Daemon) : Prop
  | duplicate (row : Change) (hmem : (row, receipt.event) ∈ d.db.changes.sent) (hunsaid : Unsaid d d')
  | fresh (c : Change) (reply : ReplyMetadata) (occurredAt : String)
      (hevent : receipt.event = messageEvent input reply ("event_" ++ d.store.uuids d.store.draws) occurredAt)
      (hsent : c.sent? = some receipt.event) (hrows : d'.db.changes.rows = d.db.changes.rows ++ [c])
      (hdepth : d'.store.transactionDepth = d.store.transactionDepth) (huuids : d'.store.uuids = d.store.uuids)
      (hdraws : d.store.draws < d'.store.draws)

theorem mem_sent_of_prior {db : Database} {key : Option Json} {r : Change × Json}
    (h : priorMessage db key = .ok (some r)) : r ∈ db.changes.sent := by
  obtain ⟨_, -, -, hrow⟩ := deduplicationRow_of_prior h
  exact List.mem_of_find?_eq_some hrow

theorem commitMessage_stores (h : d.AtRest) (input : CanonicalMessageCommitInput) :
    wp (onStore (Application.commitMessage input)) (fun receipt d' => Stores d input receipt d')
      (fun _ d' => Unsaid d d') d := by
  have hkeeps := (Application.commitMessage_settles h input).keeps
  rw [wp_onStore]
  suffices hwp : wp (Application.commitMessage input)
      (fun receipt w' => Keeps d.store w' → Stores d input receipt { d with store := w' })
      (fun _ w' => Keeps d.store w' → w'.db = d.db) d.store by
    refine wp_of_cases (fun receipt w' hok => ?_) fun e w' herror => ?_
    · rw [hok] at hkeeps
      exact wp_of_ok hwp hok hkeeps
    · rw [herror] at hkeeps
      exact .of_keeps hkeeps (wp_of_error hwp herror hkeeps)
  by_cases himport : d.store.importSession = none
  · unfold Application.commitMessage command Storage.commitMessage
    simp only [wp_bind, wp_throwIf]
    refine ⟨fun _ _ => trivial, fun _ => ⟨fun _ _ => trivial, fun _ => ?_⟩⟩
    rw [wp_write_outermost _ h himport, wp_write_nested _ (Nat.succ_pos _)]
    simp only [wp_bind, wp_database, wp_throwIf, wp_ofExcept]
    refine ⟨fun _ _ => trivial, fun _ => ⟨fun reply hreply => ⟨fun prior hprior => ?_, fun _ _ _ => trivial⟩,
      fun _ _ _ => trivial⟩⟩
    rcases prior with _ | ⟨row, event⟩
    · simp only [wp_bind, wp_randomUUID, wp_now, wp_appendChange]
      refine ⟨fun _ => ?_, fun _ _ => trivial⟩
      split
      · refine fun hkeeps => .fresh _ reply _ rfl ?_ rfl hkeeps.transactionDepth hkeeps.uuids (Nat.lt_succ_self _)
        rfl
      · exact fun _ => trivial
    · exact fun hkeeps => .duplicate row (mem_sent_of_prior hprior) (.of_keeps hkeeps rfl)
  · unfold Application.commitMessage command
    simp only [wp_bind, wp_throwIf]
    refine ⟨fun _ _ => trivial, fun _ => ⟨fun _ _ => trivial, fun _ => ?_⟩⟩
    have hrefused := write_refused h (Option.isSome_iff_ne_none.mpr himport) (Storage.commitMessage input)
    refine wp_of_cases (fun _ _ hok => ?_) fun _ _ herror => ?_
    · cases hrefused.symm.trans hok
    · cases hrefused.symm.trans herror
      exact fun _ => rfl

theorem acceptSend_stores (h : d.AtRest) (caller : Caller) (request : SendRequest) :
    wp (acceptSend caller request)
      (fun accepted d' => planSend d caller request = .ok accepted.plan ∧
        Stores d (accepted.plan.commitInput request) accepted.receipt d')
      (fun _ d' => Unsaid d d') d := by
  unfold acceptSend
  rw [wp_bind, wp_read, wp_bind, wp_ofExcept]
  refine ⟨fun plan hplan => ?_, fun _ _ => .refl d⟩
  rw [wp_bind]
  exact wp_mono (commitMessage_stores h (plan.commitInput request)) (fun receipt d' hstores => ⟨hplan, hstores⟩)
    fun _ _ hunsaid => hunsaid

/-- What the record of a send does: one delivery change for its message. -/
inductive Records (d : Daemon) (messageId : String) (statuses : RecipientStatuses) (d' : Daemon) : Prop
  | mk (row : Change) (event : Json) (c : Change) (delivered : List String) (occurredAt : String)
      (hrow : d.db.messageRow messageId = some (row, event))
      (hpayload : c.payload = .messageDelivery messageId statuses delivered occurredAt)
      (hrows : d'.db.changes.rows = d.db.changes.rows ++ [c]) (hchannel : c.channelId = row.channelId)
      (hkeeps : Keeps d.store d'.store)

theorem appendMessageDelivery_records (h : d.AtRest) (messageId : String) (statuses : RecipientStatuses) :
    wp (onStore (appendMessageDelivery messageId statuses)) (fun _ d' => Records d messageId statuses d')
      (fun _ d' => Unsaid d d') d := by
  have hsettles : Settles (appendMessageDelivery messageId statuses) d.store
      fun _ db' => DeliveryGrows messageId statuses d.db db' :=
    write_settles rfl h (appendMessageDelivery_grows d.store messageId statuses)
  rw [wp_onStore]
  refine wp_mono hsettles (fun _ w' hpost => ?_) fun _ _ hpost => .of_keeps hpost.2 hpost.1
  obtain ⟨hgrows, hkeeps⟩ := hpost
  generalize hdb : w'.db = db' at hgrows
  cases hgrows with
  | mk row event delivered occurredAt at' hrow =>
    exact .mk row event
      ⟨d.db.changes.latestCursor + 1, row.channelId, .messageDelivery messageId statuses delivered occurredAt, at', none⟩
      delivered occurredAt hrow rfl (congrArg (fun db => db.changes.rows) hdb) rfl hkeeps

end Journal

theorem route_statuses {d : Daemon} {direct : Bool} {recipients : List String} {before after : Routing}
    (h : route d direct before recipients = .ok after) (r : String) :
    statusOf after.statuses r = statusOf before.statuses r ∧ r ∉ recipients ∨
      r ∈ recipients ∧ ∃ status, statusOf after.statuses r = some status ∧
        (status = .delivered ↔ d.db.logDelivered r = true) := by
  induction recipients generalizing before with
  | nil =>
    cases h
    exact .inl ⟨rfl, List.not_mem_nil⟩
  | cons recipient rest ih =>
    -- the turn of one recipient, whatever its status
    have hturn (status : DeliveryStatus) (runtimes : List (String × Runtime))
        (hstatus : status = .delivered ↔ d.db.logDelivered recipient = true)
        (hrest : route d direct ⟨putStatus before.statuses recipient status, runtimes⟩ rest = .ok after) :
        statusOf after.statuses r = statusOf before.statuses r ∧ r ∉ recipient :: rest ∨
          r ∈ recipient :: rest ∧ ∃ status, statusOf after.statuses r = some status ∧
            (status = .delivered ↔ d.db.logDelivered r = true) := by
      rcases ih hrest with ⟨hsame, hnot⟩ | ⟨hmem, hlater⟩
      · rw [statusOf_putStatus] at hsame
        by_cases hr : r = recipient
        · subst hr
          rw [if_pos rfl] at hsame
          exact .inr ⟨List.mem_cons_self, status, hsame, hstatus⟩
        · rw [if_neg hr] at hsame
          exact .inl ⟨hsame, fun hmem => hnot ((List.mem_cons.mp hmem).resolve_left hr)⟩
      · exact .inr ⟨List.mem_cons_of_mem _ hmem, hlater⟩
    rw [route] at h
    by_cases hlog : d.db.logDelivered recipient = true
    · rw [if_pos (by exact hlog)] at h
      exact hturn .delivered before.runtimes (iff_of_true rfl hlog) h
    · rw [if_neg (by exact hlog)] at h
      cases hruntime : d.deliveryRuntime recipient with
      | some runtime =>
        rw [hruntime] at h
        exact hturn .queued _ (iff_of_false (fun hs => nomatch hs) hlog) h
      | none =>
        rw [hruntime] at h
        dsimp only at h
        split_ifs at h
        exact hturn .undeliverable before.runtimes (iff_of_false (fun hs => nomatch hs) hlog) h

theorem route_runtimes {d : Daemon} {direct : Bool} {recipients : List String} {before after : Routing}
    (h : route d direct before recipients = .ok after)
    (hbefore : ∀ r ∈ before.runtimes, d.db.logDelivered r.1 = false) :
    ∀ r ∈ after.runtimes, d.db.logDelivered r.1 = false := by
  induction recipients generalizing before with
  | nil =>
    cases h
    exact hbefore
  | cons recipient rest ih =>
    rw [route] at h
    by_cases hlog : d.db.logDelivered recipient = true
    · rw [if_pos (by exact hlog)] at h
      exact ih h hbefore
    · rw [if_neg (by exact hlog)] at h
      cases hruntime : d.deliveryRuntime recipient with
      | some runtime =>
        rw [hruntime] at h
        refine ih h fun r hr => ?_
        rcases List.mem_cons.mp hr with rfl | hr
        · exact Bool.eq_false_iff.mpr hlog
        · exact hbefore r hr
      | none =>
        rw [hruntime] at h
        dsimp only at h
        split_ifs at h
        exact ih h hbefore

theorem route_of_plan {d : Daemon} {caller : Caller} {request : SendRequest} {plan : SendPlan}
    (h : planSend d caller request = .ok plan) :
    route d (plan.target.kind = some "direct") ⟨[], []⟩ plan.recipients = .ok plan.routing := by
  obtain ⟨_, -, h⟩ := ok_of_bind h
  obtain ⟨_, -, h⟩ := ok_of_bind h
  obtain ⟨_, -, h⟩ := ok_of_bind h
  obtain ⟨_, -, h⟩ := ok_of_bind h
  obtain ⟨_, hroute, h⟩ := ok_of_bind h
  cases h
  exact hroute

namespace Delivering

/-- What the host of a recipient answered last; nothing for a submission that failed. -/
def lastAnswer (send : Delivering) (recipient : String) : Option (Option Host.DeliveryOutcome) :=
  ((send.answers.filter fun a => a.1 = recipient).getLast?).map Prod.snd

/-- The recipients a send has not heard of. -/
def outstanding (send : Delivering) : List String :=
  match send.progress with
  | .submitting rest => rest
  | .awaiting recipient _ rest => recipient :: rest
  | .settled _ _ => []

/-- Every status has its reason. -/
structure Sound (send : Delivering) : Prop where
  listed : ∀ r status, statusOf send.statuses r = some status → r ∈ send.plan.recipients
  logged : ∀ r ∈ send.logged, statusOf send.statuses r = some .delivered ∧ send.runtime r = none
  answered : ∀ r outcome, send.lastAnswer r = some outcome →
    statusOf send.statuses r = some (if outcome.isSome then .delivered else .undeliverable)
  delivered : ∀ r, statusOf send.statuses r = some .delivered → r ∈ send.logged ∨ ∃ outcome, send.lastAnswer r = some (some outcome)
  outstanding : ∀ r ∈ send.outstanding, r ∈ send.plan.recipients
  awaiting : ∀ r runtime rest, send.progress = .awaiting r runtime rest → send.runtime r ≠ none

theorem start_sound {d : Daemon} {caller : Caller} {request : SendRequest} {accepted : AcceptedSend}
    (h : planSend d caller request = .ok accepted.plan) (transcripts : Transcripts) :
    (start d transcripts request accepted).Sound := by
  have hstatuses := route_statuses (route_of_plan h)
  have hruntimes := route_runtimes (route_of_plan h) fun _ hr => nomatch hr
  refine ⟨fun r status hstatus => ?_, fun r hr => ?_, (fun r outcome hlast => nomatch hlast), fun r hdelivered => ?_,
    fun r hr => hr, (fun r runtime rest hprogress => nomatch hprogress)⟩
  · rcases hstatuses r with ⟨hsame, -⟩ | ⟨hmem, -⟩
    · cases hsame.symm.trans hstatus
    · exact hmem
  · obtain ⟨hmem, hlog⟩ := List.mem_filter.mp hr
    refine ⟨?_, ?_⟩
    · rcases hstatuses r with ⟨-, hnot⟩ | ⟨-, status, hstatus, hiff⟩
      · exact absurd hmem hnot
      · exact hiff.mpr hlog ▸ hstatus
    · refine Option.map_eq_none_iff.mpr (List.find?_eq_none.mpr fun found hfound hsame => ?_)
      have hnone := hruntimes found hfound
      rw [of_decide_eq_true hsame, hlog] at hnone
      cases hnone
  · rcases hstatuses r with ⟨hsame, -⟩ | ⟨hmem, status, hstatus, hiff⟩
    · cases hsame.symm.trans hdelivered
    · cases hstatus.symm.trans hdelivered
      exact .inl (List.mem_filter.mpr ⟨hmem, hiff.mp rfl⟩)

variable {send : Delivering} {recipient : String} {outcome : Option Host.DeliveryOutcome} {rest : List String}

theorem lastAnswer_answered (r : String) :
    (send.answered recipient outcome rest).lastAnswer r = if r = recipient then some outcome else send.lastAnswer r := by
  unfold lastAnswer answered
  rw [List.filter_append]
  by_cases hr : r = recipient
  · subst hr
    rw [if_pos rfl, List.filter_cons_of_pos (by simp), List.filter_nil, List.getLast?_concat]
    rfl
  · rw [if_neg hr, List.filter_cons_of_neg (by simpa using Ne.symm hr), List.filter_nil, List.append_nil]

theorem Sound.answered_sound (h : send.Sound) (hruntime : send.runtime recipient ≠ none)
    (hmem : recipient ∈ send.plan.recipients) (hrest : ∀ r ∈ rest, r ∈ send.plan.recipients) :
    (send.answered recipient outcome rest).Sound := by
  have hstatus (r : String) : statusOf (send.answered recipient outcome rest).statuses r =
      if r = recipient then some (if outcome.isSome then .delivered else .undeliverable) else statusOf send.statuses r :=
    statusOf_putStatus _ _ _ _
  refine ⟨fun r status hr => ?_, fun r hr => ⟨?_, (h.logged r hr).2⟩, fun r outcome' hlast => ?_, fun r hdelivered => ?_,
    hrest, (fun _ _ _ hprogress => nomatch hprogress)⟩
  · by_cases hsame : r = recipient
    · exact hsame ▸ hmem
    · rw [hstatus, if_neg hsame] at hr
      exact h.listed r status hr
  · rw [hstatus, if_neg]
    · exact (h.logged r hr).1
    · rintro rfl
      exact hruntime (h.logged r hr).2
  · rw [lastAnswer_answered] at hlast
    rw [hstatus]
    by_cases hsame : r = recipient
    · rw [if_pos hsame] at hlast ⊢
      rw [Option.some.inj hlast]
    · rw [if_neg hsame] at hlast ⊢
      exact h.answered r outcome' hlast
  · rw [hstatus] at hdelivered
    rw [lastAnswer_answered]
    by_cases hsame : r = recipient
    · rw [if_pos hsame] at hdelivered ⊢
      cases outcome with
      | none => cases hdelivered
      | some outcome => exact .inr ⟨outcome, rfl⟩
    · rw [if_neg hsame] at hdelivered ⊢
      exact h.delivered r hdelivered

/-- Neither the statuses nor the answers moved. -/
theorem Sound.move (h : send.Sound) (progress : SendProgress)
    (houtstanding : ∀ r ∈ ({ send with progress := progress } : Delivering).outstanding, r ∈ send.outstanding)
    (hawaiting : ∀ r runtime rest, progress = .awaiting r runtime rest → send.runtime r ≠ none) :
    ({ send with progress := progress } : Delivering).Sound :=
  ⟨h.listed, h.logged, h.answered, h.delivered, fun r hr => h.outstanding r (houtstanding r hr), hawaiting⟩

theorem Sound.settle (h : send.Sound) (recorded : Bool) (outcome : Except Failure SendResponse) :
    ({ send with progress := .settled recorded outcome } : Delivering).Sound :=
  h.move _ (fun _ hr => nomatch hr) fun _ _ _ hbad => nomatch hbad

end Delivering

/-- What follows in one send when its turn comes or its host answers. -/
inductive Turns (send : Delivering) : Delivering → Prop
  | passed (recipient : String) (rest : List String) (hprogress : send.progress = .submitting (recipient :: rest)) :
      Turns send { send with progress := .submitting rest }
  | waits (recipient : String) (runtime : Runtime) (rest : List String)
      (hprogress : send.progress = .submitting (recipient :: rest)) (hruntime : send.runtime recipient ≠ none) :
      Turns send { send with progress := .awaiting recipient runtime rest }
  | refused (recipient : String) (rest : List String) (hprogress : send.progress = .submitting (recipient :: rest))
      (hruntime : send.runtime recipient ≠ none) : Turns send (send.answered recipient none rest)
  | answered (recipient : String) (runtime : Runtime) (rest : List String) (outcome : Option Host.DeliveryOutcome)
      (hprogress : send.progress = .awaiting recipient runtime rest) :
      Turns send (send.answered recipient outcome rest)

theorem Turns.sound {send send' : Delivering} (h : send.Sound) (hturns : Turns send send') : send'.Sound := by
  cases hturns with
  | passed recipient rest hprogress =>
    refine h.move _ (fun r hr => ?_) fun _ _ _ hbad => nomatch hbad
    rw [Delivering.outstanding, hprogress]
    exact List.mem_cons_of_mem _ hr
  | waits recipient runtime rest hprogress hruntime =>
    refine h.move _ (fun r hr => ?_) fun r runtime' rest' hawaiting => ?_
    · rw [Delivering.outstanding, hprogress]
      exact hr
    · cases hawaiting
      exact hruntime
  | refused recipient rest hprogress hruntime =>
    have hout := h.outstanding
    rw [Delivering.outstanding, hprogress] at hout
    exact h.answered_sound hruntime (hout _ List.mem_cons_self) fun r hr => hout r (List.mem_cons_of_mem _ hr)
  | answered recipient runtime rest outcome hprogress =>
    have hout := h.outstanding
    rw [Delivering.outstanding, hprogress] at hout
    exact h.answered_sound (h.awaiting _ _ _ hprogress) (hout _ List.mem_cons_self)
      fun r hr => hout r (List.mem_cons_of_mem _ hr)

/-- What one event of a run does. -/
inductive Moves (s : Sends) (e : SendEvent) : Sends → Prop
  | unsaid (d' : Daemon) (hunsaid : Unsaid s.daemon d') : Moves s e { s with daemon := d' }
  | accepted (d' : Daemon) (caller : Caller) (request : SendRequest) (transcripts : Transcripts)
      (accepted : AcceptedSend) (hplan : planSend s.daemon caller request = .ok accepted.plan)
      (hstores : Stores s.daemon (accepted.plan.commitInput request) accepted.receipt d') :
      Moves s e { s with daemon := d', sends := s.sends ++ [.start s.daemon transcripts request accepted] }
  | turned (i : Nat) (send send' : Delivering) (d' : Daemon) (hsend : s.sends[i]? = some send)
      (hturns : Turns send send') (hunsaid : Unsaid s.daemon d')
      (hheard : ∀ recipient outcome, send'.answers = send.answers ++ [(recipient, some outcome)] →
        e = .answer i (.acknowledged outcome)) :
      Moves s e ({ s with daemon := d' }.setSend i send')
  | unrecorded (i : Nat) (send : Delivering) (d' : Daemon) (error : Failure) (hsend : s.sends[i]? = some send)
      (hprogress : send.progress = .submitting []) (hunsaid : Unsaid s.daemon d') :
      Moves s e ({ s with daemon := d' }.setSend i { send with progress := .settled false (.error error) })
  | recorded (i : Nat) (send : Delivering) (d' : Daemon) (jobs : Jobs) (outcome : Except Failure SendResponse)
      (hevent : e = .submit i) (hsend : s.sends[i]? = some send) (hprogress : send.progress = .submitting [])
      (hrecords : Records s.daemon send.messageId send.statuses d')
      (hjobs : jobs = s.jobs ∨ ∃ job at', send.job at' = some job ∧ enqueue d' s.jobs job = .ok jobs) :
      Moves s e ({ s with daemon := d', jobs := jobs }.setSend i { send with progress := .settled true outcome })

namespace Sends

variable {s : Sends} {e : SendEvent} {i : Nat} {send : Delivering}

theorem accept_moves (h : s.daemon.AtRest) (caller : Caller) (request : SendRequest) (transcripts : Transcripts) :
    Moves s e (s.accept caller request transcripts) := by
  have hspec := acceptSend_stores h caller request
  unfold accept
  rcases hrun : acceptSend caller request s.daemon with ⟨result, d'⟩
  cases result with
  | error error => exact .unsaid d' (wp_of_error (E := fun _ d' => Unsaid s.daemon d') hspec hrun)
  | ok accepted =>
    obtain ⟨hplan, hstores⟩ := wp_of_ok hspec hrun
    exact .accepted d' caller request transcripts accepted hplan hstores

theorem record_moves (h : s.daemon.AtRest) (hevent : e = .submit i) (hsend : s.sends[i]? = some send)
    (hprogress : send.progress = .submitting []) : Moves s e (s.record i send) := by
  have hspec := appendMessageDelivery_records h send.messageId send.statuses
  unfold record
  rcases hrun : onStore (appendMessageDelivery send.messageId send.statuses) s.daemon with ⟨result, d'⟩
  cases result with
  | error error =>
    exact .unrecorded i send d' error hsend hprogress (wp_of_error (E := fun _ d' => Unsaid s.daemon d') hspec hrun)
  | ok _ =>
    have hrecords := wp_of_ok hspec hrun
    dsimp only
    cases hjob : send.job (d'.store.clock d'.store.ticks) with
    | none => exact .recorded i send d' s.jobs _ hevent hsend hprogress hrecords (.inl rfl)
    | some job =>
      dsimp only
      cases henqueue : enqueue d' s.jobs job with
      | error error => exact .recorded i send d' s.jobs _ hevent hsend hprogress hrecords (.inl rfl)
      | ok jobs => exact .recorded i send d' jobs _ hevent hsend hprogress hrecords (.inr ⟨job, _, hjob, henqueue⟩)

theorem submit_moves (h : s.daemon.AtRest) (hevent : e = .submit i) (hsend : s.sends[i]? = some send) :
    Moves s e (s.submit i send) := by
  have hsilent (recipient : String) (outcome : Host.DeliveryOutcome)
      (hanswers : send.answers = send.answers ++ [(recipient, some outcome)]) : e = .answer i (.acknowledged outcome) :=
    absurd hanswers (by simp)
  unfold submit
  cases hprogress : send.progress with
  | settled recorded outcome => exact .unsaid s.daemon (.refl _)
  | awaiting recipient runtime rest => exact .unsaid s.daemon (.refl _)
  | submitting rest =>
    cases rest with
    | nil => exact record_moves h hevent hsend hprogress
    | cons recipient rest =>
      dsimp only
      cases hruntime : send.runtime recipient with
      | none => exact .turned i send _ s.daemon hsend (.passed recipient rest hprogress) (.refl _) hsilent
      | some runtime =>
        dsimp only
        have hsome : send.runtime recipient ≠ none := by rw [hruntime]; exact fun hbad => nomatch hbad
        have hsame := authorizeDelivery_same s.daemon runtime.runtimeId runtime.generation send.messageId send.plan.actor
        rcases hrun : authorizeDelivery runtime.runtimeId runtime.generation send.messageId send.plan.actor s.daemon
          with ⟨result, d'⟩
        rw [hrun] at hsame
        subst hsame
        cases result with
        | error error =>
          refine .turned i send _ s.daemon hsend (.refused recipient rest hprogress hsome) (.refl _)
            fun r outcome hanswers => ?_
          have hlast := (List.append_cancel_left hanswers)
          cases hlast
        | ok runtime => exact .turned i send _ s.daemon hsend (.waits recipient runtime rest hprogress hsome) (.refl _) hsilent

theorem answer_moves (h : s.daemon.AtRest) {hostAnswer : HostAnswer} (hevent : e = .answer i hostAnswer)
    (hsend : s.sends[i]? = some send) : Moves s e (s.answer i send hostAnswer) := by
  unfold answer
  cases hprogress : send.progress with
  | settled recorded outcome => exact .unsaid s.daemon (.refl _)
  | submitting rest => exact .unsaid s.daemon (.refl _)
  | awaiting recipient runtime rest =>
    dsimp only
    have hunsaid := hostAnswered_unsaid h runtime hostAnswer
    rcases hrun : hostAnswered runtime hostAnswer s.daemon with ⟨result, d'⟩
    rw [hrun] at hunsaid
    cases result with
    | error error =>
      refine .turned i send _ d' hsend (.answered recipient runtime rest none hprogress) hunsaid
        fun r outcome hanswers => ?_
      cases List.append_cancel_left hanswers
    | ok outcome =>
      refine .turned i send _ d' hsend (.answered recipient runtime rest (some outcome) hprogress) hunsaid
        fun r outcome' hanswers => ?_
      cases List.append_cancel_left hanswers
      rw [hevent, acknowledged_of_ok hrun]

theorem step_moves (h : s.daemon.AtRest) (e : SendEvent) : Moves s e (s.step e) := by
  cases e with
  | send caller request transcripts => exact accept_moves h caller request transcripts
  | lead caller request channelId transcripts =>
    rw [step]
    cases hlead : leadSend s.daemon caller request channelId with
    | none => exact .unsaid s.daemon (.refl _)
    | some request => exact accept_moves h caller request transcripts
  | submit i =>
    rw [step]
    cases hsend : s.sends[i]? with
    | none => exact .unsaid s.daemon (.refl _)
    | some send => exact submit_moves h rfl hsend
  | answer i hostAnswer =>
    rw [step]
    cases hsend : s.sends[i]? with
    | none => exact .unsaid s.daemon (.refl _)
    | some send => exact answer_moves h rfl hsend
  | other meanwhile => exact .unsaid _ (meanwhile.unsaid _)

end Sends

/-- A send goes on: its message, its log recipients and its answers stay, and once settled it rests. -/
structure Onward (send send' : Delivering) : Prop where
  accepted : send'.accepted = send.accepted
  logged : send'.logged = send.logged
  answers : send.answers <+: send'.answers
  settled : ∀ recorded outcome, send.progress = .settled recorded outcome → send' = send

theorem Onward.refl (send : Delivering) : Onward send send := ⟨rfl, rfl, List.prefix_rfl, fun _ _ _ => rfl⟩

theorem Turns.onward {send send' : Delivering} (h : Turns send send') : Onward send send' := by
  have hturned {progress : SendProgress} (hprogress : send.progress = progress)
      (hbusy : ∀ recorded outcome, progress ≠ .settled recorded outcome) (recorded : Bool)
      (outcome : Except Failure SendResponse) (hsettled : send.progress = .settled recorded outcome) : send' = send :=
    absurd (hprogress.symm.trans hsettled) (hbusy recorded outcome)
  cases h with
  | passed recipient rest hprogress =>
    exact ⟨rfl, rfl, List.prefix_rfl, hturned hprogress fun _ _ hbad => nomatch hbad⟩
  | waits recipient runtime rest hprogress hruntime =>
    exact ⟨rfl, rfl, List.prefix_rfl, hturned hprogress fun _ _ hbad => nomatch hbad⟩
  | refused recipient rest hprogress hruntime =>
    exact ⟨rfl, rfl, List.prefix_append _ _, hturned hprogress fun _ _ hbad => nomatch hbad⟩
  | answered recipient runtime rest outcome hprogress =>
    exact ⟨rfl, rfl, List.prefix_append _ _, hturned hprogress fun _ _ hbad => nomatch hbad⟩

theorem Onward.settle {send : Delivering} (hprogress : send.progress = .submitting []) (recorded : Bool)
    (outcome : Except Failure SendResponse) : Onward send { send with progress := .settled recorded outcome } :=
  ⟨rfl, rfl, List.prefix_rfl, fun _ _ hsettled => nomatch hprogress.symm.trans hsettled⟩

section Set

variable {sends : List Delivering} {i : Nat} {send send' : Delivering}

theorem onward_set (hsend : sends[i]? = some send) (h : Onward send send') :
    ∀ x ∈ sends, ∃ x' ∈ sends.set i send', Onward x x' := by
  intro x hx
  obtain ⟨j, hj⟩ := List.mem_iff_getElem?.mp hx
  by_cases hij : i = j
  · subst hij
    cases hj.symm.trans hsend
    obtain ⟨hlt, -⟩ := List.getElem?_eq_some_iff.mp hsend
    exact ⟨send', List.mem_set hlt send', h⟩
  · exact ⟨x, List.mem_iff_getElem?.mpr ⟨j, by rw [List.getElem?_set_ne hij, hj]⟩, .refl x⟩

end Set

theorem Moves.onward {s s' : Sends} {e : SendEvent} (h : Moves s e s') :
    ∀ send ∈ s.sends, ∃ send' ∈ s'.sends, Onward send send' := by
  cases h with
  | unsaid d' hunsaid => exact fun send hsend => ⟨send, hsend, .refl send⟩
  | accepted d' caller request transcripts accepted hplan hstores =>
    exact fun send hsend => ⟨send, List.mem_append_left _ hsend, .refl send⟩
  | turned i send send' d' hsend hturns hunsaid hheard => exact onward_set hsend hturns.onward
  | unrecorded i send d' error hsend hprogress hunsaid => exact onward_set hsend (.settle hprogress _ _)
  | recorded i send d' jobs outcome hevent hsend hprogress hrecords hjobs =>
    exact onward_set hsend (.settle hprogress _ _)

/-- Every send has its message in the store, and every status its reason. -/
structure SendsKept (s : Sends) : Prop where
  delivery : DeliveryInvariant s.daemon.store
  stored : ∀ send ∈ s.sends, ∃ r ∈ s.daemon.db.changes.sent, r.2 = send.event
  sound : ∀ send ∈ s.sends, send.Sound

section Kept

variable {s s' : Sends} {e : SendEvent} {d d' : Daemon}

theorem sent_of_quiet {rows extra : List Change} (h : ∀ c ∈ extra, Change.isMessage c = false) :
    sentOf (rows ++ extra) = sentOf rows := by
  have hnone : sentOf extra = [] := by
    refine List.eq_nil_iff_forall_not_mem.mpr fun r hr => ?_
    obtain ⟨hmem, hsent⟩ := mem_sentOf.mp hr
    have hmessage := isMessage_of_sent hsent
    rw [h _ hmem] at hmessage
    cases hmessage
  rw [sentOf_append, hnone, List.append_nil]

theorem Unsaid.sent (h : Unsaid d d') : d'.db.changes.sent = d.db.changes.sent := by
  obtain ⟨rows, hrows, hquiet⟩ := h.changes
  change sentOf _ = sentOf _
  rw [hrows, sent_of_quiet hquiet]

theorem Unsaid.foldedStatuses (h : Unsaid d d') (id : String) :
    Feeds.foldedStatuses d'.db.changes.rows id = Feeds.foldedStatuses d.db.changes.rows id := by
  obtain ⟨rows, hrows, hquiet⟩ := h.changes
  rw [hrows, foldedStatuses_append_quiet hquiet]

theorem Unsaid.delivery (h : Unsaid d d') (hd : DeliveryInvariant d.store) : DeliveryInvariant d'.store := by
  obtain ⟨rows, hrows, hquiet⟩ := h.changes
  refine ⟨h.transactionDepth.trans hd.transactionDepth, h.uuids ▸ hd.injective, ?_, fun r hr => ?_⟩
  · rw [hrows]
    clear hrows
    induction rows using List.reverseRecOn with
    | nil => rw [List.append_nil]; exact hd.log
    | append_singleton rows c ih =>
      rw [← List.append_assoc]
      exact .other c (hquiet c (List.mem_append_right _ List.mem_cons_self))
        (ih fun d hd => hquiet d (List.mem_append_left _ hd))
  · obtain ⟨k, hk, hid⟩ := hd.drawn r (h.sent ▸ hr)
    exact ⟨k, hk.trans_le h.draws, h.uuids ▸ hid⟩

theorem id_of_stored (hd : DeliveryInvariant d.store) {r : Change × Json} (hr : r ∈ d.db.changes.sent) :
    r.2.member "id" = some (.str (eventId r.2)) := by
  obtain ⟨k, -, hid⟩ := hd.drawn r hr
  rw [eventId, hid]
  rfl

/-- The next id of the source is not the id of a stored message. -/
theorem fresh_id (hd : DeliveryInvariant d.store) :
    ∀ r ∈ sentOf d.db.changes.rows, r.2.member "id" ≠ some (.str ("event_" ++ d.store.uuids d.store.draws)) := by
  intro r hr hsame
  obtain ⟨k, hk, hid⟩ := hd.drawn r hr
  rw [hid] at hsame
  exact absurd (hd.injective (eventId_injective (Json.str.inj (Option.some.inj hsame)))) hk.ne

theorem Stores.delivery {input : CanonicalMessageCommitInput} {receipt : CommitReceipt} (h : Stores d input receipt d')
    (hd : DeliveryInvariant d.store) :
    DeliveryInvariant d'.store ∧ (∀ r ∈ d.db.changes.sent, r ∈ d'.db.changes.sent) ∧
      ∃ r ∈ d'.db.changes.sent, r.2 = receipt.event := by
  cases h with
  | duplicate row hmem hunsaid =>
    rw [hunsaid.sent]
    exact ⟨hunsaid.delivery hd, fun r hr => hr, _, hmem, rfl⟩
  | fresh c reply occurredAt hevent hsent hrows hdepth huuids hdraws =>
    have hsentOf : d'.db.changes.sent = d.db.changes.sent ++ [(c, receipt.event)] := by
      change sentOf _ = sentOf _ ++ _
      rw [hrows, sentOf_append_some hsent]
    have hid : receipt.event.member "id" = some (.str ("event_" ++ d.store.uuids d.store.draws)) := by
      rw [hevent, messageEvent_id]
    refine ⟨⟨hdepth.trans hd.transactionDepth, huuids ▸ hd.injective, ?_, fun r hr => ?_⟩,
      fun r hr => by rw [hsentOf]; exact List.mem_append_left _ hr,
      (c, receipt.event), by rw [hsentOf]; exact List.mem_append_right _ List.mem_cons_self, rfl⟩
    · rw [hrows]
      refine .message c receipt.event (.arr ((messageDelivered input).map Json.ofOption)) _ hsent hid
        (eventId_named _) ?_ rfl (fresh_id hd) hd.log
      rw [hevent, messageEvent_deliveredRecipientSessionIds]
    · rw [hsentOf, List.mem_append, List.mem_singleton] at hr
      rw [huuids]
      rcases hr with hr | rfl
      · obtain ⟨k, hk, hid'⟩ := hd.drawn r hr
        exact ⟨k, hk.trans hdraws, hid'⟩
      · exact ⟨d.store.draws, hdraws, hid⟩

theorem row_of_id (hd : DeliveryInvariant d.store) {messageId : String} {row : Change} {event : Json}
    (h : d.db.messageRow messageId = some (row, event)) :
    (row, event) ∈ d.db.changes.sent ∧ event.member "id" = some (.str messageId) := by
  have hmem : (row, event) ∈ d.db.changes.sent := List.mem_of_find?_eq_some h
  have hfound := List.find?_some h
  have hid := id_of_stored hd hmem
  rw [decide_eq_true_eq, hid] at hfound
  rw [hid]
  exact ⟨hmem, congrArg (fun text => some (Json.str text)) (Option.some.inj hfound)⟩

variable {messageId : String} {statuses : RecipientStatuses}

theorem Records.sent (h : Records d messageId statuses d') : d'.db.changes.sent = d.db.changes.sent := by
  cases h with
  | mk row event c delivered occurredAt hrow hpayload hrows hchannel hkeeps =>
    change sentOf _ = sentOf _
    rw [hrows, sentOf_append_none (by simp [Change.sent?, hpayload])]

theorem Records.delivery (h : Records d messageId statuses d') (hd : DeliveryInvariant d.store) :
    DeliveryInvariant d'.store := by
  have hsent := h.sent
  cases h with
  | mk row event c delivered occurredAt hrow hpayload hrows hchannel hkeeps =>
    obtain ⟨hmem, hid⟩ := row_of_id hd hrow
    refine ⟨hkeeps.transactionDepth.trans hd.transactionDepth, hkeeps.uuids ▸ hd.injective, ?_, fun r hr => ?_⟩
    · rw [hrows]
      exact .delivery c (row, event) messageId statuses delivered occurredAt hpayload hmem hid hchannel hd.log
    · obtain ⟨k, hk, hid⟩ := hd.drawn r (hsent ▸ hr)
      exact ⟨k, hk.trans_le hkeeps.draws, hkeeps.uuids ▸ hid⟩

/-- A fresh message is reported as its plan has it. -/
theorem Stores.folded {input : CanonicalMessageCommitInput} {receipt : CommitReceipt} (h : Stores d input receipt d')
    (hd : DeliveryInvariant d.store) (id : String) :
    Feeds.foldedStatuses d'.db.changes.rows id = Feeds.foldedStatuses d.db.changes.rows id ∨
      id = eventId receipt.event ∧ Feeds.foldedStatuses d.db.changes.rows id = none ∧
        Feeds.foldedStatuses d'.db.changes.rows id = some (statusesToJson (messageStatuses input)) ∧
        ∃ reply id' occurredAt, receipt.event = messageEvent input reply id' occurredAt := by
  cases h with
  | duplicate row hmem hunsaid => exact .inl (hunsaid.foldedStatuses id)
  | fresh c reply occurredAt hevent hsent hrows hdepth huuids hdraws =>
    have hid : receipt.event.member "id" = some (.str ("event_" ++ d.store.uuids d.store.draws)) := by
      rw [hevent, messageEvent_id]
    rw [hrows, foldedStatuses_append_sent hd.log hsent hid (fresh_id hd)]
    by_cases hsame : id = "event_" ++ d.store.uuids d.store.draws
    · refine .inr ⟨?_, ?_, ?_, reply, _, occurredAt, hevent⟩
      · rw [eventId, hid]
        exact hsame
      · cases hold : Feeds.foldedStatuses d.db.changes.rows id with
        | none => rfl
        | some statuses =>
          obtain ⟨r, hr, hid'⟩ := sent_of_foldedStatuses hd.log hold
          exact absurd (hsame ▸ hid') (fresh_id hd r hr)
      · rw [if_pos hsame, hevent, messageEvent_recipientStatuses]
    · exact .inl (if_neg hsame)

/-- A record is what is reported from then on. -/
theorem Records.folded (h : Records d messageId statuses d') (hd : DeliveryInvariant d.store) (id : String) :
    Feeds.foldedStatuses d'.db.changes.rows id =
      if id = messageId then some (statusesToJson statuses) else Feeds.foldedStatuses d.db.changes.rows id := by
  cases h with
  | mk row event c delivered occurredAt hrow hpayload hrows hchannel hkeeps =>
    obtain ⟨hmem, hid⟩ := row_of_id hd hrow
    rw [hrows, foldedStatuses_append_delivery hd.log hpayload hmem hid]

end Kept

theorem mem_setSend {sends : List Delivering} {i : Nat} {send x : Delivering} (h : x ∈ sends.set i send) :
    x = send ∨ x ∈ sends := (List.mem_or_eq_of_mem_set h).symm

theorem SendsKept.step {s s' : Sends} {e : SendEvent} (h : SendsKept s) (hmoves : Moves s e s') : SendsKept s' := by
  cases hmoves with
  | unsaid d' hunsaid => exact ⟨hunsaid.delivery h.delivery, fun send hsend => hunsaid.sent ▸ h.stored send hsend, h.sound⟩
  | accepted d' caller request transcripts accepted hplan hstores =>
    obtain ⟨hdelivery, hkept, hstored⟩ := hstores.delivery h.delivery
    refine ⟨hdelivery, fun send hsend => ?_, fun send hsend => ?_⟩
    · rcases List.mem_append.mp hsend with hold | hnew
      · obtain ⟨r, hr, hevent⟩ := h.stored send hold
        exact ⟨r, hkept r hr, hevent⟩
      · rw [List.mem_singleton.mp hnew]
        exact hstored
    · rcases List.mem_append.mp hsend with hold | hnew
      · exact h.sound send hold
      · rw [List.mem_singleton.mp hnew]
        exact Delivering.start_sound hplan transcripts
  | turned i send send' d' hsend hturns hunsaid hheard =>
    have hmem := List.mem_of_getElem? hsend
    refine ⟨hunsaid.delivery h.delivery, fun x hx => hunsaid.sent ▸ ?_, fun x hx => ?_⟩
    · rcases mem_setSend hx with rfl | hold
      · obtain ⟨r, hr, hevent⟩ := h.stored send hmem
        exact ⟨r, hr, hevent.trans (congrArg (fun a => a.receipt.event) hturns.onward.accepted.symm)⟩
      · exact h.stored x hold
    · rcases mem_setSend hx with rfl | hold
      · exact hturns.sound (h.sound send hmem)
      · exact h.sound x hold
  | unrecorded i send d' error hsend hprogress hunsaid =>
    have hmem := List.mem_of_getElem? hsend
    refine ⟨hunsaid.delivery h.delivery, fun x hx => hunsaid.sent ▸ ?_, fun x hx => ?_⟩
    · rcases mem_setSend hx with rfl | hold
      · exact h.stored send hmem
      · exact h.stored x hold
    · rcases mem_setSend hx with rfl | hold
      · exact (h.sound send hmem).settle _ _
      · exact h.sound x hold
  | recorded i send d' jobs outcome hevent hsend hprogress hrecords hjobs =>
    have hmem := List.mem_of_getElem? hsend
    refine ⟨hrecords.delivery h.delivery, fun x hx => hrecords.sent ▸ ?_, fun x hx => ?_⟩
    · rcases mem_setSend hx with rfl | hold
      · exact h.stored send hmem
      · exact h.stored x hold
    · rcases mem_setSend hx with rfl | hold
      · exact (h.sound send hmem).settle _ _
      · exact h.sound x hold

/-- A daemon at rest, before its first message, with a source of distinct ids. -/
structure Fresh (d : Daemon) : Prop where
  atRest : d.AtRest
  ids : Function.Injective d.store.uuids
  quiet : ∀ c ∈ d.db.changes.rows, Change.isMessage c = false

theorem Fresh.sendsKept {d : Daemon} (h : Fresh d) : SendsKept (.initial d) := by
  refine ⟨⟨h.atRest, h.ids, deliveryLog_of_quiet h.quiet, fun r hr => ?_⟩, (fun _ hsend => nomatch hsend),
    fun _ hsend => nomatch hsend⟩
  obtain ⟨hmem, hsent⟩ := mem_sentOf.mp hr
  have hmessage := isMessage_of_sent hsent
  rw [h.quiet _ hmem] at hmessage
  cases hmessage

theorem Fresh.foldedStatuses {d : Daemon} (h : Fresh d) (id : String) :
    Feeds.foldedStatuses d.db.changes.rows id = none := by
  have hnone : Feeds.foldedStatuses ([] ++ d.db.changes.rows) id = Feeds.foldedStatuses [] id :=
    foldedStatuses_append_quiet h.quiet id
  rwa [List.nil_append] at hnone

end Wardroom.Runtime
