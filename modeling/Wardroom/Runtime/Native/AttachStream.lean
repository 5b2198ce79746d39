import Wardroom.Runtime.Host.Client
import Wardroom.Library.Base64

/-! # The stream of an attachment

The listeners of a host client fill the queue of a generator while it is still
awaiting the client's hello. All frames of a chunk are dispatched before what
awaits their promises goes on, so that only the frames of later chunks are sure
to be queued behind the hello.
-/

namespace Wardroom.Runtime.Native
open Wardroom.Library Wardroom.Runtime.Host

inductive StreamItem where
  | hello (replayFrom head : String) (gap : Bool)
  | output (cursor : String) (bytes : JsString)
  | exit (code : Int)
  | error (reason : HostRejection)
  deriving DecidableEq

namespace StreamItem

def ofHello (hello : HostHelloAck) : StreamItem := .hello (toString hello.replayFrom) (toString hello.head) hello.gap

def ofOutput (value : HostOutput) : StreamItem := .output (toString value.cursor) (Base64.encode value.bytes)

/-- What `onOutput`, `onExit` and `onError` push. -/
def ofEmission : Emission → Option StreamItem
  | .output value => some (ofOutput value)
  | .exit code => some (.exit code)
  | .error reason => some (.error reason)
  | .close => none

def isHello : StreamItem → Bool
  | .hello _ _ _ => true
  | _ => false

def isExit : StreamItem → Bool
  | .exit _ => true
  | _ => false

def isClosing : StreamItem → Bool
  | .exit _ => true
  | .error _ => true
  | _ => false

end StreamItem

/-- What the host has written so far: nothing but refusals, output up to a cursor, or the exit. -/
inductive HostTurn where
  | silent
  | producing (cursor : Nat)
  | exited
  deriving DecidableEq

/-- The host acknowledges, then writes output from its replay start on, then the exit; it answers in between. -/
def HostTurn.follow (turn : HostTurn) (frame : HostFrame) : Option HostTurn :=
  if frame.type = HostType.output then
    match turn, decodeOutput frame.payload with
    | .producing cursor, .ok value => if value.cursor = cursor then some (.producing (cursor + value.bytes.length)) else none
    | _, _ => none
  else if frame.type = HostType.exit then
    match turn with
    | .producing _ => some .exited
    | _ => none
  else
    match turn with
    | .silent =>
      if frame.type = HostType.helloAck then
        match decodeHelloAck frame.payload with
        | .ok hello => some (.producing hello.replayFrom)
        | .error _ => some .silent
      else some .silent
    | turn => some turn

def HostTurn.followAll (turn : HostTurn) (frames : List HostFrame) : Option HostTurn := frames.foldlM HostTurn.follow turn

/-- Where the body of the generator is: it awaits the socket, it awaits the hello, it is in its loop, its loop has
ended, its consumer has left, or it has thrown. -/
inductive StreamPhase where
  | connecting
  | attaching
  | streaming
  | done
  | abandoned
  | threw
  deriving DecidableEq

/-- Whether the hello has been pushed. -/
def StreamPhase.attached : StreamPhase → Bool
  | .streaming => true
  | .done => true
  | .abandoned => true
  | _ => false

/-- `broken` is a socket that has failed; `pulls` are the calls of `next` that wait, and `stopping` a call of
`return` behind them. -/
structure AttachStream where
  link : HostLink
  turn : HostTurn
  broken : Bool
  phase : StreamPhase
  queue : List StreamItem
  closed : Bool
  pulls : Nat
  stopping : Bool
  yielded : List StreamItem
  deriving DecidableEq

inductive StreamEvent where
  | connected
  | connectFailed
  /-- The host answers the HELLO or a renewal. -/
  | answer (frame : HostFrame)
  | write (frame : HostFrame)
  | arrive (n : Nat)
  | renew
  | timeOut (requestId : Nat)
  | socketError (message : String)
  | socketClosed
  /-- The attachment is detached by another request. -/
  | detach
  /-- The consumer's own connection closes; the detaching may throw before it has closed the client. -/
  | connectionClosed (detaches : Bool)
  | pull
  | stop

namespace AttachStream

/-- The listeners push what the client emits. -/
def hear (s : AttachStream) (link : HostLink) : AttachStream :=
  let emissions := link.client.emitted.drop s.link.client.emitted.length
  { s with
    link := link
    queue := s.queue ++ emissions.filterMap StreamItem.ofEmission
    closed := s.closed || emissions.contains .close }

/-- What has become of the HELLO. -/
def connection (c : RuntimeHostClient) : Option Settlement :=
  (c.settled.find? fun entry => entry.1.kind = .connect).map Prod.snd

/-- `attachInteractive` returns or throws when the HELLO is settled. -/
def resume (s : AttachStream) : AttachStream :=
  if s.phase = .attaching then
    match connection s.link.client with
    | none => s
    | some (.rejected _) => { s with phase := .threw }
    | some (.resolved value) =>
      match decodeHelloAck value.payload with
      | .error _ => { s with phase := .threw }
      | .ok hello => { s with phase := .streaming, queue := s.queue ++ [.ofHello hello] }
  else s

/-- The loop: each call of `next` takes an item, or waits for one, or ends a loop that is closed. -/
def serve (s : AttachStream) : AttachStream :=
  if s.phase = .streaming then
    let served := min s.pulls s.queue.length
    { s with
      yielded := s.yielded ++ s.queue.take served
      queue := s.queue.drop served
      pulls := s.pulls - served
      phase :=
        if s.closed && s.queue.length < s.pulls then .done
        else if s.stopping && s.pulls ≤ s.queue.length then .abandoned
        else .streaming }
  else s

/-- The link takes a step, and what awaits it goes on. -/
def follow (s : AttachStream) (link : HostLink) : AttachStream := (s.hear link).resume.serve

def started (s : AttachStream) : Bool := s.phase = .attaching || s.phase = .streaming

def step (s : AttachStream) : StreamEvent → AttachStream
  | .connected =>
    if s.phase = .connecting then { s with phase := .attaching, link := s.link.step .connect } else s
  | .connectFailed => if s.phase = .connecting then { s with phase := .threw } else s
  | .pull =>
    if s.phase.attached && s.phase ≠ .streaming || s.stopping then s else serve { s with pulls := s.pulls + 1 }
  | .stop => if s.phase.attached && s.phase ≠ .streaming then s else serve { s with stopping := true }
  | event =>
    if !s.started then s
    else match event with
      | .answer frame =>
        if s.link.unanswered = [] then s
        else follow { s with turn := (s.turn.follow frame).getD s.turn } (s.link.step (.answer frame))
      | .write frame => follow { s with turn := (s.turn.follow frame).getD s.turn } (s.link.step (.write frame))
      | .arrive n => if s.broken then s else s.follow (s.link.step (.arrive n))
      | .renew => s.follow (s.link.step .renew)
      | .timeOut requestId => s.follow (s.link.step (.timeOut requestId))
      | .socketError message =>
        follow { s with broken := true }
          { s.link with client := s.link.client.emit (.error (.error message)) }
      | .socketClosed => s.follow (s.link.step .socketClosed)
      | .detach => s.follow (s.link.step .close)
      | .connectionClosed detaches =>
        if s.phase = .streaming then
          serve { s with closed := true, link := if detaches then s.link.step .close else s.link }
        else s
      | _ => s

/-- The first call of `next` starts the body. -/
def initial (renewCapabilities : Bool) : AttachStream :=
  ⟨.initial renewCapabilities, .silent, false, .connecting, [], false, 1, false, []⟩

end AttachStream

/-- The cursors go on from byte to byte. -/
def Contiguous : Nat → List HostOutput → Prop
  | _, [] => True
  | cursor, value :: values => value.cursor = cursor ∧ Contiguous (cursor + value.bytes.length) values

def outputsOf (emissions : List Emission) : List HostOutput :=
  emissions.filterMap fun | .output value => some value | _ => none

/-- What the consumer has been given and is still to be given is one hello, all the output that has reached the
daemon, from the hello's replay start on, and what closes the stream. -/
structure Sequence (s : AttachStream) (hello : HostHelloAck) (closing : List StreamItem) : Prop where
  items : s.yielded ++ s.queue =
    .ofHello hello :: ((outputsOf s.link.client.emitted).map .ofOutput ++ closing)
  contiguous : Contiguous hello.replayFrom (outputsOf s.link.client.emitted)
  closes : ∀ item ∈ closing, item.isClosing = true
  exits : (closing.filter StreamItem.isExit).length ≤ 1

/-- Nothing comes before the hello, and a stream that ends has given everything. -/
structure Delivered (s : AttachStream) : Prop where
  silent : s.phase.attached = false → s.yielded = []
  sequence : s.phase.attached = true → ∃ hello closing, Sequence s hello closing
  complete : s.phase = .done → s.queue = []

/-- The host writes its frames in order, and answers what it is asked. -/
def Speaks (s : AttachStream) : StreamEvent → Prop
  | .answer frame =>
    frame.WellFormed ∧ frame.isResponse = true ∧ (s.turn.follow frame).isSome = true
  | .write frame => frame.WellFormed ∧ frame.isResponse = false ∧ (s.turn.follow frame).isSome = true
  | _ => True

/-- Until the hello is pushed, no chunk completes output or the exit. -/
def Prompt (s : AttachStream) : StreamEvent → Prop
  | .arrive n => s.phase = .attaching → s.broken = false → s.link.client.sends = true →
    ∀ t ∈ s.link.completes n, t.frame.isResponse = true
  | _ => True

instance (s : AttachStream) : ∀ event, Decidable (Speaks s event)
  | .answer _ => inferInstanceAs (Decidable (_ ∧ _ ∧ _))
  | .write _ => inferInstanceAs (Decidable (_ ∧ _ ∧ _))
  | .connected | .connectFailed | .arrive _ | .renew | .timeOut _ | .socketError _ | .socketClosed |
    .detach | .connectionClosed _ | .pull | .stop => isTrue trivial

instance (s : AttachStream) : ∀ event, Decidable (Prompt s event)
  | .arrive _ => inferInstanceAs (Decidable (_ → _ → _ → _))
  | .answer _ | .write _ | .connected | .connectFailed | .renew | .timeOut _ | .socketError _ |
    .socketClosed | .detach | .connectionClosed _ | .pull | .stop => isTrue trivial

/-- The emission of a frame that asks for none of the requests that wait. -/
def emissionsOf (f : HostFrame) : List Emission :=
  if f.type = HostType.output then (decodeOutput f.payload).toOption.toList.map .output
  else if f.type = HostType.exit then (decodeExit f.payload).toOption.toList.map .exit
  else []

section Client
variable {c c' : RuntimeHostClient} {t : Sent} {ts : List Sent}

/-- What a frame, or a chunk of them, leaves alone, and what it emits. -/
structure Emits (emissions : List Emission) (c c' : RuntimeHostClient) : Prop where
  emitted : c'.emitted = c.emitted ++ emissions
  connected : c'.connected = c.connected
  closed : c'.closed = c.closed
  renewalTimer : c'.renewalTimer = c.renewalTimer

theorem receive_emits (hframe : t.frame.WellFormed) (hwaits : t.frame.isResponse = true → c.pending ≠ []) :
    Emits (emissionsOf t.frame) c (receive c t) := by
  unfold receive RuntimeHostClient.dispatch emissionsOf
  by_cases houtput : t.frame.type = HostType.output
  · obtain ⟨value, hdecode⟩ : ∃ value, decodeOutput t.frame.payload = .ok value :=
      ⟨_, if_neg (Nat.not_lt.mpr (hframe.2.1 houtput))⟩
    rw [if_pos houtput, if_pos houtput, hdecode]
    exact ⟨rfl, rfl, rfl, rfl⟩
  by_cases hexit : t.frame.type = HostType.exit
  · obtain ⟨code, hdecode⟩ : ∃ code, decodeExit t.frame.payload = .ok code :=
      ⟨_, if_neg (not_not_intro (hframe.2.2.1 hexit))⟩
    rw [if_neg houtput, if_neg houtput, if_pos hexit, if_pos hexit, hdecode]
    exact ⟨rfl, rfl, rfl, rfl⟩
  have hresponse : t.frame.isResponse = true := by simp [HostFrame.isResponse, houtput, hexit]
  rw [if_neg houtput, if_neg houtput, if_neg hexit, if_neg hexit, Prog.read_bind]
  cases hpending : c.pending with
  | nil => exact absurd hpending (hwaits hresponse)
  | cons first rest =>
    obtain ⟨settlement, hanswer, -⟩ := RuntimeHostClient.answer_settles first hframe { c with pending := rest }
    change Emits [] c (RuntimeHostClient.answer first t.frame { c with pending := rest }).2
    rw [hanswer]
    exact ⟨(List.append_nil _).symm, rfl, rfl, rfl⟩

theorem run_emits (hframes : ∀ t ∈ ts, t.frame.WellFormed)
    (hcaused : ∀ t ∈ ts, t.frame.isResponse = t.cause.isSome) {rest : List HostRequest}
    (hpending : c.pending = ts.filterMap Sent.cause ++ rest) :
    Emits (ts.flatMap fun t => emissionsOf t.frame) c (Trace.run receive c ts) ∧
      (Trace.run receive c ts).pending = rest := by
  induction ts generalizing c with
  | nil => exact ⟨⟨(List.append_nil _).symm, rfl, rfl, rfl⟩, hpending⟩
  | cons t ts ih =>
    have hframe := hframes t (List.mem_cons_self ..)
    have hcause := hcaused t (List.mem_cons_self ..)
    have hwaits : t.frame.isResponse = true → c.pending ≠ [] := by
      intro hresponse
      obtain ⟨r, hr⟩ := Option.isSome_iff_exists.mp (hcause ▸ hresponse)
      rw [hpending, List.filterMap_cons_some hr]
      exact List.cons_ne_nil _ _
    have hfirst := receive_emits hframe hwaits
    have hnext : (receive c t).pending = ts.filterMap Sent.cause ++ rest := by
      have htakes := (RuntimeHostClient.dispatch_takes hframe c).2.pending
      change (RuntimeHostClient.dispatch t.frame c).2.pending = _
      rw [htakes, hcause, hpending]
      cases hr : t.cause with
      | none => rw [List.filterMap_cons_none hr]; rfl
      | some r => rw [List.filterMap_cons_some hr]; rfl
    obtain ⟨hlater, hlast⟩ := ih (fun t' ht' => hframes t' (List.mem_cons_of_mem _ ht'))
      (fun t' ht' => hcaused t' (List.mem_cons_of_mem _ ht')) hnext
    refine ⟨⟨?_, hlater.connected.trans hfirst.connected, hlater.closed.trans hfirst.closed,
      hlater.renewalTimer.trans hfirst.renewalTimer⟩, hlast⟩
    rw [Trace.run_cons, hlater.emitted, hfirst.emitted, List.append_assoc, List.flatMap_cons]

theorem unasked_decodes {f : HostFrame} (hframe : f.WellFormed) (hunasked : f.isResponse = false) :
    (f.type = HostType.output ∧ ∃ value, decodeOutput f.payload = .ok value) ∨
      f.type ≠ HostType.output ∧ f.type = HostType.exit ∧ ∃ code, decodeExit f.payload = .ok code := by
  by_cases houtput : f.type = HostType.output
  · exact .inl ⟨houtput, _, if_neg (Nat.not_lt.mpr (hframe.2.1 houtput))⟩
  · have hexit : f.type = HostType.exit := by simpa [HostFrame.isResponse, houtput] using hunasked
    exact .inr ⟨houtput, hexit, _, if_neg (not_not_intro (hframe.2.2.1 hexit))⟩

theorem run_unasked (hframes : ∀ t ∈ ts, t.frame.WellFormed) (hunasked : ∀ t ∈ ts, t.frame.isResponse = false) :
    (Trace.run receive c ts).settled = c.settled ∧ (Trace.run receive c ts).microtasks = c.microtasks := by
  induction ts generalizing c with
  | nil => exact ⟨rfl, rfl⟩
  | cons t ts ih =>
    have hfirst : (receive c t).settled = c.settled ∧ (receive c t).microtasks = c.microtasks := by
      unfold receive RuntimeHostClient.dispatch
      rcases unasked_decodes (hframes t (List.mem_cons_self ..)) (hunasked t (List.mem_cons_self ..)) with
        ⟨houtput, value, hdecode⟩ | ⟨houtput, hexit, code, hdecode⟩
      · rw [if_pos houtput, hdecode]
        exact ⟨rfl, rfl⟩
      · rw [if_neg houtput, if_pos hexit, hdecode]
        exact ⟨rfl, rfl⟩
    obtain ⟨hsettled, hmicrotasks⟩ := ih (c := receive c t) (fun t' ht' => hframes t' (List.mem_cons_of_mem _ ht'))
      fun t' ht' => hunasked t' (List.mem_cons_of_mem _ ht')
    exact ⟨hsettled.trans hfirst.1, hmicrotasks.trans hfirst.2⟩

theorem receive_answer (hframe : t.frame.WellFormed) (hresponse : t.frame.isResponse = true) {first : HostRequest}
    {rest : List HostRequest} (hpending : c.pending = first :: rest) :
    ∃ settlement, receive c t = RuntimeHostClient.settle first settlement { c with pending := rest } ∧
      (∀ value, settlement = .resolved value → value = t.frame ∧ value.type = first.kind.responseType) ∧
      (first.kind = .connect → t.frame.type = HostType.helloAck → settlement = .resolved t.frame) := by
  have houtput : t.frame.type ≠ HostType.output := by
    intro htype
    simp [HostFrame.isResponse, htype] at hresponse
  have hexit : t.frame.type ≠ HostType.exit := by
    intro htype
    simp [HostFrame.isResponse, htype] at hresponse
  have hdispatch : receive c t = (RuntimeHostClient.answer first t.frame { c with pending := rest }).2 := by
    rw [receive, RuntimeHostClient.dispatch, if_neg houtput, if_neg hexit, Prog.read_bind, hpending]
    rfl
  rw [hdispatch]
  by_cases hack : first.kind = .connect ∧ t.frame.type = HostType.helloAck
  · have hkind : t.frame.type = first.kind.responseType := by rw [hack.1]; exact hack.2
    refine ⟨.resolved t.frame, ?_, fun value hvalue => ?_, fun _ _ => rfl⟩
    · rw [RuntimeHostClient.answer, if_neg (by rw [hack.2]; decide), if_neg (not_not_intro hkind)]
      rfl
    · obtain rfl := Settlement.resolved.inj hvalue
      exact ⟨rfl, hkind⟩
  · obtain ⟨settlement, hanswer, hresolved⟩ :=
      RuntimeHostClient.answer_settles first hframe { c with pending := rest }
    rw [hanswer]
    exact ⟨settlement, rfl, hresolved, fun hkind htype => absurd ⟨hkind, htype⟩ hack⟩

/-- What awaits a promise emits errors at most, and then closes the client. -/
structure Resumes (c c' : RuntimeHostClient) (errors : List HostRejection) : Prop where
  emitted : c'.emitted = c.emitted ++ errors.map .error
  fails : errors ≠ [] → c'.sends = false
  stays : c.sends = false → c'.sends = false

theorem resumes_continuation (c : RuntimeHostClient) (entry : HostRequest × Settlement) :
    ∃ errors, Resumes c (c.continuation entry) errors := by
  have hquiet : ∀ c' : RuntimeHostClient, c'.emitted = c.emitted → c'.sends = c.sends →
      ∃ errors, Resumes c c' errors :=
    fun c' hemitted hsends => ⟨[], hemitted.trans (List.append_nil _).symm, fun h => absurd rfl h, hsends.trans⟩
  have hfails : ∀ reason, ∃ errors, Resumes c (c.failRenewal reason) errors :=
    fun reason => ⟨[reason], rfl, fun _ => rfl, fun _ => rfl⟩
  unfold RuntimeHostClient.continuation
  split
  · split
    · exact hquiet _ rfl rfl
    · exact hquiet _ rfl rfl
  · split
    · exact hquiet _ rfl rfl
    · exact hfails _
  · exact hfails _
  · exact hquiet _ rfl rfl

theorem Resumes.trans {c₁ c₂ c₃ : RuntimeHostClient} {errors errors' : List HostRejection}
    (h : Resumes c₁ c₂ errors) (h' : Resumes c₂ c₃ errors') : Resumes c₁ c₃ (errors ++ errors') where
  emitted := by rw [h'.emitted, h.emitted, List.append_assoc, List.map_append]
  fails hsome := by
    by_cases hlast : errors' = []
    · rw [hlast, List.append_nil] at hsome
      exact h'.stays (h.fails hsome)
    · exact h'.fails hlast
  stays hstopped := h'.stays (h.stays hstopped)

theorem resumes_foldl (entries : List (HostRequest × Settlement)) (c : RuntimeHostClient) :
    ∃ errors, Resumes c (entries.foldl RuntimeHostClient.continuation c) errors := by
  induction entries generalizing c with
  | nil => exact ⟨[], (List.append_nil _).symm, fun h => absurd rfl h, id⟩
  | cons entry entries ih =>
    obtain ⟨errors, hfirst⟩ := resumes_continuation c entry
    obtain ⟨errors', hrest⟩ := ih (c.continuation entry)
    exact ⟨errors ++ errors', hfirst.trans hrest⟩

theorem resumes_runMicrotasks (c : RuntimeHostClient) : ∃ errors, Resumes c c.runMicrotasks errors := by
  obtain ⟨errors, h⟩ := resumes_foldl c.microtasks { c with microtasks := [] }
  exact ⟨errors, h.emitted, h.fails, h.stays⟩

theorem runMicrotasks_rejected {r : HostRequest} (reason : HostRejection) (hkind : r.kind = .renewal)
    (h : (r, .rejected reason) ∈ c.microtasks) : c.runMicrotasks.sends = false := by
  have hall : ∀ (entries : List (HostRequest × Settlement)) (c : RuntimeHostClient),
      (r, .rejected reason) ∈ entries → (entries.foldl RuntimeHostClient.continuation c).sends = false := by
    intro entries
    induction entries with
    | nil => exact fun c hr => absurd hr List.not_mem_nil
    | cons entry entries ih =>
      intro c hr
      rcases List.mem_cons.mp hr with rfl | hlater
      · obtain ⟨errors, hrest⟩ := resumes_foldl entries (c.continuation (r, .rejected reason))
        apply hrest.stays
        obtain ⟨requestId, kind⟩ := r
        cases hkind
        rfl
      · exact ih _ hlater
  exact hall c.microtasks _ h

end Client

section Order
variable {cursor : Nat} {turn turn' : HostTurn} {frames frames' : List HostFrame} {values values' : List HostOutput}

def reach (cursor : Nat) (values : List HostOutput) : Nat := cursor + (values.map fun value => value.bytes.length).sum

theorem reach_cons (value : HostOutput) : reach cursor (value :: values) = reach (cursor + value.bytes.length) values := by
  simp [reach, Nat.add_assoc]

theorem reach_append : reach cursor (values ++ values') = reach (reach cursor values) values' := by
  simp [reach, Nat.add_assoc]

theorem contiguous_append :
    Contiguous cursor (values ++ values') ↔ Contiguous cursor values ∧ Contiguous (reach cursor values) values' := by
  induction values generalizing cursor with
  | nil => simp [Contiguous, reach]
  | cons value values ih => rw [List.cons_append, Contiguous, Contiguous, ih, reach_cons, and_assoc]

theorem followAll_append (h : turn.followAll (frames ++ frames') = some turn') :
    ∃ between, turn.followAll frames = some between ∧ between.followAll frames' = some turn' := by
  unfold HostTurn.followAll at h
  rw [List.foldlM_append] at h
  exact Option.bind_eq_some_iff.mp h

variable {f : HostFrame}

theorem followAll_snoc (h : turn.followAll frames = some turn') :
    turn.followAll (frames ++ [f]) = turn'.follow f := by
  unfold HostTurn.followAll at h ⊢
  rw [List.foldlM_append, h]
  simp

theorem followAll_cons (h : turn.followAll (f :: frames) = some turn') :
    ∃ between, turn.follow f = some between ∧ between.followAll frames = some turn' := by
  unfold HostTurn.followAll at h
  rw [List.foldlM_cons] at h
  exact Option.bind_eq_some_iff.mp h

theorem response_follow (turn : HostTurn) (hresponse : f.isResponse = true) :
    emissionsOf f = [] ∧ (turn ≠ .silent → turn.follow f = some turn) := by
  have houtput : f.type ≠ HostType.output := by
    intro htype
    simp [HostFrame.isResponse, htype] at hresponse
  have hexit : f.type ≠ HostType.exit := by
    intro htype
    simp [HostFrame.isResponse, htype] at hresponse
  refine ⟨by rw [emissionsOf, if_neg houtput, if_neg hexit], fun hsilent => ?_⟩
  unfold HostTurn.follow
  cases turn with
  | silent => exact absurd rfl hsilent
  | producing cursor => rw [if_neg houtput, if_neg hexit]
  | exited => rw [if_neg houtput, if_neg hexit]

theorem follow_producing (h : HostTurn.follow (.producing cursor) f = some turn) :
    (turn = .producing cursor ∧ emissionsOf f = []) ∨
      (∃ value, value.cursor = cursor ∧ emissionsOf f = [.output value] ∧
        turn = .producing (cursor + value.bytes.length)) ∨
      ∃ code : Option Int, emissionsOf f = (code.map Emission.exit).toList ∧ turn = .exited := by
  by_cases houtput : f.type = HostType.output
  · unfold HostTurn.follow at h
    rw [if_pos houtput] at h
    cases hdecode : decodeOutput f.payload with
    | error _ => simp [hdecode] at h
    | ok value =>
      simp only [hdecode, Option.ite_none_right_eq_some, Option.some.injEq] at h
      obtain ⟨hcursor, rfl⟩ := h
      exact .inr (.inl ⟨value, hcursor, by simp [emissionsOf, houtput, hdecode, Except.toOption], rfl⟩)
  by_cases hexit : f.type = HostType.exit
  · unfold HostTurn.follow at h
    rw [if_neg houtput, if_pos hexit] at h
    refine .inr (.inr ⟨(decodeExit f.payload).toOption, ?_, (Option.some.inj h).symm⟩)
    rw [emissionsOf, if_neg houtput, if_pos hexit]
    cases (decodeExit f.payload).toOption <;> rfl
  · have hresponse : f.isResponse = true := by simp [HostFrame.isResponse, houtput, hexit]
    obtain ⟨hquiet, hstays⟩ := response_follow (.producing cursor) hresponse
    rw [hstays (by simp)] at h
    exact .inl ⟨(Option.some.inj h).symm, hquiet⟩

theorem follow_exited (h : HostTurn.follow .exited f = some turn) :
    turn = .exited ∧ emissionsOf f = [] := by
  by_cases houtput : f.type = HostType.output
  · simp [HostTurn.follow, houtput] at h
  by_cases hexit : f.type = HostType.exit
  · simp [HostTurn.follow, hexit, HostType.exit, HostType.output] at h
  · have hresponse : f.isResponse = true := by simp [HostFrame.isResponse, houtput, hexit]
    obtain ⟨hquiet, hstays⟩ := response_follow .exited hresponse
    rw [hstays (by simp)] at h
    exact ⟨(Option.some.inj h).symm, hquiet⟩

theorem followAll_exited (h : HostTurn.followAll .exited frames = some turn) :
    turn = .exited ∧ frames.flatMap emissionsOf = [] := by
  induction frames with
  | nil => exact ⟨(Option.some.inj h).symm, rfl⟩
  | cons f frames ih =>
    obtain ⟨between, hfirst, hrest⟩ := followAll_cons h
    obtain ⟨rfl, hquiet⟩ := follow_exited hfirst
    obtain ⟨hturn, hlater⟩ := ih hrest
    exact ⟨hturn, by rw [List.flatMap_cons, hquiet, hlater]; rfl⟩

/-- What a host that has acknowledged goes on to say: output from its cursor on, and then, if it exits, the exit. -/
theorem followAll_producing (h : HostTurn.followAll (.producing cursor) frames = some turn) :
    ∃ values exits, frames.flatMap emissionsOf = values.map Emission.output ++ exits.map Emission.exit ∧
      Contiguous cursor values ∧ exits.length ≤ 1 ∧
      (turn = .producing (reach cursor values) ∧ exits = [] ∨ turn = .exited) := by
  induction frames generalizing cursor with
  | nil => exact ⟨[], [], rfl, trivial, Nat.zero_le _, .inl ⟨(Option.some.inj h).symm, rfl⟩⟩
  | cons f frames ih =>
    obtain ⟨between, hfirst, hrest⟩ := followAll_cons h
    rw [List.flatMap_cons]
    rcases follow_producing hfirst with ⟨rfl, hquiet⟩ | ⟨value, hcursor, hvalue, rfl⟩ | ⟨code, hcode, rfl⟩
    · rw [hquiet]
      exact ih hrest
    · obtain ⟨values, exits, hlater, hcontiguous, hone, hturn⟩ := ih hrest
      refine ⟨value :: values, exits, ?_, ⟨hcursor, hcontiguous⟩, hone, ?_⟩
      · rw [hvalue, hlater]
        rfl
      · rw [reach_cons]
        exact hturn
    · obtain ⟨hturn, hlater⟩ := followAll_exited hrest
      refine ⟨[], code.toList, ?_, trivial, ?_, .inr hturn⟩
      · rw [hcode, hlater]
        cases code <;> rfl
      · cases code <;> simp

theorem follow_silent (h : HostTurn.follow .silent f = some turn) : f.isResponse = true := by
  by_cases houtput : f.type = HostType.output
  · simp [HostTurn.follow, houtput] at h
  by_cases hexit : f.type = HostType.exit
  · simp [HostTurn.follow, hexit, HostType.exit, HostType.output] at h
  · simp [HostFrame.isResponse, houtput, hexit]

end Order

end Wardroom.Runtime.Native
