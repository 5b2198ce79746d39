import Wardroom.Runtime.Host.Codec
import Wardroom.Library.Program
import Wardroom.Library.Trace

/-! # The client of a runtime host

A response carries no request id: it is handed to the request that has waited
longest. The host answers the requests of a connection in their order, and may
write frames that no request has asked for.
-/

namespace Wardroom.Runtime.Host
open Wardroom.Library

inductive HostRequestKind where
  | connect
  | renewal
  | terminate
  | ping
  | deliverMessage (id : String)
  deriving DecidableEq

def HostRequestKind.responseType : HostRequestKind → UInt8
  | .connect => HostType.helloAck
  | .renewal => HostType.helloAck
  | .terminate => HostType.terminateAck
  | .ping => HostType.pong
  | .deliverMessage _ => HostType.deliverAck

structure HostRequest where
  requestId : Nat
  kind : HostRequestKind
  deriving DecidableEq

inductive HostRejection where
  | error (message : String)
  | host (error : HostError)
  deriving DecidableEq

inductive Settlement where
  | resolved (value : HostFrame)
  | rejected (reason : HostRejection)
  deriving DecidableEq

inductive Emission where
  | output (value : HostOutput)
  | exit (code : Int)
  | error (reason : HostRejection)
  | close
  deriving DecidableEq

structure DeliverMessageInput where
  id : String
  frames : List (List UInt8)
  delaysMs : List Int

/-- The requests that wait are in the order of their ids; `microtasks` are the settled promises whose
continuations have not run yet. -/
structure RuntimeHostClient where
  connected : Bool
  decoder : List UInt8
  pending : List HostRequest
  nextRequest : Nat
  closed : Bool
  cursor : Nat
  renewCapabilities : Bool
  renewalTimer : Bool
  settled : List (HostRequest × Settlement)
  microtasks : List (HostRequest × Settlement)
  emitted : List Emission
  deriving DecidableEq

namespace RuntimeHostClient

def settle (request : HostRequest) (settlement : Settlement) (c : RuntimeHostClient) : RuntimeHostClient :=
  { c with settled := c.settled ++ [(request, settlement)], microtasks := c.microtasks ++ [(request, settlement)] }

def emit (emission : Emission) (c : RuntimeHostClient) : RuntimeHostClient :=
  { c with emitted := c.emitted ++ [emission] }

/-- `send` throws where this does not hold. -/
def sends (c : RuntimeHostClient) : Bool := c.connected && !c.closed

def nextOf (c : RuntimeHostClient) (kind : HostRequestKind) : HostRequest := ⟨c.nextRequest, kind⟩

def request (c : RuntimeHostClient) (kind : HostRequestKind) : RuntimeHostClient :=
  if c.sends then { c with nextRequest := c.nextRequest + 1, pending := c.pending ++ [c.nextOf kind] }
  else settle (c.nextOf kind) (.rejected (.error "host client is not connected"))
    { c with nextRequest := c.nextRequest + 1 }

/-- The bounds that `deliverMessage` throws beyond. -/
def deliverable (input : DeliverMessageInput) : Bool :=
  input.id ≠ "" && input.frames ≠ [] && input.frames.length ≤ 64 &&
    input.frames.length = input.delaysMs.length && (input.frames.map List.length).sum ≤ 1048576 &&
    input.delaysMs.sum ≤ 5000 && input.frames.all (·.length ≤ 65536) &&
    input.delaysMs.all fun delay => 0 ≤ delay && delay ≤ 5000

def timeOut (c : RuntimeHostClient) (requestId : Nat) : RuntimeHostClient :=
  match c.pending.find? fun r => r.requestId = requestId with
  | none => c
  | some r =>
    settle r (.rejected (.error "runtime host request timed out"))
      { c with pending := c.pending.filter fun r => r.requestId ≠ requestId }

/-- What the entry of a pending request does with the frame that it is handed. -/
def answer (first : HostRequest) (value : HostFrame) : Prog RuntimeHostClient String Unit :=
  if value.type = HostType.error then do
    let error ← Prog.ofExcept (decodeError value.payload)
    Prog.modify (settle first (.rejected (.host error)))
  else if value.type ≠ first.kind.responseType then
    Prog.modify (settle first (.rejected (.error ("unexpected host response " ++ toString value.type))))
  else Prog.modify (settle first (.resolved value))

def dispatch (value : HostFrame) : Prog RuntimeHostClient String Unit :=
  if value.type = HostType.output then do
    let output ← Prog.ofExcept (decodeOutput value.payload)
    Prog.modify fun c => emit (.output output) { c with cursor := output.cursor + output.bytes.length }
  else if value.type = HostType.exit then do
    let code ← Prog.ofExcept (decodeExit value.payload)
    Prog.modify (emit (.exit code))
  else do
    let c ← Prog.read
    match c.pending with
    | first :: rest => do
      Prog.modify fun c => { c with pending := rest }
      answer first value
    | [] =>
      if value.type = HostType.error then do
        let error ← Prog.ofExcept (decodeError value.payload)
        Prog.modify (emit (.error (.host error)))
      else pure ()

def dispatchAll : List HostFrame → Prog RuntimeHostClient String Unit
  | [] => pure ()
  | value :: values => do
    dispatch value
    dispatchAll values

def onData (chunk : List UInt8) : Prog RuntimeHostClient String Unit := do
  let c ← Prog.read
  let decoded := push c.decoder chunk
  Prog.modify fun c => { c with decoder := decoded.2 }
  let frames ← Prog.ofExcept decoded.1
  dispatchAll frames

def close (c : RuntimeHostClient) : RuntimeHostClient :=
  { c with closed := true, connected := false, renewalTimer := false }

def failRenewal (c : RuntimeHostClient) (reason : HostRejection) : RuntimeHostClient :=
  (emit (.error reason) c).close

/-- What awaits a promise goes on. -/
def continuation (c : RuntimeHostClient) : HostRequest × Settlement → RuntimeHostClient
  | (⟨_, .connect⟩, .resolved value) =>
    match decodeHelloAck value.payload with
    | .ok hello => { c with cursor := hello.head, renewalTimer := c.renewCapabilities || c.renewalTimer }
    | .error _ => c
  | (⟨_, .renewal⟩, .resolved value) =>
    match decodeHelloAck value.payload with
    | .ok hello => { c with cursor := hello.head, renewalTimer := true }
    | .error message => c.failRenewal (.error message)
  | (⟨_, .renewal⟩, .rejected reason) => c.failRenewal reason
  | _ => c

def runMicrotasks (c : RuntimeHostClient) : RuntimeHostClient :=
  c.microtasks.foldl continuation { c with microtasks := [] }

def initial (renewCapabilities : Bool) : RuntimeHostClient :=
  ⟨false, [], [], 1, false, 0, renewCapabilities, false, [], [], []⟩

end RuntimeHostClient

/-- A frame of the host, and the request that it answers. -/
structure Sent where
  cause : Option HostRequest
  frame : HostFrame
  deriving DecidableEq

/-- A request, and the frame that it has been handed. -/
structure Handed where
  request : HostRequest
  sent : Sent
  deriving DecidableEq

/-- The bytes of the frames in flight are in the decoder or still on their way. -/
structure HostLink where
  client : RuntimeHostClient
  unanswered : List HostRequest
  inFlight : List Sent
  bytes : List UInt8
  answers : List (HostRequest × HostFrame)
  handed : List Handed
  deriving DecidableEq

inductive LinkEvent where
  | connect
  | renew
  | terminate
  | ping
  | deliverMessage (input : DeliverMessageInput)
  | timeOut (requestId : Nat)
  /-- The host answers the oldest request that it has not answered. -/
  | answer (frame : HostFrame)
  /-- The host writes a frame of its own accord. -/
  | write (frame : HostFrame)
  /-- The next bytes of the stream come as one chunk. -/
  | arrive (n : Nat)
  | close
  | socketClosed

def HostFrame.isResponse (f : HostFrame) : Bool := f.type ≠ HostType.output && f.type ≠ HostType.exit

def handedBy (c : RuntimeHostClient) (t : Sent) : List Handed :=
  if t.frame.isResponse then c.pending.head?.toList.map fun r => ⟨r, t⟩ else []

/-- The client takes a frame. -/
def receive (c : RuntimeHostClient) (t : Sent) : RuntimeHostClient := (RuntimeHostClient.dispatch t.frame c).2

def handedAll : RuntimeHostClient → List Sent → List Handed
  | _, [] => []
  | c, t :: ts => handedBy c t ++ handedAll (receive c t) ts

namespace HostLink

/-- The client asks, and the host is to answer what has been sent. -/
def ask (s : HostLink) (kind : HostRequestKind) : HostLink :=
  { s with
    client := (s.client.request kind).runMicrotasks
    unanswered := if s.client.sends then s.unanswered ++ [s.client.nextOf kind] else s.unanswered }

/-- The host puts a frame on the stream. -/
def emit (s : HostLink) (t : Sent) : HostLink :=
  { s with inFlight := s.inFlight ++ [t], bytes := s.bytes ++ t.frame.bytes }

/-- The frames that a chunk completes. -/
def completes (s : HostLink) (n : Nat) : List Sent :=
  match (push s.client.decoder (s.bytes.take n)).1 with
  | .ok frames => s.inFlight.take frames.length
  | .error _ => []

/-- The client as the first of them finds it. -/
def receiving (s : HostLink) (n : Nat) : RuntimeHostClient :=
  { s.client with decoder := (push s.client.decoder (s.bytes.take n)).2 }

def arrive (s : HostLink) (n : Nat) : HostLink :=
  { s with
    client := (RuntimeHostClient.onData (s.bytes.take n) s.client).2.runMicrotasks
    inFlight := s.inFlight.drop (s.completes n).length
    bytes := s.bytes.drop n
    handed := s.handed ++ handedAll (s.receiving n) (s.completes n) }

def step (s : HostLink) : LinkEvent → HostLink
  | .connect =>
    if s.client.connected then s
    else ask { s with client := { s.client with connected := !s.client.closed } } .connect
  | .renew =>
    if s.client.renewalTimer && !s.client.closed then
      ask { s with client := { s.client with renewalTimer := false } } .renewal
    else s
  | .terminate => s.ask .terminate
  | .ping => s.ask .ping
  | .deliverMessage input => if RuntimeHostClient.deliverable input then s.ask (.deliverMessage input.id) else s
  | .timeOut requestId => { s with client := (s.client.timeOut requestId).runMicrotasks }
  | .answer frame =>
    match s.unanswered with
    | [] => s
    | r :: rest => emit { s with unanswered := rest, answers := s.answers ++ [(r, frame)] } ⟨some r, frame⟩
  | .write frame => s.emit ⟨none, frame⟩
  | .arrive n => if s.client.sends then s.arrive n else s
  | .close => { s with client := s.client.close }
  | .socketClosed => { s with client := RuntimeHostClient.emit .close { s.client with closed := true } }

def initial (renewCapabilities : Bool) : HostLink := ⟨.initial renewCapabilities, [], [], [], [], []⟩

end HostLink

section Matching
variable (parse : List UInt8 → Option Json) {c : RuntimeHostClient} {t : Sent} {ts : List Sent}
  {unanswered : List HostRequest}

/-- What the host may answer: an acknowledgement of a delivery names the delivery. -/
def HostRequest.accepts (r : HostRequest) (f : HostFrame) : Bool :=
  f.isResponse && match r.kind with
    | .deliverMessage id =>
      f.type ≠ HostType.deliverAck || (decodeDeliveryAck parse f.payload).toOption.map HostDeliveryAck.id = some id
    | _ => true

/-- A frame that the encoder of the host lets through and the decoders here accept. -/
def HostFrame.WellFormed (f : HostFrame) : Prop :=
  f.Fits ∧ (f.type = HostType.output → 8 ≤ f.payload.length) ∧ (f.type = HostType.exit → f.payload.length = 4) ∧
    (f.type = HostType.error → 2 ≤ f.payload.length)

instance (f : HostFrame) : Decidable f.WellFormed := inferInstanceAs (Decidable (_ ∧ _))

/-- The host writes well-formed frames, and answers what it has been asked. -/
def Conforms (s : HostLink) : LinkEvent → Prop
  | .answer f => f.WellFormed ∧ s.unanswered.head?.all (fun r => r.accepts parse f) = true
  | .write f => f.WellFormed
  | _ => True

instance (s : HostLink) : ∀ event, Decidable (Conforms parse s event)
  | .answer _ => inferInstanceAs (Decidable (_ ∧ _))
  | .write f => inferInstanceAs (Decidable f.WellFormed)
  | .connect | .renew | .terminate | .ping | .deliverMessage _ | .timeOut _ | .arrive _ | .close |
    .socketClosed => isTrue trivial

/-- Requests are handed what the host has answered them, and nothing else. -/
structure Matches (s : HostLink) : Prop where
  handed : ∀ h ∈ s.handed, h.sent.cause = some h.request
  resolved : ∀ r f, (r, Settlement.resolved f) ∈ s.client.settled → (r, f) ∈ s.answers
  delivered : ∀ r f id ack, (r, Settlement.resolved f) ∈ s.client.settled → r.kind = .deliverMessage id →
    decodeDeliveryAck parse f.payload = .ok ack → ack.id = id

/-- A response to a request that no longer waits, or to none. -/
def Stray (c : RuntimeHostClient) (t : Sent) : Prop :=
  t.frame.isResponse = true ∧ ∀ r ∈ t.cause, r ∉ c.pending

instance (c : RuntimeHostClient) (t : Sent) : Decidable (Stray c t) := inferInstanceAs (Decidable (_ ∧ _))

/-- No request waits when a response comes that is no answer to one that waits. -/
def Undisturbed (s : HostLink) : LinkEvent → Prop
  | .arrive n => s.client.sends = true →
    Trace.Meets receive (fun c t => Stray c t → c.pending = []) (s.receiving n) (s.completes n)
  | _ => True

instance (s : HostLink) : ∀ event, Decidable (Undisturbed s event)
  | .arrive _ => inferInstanceAs (Decidable (_ → _))
  | .connect | .renew | .terminate | .ping | .deliverMessage _ | .timeOut _ | .answer _ | .write _ |
    .close | .socketClosed => isTrue trivial

/-- What a frame does to the client, whatever it carries. -/
structure Takes (f : HostFrame) (c c' : RuntimeHostClient) : Prop where
  pending : c'.pending = if f.isResponse = true then c.pending.tail else c.pending
  nextRequest : c'.nextRequest = c.nextRequest
  decoder : c'.decoder = c.decoder
  settled : ∀ r g, (r, Settlement.resolved g) ∈ c'.settled →
    (r, Settlement.resolved g) ∈ c.settled ∨
      f.isResponse = true ∧ c.pending.head? = some r ∧ g = f ∧ g.type = r.kind.responseType

namespace RuntimeHostClient

theorem mem_settle {c : RuntimeHostClient} {first r : HostRequest} {settlement : Settlement} {g : HostFrame}
    (h : (r, Settlement.resolved g) ∈ (c.settle first settlement).settled) :
    (r, Settlement.resolved g) ∈ c.settled ∨ r = first ∧ settlement = .resolved g := by
  rcases List.mem_append.mp h with hold | hnew
  · exact .inl hold
  · cases List.mem_singleton.mp hnew
    exact .inr ⟨rfl, rfl⟩

theorem answer_settles (first : HostRequest) {value : HostFrame} (h : value.WellFormed) (c : RuntimeHostClient) :
    ∃ settlement, answer first value c = (.ok (), c.settle first settlement) ∧
      ∀ g, settlement = .resolved g → g = value ∧ g.type = first.kind.responseType := by
  unfold answer
  by_cases herror : value.type = HostType.error
  · obtain ⟨error, hdecode⟩ : ∃ error, decodeError value.payload = .ok error :=
      ⟨_, if_neg (Nat.not_lt.mpr (h.2.2.2 herror))⟩
    rw [if_pos herror, hdecode]
    exact ⟨_, rfl, fun g hg => by cases hg⟩
  · rw [if_neg herror]
    by_cases htype : value.type ≠ first.kind.responseType
    · rw [if_pos htype]
      exact ⟨_, rfl, fun g hg => by cases hg⟩
    · rw [if_neg htype]
      refine ⟨_, rfl, fun g hg => ?_⟩
      obtain rfl := Settlement.resolved.inj hg
      exact ⟨rfl, not_not.mp htype⟩

theorem dispatch_takes {f : HostFrame} (h : f.WellFormed) (c : RuntimeHostClient) :
    (dispatch f c).1 = .ok () ∧ Takes f c (dispatch f c).2 := by
  unfold dispatch
  by_cases houtput : f.type = HostType.output
  · obtain ⟨output, hdecode⟩ : ∃ output, decodeOutput f.payload = .ok output :=
      ⟨_, if_neg (Nat.not_lt.mpr (h.2.1 houtput))⟩
    have hresponse : f.isResponse = false := by simp [HostFrame.isResponse, houtput]
    rw [if_pos houtput, hdecode]
    exact ⟨rfl, by rw [hresponse]; rfl, rfl, rfl, fun r g hg => .inl hg⟩
  by_cases hexit : f.type = HostType.exit
  · obtain ⟨code, hdecode⟩ : ∃ code, decodeExit f.payload = .ok code :=
      ⟨_, if_neg (not_not_intro (h.2.2.1 hexit))⟩
    have hresponse : f.isResponse = false := by simp [HostFrame.isResponse, hexit]
    rw [if_neg houtput, if_pos hexit, hdecode]
    exact ⟨rfl, by rw [hresponse]; rfl, rfl, rfl, fun r g hg => .inl hg⟩
  have hresponse : f.isResponse = true := by simp [HostFrame.isResponse, houtput, hexit]
  rw [if_neg houtput, if_neg hexit, Prog.read_bind]
  cases hpending : c.pending with
  | nil =>
    have hkept : c.pending = if f.isResponse = true then c.pending.tail else c.pending := by
      rw [hpending]
      exact (ite_self []).symm
    by_cases herror : f.type = HostType.error
    · obtain ⟨error, hdecode⟩ : ∃ error, decodeError f.payload = .ok error :=
        ⟨_, if_neg (Nat.not_lt.mpr (h.2.2.2 herror))⟩
      simp only [if_pos herror, hdecode]
      exact ⟨rfl, hkept, rfl, rfl, fun r g hg => .inl hg⟩
    · simp only [if_neg herror]
      exact ⟨rfl, hkept, rfl, rfl, fun r g hg => .inl hg⟩
  | cons first rest =>
    obtain ⟨settlement, hanswer, hresolved⟩ := answer_settles first h { c with pending := rest }
    change (answer first f { c with pending := rest }).1 = _ ∧ Takes f c (answer first f { c with pending := rest }).2
    rw [hanswer]
    refine ⟨rfl, ?_, rfl, rfl, fun r g hg => ?_⟩
    · rw [if_pos hresponse, hpending]
      rfl
    · rcases mem_settle hg with hold | ⟨rfl, hg'⟩
      · exact .inl hold
      · exact .inr ⟨hresponse, by rw [hpending]; rfl, hresolved g hg'⟩

end RuntimeHostClient

theorem dispatchAll_run {ts : List Sent} (h : ∀ t ∈ ts, t.frame.WellFormed) (c : RuntimeHostClient) :
    RuntimeHostClient.dispatchAll (ts.map Sent.frame) c = (.ok (), Trace.run receive c ts) := by
  induction ts generalizing c with
  | nil => rfl
  | cons t ts ih =>
    obtain ⟨hok, -⟩ := RuntimeHostClient.dispatch_takes (h t (List.mem_cons_self ..)) c
    have hrest := ih (fun t' ht' => h t' (List.mem_cons_of_mem _ ht')) (receive c t)
    rw [List.map_cons, RuntimeHostClient.dispatchAll, Prog.bind_eq, Trace.run_cons, ← hrest]
    unfold receive
    rcases hdispatch : RuntimeHostClient.dispatch t.frame c with ⟨outcome, c'⟩
    rw [hdispatch] at hok
    cases hok
    rfl

/-- The requests that wait are among those that the host has not yet been heard on, in the same order. -/
structure Lined (c : RuntimeHostClient) (ts : List Sent) (unanswered : List HostRequest) : Prop where
  pending : c.pending.Sublist (ts.filterMap Sent.cause ++ unanswered)
  nodup : (ts.filterMap Sent.cause ++ unanswered).Nodup

/-- An answer to a request that waits goes to that request. -/
theorem Lined.head (h : Lined c (t :: ts) unanswered) {r : HostRequest} (hcause : t.cause = some r)
    (hmem : r ∈ c.pending) : c.pending.head? = some r := by
  have hcons : (t :: ts).filterMap Sent.cause = r :: ts.filterMap Sent.cause := List.filterMap_cons_some hcause
  have hpending := h.pending
  have hnodup := h.nodup
  rw [hcons, List.cons_append] at hpending hnodup
  rcases List.sublist_cons_iff.mp hpending with hrest | ⟨rest, hrest, -⟩
  · exact absurd (hrest.subset hmem) (List.nodup_cons.mp hnodup).1
  · rw [hrest]
    rfl

theorem Lined.receive (h : Lined c (t :: ts) unanswered) (hframe : t.frame.WellFormed)
    (hresponse : t.cause.isSome = true → t.frame.isResponse = true) : Lined (receive c t) ts unanswered := by
  obtain ⟨-, htakes⟩ := RuntimeHostClient.dispatch_takes hframe c
  have hpending := h.pending
  have hnodup := h.nodup
  cases hcause : t.cause with
  | none =>
    rw [List.filterMap_cons_none hcause] at hpending hnodup
    refine ⟨?_, hnodup⟩
    change (RuntimeHostClient.dispatch t.frame c).2.pending.Sublist _
    rw [htakes.pending]
    split_ifs
    · exact (List.tail_sublist _).trans hpending
    · exact hpending
  | some r =>
    rw [List.filterMap_cons_some hcause, List.cons_append] at hpending hnodup
    refine ⟨?_, (List.nodup_cons.mp hnodup).2⟩
    change (RuntimeHostClient.dispatch t.frame c).2.pending.Sublist _
    rw [htakes.pending, if_pos (hresponse (by rw [hcause]; rfl))]
    rcases List.sublist_cons_iff.mp hpending with hrest | ⟨rest, hrest, hsub⟩
    · exact (List.tail_sublist _).trans hrest
    · rw [hrest]
      exact hsub

theorem handedBy_iff (h : Lined c (t :: ts) unanswered) :
    (∀ e ∈ handedBy c t, e.sent.cause = some e.request) ↔ (Stray c t → c.pending = []) := by
  unfold handedBy Stray
  by_cases hresponse : t.frame.isResponse = true
  · rw [if_pos hresponse]
    cases hpending : c.pending with
    | nil => simp
    | cons first rest =>
      have hhead : (∀ e ∈ (first :: rest).head?.toList.map fun r => (⟨r, t⟩ : Handed),
          e.sent.cause = some e.request) ↔ t.cause = some first := by simp
      rw [hhead]
      constructor
      · intro hcause hstray
        exact absurd (List.mem_cons_self ..) (hstray.2 first hcause)
      · intro hstray
        by_contra hcause
        refine List.cons_ne_nil first rest (hstray ⟨hresponse, fun r hr hmem => hcause ?_⟩)
        have hfirst := h.head hr (hpending ▸ hmem)
        rw [hpending, List.head?_cons, Option.some.injEq] at hfirst
        rw [hfirst]
        exact hr
  · rw [if_neg hresponse]
    simp [hresponse]

theorem handedAll_iff (hframes : ∀ t ∈ ts, t.frame.WellFormed)
    (hresponses : ∀ t ∈ ts, t.cause.isSome = true → t.frame.isResponse = true)
    {later : List Sent} (h : Lined c (ts ++ later) unanswered) :
    (∀ e ∈ handedAll c ts, e.sent.cause = some e.request) ↔
      Trace.Meets receive (fun c t => Stray c t → c.pending = []) c ts := by
  induction ts generalizing c with
  | nil => simp [handedAll]
  | cons t ts ih =>
    have hnext := h.receive (hframes t (List.mem_cons_self ..)) (hresponses t (List.mem_cons_self ..))
    have hrest := ih (fun t' ht' => hframes t' (List.mem_cons_of_mem _ ht'))
      (fun t' ht' => hresponses t' (List.mem_cons_of_mem _ ht')) hnext
    rw [handedAll, List.forall_mem_append, handedBy_iff h, Trace.meets_cons]
    exact and_congr_right fun _ => hrest

theorem Lined.run (hframes : ∀ t ∈ ts, t.frame.WellFormed)
    (hresponses : ∀ t ∈ ts, t.cause.isSome = true → t.frame.isResponse = true)
    {later : List Sent} (h : Lined c (ts ++ later) unanswered) : Lined (Trace.run Host.receive c ts) later unanswered := by
  induction ts generalizing c with
  | nil => exact h
  | cons t ts ih =>
    exact ih (fun t' ht' => hframes t' (List.mem_cons_of_mem _ ht'))
      (fun t' ht' => hresponses t' (List.mem_cons_of_mem _ ht'))
      (h.receive (hframes t (List.mem_cons_self ..)) (hresponses t (List.mem_cons_self ..)))

theorem mem_settled_run (hframes : ∀ t ∈ ts, t.frame.WellFormed) {r : HostRequest} {g : HostFrame}
    (h : (r, Settlement.resolved g) ∈ (Trace.run receive c ts).settled) :
    (r, Settlement.resolved g) ∈ c.settled ∨
      ∃ e ∈ handedAll c ts, e.request = r ∧ e.sent.frame = g ∧ g.type = r.kind.responseType := by
  induction ts generalizing c with
  | nil => exact .inl h
  | cons t ts ih =>
    obtain ⟨-, htakes⟩ := RuntimeHostClient.dispatch_takes (hframes t (List.mem_cons_self ..)) c
    rcases ih (fun t' ht' => hframes t' (List.mem_cons_of_mem _ ht')) h with hbefore | ⟨e, he, hrest⟩
    · refine (htakes.settled r g hbefore).imp_right fun ⟨hresponse, hhead, hg, htype⟩ => ?_
      refine ⟨⟨r, t⟩, List.mem_append_left _ ?_, rfl, hg.symm, htype⟩
      simp [handedBy, hresponse, hhead]
    · exact .inr ⟨e, List.mem_append_right _ he, hrest⟩

theorem mem_handedAll {e : Handed} (h : e ∈ handedAll c ts) : e.sent ∈ ts := by
  induction ts generalizing c with
  | nil => cases h
  | cons t ts ih =>
    rcases List.mem_append.mp h with hfirst | hrest
    · unfold handedBy at hfirst
      split_ifs at hfirst
      · obtain ⟨r, -, rfl⟩ := List.mem_map.mp hfirst
        exact List.mem_cons_self ..
      · cases hfirst
    · exact List.mem_cons_of_mem _ (ih hrest)

/-- What the continuations of a client and its timers leave alone. -/
structure Alike (c c' : RuntimeHostClient) : Prop where
  pending : c'.pending = c.pending
  nextRequest : c'.nextRequest = c.nextRequest
  decoder : c'.decoder = c.decoder
  settled : c'.settled = c.settled

theorem Alike.trans {c₁ c₂ c₃ : RuntimeHostClient} (h : Alike c₁ c₂) (h' : Alike c₂ c₃) : Alike c₁ c₃ :=
  ⟨h'.pending.trans h.pending, h'.nextRequest.trans h.nextRequest, h'.decoder.trans h.decoder,
    h'.settled.trans h.settled⟩

theorem alike_continuation (c : RuntimeHostClient) (entry : HostRequest × Settlement) :
    Alike c (c.continuation entry) := by
  unfold RuntimeHostClient.continuation
  split
  · split <;> exact ⟨rfl, rfl, rfl, rfl⟩
  · split <;> exact ⟨rfl, rfl, rfl, rfl⟩
  · exact ⟨rfl, rfl, rfl, rfl⟩
  · exact ⟨rfl, rfl, rfl, rfl⟩

theorem alike_runMicrotasks (c : RuntimeHostClient) : Alike c c.runMicrotasks := by
  have hall : ∀ (entries : List (HostRequest × Settlement)) (c : RuntimeHostClient),
      Alike c (entries.foldl RuntimeHostClient.continuation c) := by
    intro entries
    induction entries with
    | nil => exact fun c => ⟨rfl, rfl, rfl, rfl⟩
    | cons entry entries ih => exact fun c => (alike_continuation c entry).trans (ih _)
  have hcleared : Alike c { c with microtasks := [] } := ⟨rfl, rfl, rfl, rfl⟩
  exact hcleared.trans (hall c.microtasks _)

/-- The invariant of a link. -/
structure Orderly (s : HostLink) : Prop where
  lined : Lined s.client s.inFlight s.unanswered
  fresh : ∀ r ∈ s.inFlight.filterMap Sent.cause ++ s.unanswered, r.requestId < s.client.nextRequest
  stream : s.client.decoder ++ s.bytes = wire (s.inFlight.map Sent.frame)
  wellFormed : ∀ t ∈ s.inFlight, t.frame.WellFormed
  answered : ∀ t ∈ s.inFlight, ∀ r ∈ t.cause, (r, t.frame) ∈ s.answers
  accepted : ∀ r f, (r, f) ∈ s.answers → r.accepts parse f = true
  handed : ∀ e ∈ s.handed, ∀ r ∈ e.sent.cause, (r, e.sent.frame) ∈ s.answers
  settled : ∀ r f, (r, Settlement.resolved f) ∈ s.client.settled →
    ∃ e ∈ s.handed, e.request = r ∧ e.sent.frame = f ∧ f.type = r.kind.responseType

theorem orderly_initial (renewCapabilities : Bool) : Orderly parse (HostLink.initial renewCapabilities) where
  lined := ⟨List.Sublist.refl _, List.nodup_nil⟩
  fresh _ h := (List.not_mem_nil h).elim
  stream := rfl
  wellFormed _ h := (List.not_mem_nil h).elim
  answered _ h := (List.not_mem_nil h).elim
  accepted _ _ h := (List.not_mem_nil h).elim
  handed _ h := (List.not_mem_nil h).elim
  settled _ _ h := (List.not_mem_nil h).elim

variable {parse} {s : HostLink}

theorem Orderly.response (h : Orderly parse s) {t : Sent} (ht : t ∈ s.inFlight) (hcause : t.cause.isSome = true) :
    t.frame.isResponse = true := by
  obtain ⟨r, hr⟩ := Option.isSome_iff_exists.mp hcause
  have haccepted := h.accepted r t.frame (h.answered t ht r hr)
  rw [HostRequest.accepts, Bool.and_eq_true] at haccepted
  exact haccepted.1

theorem Orderly.alike (h : Orderly parse s) {c' : RuntimeHostClient} (halike : Alike s.client c') :
    Orderly parse { s with client := c' } where
  lined := ⟨halike.pending ▸ h.lined.pending, h.lined.nodup⟩
  fresh r hr := halike.nextRequest ▸ h.fresh r hr
  stream := (congrArg (· ++ s.bytes) halike.decoder).trans h.stream
  wellFormed := h.wellFormed
  answered := h.answered
  accepted := h.accepted
  handed := h.handed
  settled r f hsettled := h.settled r f (halike.settled ▸ hsettled)

theorem Orderly.ask (h : Orderly parse s) (kind : HostRequestKind) : Orderly parse (s.ask kind) := by
  have hasked : Orderly parse { s with
      client := s.client.request kind
      unanswered := if s.client.sends then s.unanswered ++ [s.client.nextOf kind] else s.unanswered } := by
    unfold RuntimeHostClient.request
    by_cases hsends : s.client.sends = true
    · simp only [if_pos hsends]
      have hnew : s.client.nextOf kind ∉ s.inFlight.filterMap Sent.cause ++ s.unanswered := by
        intro hmem
        exact absurd (h.fresh _ hmem) (lt_irrefl _)
      refine ⟨⟨?_, ?_⟩, fun r hr => ?_, h.stream, h.wellFormed, h.answered, h.accepted, h.handed, h.settled⟩
      · rw [← List.append_assoc]
        exact h.lined.pending.append (List.Sublist.refl _)
      · rw [← List.append_assoc, ← List.concat_eq_append]
        exact h.lined.nodup.concat hnew
      · rw [← List.append_assoc] at hr
        rcases List.mem_append.mp hr with hold | hlast
        · exact Nat.lt_succ_of_lt (h.fresh r hold)
        · rw [List.mem_singleton.mp hlast]
          exact Nat.lt_succ_self _
    · simp only [if_neg hsends]
      refine ⟨⟨h.lined.pending, h.lined.nodup⟩, fun r hr => Nat.lt_succ_of_lt (h.fresh r hr), h.stream,
        h.wellFormed, h.answered, h.accepted, h.handed, fun r f hr => ?_⟩
      rcases RuntimeHostClient.mem_settle hr with hold | ⟨-, hresolved⟩
      · exact h.settled r f hold
      · cases hresolved
  exact hasked.alike (alike_runMicrotasks _)

theorem Orderly.emit (h : Orderly parse s) {t : Sent} (hframe : t.frame.WellFormed) (hcause : t.cause = none) :
    Orderly parse (s.emit t) := by
  have hcauses : (s.inFlight ++ [t]).filterMap Sent.cause = s.inFlight.filterMap Sent.cause := by
    rw [List.filterMap_append, List.filterMap_cons_none hcause, List.filterMap_nil, List.append_nil]
  refine ⟨⟨hcauses ▸ h.lined.pending, ?_⟩, fun r hr => h.fresh r (hcauses ▸ hr), ?_, fun t' ht' => ?_,
    fun t' ht' r hr => ?_, h.accepted, h.handed, h.settled⟩
  · change ((s.inFlight ++ [t]).filterMap Sent.cause ++ s.unanswered).Nodup
    rw [hcauses]
    exact h.lined.nodup
  · change s.client.decoder ++ (s.bytes ++ t.frame.bytes) = wire ((s.inFlight ++ [t]).map Sent.frame)
    rw [← List.append_assoc, h.stream, List.map_append, wire_append]
    simp
  · rcases List.mem_append.mp ht' with hold | hlast
    · exact h.wellFormed t' hold
    · rw [List.mem_singleton.mp hlast]
      exact hframe
  · rcases List.mem_append.mp ht' with hold | hlast
    · exact h.answered t' hold r hr
    · rw [List.mem_singleton.mp hlast, hcause] at hr
      cases hr

theorem Orderly.answer (h : Orderly parse s) {r : HostRequest} {rest : List HostRequest}
    (hunanswered : s.unanswered = r :: rest) {f : HostFrame} (hframe : f.WellFormed) (haccepts : r.accepts parse f = true) :
    Orderly parse (HostLink.emit { s with unanswered := rest, answers := s.answers ++ [(r, f)] } ⟨some r, f⟩) := by
  have hcauses : (s.inFlight ++ [(⟨some r, f⟩ : Sent)]).filterMap Sent.cause ++ rest =
      s.inFlight.filterMap Sent.cause ++ s.unanswered := by
    rw [hunanswered, List.filterMap_append]
    simp
  refine ⟨⟨?_, ?_⟩, fun r' hr' => h.fresh r' (hcauses ▸ hr'), ?_, fun t' ht' => ?_, fun t' ht' r' hr' => ?_,
    fun r' f' hr' => ?_, fun e he r' hr' => List.mem_append_left _ (h.handed e he r' hr'), h.settled⟩
  · exact hcauses ▸ h.lined.pending
  · exact hcauses ▸ h.lined.nodup
  · change s.client.decoder ++ (s.bytes ++ f.bytes) = wire ((s.inFlight ++ [(⟨some r, f⟩ : Sent)]).map Sent.frame)
    rw [← List.append_assoc, h.stream, List.map_append, wire_append]
    simp
  · rcases List.mem_append.mp ht' with hold | hlast
    · exact h.wellFormed t' hold
    · rw [List.mem_singleton.mp hlast]
      exact hframe
  · rcases List.mem_append.mp ht' with hold | hlast
    · exact List.mem_append_left _ (h.answered t' hold r' hr')
    · rw [List.mem_singleton.mp hlast] at hr' ⊢
      obtain rfl := Option.mem_some_iff.mp hr'
      exact List.mem_append_right _ (List.mem_singleton_self _)
  · rcases List.mem_append.mp hr' with hold | hlast
    · exact h.accepted r' f' hold
    · obtain ⟨rfl, rfl⟩ := Prod.mk.inj (List.mem_singleton.mp hlast)
      exact haccepts

theorem Orderly.timeOut (h : Orderly parse s) (requestId : Nat) :
    Orderly parse { s with client := s.client.timeOut requestId } := by
  unfold RuntimeHostClient.timeOut
  cases s.client.pending.find? fun r => r.requestId = requestId with
  | none => exact h
  | some r =>
    refine ⟨⟨List.filter_sublist.trans h.lined.pending, h.lined.nodup⟩, h.fresh, h.stream, h.wellFormed,
      h.answered, h.accepted, h.handed, fun r' f hr' => ?_⟩
    rcases RuntimeHostClient.mem_settle hr' with hold | ⟨-, hresolved⟩
    · exact h.settled r' f hold
    · cases hresolved

/-- The chunk completes the next frames of the stream, and the client takes them. -/
theorem Orderly.completes (h : Orderly parse s) (n : Nat) :
    s.completes n ++ s.inFlight.drop (s.completes n).length = s.inFlight ∧
      (RuntimeHostClient.onData (s.bytes.take n) s.client).2 = Trace.run receive (s.receiving n) (s.completes n) ∧
      (s.receiving n).decoder ++ s.bytes.drop n =
        wire ((s.inFlight.drop (s.completes n).length).map Sent.frame) := by
  have hfit : ∀ f ∈ s.inFlight.map Sent.frame, f.Fits := by
    intro f hf
    obtain ⟨t, ht, rfl⟩ := List.mem_map.mp hf
    exact (h.wellFormed t ht).1
  have hstream : s.client.decoder ++ (s.bytes.take n ++ s.bytes.drop n) = wire (s.inFlight.map Sent.frame) := by
    rw [List.take_append_drop, h.stream]
  obtain ⟨k, buffer, hpush, hrest⟩ := push_wire hfit hstream
  have hcompletes : s.completes n = s.inFlight.take k := by
    unfold HostLink.completes
    rw [hpush]
    simp
  have hdrop : s.inFlight.drop (s.inFlight.take k).length = s.inFlight.drop k := by
    rw [List.length_take]
    rcases Nat.le_total k s.inFlight.length with hle | hle
    · rw [Nat.min_eq_left hle]
    · rw [Nat.min_eq_right hle, List.drop_length, List.drop_eq_nil_of_le hle]
  have hreceiving : s.receiving n = { s.client with decoder := buffer } := by
    unfold HostLink.receiving
    rw [hpush]
  rw [hcompletes, hreceiving, hdrop]
  refine ⟨List.take_append_drop k _, ?_, ?_⟩
  · have hall := dispatchAll_run
      (fun t (ht : t ∈ s.inFlight.take k) => h.wellFormed t (List.mem_of_mem_take ht)) { s.client with decoder := buffer }
    unfold RuntimeHostClient.onData
    rw [Prog.read_bind, hpush]
    change (RuntimeHostClient.dispatchAll ((s.inFlight.map Sent.frame).take k) { s.client with decoder := buffer }).2 = _
    rw [← List.map_take, hall]
  · rw [List.map_drop]
    exact hrest

theorem decoder_run (hframes : ∀ t ∈ ts, t.frame.WellFormed) :
    (Trace.run receive c ts).decoder = c.decoder ∧ (Trace.run receive c ts).nextRequest = c.nextRequest := by
  induction ts generalizing c with
  | nil => exact ⟨rfl, rfl⟩
  | cons t ts ih =>
    obtain ⟨-, htakes⟩ := RuntimeHostClient.dispatch_takes (hframes t (List.mem_cons_self ..)) c
    obtain ⟨hdecoder, hnext⟩ := ih (c := receive c t) fun t' ht' => hframes t' (List.mem_cons_of_mem _ ht')
    exact ⟨hdecoder.trans htakes.decoder, hnext.trans htakes.nextRequest⟩

theorem Orderly.arrive (h : Orderly parse s) (n : Nat) : Orderly parse (s.arrive n) ∧
    ((∀ e ∈ handedAll (s.receiving n) (s.completes n), e.sent.cause = some e.request) ↔
      Trace.Meets receive (fun c t => Stray c t → c.pending = []) (s.receiving n) (s.completes n)) := by
  obtain ⟨hparts, hclient, hstream⟩ := h.completes n
  have hin : ∀ t ∈ s.completes n, t ∈ s.inFlight := fun t ht => hparts ▸ List.mem_append_left _ ht
  have hlater : ∀ t ∈ s.inFlight.drop (s.completes n).length, t ∈ s.inFlight := fun t ht => List.mem_of_mem_drop ht
  have hframes : ∀ t ∈ s.completes n, t.frame.WellFormed := fun t ht => h.wellFormed t (hin t ht)
  have hresponses : ∀ t ∈ s.completes n, t.cause.isSome = true → t.frame.isResponse = true :=
    fun t ht => h.response (hin t ht)
  have hlined : Lined (s.receiving n) (s.completes n ++ s.inFlight.drop (s.completes n).length) s.unanswered := by
    rw [hparts]
    exact ⟨h.lined.pending, h.lined.nodup⟩
  obtain ⟨hdecoder, hnext⟩ := decoder_run (c := s.receiving n) hframes
  refine ⟨?_, handedAll_iff hframes hresponses hlined⟩
  have hrun : Orderly parse { s with
      client := Trace.run receive (s.receiving n) (s.completes n)
      inFlight := s.inFlight.drop (s.completes n).length
      bytes := s.bytes.drop n
      handed := s.handed ++ handedAll (s.receiving n) (s.completes n) } := by
    refine ⟨hlined.run hframes hresponses, fun r hr => ?_, ?_, fun t ht => h.wellFormed t (hlater t ht),
      fun t ht => h.answered t (hlater t ht), h.accepted, fun e he r hr => ?_, fun r f hr => ?_⟩
    · change r.requestId < (Trace.run receive (s.receiving n) (s.completes n)).nextRequest
      rw [hnext]
      refine h.fresh r ?_
      rcases List.mem_append.mp hr with hflight | hun
      · obtain ⟨t, ht, hcause⟩ := List.mem_filterMap.mp hflight
        exact List.mem_append_left _ (List.mem_filterMap.mpr ⟨t, hlater t ht, hcause⟩)
      · exact List.mem_append_right _ hun
    · change (Trace.run receive (s.receiving n) (s.completes n)).decoder ++ _ = _
      rw [hdecoder, hstream]
    · rcases List.mem_append.mp he with hold | hnew
      · exact h.handed e hold r hr
      · exact h.answered e.sent (hin _ (mem_handedAll hnew)) r hr
    · rcases mem_settled_run hframes hr with hold | ⟨e, he, hrest⟩
      · obtain ⟨e, he, hrest⟩ := h.settled r f hold
        exact ⟨e, List.mem_append_left _ he, hrest⟩
      · exact ⟨e, List.mem_append_right _ he, hrest⟩
  have hafter := hrun.alike (alike_runMicrotasks _)
  unfold HostLink.arrive
  rw [hclient]
  exact hafter

theorem orderly_step (h : Orderly parse s) (event : LinkEvent) (hconforms : Conforms parse s event) :
    Orderly parse (s.step event) := by
  cases event with
  | connect =>
    have hopened : Alike s.client { s.client with connected := !s.client.closed } := ⟨rfl, rfl, rfl, rfl⟩
    rw [HostLink.step]
    split_ifs
    · exact h
    · exact (h.alike hopened).ask .connect
  | renew =>
    have hfired : Alike s.client { s.client with renewalTimer := false } := ⟨rfl, rfl, rfl, rfl⟩
    rw [HostLink.step]
    split_ifs
    · exact (h.alike hfired).ask .renewal
    · exact h
  | terminate => exact h.ask .terminate
  | ping => exact h.ask .ping
  | deliverMessage input =>
    rw [HostLink.step]
    split_ifs
    · exact h.ask _
    · exact h
  | timeOut requestId => exact (h.timeOut requestId).alike (alike_runMicrotasks _)
  | answer f =>
    obtain ⟨hframe, haccepts⟩ := hconforms
    rw [HostLink.step]
    cases hunanswered : s.unanswered with
    | nil => exact h
    | cons r rest =>
      rw [hunanswered] at haccepts
      exact h.answer hunanswered hframe haccepts
  | write f => exact h.emit hconforms rfl
  | arrive n =>
    rw [HostLink.step]
    split_ifs
    · exact (h.arrive n).1
    · exact h
  | close => exact h.alike ⟨rfl, rfl, rfl, rfl⟩
  | socketClosed => exact h.alike ⟨rfl, rfl, rfl, rfl⟩

theorem handed_step (h : Orderly parse s) (event : LinkEvent) :
    (∀ e ∈ (s.step event).handed, e.sent.cause = some e.request) ↔
      (∀ e ∈ s.handed, e.sent.cause = some e.request) ∧ Undisturbed s event := by
  have hsame : ∀ s' : HostLink, s'.handed = s.handed → ((∀ e ∈ s'.handed, e.sent.cause = some e.request) ↔
      (∀ e ∈ s.handed, e.sent.cause = some e.request) ∧ True) := by
    intro s' hhanded
    rw [hhanded, and_true]
  cases event with
  | connect => exact hsame _ (by rw [HostLink.step]; split_ifs <;> rfl)
  | renew => exact hsame _ (by rw [HostLink.step]; split_ifs <;> rfl)
  | terminate => exact hsame _ rfl
  | ping => exact hsame _ rfl
  | deliverMessage input => exact hsame _ (by rw [HostLink.step]; split_ifs <;> rfl)
  | timeOut requestId => exact hsame _ rfl
  | answer f => exact hsame _ (by rw [HostLink.step]; split <;> rfl)
  | write f => exact hsame _ rfl
  | close => exact hsame _ rfl
  | socketClosed => exact hsame _ rfl
  | arrive n =>
    rw [HostLink.step, Undisturbed]
    by_cases hsends : s.client.sends = true
    · rw [if_pos hsends, imp_iff_right hsends, ← (h.arrive n).2]
      exact List.forall_mem_append
    · rw [if_neg hsends]
      exact ⟨fun hhanded => ⟨hhanded, fun hlive => absurd hlive hsends⟩, And.left⟩

theorem Orderly.matches_iff (h : Orderly parse s) :
    Matches parse s ↔ ∀ e ∈ s.handed, e.sent.cause = some e.request := by
  refine ⟨Matches.handed, fun hhanded => ?_⟩
  have hresolved : ∀ r f, (r, Settlement.resolved f) ∈ s.client.settled → (r, f) ∈ s.answers := by
    intro r f hr
    obtain ⟨e, he, rfl, rfl, -⟩ := h.settled r f hr
    exact h.handed e he _ (hhanded e he)
  refine ⟨hhanded, hresolved, fun r f id ack hr hkind hdecode => ?_⟩
  obtain ⟨e, -, -, -, htype⟩ := h.settled r f hr
  rw [hkind] at htype
  have haccepted := h.accepted r f (hresolved r f hr)
  rw [HostRequest.accepts, Bool.and_eq_true, hkind, hdecode] at haccepted
  simpa [htype, HostRequestKind.responseType, Except.toOption] using haccepted.2

variable (parse) in
/-- Requests are handed their own responses in just those runs in which no request waits when a late response,
or a frame that answers no request, comes. -/
theorem responses_matched_iff (renewCapabilities : Bool) (events : List LinkEvent)
    (h : Trace.Meets HostLink.step (Conforms parse) (HostLink.initial renewCapabilities) events) :
    Matches parse (Trace.run HostLink.step (HostLink.initial renewCapabilities) events) ↔
      Trace.Meets HostLink.step Undisturbed (HostLink.initial renewCapabilities) events := by
  have horderly : Orderly parse (Trace.run HostLink.step (HostLink.initial renewCapabilities) events) :=
    Trace.invariant_run (I := Orderly parse) (fun _ event hs hc => orderly_step hs event hc)
      (orderly_initial parse renewCapabilities) h
  rw [horderly.matches_iff]
  have hrun : ∀ (events : List LinkEvent) (s : HostLink), Orderly parse s →
      Trace.Meets HostLink.step (Conforms parse) s events →
      ((∀ e ∈ (Trace.run HostLink.step s events).handed, e.sent.cause = some e.request) ↔
        (∀ e ∈ s.handed, e.sent.cause = some e.request) ∧ Trace.Meets HostLink.step Undisturbed s events) := by
    intro events
    induction events with
    | nil => intro s _ _; simp
    | cons event events ih =>
      intro s hs hmeets
      rw [Trace.run_cons, ih _ (orderly_step hs event hmeets.1) hmeets.2, handed_step hs, Trace.meets_cons, and_assoc]
  rw [hrun events _ (orderly_initial parse renewCapabilities) h]
  exact and_iff_right fun e he => (List.not_mem_nil he).elim

end Matching

def sampleText (id : String) : List UInt8 :=
  ("\x7b\"id\":\"" ++ id ++ "\",\"generation\":1,\"outcome\":\"written\",\"bytesWritten\":1\x7d").toList.map
    fun c => c.toNat.toUInt8

/-- `JSON.parse` of the acknowledgements of `a` and of `b`. -/
def sampleParse (bytes : List UInt8) : Option Json :=
  (["a", "b"].find? fun id => sampleText id = bytes).map fun id =>
    .obj [("id", .str id), ("generation", .num "1"), ("outcome", .str "written"), ("bytesWritten", .num "1")]

def sampleAck (id : String) : HostFrame := ⟨HostType.deliverAck, sampleText id⟩

def sampleDelivery (id : String) : LinkEvent := .deliverMessage ⟨id, [[0x61]], [0]⟩

/-- The client is connected, and has asked for the delivery of `a`. -/
def afterHello : List LinkEvent :=
  [.connect, .answer ⟨HostType.helloAck, List.replicate 23 0⟩, .arrive 28, sampleDelivery "a"]

/-- The acknowledgement of `a` comes in two chunks, and `b` is asked for afterwards. -/
def inTime : List LinkEvent :=
  afterHello ++ [.answer (sampleAck "a"), .arrive 10, .arrive 100, sampleDelivery "b", .answer (sampleAck "b"), .arrive 100]

/-- The acknowledgement of `a` comes after `a` has timed out, while `b` waits. -/
def tooLate : List LinkEvent :=
  afterHello ++ [.timeOut 2, sampleDelivery "b", .answer (sampleAck "a"), .arrive 100]

theorem responses_matched_in_time :
    Matches sampleParse (Trace.run HostLink.step (HostLink.initial true) inTime) :=
  (responses_matched_iff sampleParse true inTime (by decide +kernel)).mpr (by decide +kernel)

/-- The delivery of `b` resolves with the acknowledgement of `a`. -/
theorem late_response_mismatched :
    Trace.Meets HostLink.step (Conforms sampleParse) (HostLink.initial true) tooLate ∧
      ¬Matches sampleParse (Trace.run HostLink.step (HostLink.initial true) tooLate) := by
  refine ⟨by decide +kernel, fun hmatches => ?_⟩
  have hsettled : (⟨3, .deliverMessage "b"⟩, Settlement.resolved (sampleAck "a")) ∈
      (Trace.run HostLink.step (HostLink.initial true) tooLate).client.settled := by decide +kernel
  obtain ⟨ack, hdecode, hid⟩ : ∃ ack, decodeDeliveryAck sampleParse (sampleText "a") = .ok ack ∧ ack.id = "a" :=
    ⟨⟨"a", "1", .written, "1"⟩, by rfl, rfl⟩
  have hb := hmatches.delivered _ _ "b" ack hsettled rfl hdecode
  rw [hid] at hb
  exact absurd hb (by decide)

end Wardroom.Runtime.Host
