import Wardroom.Library.Trace
import Wardroom.Runtime.Host.Server

/-! # The clients of the runtime host

Every client that is registered has a writer of its own, which outlives it: a
client that has been dropped leaves its connection to the next HELLO, while its
writer may still have bytes in hand. What is done in one section of the lock is
one step. Of the frames only those that matter to the clients are followed.
-/

namespace Wardroom.Runtime.Host
open Wardroom.Library

/-- Where a writer stands: it waits to be woken, or is about to look at the queue, or has taken it. -/
inductive ClientWriter where
  | waiting
  | looking
  | writing (chunk : List HostMessage)
  | settling (bytes : Nat) (ok : Bool)
  | stopped
  deriving DecidableEq

/-- A client that is registered is not dead, and is authenticated. -/
structure RegisteredClient where
  controller : Bool
  actions : List String
  expiresAt : Int
  queue : List HostMessage
  inFlight : Int
  wake : Bool
  writer : ClientWriter
  deriving DecidableEq

inductive HandlerPhase where
  | idle
  | greeted (h : HelloEnvelope)
  | verified (h : HelloEnvelope) (renewing : Option Bool)
  | unseen (h : HelloEnvelope) (renewing : Option Bool) (controllerBusy : Bool)
  | recorded (h : HelloEnvelope) (renewing : Option Bool) (controllerBusy : Bool)
  | claiming (h : HelloEnvelope)
  | checked (now : Int) (actions : List String) (frame : ClientFrame)
  | answering (messages : List HostMessage) (close : Bool)
  deriving DecidableEq

/-- A connection; `former` are the clients that have been registered for it before. -/
structure ClientLink where
  opened : Bool
  serving : Bool
  client : Option RegisteredClient
  former : List RegisteredClient
  handler : HandlerPhase
  deriving DecidableEq

/-- An input or resize frame that has been let through: when its capability was checked, and what the check of the
controller has found. -/
structure AdmittedFrame where
  link : Nat
  checkedAt : Int
  controller : Option Nat
  client : Option RegisteredClient
  frame : ClientFrame
  deriving DecidableEq

/-- `accepted` are the HELLOs that have renewed or registered a client. -/
structure Registry where
  enrollment : HostEnrollment
  ring : Ring
  secret : List UInt8
  wiped : Bool
  exited : Option Int
  seenHello : List String
  controller : Option Nat
  links : List ClientLink
  accepted : List String
  admitted : List AdmittedFrame

def totalSize (messages : List HostMessage) : Nat := (messages.map HostMessage.size).sum

/-- `delete(s.clients, id)`. -/
def ClientLink.drop (l : ClientLink) : ClientLink := { l with client := none, former := l.former ++ l.client.toList }

namespace Registry

def setLink (s : Registry) (i : Nat) (l : ClientLink) : Registry := { s with links := s.links.set i l }

def releaseControl (s : Registry) (i : Nat) : Registry :=
  { s with controller := if s.controller = some i then none else s.controller }

/-- The deferred clean-up of `serve`. -/
def finish (s : Registry) (i : Nat) (l : ClientLink) : Registry :=
  (s.releaseControl i).setLink i { l.drop with opened := false, serving := false, handler := .idle }

def reject (s : Registry) (i : Nat) (l : ClientLink) (code : Nat) (message : String) : Registry :=
  s.setLink i { l with handler := .answering [.error code message] true }

def observerCount (s : Registry) : Nat := s.links.countP fun l => l.client.any fun client => !client.controller

def lags (message : HostMessage) (client : RegisteredClient) : Bool :=
  (queueCap : Int) < totalSize client.queue + client.inFlight + message.size

/-- The queue takes the message and its writer is woken, or the client is dropped. -/
def enqueue (message : HostMessage) (l : ClientLink) : ClientLink :=
  match l.client with
  | none => l
  | some client =>
    if lags message client then { l.drop with opened := false }
    else { l with client := some { client with queue := client.queue ++ [message], wake := true } }

def enqueueAll (s : Registry) (message : HostMessage) : Registry :=
  { s with
    links := s.links.map (enqueue message)
    controller := s.controller.filter fun i => !(s.links[i]?.any fun l => l.client.any (lags message)) }

/-- One read of the terminal. -/
def produce (s : Registry) (data : List UInt8) : Registry :=
  (outputFrames s.ring.total data).foldl enqueueAll { s with ring := s.ring.append data }

def exitChild (s : Registry) (code : Int) : Registry := enqueueAll { s with exited := some code } (.exit code)

def find (l : ClientLink) : Option Nat → Option RegisteredClient
  | none => l.client
  | some k => l.former[k]?

def put (l : ClientLink) (client : RegisteredClient) : Option Nat → ClientLink
  | none => { l with client := some client }
  | some k => { l with former := l.former.set k client }

/-- One step of `clientWriter`; what it has written is settled with whoever is registered now. -/
def turn (s : Registry) (i : Nat) (l : ClientLink) (who : Option Nat) (c : RegisteredClient) (ok : Bool) : Registry :=
  match c.writer with
  | .waiting => if c.wake then s.setLink i (put l { c with wake := false, writer := .looking } who) else s
  | .looking =>
    if l.client.isNone ∨ c.queue = [] then s.setLink i (put l { c with writer := .waiting } who)
    else s.setLink i (put l
      { c with queue := [], inFlight := c.inFlight + totalSize c.queue, writer := .writing c.queue } who)
  | .writing chunk => s.setLink i (put l { c with writer := .settling (totalSize chunk) (l.opened && ok) } who)
  | .settling bytes true =>
    let l := put l { c with writer := .looking } who
    s.setLink i { l with client := l.client.map fun current => { current with inFlight := current.inFlight - bytes } }
  | .settling _ false =>
    let l := put l { c with writer := .stopped } who
    let s := if l.client.isSome then s.releaseControl i else s
    s.setLink i { l.drop with opened := false }
  | .stopped => s

def invalidHello (s : Registry) (now : Int) (h : HelloEnvelope) : Bool :=
  s.wiped || h.expiry ≤ now || h.issuer ≠ "roomsd" || h.audience ≠ s.enrollment.runtimeId ||
    h.sessionId ≠ s.enrollment.sessionId || h.runtimeId ≠ s.enrollment.runtimeId ||
    h.homeAuthorityId ≠ s.enrollment.homeAuthorityId || h.generation ≠ s.enrollment.generation ||
    h.secret ≠ s.secret

def helloAck (s : Registry) (replayFrom head : Nat) (gap : Bool) : HostMessage :=
  .helloAck Version s.enrollment.generation replayFrom head gap

def verifyHello (s : Registry) (i : Nat) (l : ClientLink) (now : Int) (h : HelloEnvelope) : Registry :=
  if s.invalidHello now h then s.reject i l EAuthFailed "bad secret"
  else s.setLink i { l with handler := .verified h (l.client.map RegisteredClient.controller) }

def lookUpHello (s : Registry) (i : Nat) (l : ClientLink) (h : HelloEnvelope) (renewing : Option Bool) : Registry :=
  if h.id ∈ s.seenHello ∨ maxSeenCredentials ≤ s.seenHello.length ∨ h.id = "" then
    s.reject i l EAuthFailed "replayed credential"
  else s.setLink i { l with handler := .unseen h renewing s.controller.isSome }

def recordHello (s : Registry) (i : Nat) (l : ClientLink) (h : HelloEnvelope) (renewing : Option Bool)
    (controllerBusy : Bool) : Registry :=
  if h.id ∈ s.seenHello ∨ maxSeenCredentials ≤ s.seenHello.length then
    s.reject i l EAuthFailed "replayed credential"
  else { s with seenHello := s.seenHello ++ [h.id] }.setLink i { l with handler := .recorded h renewing controllerBusy }

def renew (s : Registry) (i : Nat) (l : ClientLink) (h : HelloEnvelope) : Registry :=
  ({ s with accepted := s.accepted ++ [h.id] } : Registry).setLink i { l with
    client := l.client.map fun client => { client with expiresAt := h.expiry, actions := h.actions }
    handler := .answering [s.helloAck s.ring.total s.ring.total false] false }

def proceedHello (s : Registry) (i : Nat) (l : ClientLink) (h : HelloEnvelope) (renewing : Option Bool)
    (controllerBusy : Bool) : Registry :=
  if h.wantControl && "controller" ∉ h.actions then s.reject i l EAuthFailed "controller capability required"
  else
    match renewing with
    | some controller =>
      if controller ≠ h.wantControl then s.reject i l EAuthFailed "capability mode change" else s.renew i l h
    | none =>
      if h.wantControl && controllerBusy then s.reject i l EControllerBsy "controller already attached"
      else if !h.wantControl && observerCap ≤ s.observerCount then s.reject i l EBadFrame "observer cap"
      else s.setLink i { l with handler := .claiming h }

def greeting (s : Registry) (cursor : Nat) : HandlerPhase :=
  match s.ring.replayFrom cursor with
  | none => .answering [.error EBadFrame "cursor past head"] true
  | some rp =>
    .answering (s.helloAck rp.start s.ring.total rp.gap :: outputFrames rp.start rp.bytes ++
      s.exited.toList.map HostMessage.exit) false

/-- The client is registered, with a writer of its own. -/
def claim (s : Registry) (i : Nat) (l : ClientLink) (h : HelloEnvelope) : Registry :=
  if h.wantControl && s.controller.isSome then s.reject i l EControllerBsy "controller already attached"
  else if !h.wantControl && observerCap ≤ s.observerCount then s.reject i l EBadFrame "observer cap"
  else
    { s with
      controller := if h.wantControl then some i else s.controller
      accepted := s.accepted ++ [h.id] }.setLink i { l.drop with
        client := some ⟨h.wantControl, h.actions, h.expiry, [], 0, false, .waiting⟩
        handler := s.greeting h.cursor }

def admitFrame (s : Registry) (i : Nat) (l : ClientLink) (now : Int) (frame : ClientFrame) : Registry :=
  ({ s with admitted := s.admitted ++ [⟨i, now, s.controller, l.client, frame⟩] } : Registry).setLink i
    { l with handler := .idle }

/-- The frame of a client whose capability has been found good; for the frames that are not followed further, `ok`
says whether the handler goes on. -/
def handleFrame (s : Registry) (i : Nat) (l : ClientLink) (now : Int) (actions : List String) (ok : Bool) :
    ClientFrame → Registry
  | .input bytes =>
    if "input" ∉ actions then s.reject i l EAuthFailed "input capability required"
    else if s.controller ≠ some i then s.reject i l ENotController "input requires controller"
    else if s.exited.isSome then s.reject i l EExited "child exited"
    else s.admitFrame i l now (.input bytes)
  | .resize columns rows =>
    if "resize" ∉ actions then s.reject i l EAuthFailed "resize capability required"
    else if s.controller ≠ some i then s.reject i l ENotController "resize requires controller"
    else s.admitFrame i l now (.resize columns rows)
  | .wipe => { s with secret := [], wiped := true }.setLink i { l with handler := .answering [.wipeAck] false }
  | _ => s.setLink i { l with handler := .answering [] (!ok) }

/-- `handle` up to its first write or its next use of the lock. -/
def handle (s : Registry) (i : Nat) (l : ClientLink) (now : Int) (frame : ClientFrame) : Registry :=
  match frame with
  | .hello h => s.setLink i { l with handler := .greeted h }
  | frame =>
    match l.client with
    | none => s.reject i l EAuthFailed "HELLO required"
    | some client =>
      if client.expiresAt ≤ now then s.reject i l EAuthFailed "capability expired"
      else s.setLink i { l with handler := .checked now client.actions frame }

/-- The next message is written; an error in the replay ends the handler. -/
def answer (s : Registry) (i : Nat) (l : ClientLink) (messages : List HostMessage) (close ok : Bool) : Registry :=
  match messages with
  | [] => if close then s.finish i l else s.setLink i { l with handler := .idle }
  | message :: rest =>
    if (l.opened && ok) || !message.isOutput then s.setLink i { l with handler := .answering rest close }
    else s.setLink i { l with handler := .answering [] true }

def advance (s : Registry) (i : Nat) (l : ClientLink) (now : Int) (ok : Bool) : Registry :=
  match l.handler with
  | .idle => s
  | .greeted h => s.verifyHello i l now h
  | .verified h renewing => s.lookUpHello i l h renewing
  | .unseen h renewing controllerBusy => s.recordHello i l h renewing controllerBusy
  | .recorded h renewing controllerBusy => s.proceedHello i l h renewing controllerBusy
  | .claiming h => s.claim i l h
  | .checked checkedAt actions frame => s.handleFrame i l checkedAt actions ok frame
  | .answering messages close => s.answer i l messages close ok

inductive RegistryEvent where
  | accept
  /-- The next frame of a connection is handled. -/
  | request (i : Nat) (now : Int) (frame : ClientFrame)
  | advance (i : Nat) (now : Int) (ok : Bool)
  /-- The connection cannot be read any more. -/
  | hangUp (i : Nat)
  /-- What a connection brings is no frame. -/
  | malformed (i : Nat) (code : Nat)
  | produce (data : List UInt8)
  | exit (code : Int)
  /-- The writer of the client of a connection takes its next step, or that of a former one. -/
  | turn (i : Nat) (who : Option Nat) (ok : Bool)
  /-- `closeClients`. -/
  | shutDown

def onLink (s : Registry) (i : Nat) (f : ClientLink → Registry) : Registry := s.links[i]?.elim s f

def step (s : Registry) : RegistryEvent → Registry
  | .accept => { s with links := s.links ++ [⟨true, true, none, [], .idle⟩] }
  | .request i now frame => s.onLink i fun l => if l.serving && l.handler = .idle then s.handle i l now frame else s
  | .advance i now ok => s.onLink i fun l => s.advance i l now ok
  | .hangUp i => s.onLink i fun l => if l.serving && l.handler = .idle then s.finish i l else s
  | .malformed i code => s.onLink i fun l =>
    if l.serving && l.handler = .idle then s.reject i l code "protocol error" else s
  | .produce data => if s.exited.isSome then s else s.produce data
  | .exit code => if s.exited.isSome then s else s.exitChild code
  | .turn i who ok => s.onLink i fun l => (find l who).elim s fun c => s.turn i l who c ok
  | .shutDown => { s with
      controller := none
      links := s.links.map fun l => { l.drop with opened := l.opened && l.client.isNone } }

def initial (enrollment : HostEnrollment) (ringBytes : Nat) (secret : List UInt8) : Registry :=
  ⟨enrollment, ⟨ringBytes, [], 0⟩, secret, false, none, [], none, [], [], []⟩

end Registry
end Wardroom.Runtime.Host
