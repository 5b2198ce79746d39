import Wardroom.Library.Table
import Wardroom.Library.Trace
import Wardroom.Runtime.Host.Codec
import Wardroom.Runtime.Host.Ring

/-! # The runtime host

Each connection has a goroutine that handles its frames one by one, and a
writer once it has been registered; another goroutine reads the terminal. What
one of them does while it holds the lock is one step, and so is every write.
Frames are taken as parsed, and messages as what their payloads say.
-/

namespace Wardroom.Runtime.Host
open Wardroom.Library

def queueCap : Nat := 262144
def observerCap : Nat := 32
def maxSeenCredentials : Nat := 4096
def maxDeliveries : Nat := 4096
def MaxFrame : Nat := 1048576
def Version : Nat := 1

def EBadFrame : Nat := 2
def EAuthFailed : Nat := 3
def ENotController : Nat := 4
def EOversize : Nat := 5
def EControllerBsy : Nat := 7
def EExited : Nat := 8

structure HelloEnvelope where
  issuer : String
  audience : String
  sessionId : String
  runtimeId : String
  homeAuthorityId : String
  generation : Nat
  actions : List String
  expiry : Int
  id : String
  cursor : Nat
  secret : List UInt8
  deriving DecidableEq

/-- `Mode == 1`. -/
def HelloEnvelope.wantControl (h : HelloEnvelope) : Bool := "controller" ∈ h.actions

structure Delivery where
  id : String
  frames : List (List UInt8)
  delays : List Nat
  deriving DecidableEq

def Delivery.valid (tx : Delivery) : Bool :=
  tx.id ≠ "" && tx.frames ≠ [] && tx.frames.length ≤ 64 && tx.delays.length = tx.frames.length &&
    tx.frames.all (·.length ≤ 65536) && (tx.frames.map List.length).sum ≤ 1048576 && tx.delays.sum ≤ 5000

/-- None is a delivery that is not decoded. -/
inductive ClientFrame where
  | hello (envelope : HelloEnvelope)
  | input (bytes : List UInt8)
  | resize (columns rows : Nat)
  | signal (payload : List UInt8)
  | terminate
  | deliverMessage (tx : Option Delivery)
  | ping
  | wipe
  | other
  deriving DecidableEq

inductive HostMessage where
  | helloAck (version generation replayFrom head : Nat) (gap : Bool)
  | output (cursor : Nat) (bytes : List UInt8)
  | exit (code : Int)
  | error (code : Nat) (message : String)
  | pong
  | wipeAck
  | deliverAck (id : String) (generation : Nat) (outcome : DeliveryOutcome) (bytesWritten : Nat)
  | terminateAck
  deriving DecidableEq

/-- The bytes that a message takes in a queue; only output and exit are queued. -/
def HostMessage.size : HostMessage → Nat
  | .output _ bytes => bytes.length + 13
  | _ => 9

def HostMessage.isOutput : HostMessage → Bool
  | .output _ _ => true
  | _ => false

/-- Each frame takes a byte or more. -/
def takeOutput : Nat → Nat → List UInt8 → List HostMessage
  | 0, _, _ => []
  | fuel + 1, cursor, bytes =>
    if bytes = [] then []
    else .output cursor (bytes.take (MaxFrame - 9)) ::
      takeOutput fuel (cursor + (bytes.take (MaxFrame - 9)).length) (bytes.drop (MaxFrame - 9))

def outputFrames (cursor : Nat) (bytes : List UInt8) : List HostMessage := takeOutput bytes.length cursor bytes

theorem isOutput_of_mem {cursor : Nat} {bytes : List UInt8} {m : HostMessage} (hm : m ∈ outputFrames cursor bytes) :
    m.isOutput = true := by
  have hall : ∀ (fuel cursor : Nat) (bytes : List UInt8), m ∈ takeOutput fuel cursor bytes → m.isOutput = true := by
    intro fuel
    induction fuel with
    | zero => exact fun _ _ hm => (List.not_mem_nil hm).elim
    | succ fuel ih =>
      intro cursor bytes hm
      unfold takeOutput at hm
      split_ifs at hm
      · cases hm
      · rcases List.mem_cons.mp hm with rfl | hmem
        · rfl
        · exact ih _ _ hmem
  exact hall bytes.length cursor bytes hm

structure HostClient where
  controller : Bool
  queue : List HostMessage
  inFlight : Int
  actions : List String
  expiresAt : Int
  deriving DecidableEq

structure DeliveryState where
  id : String
  inProgress : Bool
  written : Bool
  uncertain : Bool
  bytesWritten : Nat
  generation : Nat
  deriving DecidableEq

/-- Where a handler stands between two steps. -/
inductive Phase where
  | idle
  | greeted (h : HelloEnvelope)
  | verified (h : HelloEnvelope) (renewing : Option Bool)
  | unseen (h : HelloEnvelope) (renewing : Option Bool) (controllerBusy : Bool)
  | recorded (h : HelloEnvelope) (renewing : Option Bool) (controllerBusy : Bool)
  | claiming (h : HelloEnvelope)
  | requested (tx : Option Delivery)
  | validated (tx : Delivery)
  | counted (tx : Delivery)
  | executing (execution : Nat) (tx : Delivery) (frame bytesWritten : Nat)
  | failing (execution : Nat) (tx : Delivery) (bytesWritten : Nat)
  | answering (messages : List HostMessage) (close : Bool)
  deriving DecidableEq

/-- A writer takes the queue, writes it, and settles its account. -/
inductive WriterPhase where
  | idle
  | writing (chunk : List HostMessage)
  | settling (bytes : Nat) (ok : Bool)
  deriving DecidableEq

/-- `received` are the messages that its client has got. -/
structure Conn where
  opened : Bool
  serving : Bool
  client : Option HostClient
  handler : Phase
  writer : WriterPhase
  received : List HostMessage
  deriving DecidableEq

structure HostEnrollment where
  sessionId : String
  runtimeId : String
  homeAuthorityId : String
  generation : Nat
  deriving DecidableEq

/-- The bytes of one write to the terminal, and the execution of a delivery that has written them. -/
structure PtyWrite where
  execution : Option Nat
  bytes : List UInt8
  deriving DecidableEq

/-- `produced` is all the output there has been; `executions` are the deliveries that were begun. -/
structure RuntimeHost where
  enrollment : HostEnrollment
  ring : Ring
  conns : List Conn
  controller : Option Nat
  secret : List UInt8
  exited : Option Int
  wiped : Bool
  seenHello : List String
  delivered : Table DeliveryState.id
  terminated : Bool
  produced : List UInt8
  pty : List PtyWrite
  executions : List Delivery
  acks : List (String × DeliveryOutcome)

namespace RuntimeHost

def setConn (s : RuntimeHost) (i : Nat) (c : Conn) : RuntimeHost := { s with conns := s.conns.set i c }

def releaseControl (s : RuntimeHost) (i : Nat) : RuntimeHost :=
  { s with controller := if s.controller = some i then none else s.controller }

/-- The deferred clean-up of `serve`. -/
def finish (s : RuntimeHost) (i : Nat) (c : Conn) : RuntimeHost :=
  (s.releaseControl i).setConn i { c with opened := false, serving := false, client := none, handler := .idle }

def observerCount (s : RuntimeHost) : Nat := s.conns.countP fun c => c.client.any fun client => !client.controller

/-- The queue of a connection takes the message, or the client is dropped. -/
def Conn.enqueue (message : HostMessage) (c : Conn) : Conn :=
  match c.client with
  | none => c
  | some client =>
    if (queueCap : Int) < (client.queue.map HostMessage.size).sum + client.inFlight + message.size then
      { c with client := none, opened := false }
    else { c with client := some { client with queue := client.queue ++ [message] } }

def lags (message : HostMessage) (c : Conn) : Bool :=
  c.client.any fun client =>
    (queueCap : Int) < (client.queue.map HostMessage.size).sum + client.inFlight + message.size

def enqueueAll (s : RuntimeHost) (message : HostMessage) : RuntimeHost :=
  { s with
    conns := s.conns.map (Conn.enqueue message)
    controller := s.controller.filter fun i => !(s.conns[i]?.any (lags message)) }

def enqueueOutput (s : RuntimeHost) (cursor : Nat) (data : List UInt8) : RuntimeHost :=
  (outputFrames cursor data).foldl enqueueAll s

/-- One read of the terminal. -/
def produce (s : RuntimeHost) (data : List UInt8) : RuntimeHost :=
  enqueueOutput { s with ring := s.ring.append data, produced := s.produced ++ data } s.ring.total data

def exitChild (s : RuntimeHost) (code : Int) : RuntimeHost :=
  enqueueAll { s with exited := some code } (.exit code)

def take (s : RuntimeHost) (i : Nat) (c : Conn) : RuntimeHost :=
  match c.client, c.writer with
  | some client, .idle =>
    if client.queue = [] then s
    else s.setConn i { c with
      client := some { client with queue := [], inFlight := client.inFlight + (client.queue.map HostMessage.size).sum }
      writer := .writing client.queue }
  | _, _ => s

/-- The chunk is written, or only so many of its messages get through before an error. -/
def writeChunk (s : RuntimeHost) (i : Nat) (c : Conn) (failure : Option Nat) : RuntimeHost :=
  match c.writer with
  | .writing chunk =>
    let bytes := (chunk.map HostMessage.size).sum
    match failure with
    | none =>
      if c.opened then s.setConn i { c with received := c.received ++ chunk, writer := .settling bytes true }
      else s.setConn i { c with writer := .settling bytes false }
    | some k => s.setConn i { c with
        received := if c.opened then c.received ++ chunk.take k else c.received
        opened := false
        writer := .settling bytes false }
  | _ => s

def settleChunk (s : RuntimeHost) (i : Nat) (c : Conn) : RuntimeHost :=
  match c.writer with
  | .settling bytes true =>
    s.setConn i { c with
      client := c.client.map fun client => { client with inFlight := client.inFlight - bytes }
      writer := .idle }
  | .settling _ false =>
    let s := if c.client.isSome then s.releaseControl i else s
    s.setConn i { c with client := none, opened := false, writer := .idle }
  | _ => s

def reject (s : RuntimeHost) (i : Nat) (c : Conn) (code : Nat) (message : String) : RuntimeHost :=
  s.setConn i { c with handler := .answering [.error code message] true }

def invalidHello (s : RuntimeHost) (now : Int) (h : HelloEnvelope) : Bool :=
  s.wiped || h.expiry ≤ now || h.issuer ≠ "roomsd" || h.audience ≠ s.enrollment.runtimeId ||
    h.sessionId ≠ s.enrollment.sessionId || h.runtimeId ≠ s.enrollment.runtimeId ||
    h.homeAuthorityId ≠ s.enrollment.homeAuthorityId || h.generation ≠ s.enrollment.generation ||
    h.secret ≠ s.secret

def helloAck (s : RuntimeHost) (replayFrom head : Nat) (gap : Bool) : HostMessage :=
  .helloAck Version s.enrollment.generation replayFrom head gap

def verifyHello (s : RuntimeHost) (i : Nat) (c : Conn) (now : Int) (h : HelloEnvelope) : RuntimeHost :=
  if s.invalidHello now h then s.reject i c EAuthFailed "bad secret"
  else s.setConn i { c with handler := .verified h (c.client.map HostClient.controller) }

def lookUpHello (s : RuntimeHost) (i : Nat) (c : Conn) (h : HelloEnvelope) (renewing : Option Bool) : RuntimeHost :=
  if h.id ∈ s.seenHello ∨ maxSeenCredentials ≤ s.seenHello.length ∨ h.id = "" then
    s.reject i c EAuthFailed "replayed credential"
  else s.setConn i { c with handler := .unseen h renewing s.controller.isSome }

def recordHello (s : RuntimeHost) (i : Nat) (c : Conn) (h : HelloEnvelope) (renewing : Option Bool)
    (controllerBusy : Bool) : RuntimeHost :=
  if h.id ∈ s.seenHello ∨ maxSeenCredentials ≤ s.seenHello.length then
    s.reject i c EAuthFailed "replayed credential"
  else { s with seenHello := s.seenHello ++ [h.id] }.setConn i { c with handler := .recorded h renewing controllerBusy }

/-- A renewal keeps the slot of the client and never replays output. -/
def renew (s : RuntimeHost) (i : Nat) (c : Conn) (h : HelloEnvelope) : RuntimeHost :=
  s.setConn i { c with
    client := c.client.map fun client => { client with expiresAt := h.expiry, actions := h.actions }
    handler := .answering [s.helloAck s.ring.total s.ring.total false] false }

def proceedHello (s : RuntimeHost) (i : Nat) (c : Conn) (h : HelloEnvelope) (renewing : Option Bool)
    (controllerBusy : Bool) : RuntimeHost :=
  if h.wantControl && "controller" ∉ h.actions then s.reject i c EAuthFailed "controller capability required"
  else
    match renewing with
    | some controller =>
      if controller ≠ h.wantControl then s.reject i c EAuthFailed "capability mode change" else s.renew i c h
    | none =>
      if h.wantControl && controllerBusy then s.reject i c EControllerBsy "controller already attached"
      else if !h.wantControl && observerCap ≤ s.observerCount then s.reject i c EBadFrame "observer cap"
      else s.setConn i { c with handler := .claiming h }

/-- What the handler writes to a client that it has registered. -/
def greeting (s : RuntimeHost) (cursor : Nat) : Phase :=
  match s.ring.replayFrom cursor with
  | none => .answering [.error EBadFrame "cursor past head"] true
  | some rp =>
    .answering (s.helloAck rp.start s.ring.total rp.gap :: outputFrames rp.start rp.bytes ++
      s.exited.toList.map HostMessage.exit) false

/-- Capacity is claimed, the replay is taken and the client registered at once. -/
def claim (s : RuntimeHost) (i : Nat) (c : Conn) (h : HelloEnvelope) : RuntimeHost :=
  if h.wantControl && s.controller.isSome then s.reject i c EControllerBsy "controller already attached"
  else if !h.wantControl && observerCap ≤ s.observerCount then s.reject i c EBadFrame "observer cap"
  else
    let registered := s.setConn i { c with
      client := some ⟨h.wantControl, [], 0, h.actions, h.expiry⟩
      handler := s.greeting h.cursor }
    if h.wantControl then { registered with controller := some i } else registered

def deliveryOutcome (st : DeliveryState) (duplicate : Bool) : DeliveryOutcome :=
  if duplicate then .duplicate
  else if st.written then .written
  else if !st.uncertain && !st.inProgress then .duplicate
  else .uncertain

def deliveryAck (st : DeliveryState) (duplicate : Bool) : HostMessage :=
  .deliverAck st.id st.generation (deliveryOutcome st duplicate) st.bytesWritten

def checkDelivery (s : RuntimeHost) (i : Nat) (c : Conn) (tx : Option Delivery) : RuntimeHost :=
  if s.exited.isSome then s.reject i c EExited "child exited"
  else
    match tx.filter Delivery.valid with
    | none => s.reject i c EBadFrame "invalid delivery"
    | some tx => s.setConn i { c with handler := .validated tx }

/-- A known id is acknowledged, whatever has become of it. -/
def acknowledge (s : RuntimeHost) (i : Nat) (c : Conn) (prior : DeliveryState) : RuntimeHost :=
  s.setConn i { c with handler := .answering [deliveryAck prior true] false }

def countDelivery (s : RuntimeHost) (i : Nat) (c : Conn) (tx : Delivery) : RuntimeHost :=
  match s.delivered.find? tx.id with
  | some prior => s.acknowledge i c prior
  | none =>
    if 256 < tx.id.utf8ByteSize ∨ maxDeliveries ≤ s.delivered.rows.length then
      s.reject i c EBadFrame "delivery capacity"
    else s.setConn i { c with handler := .counted tx }

def reserve (s : RuntimeHost) (i : Nat) (c : Conn) (tx : Delivery) : RuntimeHost :=
  match s.delivered.find? tx.id with
  | some prior => s.acknowledge i c prior
  | none =>
    { s with
      delivered := s.delivered.put ⟨tx.id, true, false, false, 0, s.enrollment.generation⟩
      executions := s.executions ++ [tx] }.setConn i { c with handler := .executing s.executions.length tx 0 0 }

def setDelivery (s : RuntimeHost) (st : DeliveryState) : RuntimeHost :=
  { s with
    delivered := s.delivered.update (fun r => r.id = st.id) (fun r => { st with id := r.id }) fun _ => rfl }

/-- The next frame of a delivery is written, or only so many of its bytes before an error. -/
def execute (s : RuntimeHost) (i : Nat) (c : Conn) (execution : Nat) (tx : Delivery) (frame bytesWritten : Nat)
    (failure : Option Nat) : RuntimeHost :=
  match tx.frames[frame]? with
  | none =>
    let st : DeliveryState := ⟨tx.id, false, true, false, bytesWritten, s.enrollment.generation⟩
    (s.setDelivery st).setConn i { c with handler := .answering [deliveryAck st false] false }
  | some bytes =>
    if 65536 < bytes.length ∨ 5000 < tx.delays.getD frame 0 then s.reject i c EOversize "delivery frame too large"
    else
      match failure with
      | none =>
        ({ s with pty := s.pty ++ [⟨some execution, bytes⟩] } : RuntimeHost).setConn i { c with
          handler := .executing execution tx (frame + 1) (bytesWritten + bytes.length) }
      | some n =>
        ({ s with pty := s.pty ++ [⟨some execution, bytes.take n⟩] } : RuntimeHost).setConn i { c with
          handler := .failing execution tx (bytesWritten + (bytes.take n).length) }

def failDelivery (s : RuntimeHost) (i : Nat) (c : Conn) (tx : Delivery) (bytesWritten : Nat) : RuntimeHost :=
  (s.setDelivery ⟨tx.id, false, false, true, bytesWritten, s.enrollment.generation⟩).setConn i
    { c with handler := .answering [] true }

def recordAck (s : RuntimeHost) : HostMessage → RuntimeHost
  | .deliverAck id _ outcome _ => { s with acks := s.acks ++ [(id, outcome)] }
  | _ => s

/-- The next message is written; an error in the replay ends the handler. -/
def answer (s : RuntimeHost) (i : Nat) (c : Conn) (messages : List HostMessage) (close : Bool) (failure : Option Nat) :
    RuntimeHost :=
  match messages with
  | [] => if close then s.finish i c else s.setConn i { c with handler := .idle }
  | message :: rest =>
    let s := s.recordAck message
    if c.opened && failure = none then
      s.setConn i { c with received := c.received ++ [message], handler := .answering rest close }
    else if message.isOutput then s.setConn i { c with opened := false, handler := .answering [] true }
    else s.setConn i { c with opened := false, handler := .answering rest close }

def advance (s : RuntimeHost) (i : Nat) (c : Conn) (now : Int) (failure : Option Nat) : RuntimeHost :=
  match c.handler with
  | .idle => s
  | .greeted h => s.verifyHello i c now h
  | .verified h renewing => s.lookUpHello i c h renewing
  | .unseen h renewing controllerBusy => s.recordHello i c h renewing controllerBusy
  | .recorded h renewing controllerBusy => s.proceedHello i c h renewing controllerBusy
  | .claiming h => s.claim i c h
  | .requested tx => s.checkDelivery i c tx
  | .validated tx => s.countDelivery i c tx
  | .counted tx => s.reserve i c tx
  | .executing execution tx frame bytesWritten => s.execute i c execution tx frame bytesWritten failure
  | .failing _ tx bytesWritten => s.failDelivery i c tx bytesWritten
  | .answering messages close => s.answer i c messages close failure

def reply (s : RuntimeHost) (i : Nat) (c : Conn) (message : HostMessage) : RuntimeHost :=
  s.setConn i { c with handler := .answering [message] false }

/-- A frame of a client that is authenticated, and has not expired. -/
def handleFrame (s : RuntimeHost) (i : Nat) (c : Conn) (client : HostClient) (fails : Bool) :
    ClientFrame → RuntimeHost
  | .hello h => s.setConn i { c with handler := .greeted h }
  | .input bytes =>
    if "input" ∉ client.actions then s.reject i c EAuthFailed "input capability required"
    else if s.controller ≠ some i then s.reject i c ENotController "input requires controller"
    else if s.exited.isSome then s.reject i c EExited "child exited"
    else { s with pty := s.pty ++ [⟨none, bytes⟩] }
  | .resize _ _ =>
    if "resize" ∉ client.actions then s.reject i c EAuthFailed "resize capability required"
    else if s.controller ≠ some i then s.reject i c ENotController "resize requires controller"
    else s
  | .signal payload =>
    if "signal" ∉ client.actions ∨ payload.length ≠ 1 then s.reject i c EAuthFailed "signal capability required"
    else if payload.head?.all (· ∉ [2, 15, 1, 28]) then s.reject i c EBadFrame "signal not allowed"
    else if fails then s.reject i c EBadFrame "signal failed"
    else s
  | .terminate =>
    if "terminate" ∉ client.actions then s.reject i c EAuthFailed "terminate capability required"
    else { s with terminated := true }.reply i c .terminateAck
  | .deliverMessage tx =>
    if "deliverMessage" ∉ client.actions then s.reject i c EAuthFailed "deliverMessage capability required"
    else s.setConn i { c with handler := .requested tx }
  | .ping => s.reply i c .pong
  | .wipe => { s with secret := [], wiped := true }.reply i c .wipeAck
  | .other => s.reject i c EBadFrame "unexpected frame"

/-- `handle` up to its first write or its next use of the lock. -/
def handle (s : RuntimeHost) (i : Nat) (c : Conn) (now : Int) (fails : Bool) (frame : ClientFrame) : RuntimeHost :=
  match frame with
  | .hello h => s.setConn i { c with handler := .greeted h }
  | frame =>
    match c.client with
    | none => s.reject i c EAuthFailed "HELLO required"
    | some client =>
      if client.expiresAt ≤ now then s.reject i c EAuthFailed "capability expired"
      else s.handleFrame i c client fails frame

inductive HostEvent where
  | accept
  /-- The next frame of a connection is handled; `fails` is for a signal that cannot be sent. -/
  | request (i : Nat) (now : Int) (fails : Bool) (frame : ClientFrame)
  /-- The handler takes its next step; a failing write gets so many bytes through. -/
  | advance (i : Nat) (now : Int) (failure : Option Nat)
  /-- The connection cannot be read any more. -/
  | hangUp (i : Nat)
  /-- What a connection brings is no frame. -/
  | malformed (i : Nat) (code : Nat)
  | produce (data : List UInt8)
  | exit (code : Int)
  | take (i : Nat)
  | write (i : Nat) (failure : Option Nat)
  | settle (i : Nat)

def onConn (s : RuntimeHost) (i : Nat) (f : Conn → RuntimeHost) : RuntimeHost := s.conns[i]?.elim s f

def step (s : RuntimeHost) : HostEvent → RuntimeHost
  | .accept => { s with conns := s.conns ++ [⟨true, true, none, .idle, .idle, []⟩] }
  | .request i now fails frame => s.onConn i fun c =>
    if c.serving && c.handler = .idle then s.handle i c now fails frame else s
  | .advance i now failure => s.onConn i fun c => s.advance i c now failure
  | .hangUp i => s.onConn i fun c => if c.serving && c.handler = .idle then s.finish i c else s
  | .malformed i code => s.onConn i fun c =>
    if c.serving && c.handler = .idle then s.reject i c code "protocol error" else s
  | .produce data => if s.exited.isSome then s else s.produce data
  | .exit code => if s.exited.isSome then s else s.exitChild code
  | .take i => s.onConn i fun c => s.take i c
  | .write i failure => s.onConn i fun c => s.writeChunk i c failure
  | .settle i => s.onConn i fun c => s.settleChunk i c

def initial (enrollment : HostEnrollment) (ringBytes : Nat) (secret : List UInt8) : RuntimeHost :=
  ⟨enrollment, ⟨ringBytes, [], 0⟩, [], none, secret, none, false, [], .empty, false, [], [], [], []⟩

end RuntimeHost
end Wardroom.Runtime.Host
