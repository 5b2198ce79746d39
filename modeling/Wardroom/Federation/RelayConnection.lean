import Wardroom.Federation.PeerTrust
import Wardroom.Federation.RelayProtocol
import Wardroom.Federation.RelayQueue
import Wardroom.Library.Program

/-! # The state machine of a relay connection

What the connection asks of its surroundings depends on a world that moves on
from line to line and from write to write; nothing is assumed about it. All
readings of the clock for one line are the same.
-/

namespace Wardroom.Federation
open Wardroom.Library

inductive RelayConnectionState where
  | handshaking
  | connected
  | draining
  | closed
  deriving DecidableEq

inductive RelayDisconnectReason where
  | gracefulClose
  | peerClosed
  | peerDrained
  | childExited
  | childSignaled
  | childSpawnFailed
  | transportError
  | handshakeTimeout
  | handshakeRejected
  | handshakeExpired
  | malformedHandshake
  | wrongDestination
  | wrongPeer
  | wrongConnection
  | wrongDirection
  | keyMismatch
  | peerNotActive
  | peerTrustMismatch
  | peerTrustRevoked
  | invalidSignature
  | protocolDowngrade
  | sequenceViolation
  | unknownField
  | oversizeFrame
  | queueOverflow
  | idleTimeout
  | protocolError
  deriving DecidableEq

/-- The keys of a machine whose identity has been validated. -/
structure MachineSigningKeys where
  authorityId : JsString
  authorityId_wellFormed : AUTHORITY_ID_PATTERN authorityId = true
  /-- `spkiBase64FromPublicKey` of the public key. -/
  publicKeySpkiB64 : JsString
  /-- `signEnrollmentTranscript` with the private key. -/
  sign : JsString → JsString

/-- What an application handler can do with the connection it is given. -/
inductive Operation (ν : Type) where
  | sendTerminal (frame : List (JsString × JsValue ν))
  | sendChannel (frame : List (JsString × JsValue ν))
  | sendInventory (frame : List (JsString × JsValue ν))
  | sendEcho (payload : JsString)
  | requestStatus
  | sendHeartbeat
  | drain
  | close (reason : RelayDisconnectReason) (message : JsString)

/-- The synchronous part of a handler: it sees how each operation ends, and may throw. -/
inductive Handling (ν : Type) where
  | done
  | throws (message : JsString)
  | call (operation : Operation ν) (next : Except JsString Unit → Handling ν)

structure Surroundings (ν ω : Type) extends Platform ν where
  /-- The time that passes between two lines. -/
  tick : ω → ω
  now : ω → Int
  /-- `duplex.write`. -/
  write : JsString → ω → Bool × ω
  /-- `randomBytes(n).toString("hex")`. -/
  randomHex : Nat → ω → JsString
  randomUUID : ω → JsString
  resolveRoomsStateDir : Option JsString → ω → Except JsString JsString
  loadMachineSigningKeys : JsString → ω → Except JsString MachineSigningKeys
  readActivePeerTrust : JsString → JsString → ω → Except JsString (Option (PeerTrustRecord ν))
  /-- `createPublicKey` of the base64 text, with the kind of the key and its canonical DER. -/
  createPublicKey : JsString → Option (JsString × List UInt8)
  fingerprintForDer : List UInt8 → JsString
  /-- `verifyEnrollmentTranscript` with the key of a DER. -/
  verifyEnrollmentTranscript : List UInt8 → JsString → JsString → Bool
  handleTerminal : Option (JsValue ν → ω → Handling ν)
  handleChannel : Option (JsValue ν → ω → Handling ν)
  handleInventory : Option (JsValue ν → ω → Handling ν)

/-- What is signed with the key of a DER; an accept with the init it answers, and where and when. -/
inductive Statement (ν ω : Type) where
  | init (der : List UInt8) (frame : RelayHandshakeInit ν)
  | accept (der : List UInt8) (frame : RelayHandshakeAccept ν) (answered : RelayHandshakeInit ν)
      (stateDir : JsString) (w : ω)

/-- What a connection tells its owner, and what it signs, agrees on and goes on to handle. -/
inductive Notice (ν ω : Type) where
  /-- `onStatusChange`. -/
  | status (state : RelayConnectionState) (peerAuthorityId : Option JsString)
  | signed (statement : Statement ν ω)
  | agreed (accept : RelayHandshakeAccept ν)
  | handled (peerAuthorityId : Option JsString) (received : RelayHeader) (frame : RelayApplicationFrame ν)

structure RelayConnectionInput where
  role : Role
  localStateDir : Option JsString
  /-- The peer that an initiator dials. -/
  peerAuthorityId : Option JsString
  remoteStateDirForPeer : Option JsString
  ttlSeconds : Option Int
  heartbeatIntervalMs : Option Int
  idleTimeoutMs : Option Int
  maxQueuedFrames : Option Nat
  maxQueuedBytes : Option Nat

/-- The offer of an initiator that waits for the accept. -/
structure PendingInit (ν : Type) where
  connectionId : JsString
  nonce : JsString
  issuedAt : JsString
  expiresAt : JsString
  initiatorAuthorityId : JsString
  initiatorFingerprint : JsString
  initiatorPublicKeySpkiB64 : JsString
  initiatorTransportPolicy : JsValue ν
  responderAuthorityId : JsString

/-- A timer that runs has its interval; a time is kept as its time value. -/
structure RelayConnection (ν ω : Type) where
  world : ω
  role : Role
  localStateDir : JsString
  inputHeartbeatIntervalMs : Option Int
  inputIdleTimeoutMs : Option Int
  ownAuthorityId : Option JsString
  state : RelayConnectionState
  connectionId : Option JsString
  peerAuthorityId : Option JsString
  resolvedRemoteStateDir : Option JsString
  negotiatedHeartbeatIntervalMs : Option Int
  connectedAt : Option Int
  outgoingSeq : Nat
  incomingSeq : Nat
  lastHeartbeatSentAt : Option Int
  lastHeartbeatReceivedAt : Option Int
  lastAnyReceivedAtMs : Int
  disconnectReason : Option RelayDisconnectReason
  disconnectMessage : Option JsString
  pendingInit : Option (PendingInit ν)
  heartbeatTimer : Option Int
  idleTimer : Option Int
  handshakeTimer : Bool
  outbox : Outbox
  /-- What the frame reader keeps of the next line. -/
  buffer : List Char
  /-- The handler has been told of the end, and the transport destroyed. -/
  released : Bool
  notices : List (Notice ν ω)

abbrev Relay (ν ω α : Type) : Type := Prog (RelayConnection ν ω) JsString α

/-- `"00000000-0000-0000-0000-000000000000"`. -/
def UNKNOWN_CONNECTION_ID : JsString := text "00000000-0000-0000-0000-000000000000"

def DEFAULT_HEARTBEAT_INTERVAL_MS : Int := 5000
def DEFAULT_IDLE_TIMEOUT_MULTIPLE : Int := 3
def DEFAULT_MAX_QUEUED_FRAMES : Nat := 256
def DEFAULT_MAX_QUEUED_BYTES : Nat := 1048576
def RELAY_DEFAULT_TTL_SECONDS : Int := 60
def RELAY_MIN_TTL_SECONDS : Int := 10
def RELAY_MAX_TTL_SECONDS : Int := 300

/-- The policy kind that the trust in a peer must have for this channel. -/
def EXPECTED_TRUST_POLICY_KIND_FOR_CHANNEL : String := "loopbackSsh"

def reasonFromRejectCode (code : String) : RelayDisconnectReason :=
  if code = "wrongDestination" then .wrongDestination
  else if code = "keyMismatch" then .keyMismatch
  else if code = "peerNotActive" then .peerNotActive
  else if code = "peerTrustMismatch" then .peerTrustMismatch
  else if code = "handshakeExpired" then .handshakeExpired
  else if code = "invalidSignature" then .invalidSignature
  else if code = "protocolDowngrade" then .protocolDowngrade
  else if code = "malformedHandshake" then .malformedHandshake
  else .handshakeRejected

def ownDirection : Role → RelayDirection
  | .initiator => .initiatorToResponder
  | .responder => .responderToInitiator

def peerDirection : Role → RelayDirection
  | .initiator => .responderToInitiator
  | .responder => .initiatorToResponder

/-- `Rooms relay connection: …`. -/
def relayConnectionError (message : String) : JsString := text "Rooms relay connection: " ++ text message

namespace RelayConnection
variable {ν ω α : Type}

def emitStatus (c : RelayConnection ν ω) : RelayConnection ν ω :=
  { c with notices := c.notices ++ [.status c.state c.peerAuthorityId] }

def closing (c : RelayConnection ν ω) (reason : RelayDisconnectReason) (message : JsString) :
    RelayConnection ν ω :=
  if c.state = .closed then c
  else
    { c with
      state := .closed
      disconnectReason := some reason
      disconnectMessage := some message
      outbox := { c.outbox with destroyed := true }
      heartbeatTimer := none
      idleTimer := none
      handshakeTimer := false
      released := true
      notices := c.notices ++ [.status .closed c.peerAuthorityId] }

def fail (reason : RelayDisconnectReason) (message : JsString) : Relay ν ω Unit :=
  Prog.modify fun c => c.closing reason message

/-- The header of the next frame to send. -/
def header (c : RelayConnection ν ω) (seq : Nat) : RelayHeader :=
  ⟨c.connectionId.getD [], ownDirection c.role, seq⟩

variable (s : Surroundings ν ω)

def enqueue (line : JsString) : Relay ν ω Unit := do
  let c ← Prog.read
  if c.outbox.fits line then Prog.modify fun c => { c with outbox := c.outbox.enqueue line }
  else fail .queueOverflow (text "outgoing queue exceeded bounds (" ++ decimal c.outbox.maxQueuedFrames ++
    text " frames / " ++ decimal c.outbox.maxQueuedBytes ++ text " bytes); slow peer disconnected")

/-- The transport takes the line and answers. -/
def writeLine (line : JsString) : Relay ν ω Bool := fun c =>
  (.ok (s.write line c.world).1,
    { c with world := (s.write line c.world).2, outbox := c.outbox.write line })

def writeFrame (line : JsString) : Relay ν ω Unit := do
  let c ← Prog.read
  if c.outbox.destroyed then pure ()
  else if c.outbox.outgoingQueue ≠ [] then enqueue line
  else do
    let ok ← writeLine s line
    if ok then pure () else enqueue line

/-- The sequence number is taken once the frame has been encoded. -/
def sendSequencedFrame (factory : RelayHeader → JsValue ν) : Relay ν ω Unit := do
  let c ← Prog.read
  let line ← Prog.ofExcept (encodeObject s.toPlatform (factory (c.header (c.outgoingSeq + 1))))
  Prog.modify fun c => { c with outgoingSeq := c.outgoingSeq + 1 }
  writeFrame s line

def sendApplication (frame : RelayApplicationFrame ν) : Relay ν ω Unit :=
  sendSequencedFrame s fun header => frame.toObject s.toPlatform header

/-- The close frame is best effort. -/
def sendClose (message : JsString) : Relay ν ω Unit := do
  let c ← Prog.read
  if c.connectionId.isSome then Prog.tryCatch (sendApplication s (.close message)) fun _ => pure ()
  else pure ()

def close (reason : RelayDisconnectReason) (message : JsString) : Relay ν ω Unit := do
  let c ← Prog.read
  if c.state = .closed then pure ()
  else do
    sendClose s message
    fail reason message

/-- The state directory whose trust records count. -/
def trustDir (c : RelayConnection ν ω) : JsString :=
  match c.role with
  | .initiator => c.localStateDir
  | .responder => c.resolvedRemoteStateDir.getD c.localStateDir

def revalidatePeerTrustOrClose : Relay ν ω Unit := do
  let c ← Prog.read
  match c.peerAuthorityId with
  | none => pure ()
  | some peer => do
    let trust ← Prog.ofExcept (s.readActivePeerTrust peer c.trustDir c.world)
    if trust.isNone then
      close s .peerTrustRevoked (text "peer trust is no longer active (revoked or not yet re-established)")
    else pure ()

def sendHeartbeat : Relay ν ω Unit := do
  let c ← Prog.read
  if c.state ≠ .connected ∧ c.state ≠ .draining then pure ()
  else do
    sendApplication s .heartbeat
    Prog.modify fun c => { c with lastHeartbeatSentAt := some (s.now c.world) }
    revalidatePeerTrustOrClose s
    Prog.modify emitStatus

def drain : Relay ν ω Unit := do
  let c ← Prog.read
  if c.state ≠ .connected then pure ()
  else do
    Prog.modify fun c => { c with state := .draining }
    sendApplication s .drain
    Prog.modify emitStatus

def assertCanSendApplicationRequest : Relay ν ω Unit := do
  let c ← Prog.read
  if c.role ≠ .initiator then
    Prog.fail (relayConnectionError "only the initiator sends echo/status requests")
  else if c.state ≠ .connected then
    Prog.fail (relayConnectionError "connection is not in the connected state")
  else pure ()

def sendEcho (payload : JsString) : Relay ν ω Unit := do
  assertCanSendApplicationRequest
  sendApplication s (.echoRequest payload)

def requestStatus : Relay ν ω Unit := do
  assertCanSendApplicationRequest
  sendApplication s .statusRequest

/-- The sequenced fields are spread over the caller's frame. -/
def sendOpaque (frame : List (JsString × JsValue ν)) : Relay ν ω Unit := do
  let c ← Prog.read
  if c.state ≠ .connected ∧ c.state ≠ .draining then
    Prog.fail (relayConnectionError "connection is not available")
  else sendSequencedFrame s fun header =>
    .object (create (text "seq") (integer s.toPlatform header.seq)
      (create (text "direction") (constant header.direction.name)
        (create (text "connectionId") (.string header.connectionId) frame))) .objectPrototype

def sendTerminal (frame : List (JsString × JsValue ν)) : Relay ν ω Unit := sendOpaque s frame

def sendChannel (frame : List (JsString × JsValue ν)) : Relay ν ω Unit := sendOpaque s frame

def sendInventory (frame : List (JsString × JsValue ν)) : Relay ν ω Unit := sendOpaque s frame

def perform : Operation ν → Relay ν ω Unit
  | .sendTerminal frame => sendTerminal s frame
  | .sendChannel frame => sendChannel s frame
  | .sendInventory frame => sendInventory s frame
  | .sendEcho payload => sendEcho s payload
  | .requestStatus => requestStatus s
  | .sendHeartbeat => sendHeartbeat s
  | .drain => drain s
  | .close reason message => close s reason message

def handle : Handling ν → Relay ν ω Unit
  | .done => pure ()
  | .throws message => Prog.fail message
  | .call operation next => fun c =>
    match perform s operation c with
    | (outcome, c') => handle (next outcome) c'

/-- An initiator knows its identity from the start, a responder from the init on. -/
def eagerAuthority (role : Role) (localStateDir : JsString) (w : ω) : Except JsString (Option JsString) :=
  match role with
  | .initiator => (s.loadMachineSigningKeys localStateDir w).map (some ·.authorityId)
  | .responder => .ok none

def construct (input : RelayConnectionInput) (w : ω) : Except JsString (RelayConnection ν ω) :=
  if input.role = .initiator ∧ input.peerAuthorityId.all (· = []) then
    .error (relayConnectionError "initiator role requires peerAuthorityId")
  else do
    let localStateDir ← s.resolveRoomsStateDir input.localStateDir w
    let ownAuthorityId ← eagerAuthority s input.role localStateDir w
    return {
      world := w, role := input.role, localStateDir, inputHeartbeatIntervalMs := input.heartbeatIntervalMs,
      inputIdleTimeoutMs := input.idleTimeoutMs, ownAuthorityId, state := .handshaking, connectionId := none,
      peerAuthorityId := none, resolvedRemoteStateDir := none, negotiatedHeartbeatIntervalMs := none,
      connectedAt := none, outgoingSeq := 0, incomingSeq := 0, lastHeartbeatSentAt := none,
      lastHeartbeatReceivedAt := none, lastAnyReceivedAtMs := 0, disconnectReason := none,
      disconnectMessage := none, pendingInit := none, heartbeatTimer := none, idleTimer := none,
      handshakeTimer := false,
      outbox := ⟨input.maxQueuedFrames.getD DEFAULT_MAX_QUEUED_FRAMES,
        input.maxQueuedBytes.getD DEFAULT_MAX_QUEUED_BYTES, [], 0, false, []⟩,
      buffer := [], released := false, notices := [] }

def boundedTtl (value : Option Int) : Except JsString Int :=
  match value with
  | none => .ok RELAY_DEFAULT_TTL_SECONDS
  | some ttl =>
    if ttl < RELAY_MIN_TTL_SECONDS ∨ RELAY_MAX_TTL_SECONDS < ttl then
      .error (relayConnectionError "ttlSeconds must be an integer between 10 and 300")
    else .ok ttl

def canonicalPublicKeyDerFromSpkiBase64 (spkiBase64 : JsString) : Except JsString (List UInt8) :=
  match s.createPublicKey spkiBase64 with
  | none => .error (text "Rooms peer enrollment: public key is not a valid SPKI-encoded key")
  | some (kind, der) =>
    if kind ≠ text "ed25519" then .error (text "Rooms peer enrollment: public key must be Ed25519")
    else .ok der

def signedInit (input : RelayConnectionInput) (own peer : JsString) (keys : MachineSigningKeys)
    (trust : PeerTrustRecord ν) (w : ω) : Except JsString (List UInt8 × RelayHandshakeInit ν) := do
  let ttlSeconds ← boundedTtl input.ttlSeconds
  let der ← canonicalPublicKeyDerFromSpkiBase64 s keys.publicKeySpkiB64
  let init : RelayHandshakeInit ν :=
    ⟨s.randomUUID w, own, s.fingerprintForDer der, keys.publicKeySpkiB64, trust.transportPolicy, peer,
      input.remoteStateDirForPeer, input.heartbeatIntervalMs, s.randomHex RELAY_HANDSHAKE_NONCE_BYTES w,
      s.toISOString (s.now w), s.toISOString (s.now w + ttlSeconds * 1000), []⟩
  return (der, { init with signature := keys.sign (canonicalRelayInitTranscript s.toPlatform init) })

def pendingOf (init : RelayHandshakeInit ν) : PendingInit ν :=
  ⟨init.connectionId, init.nonce, init.issuedAt, init.expiresAt, init.initiatorAuthorityId,
    init.initiatorFingerprint, init.initiatorPublicKeySpkiB64, init.initiatorTransportPolicy,
    init.responderAuthorityId⟩

/-- An initiator sends its init at once, a responder waits for one. -/
def start (input : RelayConnectionInput) : Relay ν ω Unit := do
  Prog.modify fun c => { c with handshakeTimer := true }
  let c ← Prog.read
  match c.role with
  | .responder => pure ()
  | .initiator => do
    let own := c.ownAuthorityId.getD []
    let peer := input.peerAuthorityId.getD []
    let trust ← Prog.ofExcept (s.readActivePeerTrust peer c.localStateDir c.world)
    match trust with
    | none => fail .peerNotActive (text "no active local peer trust for " ++ peer ++
        text "; connection refused before dialing")
    | some trust => do
      let keys ← Prog.ofExcept (s.loadMachineSigningKeys c.localStateDir c.world)
      let (der, init) ← Prog.ofExcept (signedInit s input own peer keys trust c.world)
      Prog.modify fun c =>
        { c with
          notices := c.notices ++ [.signed (.init der init)]
          connectionId := some init.connectionId
          peerAuthorityId := some peer
          pendingInit := some (pendingOf init) }
      let line ← Prog.ofExcept (encodeRelayFrame s.toPlatform (.init init))
      writeFrame s line
      Prog.modify emitStatus

def rejectHandshake (connectionId : JsString) (code : String) (message : JsString) : Relay ν ω Unit := do
  let line ← Prog.ofExcept (encodeRelayFrame s.toPlatform (.reject ⟨connectionId, text code, message⟩))
  writeFrame s line
  fail (reasonFromRejectCode code) message

/-- The detail goes to the log only. -/
def rejectHandshakeWithoutDetail (connectionId : JsString) : Relay ν ω Unit :=
  rejectHandshake s connectionId "malformedHandshake" (text "handshake rejected")

/-- The key is the one its fingerprint and authority id name. -/
def keyMatches (fingerprint presented authority : JsString) : Prop :=
  fingerprint = presented ∧ text "authority-" ++ fingerprint = authority

instance (fingerprint presented authority : JsString) : Decidable (keyMatches fingerprint presented authority) :=
  inferInstanceAs (Decidable (_ ∧ _))

def trustMatchesPresented (trust : PeerTrustRecord ν) (presentedFingerprint : JsString) : Prop :=
  trust.fingerprint = presentedFingerprint ∧
    isText (trust.transportPolicy.get (text "kind")) EXPECTED_TRUST_POLICY_KIND_FOR_CHANNEL = true

instance (trust : PeerTrustRecord ν) (presentedFingerprint : JsString) :
    Decidable (trustMatchesPresented trust presentedFingerprint) := inferInstanceAs (Decidable (_ ∧ _))

def becomeConnected (accept : RelayHandshakeAccept ν) : Relay ν ω Unit :=
  Prog.modify fun c =>
    let heartbeatIntervalMs :=
      (c.inputHeartbeatIntervalMs.or c.negotiatedHeartbeatIntervalMs).getD DEFAULT_HEARTBEAT_INTERVAL_MS
    emitStatus { c with
      notices := c.notices ++ [.agreed accept]
      handshakeTimer := false
      state := .connected
      connectedAt := some (s.now c.world)
      lastAnyReceivedAtMs := s.now c.world
      heartbeatTimer := some heartbeatIntervalMs
      idleTimer := some (c.inputIdleTimeoutMs.getD (heartbeatIntervalMs * DEFAULT_IDLE_TIMEOUT_MULTIPLE)) }

def dateOf (date : JsString) : Int := (s.parseDate date).getD 0

def acceptOf (init : RelayHandshakeInit ν) (keys : MachineSigningKeys) (fingerprint nonce : JsString)
    (trust : PeerTrustRecord ν) : RelayHandshakeAccept ν :=
  ⟨init.connectionId, init.initiatorAuthorityId, init.initiatorFingerprint, init.initiatorPublicKeySpkiB64,
    init.initiatorTransportPolicy, keys.authorityId, fingerprint, keys.publicKeySpkiB64, trust.transportPolicy,
    init.nonce, nonce, init.issuedAt, init.expiresAt, []⟩

/-- The answer to an init that has passed every check. -/
def signedAccept (init : RelayHandshakeInit ν) (keys : MachineSigningKeys) (trust : PeerTrustRecord ν)
    (w : ω) : Except JsString (List UInt8 × RelayHandshakeAccept ν) := do
  let der ← canonicalPublicKeyDerFromSpkiBase64 s keys.publicKeySpkiB64
  let accept := acceptOf init keys (s.fingerprintForDer der) (s.randomHex RELAY_HANDSHAKE_NONCE_BYTES w) trust
  return (der, { accept with signature := keys.sign (canonicalRelayAcceptTranscript s.toPlatform accept) })

/-- The accept has been signed. -/
def answering (c : RelayConnection ν ω) (init : RelayHandshakeInit ν) (dir : JsString) (der : List UInt8)
    (accept : RelayHandshakeAccept ν) : RelayConnection ν ω :=
  { c with
    notices := c.notices ++ [.signed (.accept der accept init dir c.world)]
    peerAuthorityId := some init.initiatorAuthorityId }

def acceptHandshake (init : RelayHandshakeInit ν) (dir : JsString) (keys : MachineSigningKeys)
    (trust : PeerTrustRecord ν) : Relay ν ω Unit := do
  let c ← Prog.read
  let (der, accept) ← Prog.ofExcept (signedAccept s init keys trust c.world)
  Prog.modify fun c => c.answering init dir der accept
  let line ← Prog.ofExcept (encodeRelayFrame s.toPlatform (.accept accept))
  writeFrame s line
  becomeConnected s accept

/-- The checks of an init after the initiator's trust record has been read. -/
def onTrustedInit (init : RelayHandshakeInit ν) (dir : JsString) (keys : MachineSigningKeys) (der : List UInt8) :
    Option (PeerTrustRecord ν) → Relay ν ω Unit
  | none => rejectHandshake s init.connectionId "peerNotActive"
      (text "no active local peer trust for " ++ init.initiatorAuthorityId)
  | some trust => do
    let c ← Prog.read
    if ¬trustMatchesPresented trust (s.fingerprintForDer der) then
      rejectHandshake s init.connectionId "peerTrustMismatch"
        (text "presented key/transport policy does not match the locally pinned peer trust record")
    else if dateOf s init.expiresAt ≤ s.now c.world then
      rejectHandshake s init.connectionId "handshakeExpired" (text "handshake init has expired")
    else if RELAY_CLOCK_SKEW_TOLERANCE_MS < dateOf s init.issuedAt - s.now c.world then
      rejectHandshake s init.connectionId "handshakeExpired"
        (text "handshake init issuedAt is too far in the future")
    else if s.verifyEnrollmentTranscript der (canonicalRelayInitTranscript s.toPlatform init) init.signature = false
    then rejectHandshake s init.connectionId "invalidSignature" (text "handshake init signature is invalid")
    else acceptHandshake s init dir keys trust

def onAddressedInit (init : RelayHandshakeInit ν) (dir : JsString) (keys : MachineSigningKeys) :
    Relay ν ω Unit := do
  if init.responderAuthorityId ≠ keys.authorityId then
    rejectHandshake s init.connectionId "wrongDestination"
      (text "handshake is not addressed to this Rooms identity")
  else if init.initiatorAuthorityId = keys.authorityId then
    rejectHandshake s init.connectionId "wrongDestination"
      (text "reflection: initiator cannot be this Rooms identity")
  else
    match canonicalPublicKeyDerFromSpkiBase64 s init.initiatorPublicKeySpkiB64 with
    | .error message => rejectHandshake s init.connectionId "keyMismatch" message
    | .ok der =>
      if ¬keyMatches (s.fingerprintForDer der) init.initiatorFingerprint init.initiatorAuthorityId then
        rejectHandshake s init.connectionId "keyMismatch"
          (text "initiator fingerprint/authority id does not match its presented public key")
      else do
        let c ← Prog.read
        let trust ← Prog.ofExcept (s.readActivePeerTrust init.initiatorAuthorityId dir c.world)
        onTrustedInit s init dir keys der trust

def onHandshakeInit (init : RelayHandshakeInit ν) : Relay ν ω Unit := do
  Prog.modify fun c => { c with connectionId := some init.connectionId }
  let c ← Prog.read
  match s.resolveRoomsStateDir (init.stateDir.or (some c.localStateDir)) c.world with
  | .error _ => rejectHandshakeWithoutDetail s init.connectionId
  | .ok dir => do
    Prog.modify fun c =>
      { c with resolvedRemoteStateDir := some dir, negotiatedHeartbeatIntervalMs := init.heartbeatIntervalMs }
    match s.loadMachineSigningKeys dir c.world with
    | .error _ => rejectHandshakeWithoutDetail s init.connectionId
    | .ok keys => do
      Prog.modify fun c => { c with ownAuthorityId := some keys.authorityId }
      onAddressedInit s init dir keys

/-- The accept repeats what this side has offered. -/
def echoesOffer (pending : PendingInit ν) (accept : RelayHandshakeAccept ν) : Prop :=
  accept.initiatorAuthorityId = pending.initiatorAuthorityId ∧
    accept.initiatorFingerprint = pending.initiatorFingerprint ∧
    accept.initiatorPublicKeySpkiB64 = pending.initiatorPublicKeySpkiB64 ∧
    accept.initiatorTransportPolicy.stringify s.toPlatform =
      pending.initiatorTransportPolicy.stringify s.toPlatform ∧
    accept.initiatorNonce = pending.nonce ∧ accept.issuedAt = pending.issuedAt ∧
    accept.expiresAt = pending.expiresAt

instance (pending : PendingInit ν) (accept : RelayHandshakeAccept ν) : Decidable (echoesOffer s pending accept) :=
  inferInstanceAs (Decidable (_ ∧ _))

/-- The checks of an accept after the responder's trust record has been read. -/
def onTrustedAccept (accept : RelayHandshakeAccept ν) : Option (PeerTrustRecord ν) → Relay ν ω Unit
  | none => fail .peerNotActive (text "no active local peer trust for " ++ accept.responderAuthorityId)
  | some trust =>
    match canonicalPublicKeyDerFromSpkiBase64 s accept.responderPublicKeySpkiB64 with
    | .error message => fail .keyMismatch message
    | .ok der =>
      if ¬keyMatches (s.fingerprintForDer der) accept.responderFingerprint accept.responderAuthorityId then
        fail .keyMismatch (text "responder fingerprint/authority id does not match its presented public key")
      else if ¬trustMatchesPresented trust (s.fingerprintForDer der) then
        fail .peerTrustMismatch
          (text "presented responder key/transport policy does not match the locally pinned peer trust record")
      else if s.verifyEnrollmentTranscript der (canonicalRelayAcceptTranscript s.toPlatform accept)
          accept.signature = false then
        fail .invalidSignature (text "handshake accept signature is invalid")
      else becomeConnected s accept

def onHandshakeAccept (accept : RelayHandshakeAccept ν) : Relay ν ω Unit := do
  let c ← Prog.read
  match c.pendingInit with
  | none =>
    fail .wrongConnection (text "handshake accept connectionId does not match the pending init")
  | some pending =>
    if accept.connectionId ≠ pending.connectionId then
      fail .wrongConnection (text "handshake accept connectionId does not match the pending init")
    else if ¬echoesOffer s pending accept then
      fail .protocolError
        (text "handshake accept does not echo this side's offered init fields exactly (mutation)")
    else if accept.responderAuthorityId ≠ pending.responderAuthorityId then
      fail .wrongPeer (text "handshake accept responder authority id does not match the dialed peer")
    else if dateOf s accept.expiresAt ≤ s.now c.world then
      fail .handshakeExpired (text "handshake accept has expired")
    else do
      let trust ← Prog.ofExcept (s.readActivePeerTrust accept.responderAuthorityId c.localStateDir c.world)
      onTrustedAccept s accept trust

def onHandshakeFrame (frame : RelayWireFrame ν) : Relay ν ω Unit := do
  let c ← Prog.read
  match c.role, frame with
  | .responder, .init init => onHandshakeInit s init
  | .responder, frame =>
    rejectHandshake s (c.connectionId.getD UNKNOWN_CONNECTION_ID) "protocolDowngrade"
      (text "expected relayHandshakeInit, received " ++ text frame.kind)
  | .initiator, .reject frame => fail .handshakeRejected (frame.code ++ text ": " ++ frame.message)
  | .initiator, .accept accept => onHandshakeAccept s accept
  | .initiator, frame =>
    fail .protocolDowngrade (text "expected relayHandshakeAccept, received " ++ text frame.kind)

/-- A handler that is not there; an exception of one that is closes the connection. -/
def handleWith (handler : Option (JsValue ν → ω → Handling ν)) (unavailable : Option String)
    (frame : JsValue ν) : Relay ν ω Unit := do
  let c ← Prog.read
  match handler, unavailable with
  | some handler, _ => Prog.tryCatch (handle s (handler frame c.world)) (fail .protocolError)
  | none, some message => fail .protocolError (text message)
  | none, none => pure ()

def peerStatus (c : RelayConnection ν ω) : RelayPeerStatus :=
  ⟨c.connectionId.getD [], c.ownAuthorityId.getD [], c.peerAuthorityId.getD [], .responder,
    s.toISOString (c.connectedAt.getD 0), s.now c.world - c.connectedAt.getD 0⟩

/-- A frame that is next in sequence; the application handler echoes, and leaves the status as it is. -/
def dispatch (frame : RelayApplicationFrame ν) : Relay ν ω Unit := do
  let c ← Prog.read
  match frame with
  | .echoRequest payload =>
    if c.role ≠ .responder then fail .protocolError (text "only a responder accepts echoRequest")
    else sendApplication s (.echoResponse payload)
  | .echoResponse _ => pure ()
  | .statusRequest =>
    if c.role ≠ .responder then fail .protocolError (text "only a responder accepts statusRequest")
    else sendApplication s (.statusResponse (peerStatus s c))
  | .statusResponse _ => pure ()
  | .heartbeat => do
    Prog.modify fun c => { c with lastHeartbeatReceivedAt := some (s.now c.world) }
    revalidatePeerTrustOrClose s
    Prog.modify emitStatus
  | .drain => close s .peerDrained (text "peer initiated graceful drain")
  | .close reason => fail .peerClosed reason
  | .protocolError code message => fail .protocolError (code ++ text ": " ++ message)
  | .terminal _ frame => handleWith s s.handleTerminal none frame
  | .channelCommand frame => handleWith s s.handleChannel (some "channel federation is unavailable") frame
  | .channelResult frame => handleWith s s.handleChannel (some "channel federation is unavailable") frame
  | .inventoryCommand frame => handleWith s s.handleInventory (some "machine inventory is unavailable") frame
  | .inventoryResult frame => handleWith s s.handleInventory (some "machine inventory is unavailable") frame

/-- The frame is the next one, and is handled now. -/
def taking (c : RelayConnection ν ω) (received : RelayHeader) (frame : RelayApplicationFrame ν) :
    RelayConnection ν ω :=
  { c with
    incomingSeq := received.seq
    notices := c.notices ++ [.handled c.peerAuthorityId received frame] }

/-- The text of a sequence number. -/
def seqText (n : Nat) : JsString := s.numberText (s.ofInteger n)

def onApplicationFrame (received : RelayHeader) (frame : RelayApplicationFrame ν) : Relay ν ω Unit := do
  let c ← Prog.read
  if some received.connectionId ≠ c.connectionId then
    fail .wrongConnection
      (text "frame connectionId " ++ received.connectionId ++ text " does not match this connection")
  else if received.direction ≠ peerDirection c.role then
    fail .wrongDirection (text "frame direction " ++ text received.direction.name ++
      text " is not valid for a peer-originated frame on this connection")
  else if received.seq ≠ c.incomingSeq + 1 then
    fail .sequenceViolation (text "expected seq " ++ seqText s (c.incomingSeq + 1) ++ text ", received " ++
      seqText s received.seq ++ text " (gap, duplicate, or replay)")
  else do
    Prog.modify fun c => c.taking received frame
    dispatch s frame

def handleMalformed (message : JsString) : Relay ν ω Unit := do
  let c ← Prog.read
  if c.role = .responder ∧ c.state = .handshaking then
    rejectHandshake s (c.connectionId.getD UNKNOWN_CONNECTION_ID) "malformedHandshake" message
  else fail .protocolError message

def onLine (line : JsString) : Relay ν ω Unit := do
  let c ← Prog.read
  match parseRelayFrame s.toPlatform (s.now c.world) line with
  | .error message => handleMalformed s message
  | .ok frame => do
    Prog.modify fun c => { c with lastAnyReceivedAtMs := s.now c.world }
    if c.state = .handshaking then onHandshakeFrame s frame
    else
      match frame with
      | .application received frame => onApplicationFrame s received frame
      | frame =>
        fail .protocolDowngrade (text "received handshake frame " ++ text frame.kind ++
          text " after handshake already completed")

def codeUnits (line : Line) : JsString := line.flatMap JsString.ofChar

def onLines : List Line → Relay ν ω Unit
  | [] => pure ()
  | line :: lines => do
    let c ← Prog.read
    if c.outbox.destroyed then pure ()
    else do
      Prog.modify fun c => { c with world := s.tick c.world }
      onLine s (codeUnits line)
      onLines lines

def onData (chunk : List UInt8) : Relay ν ω Unit := do
  let c ← Prog.read
  if c.outbox.destroyed then pure ()
  else
    match push c.buffer chunk with
    | none => fail .oversizeFrame (text "Rooms relay protocol: incoming frame exceeds the maximum size of " ++
        decimal RELAY_MAX_FRAME_BYTES ++ text " bytes before a newline was found")
    | some (lines, rest) => do
      Prog.modify fun c => { c with buffer := rest }
      onLines s lines

end RelayConnection

/-- Every time is the first or the second one. -/
def twoTimes : Platform Int :=
  { digitPlatform with
    parseDate := fun date => if date = text "0" then some 0 else if date = text "1" then some 1 else none
    toISOString := fun ms => if ms ≤ 0 then text "0" else text "1"
    toISOString_length := fun ms => by split_ifs <;> decide +kernel
    toISOString_plain := fun ms => by split_ifs <;> decide +kernel }

def sampleFingerprintOf (letter : String) : JsString := (List.replicate 64 (text letter)).flatten

def sampleAuthority (letter : String) : JsString := text "authority-" ++ sampleFingerprintOf letter

/-- The keys of the initiator, in `/a`, and of the responder. -/
def sampleMachine (dir : JsString) : MachineSigningKeys :=
  if dir = text "/a" then ⟨sampleAuthority "a", by decide +kernel, text "aaaa", fun _ => text "aaaa"⟩
  else ⟨sampleAuthority "b", by decide +kernel, text "bbbb", fun _ => text "bbbb"⟩

def samplePolicy : JsValue Int :=
  object [("kind", constant "loopbackSsh"), ("peerAuthorityId", constant "p"), ("sshDestination", constant "d"),
    ("sshUser", constant "u"), ("localEndpoint", constant "::1"), ("localPort", integer twoTimes 1)]

def sampleTrust (peer : JsString) : PeerTrustRecord Int :=
  ⟨peer, [], peer.drop 10, samplePolicy, .active, [], [], none, none⟩

def sampleSurroundings : Surroundings Int Unit where
  toPlatform := twoTimes
  tick w := w
  now _ := 0
  write _ w := (true, w)
  randomHex n _ := List.replicate (2 * n) 0x30
  randomUUID _ := UNKNOWN_CONNECTION_ID
  resolveRoomsStateDir dir _ := .ok (dir.getD (text "/b"))
  loadMachineSigningKeys dir _ := .ok (sampleMachine dir)
  readActivePeerTrust peer _ _ := .ok (some (sampleTrust peer))
  createPublicKey spki := some (text "ed25519", spki.map fun c => c.toUInt8)
  fingerprintForDer der := der.flatMap fun b => List.replicate 16 b.toUInt16
  verifyEnrollmentTranscript der _ signature := signature = der.map fun b => b.toUInt16
  handleTerminal := none
  handleChannel := none
  handleInventory := none

def sampleInit : RelayHandshakeInit Int :=
  ⟨UNKNOWN_CONNECTION_ID, sampleAuthority "a", sampleFingerprintOf "a", text "aaaa", samplePolicy,
    sampleAuthority "b", none, none, List.replicate 64 0x30, text "0", text "1", text "aaaa"⟩

/-- The bytes of the line of a frame. -/
def sampleBytes (value : JsValue Int) : List UInt8 := ((value.stringify twoTimes) ++ [0x0A]).map UInt16.toUInt8

def sampleEcho (seq : Nat) : JsValue Int :=
  (RelayApplicationFrame.echoRequest (text "hi")).toObject twoTimes ⟨UNKNOWN_CONNECTION_ID, .initiatorToResponder, seq⟩

end Wardroom.Federation
