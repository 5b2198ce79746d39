import Wardroom.Federation.RelayFields
import Wardroom.Federation.RelayFraming

/-! # The frames of a relay connection

Handshake and application frames are built field by field; terminal, channel and
inventory frames stay objects, since the connection only hands them on.
-/

namespace Wardroom.Federation
open Wardroom.Library

variable {ν : Type} (p : Platform ν)

def RELAY_MAX_ECHO_PAYLOAD_BYTES : Nat := 4096
def RELAY_MAX_TERMINAL_BYTES : Nat := 8192
def RELAY_MAX_REASON_BYTES : Nat := 512
def RELAY_HANDSHAKE_NONCE_BYTES : Nat := 32
def RELAY_CLOCK_SKEW_TOLERANCE_MS : Int := 30000

structure RelayHandshakeInit (ν : Type) where
  connectionId : JsString
  initiatorAuthorityId : JsString
  initiatorFingerprint : JsString
  initiatorPublicKeySpkiB64 : JsString
  initiatorTransportPolicy : JsValue ν
  responderAuthorityId : JsString
  stateDir : Option JsString
  heartbeatIntervalMs : Option Int
  nonce : JsString
  issuedAt : JsString
  expiresAt : JsString
  signature : JsString

structure RelayHandshakeAccept (ν : Type) where
  connectionId : JsString
  initiatorAuthorityId : JsString
  initiatorFingerprint : JsString
  initiatorPublicKeySpkiB64 : JsString
  initiatorTransportPolicy : JsValue ν
  responderAuthorityId : JsString
  responderFingerprint : JsString
  responderPublicKeySpkiB64 : JsString
  responderTransportPolicy : JsValue ν
  initiatorNonce : JsString
  responderNonce : JsString
  issuedAt : JsString
  expiresAt : JsString
  signature : JsString

structure RelayHandshakeReject where
  connectionId : JsString
  code : JsString
  message : JsString

inductive Role where
  | initiator
  | responder
  deriving DecidableEq

def Role.name : Role → String
  | .initiator => "initiator"
  | .responder => "responder"

structure RelayPeerStatus where
  connectionId : JsString
  authorityId : JsString
  peerAuthorityId : JsString
  role : Role
  connectedAt : JsString
  uptimeMs : Int

/-- What every sequenced frame carries. -/
structure RelayHeader where
  connectionId : JsString
  direction : RelayDirection
  seq : Nat

inductive TerminalKind where
  | terminalOpen
  | terminalOpenAck
  | terminalOutput
  | terminalGap
  | terminalInput
  | terminalInputAck
  | terminalResize
  | terminalResizeAck
  | terminalDetach
  | terminalClose
  deriving DecidableEq

namespace TerminalKind

def name : TerminalKind → String
  | terminalOpen => "terminalOpen"
  | terminalOpenAck => "terminalOpenAck"
  | terminalOutput => "terminalOutput"
  | terminalGap => "terminalGap"
  | terminalInput => "terminalInput"
  | terminalInputAck => "terminalInputAck"
  | terminalResize => "terminalResize"
  | terminalResizeAck => "terminalResizeAck"
  | terminalDetach => "terminalDetach"
  | terminalClose => "terminalClose"

def all : List TerminalKind :=
  [terminalOpen, terminalOpenAck, terminalOutput, terminalGap, terminalInput, terminalInputAck, terminalResize,
    terminalResizeAck, terminalDetach, terminalClose]

def ofName (kind : JsString) : Option TerminalKind := all.find? fun k => text k.name = kind

end TerminalKind

inductive RelayApplicationFrame (ν : Type) where
  | echoRequest (payload : JsString)
  | echoResponse (payload : JsString)
  | statusRequest
  | statusResponse (status : RelayPeerStatus)
  | heartbeat
  | drain
  | close (reason : JsString)
  | protocolError (code message : JsString)
  | terminal (kind : TerminalKind) (frame : JsValue ν)
  | channelCommand (frame : JsValue ν)
  | channelResult (frame : JsValue ν)
  | inventoryCommand (frame : JsValue ν)
  | inventoryResult (frame : JsValue ν)

inductive RelayWireFrame (ν : Type) where
  | init (frame : RelayHandshakeInit ν)
  | accept (frame : RelayHandshakeAccept ν)
  | reject (frame : RelayHandshakeReject)
  | application (header : RelayHeader) (frame : RelayApplicationFrame ν)

def RelayApplicationFrame.kind : RelayApplicationFrame ν → String
  | .echoRequest _ => "echoRequest"
  | .echoResponse _ => "echoResponse"
  | .statusRequest => "statusRequest"
  | .statusResponse _ => "statusResponse"
  | .heartbeat => "heartbeat"
  | .drain => "drain"
  | .close _ => "close"
  | .protocolError _ _ => "protocolError"
  | .terminal kind _ => kind.name
  | .channelCommand _ => "channelCommand"
  | .channelResult _ => "channelResult"
  | .inventoryCommand _ => "inventoryCommand"
  | .inventoryResult _ => "inventoryResult"

def RelayWireFrame.kind : RelayWireFrame ν → String
  | .init _ => "relayHandshakeInit"
  | .accept _ => "relayHandshakeAccept"
  | .reject _ => "relayHandshakeReject"
  | .application _ frame => frame.kind

def object (members : List (String × JsValue ν)) : JsValue ν :=
  .object (members.map fun m => (text m.1, m.2)) .objectPrototype

def integer (n : Int) : JsValue ν := .number (p.ofInteger n)

def constant (s : String) : JsValue ν := .string (text s)

def RelayHandshakeInit.toObject (frame : RelayHandshakeInit ν) : JsValue ν :=
  object [("kind", constant "relayHandshakeInit"), ("version", integer p RELAY_PROTOCOL_VERSION),
    ("channel", constant RELAY_CHANNEL_KIND), ("connectionId", .string frame.connectionId),
    ("initiatorAuthorityId", .string frame.initiatorAuthorityId),
    ("initiatorFingerprint", .string frame.initiatorFingerprint),
    ("initiatorPublicKeySpkiB64", .string frame.initiatorPublicKeySpkiB64),
    ("initiatorTransportPolicy", frame.initiatorTransportPolicy),
    ("responderAuthorityId", .string frame.responderAuthorityId),
    ("stateDir", frame.stateDir.elim .null .string),
    ("heartbeatIntervalMs", frame.heartbeatIntervalMs.elim .null (integer p)),
    ("nonce", .string frame.nonce), ("issuedAt", .string frame.issuedAt),
    ("expiresAt", .string frame.expiresAt), ("signature", .string frame.signature)]

def RelayHandshakeAccept.toObject (frame : RelayHandshakeAccept ν) : JsValue ν :=
  object [("kind", constant "relayHandshakeAccept"), ("version", integer p RELAY_PROTOCOL_VERSION),
    ("channel", constant RELAY_CHANNEL_KIND), ("connectionId", .string frame.connectionId),
    ("initiatorAuthorityId", .string frame.initiatorAuthorityId),
    ("initiatorFingerprint", .string frame.initiatorFingerprint),
    ("initiatorPublicKeySpkiB64", .string frame.initiatorPublicKeySpkiB64),
    ("initiatorTransportPolicy", frame.initiatorTransportPolicy),
    ("responderAuthorityId", .string frame.responderAuthorityId),
    ("responderFingerprint", .string frame.responderFingerprint),
    ("responderPublicKeySpkiB64", .string frame.responderPublicKeySpkiB64),
    ("responderTransportPolicy", frame.responderTransportPolicy),
    ("initiatorNonce", .string frame.initiatorNonce), ("responderNonce", .string frame.responderNonce),
    ("issuedAt", .string frame.issuedAt), ("expiresAt", .string frame.expiresAt),
    ("signature", .string frame.signature)]

def RelayHandshakeReject.toObject (frame : RelayHandshakeReject) : JsValue ν :=
  object [("kind", constant "relayHandshakeReject"), ("connectionId", .string frame.connectionId),
    ("code", .string frame.code), ("message", .string frame.message)]

def RelayPeerStatus.toObject (status : RelayPeerStatus) : JsValue ν :=
  object [("connectionId", .string status.connectionId), ("authorityId", .string status.authorityId),
    ("peerAuthorityId", .string status.peerAuthorityId), ("role", constant status.role.name),
    ("connectedAt", .string status.connectedAt), ("uptimeMs", integer p status.uptimeMs)]

/-- A frame that is built for sending; a terminal, channel or inventory frame is its own object. -/
def RelayApplicationFrame.toObject (header : RelayHeader) (frame : RelayApplicationFrame ν) : JsValue ν :=
  match frame with
  | .echoRequest payload => sequenced [("payload", .string payload)]
  | .echoResponse payload => sequenced [("payload", .string payload)]
  | .statusResponse status => sequenced [("status", status.toObject p)]
  | .close reason => sequenced [("reason", .string reason)]
  | .protocolError code message => sequenced [("code", .string code), ("message", .string message)]
  | .terminal _ value => value
  | .channelCommand value => value
  | .channelResult value => value
  | .inventoryCommand value => value
  | .inventoryResult value => value
  | _ => sequenced []
where
  sequenced (rest : List (String × JsValue ν)) : JsValue ν :=
    object ([("kind", constant frame.kind), ("connectionId", .string header.connectionId),
      ("direction", constant header.direction.name), ("seq", integer p header.seq)] ++ rest)

def RelayWireFrame.toObject : RelayWireFrame ν → JsValue ν
  | .init frame => frame.toObject p
  | .accept frame => frame.toObject p
  | .reject frame => frame.toObject
  | .application header frame => frame.toObject p header

/-- The line of an object, if its text is within the limit. -/
def encodeObject (value : JsValue ν) : Except JsString JsString :=
  if RELAY_MAX_FRAME_BYTES < (value.stringify p).byteLength then
    relayProtocolError (text "outgoing frame exceeds the maximum size of " ++
      decimal RELAY_MAX_FRAME_BYTES ++ text " bytes")
  else .ok (value.stringify p ++ [0x0A])

def encodeRelayFrame (frame : RelayWireFrame ν) : Except JsString JsString := encodeObject p (frame.toObject p)

def canonicalRelayInitTranscript (frame : RelayHandshakeInit ν) : JsString :=
  text "rooms-federation-relay-v1:init\n" ++ (object [("version", integer p RELAY_PROTOCOL_VERSION),
    ("channel", constant RELAY_CHANNEL_KIND), ("connectionId", .string frame.connectionId),
    ("initiatorAuthorityId", .string frame.initiatorAuthorityId),
    ("initiatorFingerprint", .string frame.initiatorFingerprint),
    ("initiatorPublicKeySpkiB64", .string frame.initiatorPublicKeySpkiB64),
    ("initiatorTransportPolicy", frame.initiatorTransportPolicy),
    ("responderAuthorityId", .string frame.responderAuthorityId), ("nonce", .string frame.nonce),
    ("issuedAt", .string frame.issuedAt), ("expiresAt", .string frame.expiresAt)]).stringify p

def canonicalRelayAcceptTranscript (frame : RelayHandshakeAccept ν) : JsString :=
  text "rooms-federation-relay-v1:accept\n" ++ (object [("version", integer p RELAY_PROTOCOL_VERSION),
    ("channel", constant RELAY_CHANNEL_KIND), ("connectionId", .string frame.connectionId),
    ("initiatorAuthorityId", .string frame.initiatorAuthorityId),
    ("initiatorFingerprint", .string frame.initiatorFingerprint),
    ("initiatorPublicKeySpkiB64", .string frame.initiatorPublicKeySpkiB64),
    ("initiatorTransportPolicy", frame.initiatorTransportPolicy),
    ("responderAuthorityId", .string frame.responderAuthorityId),
    ("responderFingerprint", .string frame.responderFingerprint),
    ("responderPublicKeySpkiB64", .string frame.responderPublicKeySpkiB64),
    ("responderTransportPolicy", frame.responderTransportPolicy),
    ("initiatorNonce", .string frame.initiatorNonce), ("responderNonce", .string frame.responderNonce),
    ("issuedAt", .string frame.issuedAt), ("expiresAt", .string frame.expiresAt)]).stringify p

section Validators
variable (record : JsValue ν)

def field (name : String) : Option (JsValue ν) := record.get (text name)

def headerFields : Except JsString RelayHeader := do
  let connectionId ← connectionIdField (field record "connectionId")
  let direction ← directionField (field record "direction")
  let seq ← seqField p (field record "seq")
  return ⟨connectionId, direction, seq⟩

def validateHandshakeInit (now : Int) : Except JsString (RelayWireFrame ν) := do
  assertExactKeys record ["kind", "version", "channel", "connectionId", "initiatorAuthorityId",
    "initiatorFingerprint", "initiatorPublicKeySpkiB64", "initiatorTransportPolicy", "responderAuthorityId",
    "stateDir", "heartbeatIntervalMs", "nonce", "issuedAt", "expiresAt", "signature"] (text "relayHandshakeInit")
  versionField p (field record "version")
  channelField p (field record "channel")
  let connectionId ← connectionIdField (field record "connectionId")
  let initiatorAuthorityId ← authorityField (field record "initiatorAuthorityId") "initiatorAuthorityId"
  let responderAuthorityId ← authorityField (field record "responderAuthorityId") "responderAuthorityId"
  require (initiatorAuthorityId ≠ responderAuthorityId)
    (text "initiatorAuthorityId and responderAuthorityId must differ")
  let initiatorFingerprint ← fingerprintField (field record "initiatorFingerprint") "initiatorFingerprint"
  let initiatorPublicKeySpkiB64 ←
    base64Field (field record "initiatorPublicKeySpkiB64") "initiatorPublicKeySpkiB64"
  let initiatorTransportPolicy ←
    transportPolicyField p now (field record "initiatorTransportPolicy") "initiatorTransportPolicy"
  let stateDir ← stateDirField (field record "stateDir")
  let heartbeatIntervalMs ← heartbeatIntervalMsField p (field record "heartbeatIntervalMs")
  let nonce ← nonceField (field record "nonce") "nonce"
  let issuedAt ← timestampField p (field record "issuedAt") "issuedAt"
  let expiresAt ← timestampField p (field record "expiresAt") "expiresAt"
  windowField p issuedAt expiresAt
  let signature ← base64Field (field record "signature") "signature"
  return .init ⟨connectionId, initiatorAuthorityId, initiatorFingerprint, initiatorPublicKeySpkiB64,
    initiatorTransportPolicy, responderAuthorityId, stateDir, heartbeatIntervalMs, nonce, issuedAt, expiresAt,
    signature⟩

def validateHandshakeAccept (now : Int) : Except JsString (RelayWireFrame ν) := do
  assertExactKeys record ["kind", "version", "channel", "connectionId", "initiatorAuthorityId",
    "initiatorFingerprint", "initiatorPublicKeySpkiB64", "initiatorTransportPolicy", "responderAuthorityId",
    "responderFingerprint", "responderPublicKeySpkiB64", "responderTransportPolicy", "initiatorNonce",
    "responderNonce", "issuedAt", "expiresAt", "signature"] (text "relayHandshakeAccept")
  versionField p (field record "version")
  channelField p (field record "channel")
  let connectionId ← connectionIdField (field record "connectionId")
  let initiatorAuthorityId ← authorityField (field record "initiatorAuthorityId") "initiatorAuthorityId"
  let responderAuthorityId ← authorityField (field record "responderAuthorityId") "responderAuthorityId"
  require (initiatorAuthorityId ≠ responderAuthorityId)
    (text "initiatorAuthorityId and responderAuthorityId must differ")
  let initiatorFingerprint ← fingerprintField (field record "initiatorFingerprint") "initiatorFingerprint"
  let initiatorPublicKeySpkiB64 ←
    base64Field (field record "initiatorPublicKeySpkiB64") "initiatorPublicKeySpkiB64"
  let initiatorTransportPolicy ←
    transportPolicyField p now (field record "initiatorTransportPolicy") "initiatorTransportPolicy"
  let responderFingerprint ← fingerprintField (field record "responderFingerprint") "responderFingerprint"
  let responderPublicKeySpkiB64 ←
    base64Field (field record "responderPublicKeySpkiB64") "responderPublicKeySpkiB64"
  let responderTransportPolicy ←
    transportPolicyField p now (field record "responderTransportPolicy") "responderTransportPolicy"
  let initiatorNonce ← nonceField (field record "initiatorNonce") "initiatorNonce"
  let responderNonce ← nonceField (field record "responderNonce") "responderNonce"
  let issuedAt ← timestampField p (field record "issuedAt") "issuedAt"
  let expiresAt ← timestampField p (field record "expiresAt") "expiresAt"
  windowField p issuedAt expiresAt
  let signature ← base64Field (field record "signature") "signature"
  return .accept ⟨connectionId, initiatorAuthorityId, initiatorFingerprint, initiatorPublicKeySpkiB64,
    initiatorTransportPolicy, responderAuthorityId, responderFingerprint, responderPublicKeySpkiB64,
    responderTransportPolicy, initiatorNonce, responderNonce, issuedAt, expiresAt, signature⟩

def validateHandshakeReject : Except JsString (RelayWireFrame ν) := do
  assertExactKeys record ["kind", "connectionId", "code", "message"] (text "relayHandshakeReject")
  let connectionId ← connectionIdField (field record "connectionId")
  let code ← boundedStr (field record "code") "code" 128
  let message ← boundedStr (field record "message") "message" RELAY_MAX_REASON_BYTES
  return .reject ⟨connectionId, code, message⟩

/-- An application frame: its fields beside the header, and how it is made from them. -/
def validateSequenced (kind : JsString) (fields : List String)
    (body : Except JsString (RelayApplicationFrame ν)) : Except JsString (RelayWireFrame ν) := do
  assertExactKeys record (["kind", "connectionId", "direction", "seq"] ++ fields) kind
  let header ← headerFields p record
  let frame ← body
  return .application header frame

def validateEchoFrame (kind : JsString) : Except JsString (RelayWireFrame ν) :=
  validateSequenced p record kind ["payload"] do
    let payload ← boundedStr (field record "payload") "payload" RELAY_MAX_ECHO_PAYLOAD_BYTES
    return if kind = text "echoRequest" then .echoRequest payload else .echoResponse payload

def validateStatusRequest : Except JsString (RelayWireFrame ν) :=
  validateSequenced p record (text "statusRequest") [] (return .statusRequest)

def validatePeerStatus (value : Option (JsValue ν)) : Except JsString RelayPeerStatus :=
  match value with
  | some (.object own proto) => do
    let record : JsValue ν := .object own proto
    assertExactKeys record ["connectionId", "authorityId", "peerAuthorityId", "role", "connectedAt", "uptimeMs"]
      (text "status")
    let connectionId ← connectionIdField (field record "connectionId")
    let authorityId ← authorityField (field record "authorityId") "status.authorityId"
    let peerAuthorityId ← authorityField (field record "peerAuthorityId") "status.peerAuthorityId"
    require ((isText (field record "role") "initiator" || isText (field record "role") "responder") = true)
      (text "status.role must be initiator or responder")
    let connectedAt ← timestampField p (field record "connectedAt") "status.connectedAt"
    let uptimeMs ← integerField p 0 none "status.uptimeMs must be a non-negative integer"
      (field record "uptimeMs")
    return ⟨connectionId, authorityId, peerAuthorityId,
      if isText (field record "role") "initiator" then .initiator else .responder, connectedAt, uptimeMs⟩
  | _ => relayProtocolError (text "status must be an object")

def validateStatusResponse : Except JsString (RelayWireFrame ν) :=
  validateSequenced p record (text "statusResponse") ["status"] do
    let status ← validatePeerStatus p (field record "status")
    return .statusResponse status

def validateSeqOnlyFrame (kind : String) (frame : RelayApplicationFrame ν) :
    Except JsString (RelayWireFrame ν) :=
  validateSequenced p record (text kind) [] (return frame)

def validateCloseFrame : Except JsString (RelayWireFrame ν) :=
  validateSequenced p record (text "close") ["reason"] do
    let reason ← boundedStr (field record "reason") "reason" RELAY_MAX_REASON_BYTES
    return .close reason

def validateProtocolErrorFrame : Except JsString (RelayWireFrame ν) :=
  validateSequenced p record (text "protocolError") ["code", "message"] do
    let code ← boundedStr (field record "code") "code" 128
    let message ← boundedStr (field record "message") "message" RELAY_MAX_REASON_BYTES
    return .protocolError code message

def validateInventoryFrame (kind : JsString) : Except JsString (RelayWireFrame ν) :=
  if kind = text "inventoryCommand" then do
    assertExactKeys record ["kind", "connectionId", "direction", "seq", "requestId", "authorityId", "resource",
      "cursor", "limit", "includeEnded"] kind
    let resource ← namedField p ["channels", "sessions", "providers"] "invalid inventory resource"
      (field record "resource")
    let cursor ← integerField p 0 (some MAX_SAFE_INTEGER) "inventory cursor must be a non-negative integer"
      (field record "cursor")
    let limit ← integerField p 1 (some 20) "inventory limit must be between 1 and 20" (field record "limit")
    let includeEnded ← booleanField "includeEnded must be boolean" (field record "includeEnded")
    let header ← headerFields p record
    let requestId ← boundedStr (field record "requestId") "requestId" 128
    let authorityId ← authorityField (field record "authorityId") "authorityId"
    return .application header (.inventoryCommand (object [("kind", .string kind),
      ("connectionId", .string header.connectionId), ("direction", constant header.direction.name),
      ("seq", integer p header.seq), ("requestId", .string requestId), ("authorityId", .string authorityId),
      ("resource", resource), ("cursor", integer p cursor), ("limit", integer p limit),
      ("includeEnded", .bool includeEnded)]))
  else do
    assertExactKeys record ["kind", "connectionId", "direction", "seq", "requestId", "ok", "payload"] kind
    let ok ← booleanField "ok must be boolean" (field record "ok")
    let header ← headerFields p record
    let requestId ← boundedStr (field record "requestId") "requestId" 128
    let payload ← boundedBase64 (field record "payload") "payload" RELAY_MAX_TERMINAL_BYTES
    return .application header (.inventoryResult (object [("kind", constant "inventoryResult"),
      ("connectionId", .string header.connectionId), ("direction", constant header.direction.name),
      ("seq", integer p header.seq), ("requestId", .string requestId), ("ok", .bool ok),
      ("payload", .string payload)]))

def validateChannelFrame (kind : JsString) : Except JsString (RelayWireFrame ν) :=
  if kind = text "channelCommand" then do
    assertExactKeys record ["kind", "connectionId", "direction", "seq", "requestId", "homeAuthorityId",
      "operation", "actorSessionId", "payload"] kind
    let operation ← namedField p ["register", "leave", "send", "directSend", "snapshot", "messages"]
      "invalid channel operation" (field record "operation")
    let header ← headerFields p record
    let requestId ← boundedStr (field record "requestId") "requestId" 128
    let homeAuthorityId ← authorityField (field record "homeAuthorityId") "homeAuthorityId"
    let actorSessionId ← boundedStr (field record "actorSessionId") "actorSessionId" 512
    let payload ← boundedBase64 (field record "payload") "payload" RELAY_MAX_TERMINAL_BYTES
    return .application header (.channelCommand (object [("kind", .string kind),
      ("connectionId", .string header.connectionId), ("direction", constant header.direction.name),
      ("seq", integer p header.seq), ("requestId", .string requestId),
      ("homeAuthorityId", .string homeAuthorityId), ("operation", operation),
      ("actorSessionId", .string actorSessionId), ("payload", .string payload)]))
  else do
    assertExactKeys record ["kind", "connectionId", "direction", "seq", "requestId", "ok", "chunkIndex", "final",
      "payload"] kind
    let ok ← booleanField "ok must be boolean" (field record "ok")
    let chunkIndex ← integerField p 0 (some MAX_SAFE_INTEGER)
      "channel result chunkIndex must be a non-negative integer" (field record "chunkIndex")
    let final ← booleanField "channel result final must be boolean" (field record "final")
    let header ← headerFields p record
    let requestId ← boundedStr (field record "requestId") "requestId" 128
    let payload ← boundedBase64 (field record "payload") "payload" RELAY_MAX_TERMINAL_BYTES
    return .application header (.channelResult (object [("kind", constant "channelResult"),
      ("connectionId", .string header.connectionId), ("direction", constant header.direction.name),
      ("seq", integer p header.seq), ("requestId", .string requestId), ("ok", .bool ok),
      ("chunkIndex", integer p chunkIndex), ("final", .bool final), ("payload", .string payload)]))

/-- The fields of a terminal frame, in the order in which they are added. -/
def terminalFields (kind : TerminalKind) : List String :=
  let add (kinds : List TerminalKind) (names : List String) : List String := if kind ∈ kinds then names else []
  ["kind", "connectionId", "direction", "seq", "streamId"] ++
    add [.terminalOpen, .terminalOpenAck, .terminalInput, .terminalResize, .terminalDetach, .terminalOutput,
      .terminalGap] ["homeAuthorityId", "sessionId"] ++
    add [.terminalOpenAck, .terminalInput, .terminalResize, .terminalDetach, .terminalOutput, .terminalGap]
      ["runtimeId", "generation"] ++
    add [.terminalOpen] ["capability", "mode", "outputCursor"] ++
    add [.terminalInput] ["capabilityId", "inputSeq", "bytes"] ++
    add [.terminalResize] ["capabilityId", "columns", "rows"] ++
    add [.terminalOutput] ["outputCursor", "bytes"] ++
    add [.terminalOpenAck] ["outputCursor"] ++
    add [.terminalGap] ["replayFrom", "head"] ++
    add [.terminalInputAck] ["inputSeq", "outcome"] ++
    add [.terminalClose] ["reason"]

/-- `if (name in result)`: the check of a field that the spread has copied. -/
def ifOwn {α : Type} (result : List (JsString × JsValue ν)) (check : Option (JsValue ν) → String → Except JsString α)
    (name : String) : Except JsString Unit :=
  match JsValue.findOwn result (text name) with
  | none => .ok ()
  | some value => do
    let _ ← check (some value) name
    return

def decimalField (value : Option (JsValue ν)) (name : String) : Except JsString Unit := do
  let s ← boundedStr value name 32
  require (isUnsignedDecimal s = true) (text name ++ text " must be an unsigned decimal integer")

/-- The spread copies own members only, and what is not copied is not checked. -/
def validateTerminalFrame (kind : TerminalKind) (own : List (JsString × JsValue ν)) :
    Except JsString (RelayWireFrame ν) := do
  assertExactKeys record (terminalFields kind) (text kind.name)
  let header ← headerFields p record
  let streamId ← boundedStr (field record "streamId") "streamId" 128
  let result := [("kind", constant kind.name), ("connectionId", .string header.connectionId),
    ("direction", constant header.direction.name), ("seq", integer p header.seq),
    ("streamId", .string streamId)].foldl (fun members m => create (text m.1) m.2 members) own
  ifOwn result authorityField "homeAuthorityId"
  ifOwn result (fun value name => boundedStr value name 256) "sessionId"
  ifOwn result (fun value name => boundedStr value name 256) "runtimeId"
  ifOwn result (fun value name => boundedStr value name 256) "capabilityId"
  ifOwn result decimalField "outputCursor"
  ifOwn result decimalField "replayFrom"
  ifOwn result decimalField "head"
  ifOwn result decimalField "inputSeq"
  ifOwn result (fun value _ => integerField p 1 none "generation must be a positive integer" value) "generation"
  ifOwn result (fun value name => boundedBase64 value name RELAY_MAX_TERMINAL_BYTES) "bytes"
  ifOwn result (fun value name => boundedBase64 value name 8192) "capability"
  ifOwn result (fun value _ => integerField p 1 (some 1000) "columns out of bounds" value) "columns"
  ifOwn result (fun value _ => integerField p 1 (some 1000) "rows out of bounds" value) "rows"
  let mode := JsValue.findOwn result (text "mode")
  require (kind = .terminalOpen → isText mode "observe" = true ∨ isText mode "controller" = true)
    (text "invalid terminal mode")
  if kind = .terminalInputAck then
    let _ ← namedField p ["written", "duplicate", "uncertain"] "invalid input outcome"
      (JsValue.findOwn result (text "outcome"))
    return .application header (.terminal kind (.object result .objectPrototype))
  else return .application header (.terminal kind (.object result .objectPrototype))

end Validators

def validateFrame (now : Int) (own : List (JsString × JsValue ν)) (proto : JsValue ν) (kind : JsString) :
    Except JsString (RelayWireFrame ν) :=
  let record : JsValue ν := .object own proto
  if kind = text "relayHandshakeInit" then validateHandshakeInit p record now
  else if kind = text "relayHandshakeAccept" then validateHandshakeAccept p record now
  else if kind = text "relayHandshakeReject" then validateHandshakeReject record
  else if kind = text "echoRequest" ∨ kind = text "echoResponse" then validateEchoFrame p record kind
  else if kind = text "statusRequest" then validateStatusRequest p record
  else if kind = text "statusResponse" then validateStatusResponse p record
  else if kind = text "heartbeat" then validateSeqOnlyFrame p record "heartbeat" .heartbeat
  else if kind = text "drain" then validateSeqOnlyFrame p record "drain" .drain
  else if kind = text "close" then validateCloseFrame p record
  else if kind = text "protocolError" then validateProtocolErrorFrame p record
  else if kind = text "channelCommand" ∨ kind = text "channelResult" then validateChannelFrame p record kind
  else if kind = text "inventoryCommand" ∨ kind = text "inventoryResult" then validateInventoryFrame p record kind
  else
    match TerminalKind.ofName kind with
    | some kind => validateTerminalFrame p record kind own
    | none => relayProtocolError (text "unknown frame kind " ++ JsString.quoted kind)

def parserMessage (raw : JsString) : Failure → JsString
  | .failed message rest =>
    text "invalid Rooms federation envelope: " ++ message ++ text " at position " ++
      decimal (raw.length - rest.length)
  | .exhausted => []

def parseRelayFrame (now : Int) (raw : JsString) : Except JsString (RelayWireFrame ν) :=
  if RELAY_MAX_FRAME_BYTES < raw.byteLength then
    relayProtocolError (text "incoming frame exceeds the maximum size of " ++
      decimal RELAY_MAX_FRAME_BYTES ++ text " bytes")
  else
    match parseEnrollmentArtifactJson p.number raw with
    | .error failure =>
      relayProtocolError (text "frame is not valid JSON (" ++ parserMessage raw failure ++ text ")")
    | .ok (.object own proto) =>
      match (JsValue.object own proto).get (text "kind") with
      | some (.string kind) => validateFrame p now own proto kind
      | kind => relayProtocolError (text "unknown frame kind " ++
          kind.elim (text "undefined") (JsValue.stringify p))
    | .ok _ => relayProtocolError (text "frame must be an object")

end Wardroom.Federation
