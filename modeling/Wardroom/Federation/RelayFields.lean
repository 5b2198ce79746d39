import Mathlib
import Wardroom.Federation.JsValues

/-! # The field checks of relay frames

Each check returns the field or the message of the exception it throws. A
field that is not there is `none`.
-/

namespace Wardroom.Federation
open Wardroom.Library

variable {ν α : Type} (p : Platform ν)

def relayProtocolError (message : JsString) : Except JsString α :=
  .error (text "Rooms relay protocol: " ++ message)

def federationCodecError (message : JsString) : Except JsString α :=
  .error (text "invalid Rooms federation envelope: " ++ message)

def decimal (n : Nat) : JsString := text (toString n)

def require (c : Prop) [Decidable c] (message : JsString) : Except JsString Unit :=
  if c then .ok () else relayProtocolError message

def requireEnvelope (c : Prop) [Decidable c] (message : JsString) : Except JsString Unit :=
  if c then .ok () else federationCodecError message

def isLowerHex (c : CodeUnit) : Bool := JsonText.isDigit c || (0x61 ≤ c && c ≤ 0x66)

def isLetter (c : CodeUnit) : Bool := (0x41 ≤ c && c ≤ 0x5A) || (0x61 ≤ c && c ≤ 0x7A)

def isBase64 (c : CodeUnit) : Bool := isLetter c || JsonText.isDigit c || c = 0x2B || c = 0x2F

/-- Groups of hexadecimal digits of these lengths with a hyphen between two of them. -/
def hexGroups : List Nat → JsString → Bool
  | [], s => s = []
  | [n], s => s.length = n && s.all isLowerHex
  | n :: ns, s =>
    (s.take n).length = n && (s.take n).all isLowerHex && (s.drop n).head? = some 0x2D &&
      hexGroups ns (s.drop (n + 1))

def CONNECTION_ID_PATTERN (s : JsString) : Bool := hexGroups [8, 4, 4, 4, 12] s

def FINGERPRINT_PATTERN (s : JsString) : Bool := s.length = 64 && s.all isLowerHex

def NONCE_PATTERN (s : JsString) : Bool := 64 ≤ s.length && s.all isLowerHex

def BASE64_PATTERN (s : JsString) : Bool :=
  s.takeWhile isBase64 ≠ [] &&
    (s.dropWhile isBase64 = [] || s.dropWhile isBase64 = text "=" || s.dropWhile isBase64 = text "==")

def AUTHORITY_ID_PATTERN (s : JsString) : Bool :=
  match strip (text "authority-") s with
  | some digits => digits.length = 64 && digits.all isLowerHex
  | none => false

/-- `/^(0|[1-9][0-9]*)$/`. -/
def isUnsignedDecimal (s : JsString) : Bool :=
  s ≠ [] && s.all JsonText.isDigit && (s.head? ≠ some JsonText.zero || s.length = 1)

/-- What `trim` removes. -/
def isTrimmed (c : CodeUnit) : Bool :=
  (0x09 ≤ c && c ≤ 0x0D) || (0x2000 ≤ c && c ≤ 0x200A) ||
    c ∈ [0x20, 0xA0, 0x1680, 0x2028, 0x2029, 0x202F, 0x205F, 0x3000, 0xFEFF]

def nonBlank (s : JsString) : Bool := s.any fun c => !isTrimmed c

def splitAt (separator : CodeUnit) : JsString → List JsString
  | [] => [[]]
  | c :: rest =>
    if c = separator then [] :: splitAt separator rest
    else match splitAt separator rest with
      | [] => [[c]]
      | part :: parts => (c :: part) :: parts

def exactKeys (fail : JsString → Except JsString Unit) (record : JsValue ν) (allowed : List String)
    (label : JsString) : Except JsString Unit :=
  match record.ownKeys.find? fun key => key ∉ allowed.map text with
  | some key => fail (label ++ text " has unknown field " ++ key)
  | none =>
    match allowed.find? fun key => (record.get (text key)).isNone with
    | some key => fail (label ++ text " is missing " ++ text key)
    | none => .ok ()

def nonBlankField (value : Option (JsValue ν)) (field : String) : Except JsString JsString :=
  match value with
  | some (.string s) => if nonBlank s then .ok s else federationCodecError (text field ++ text " must be non-blank")
  | _ => federationCodecError (text field ++ text " must be non-blank")

def authorityId (value : JsString) : Except JsString JsString :=
  if nonBlank value then .ok value else federationCodecError (text "authority id must be non-blank")

def absolutePath (value : Option (JsValue ν)) (field : String) : Except JsString JsString := do
  let path ← nonBlankField value field
  requireEnvelope (path.head? = some 0x2F) (text field ++ text " must be absolute")
  return path

def port (value : Option (JsValue ν)) (field : String) : Except JsString Int :=
  match value with
  | some (.number n) =>
    match p.integer n with
    | some port =>
      if 1 ≤ port ∧ port ≤ 65535 then .ok port
      else federationCodecError (text field ++ text " must be a valid local port")
    | none => federationCodecError (text field ++ text " must be a valid local port")
  | _ => federationCodecError (text field ++ text " must be a valid local port")

/-- The value of a part of an IPv4 address. -/
def octet (s : JsString) : Nat := s.foldl (fun n c => 10 * n + (c.toNat - 0x30)) 0

/-- `IPV4_TAILSCALE`, with the bound on its parts. -/
def isTailscaleV4 (s : JsString) : Bool :=
  match splitAt 0x2E s with
  | [first, second, third, fourth] =>
    first = text "100" && isUnsignedDecimal second && 64 ≤ octet second && octet second ≤ 127 &&
      [third, fourth].all fun part =>
        1 ≤ part.length && part.length ≤ 3 && part.all JsonText.isDigit && octet part ≤ 255
  | _ => false

def toLowerCase (s : JsString) : JsString := s.map fun c => if 0x41 ≤ c && c ≤ 0x5A then c + 0x20 else c

def isTailscaleAddress (value : Option (JsValue ν)) : Bool :=
  match value with
  | some (.string s) =>
    !(s.tails.any (text "://").isPrefixOf) && (s.head?.all fun c => !isTrimmed c) && (s.getLast?.all fun c => !isTrimmed c) &&
      if p.isIP s = 4 then isTailscaleV4 s
      else p.isIP s = 6 && (text "fd7a:115c:a1e0:").isPrefixOf (toLowerCase s)
  | _ => false

def timestamp (value : Option (JsValue ν)) (field : String) : Except JsString Int := do
  let s ← nonBlankField value field
  match p.parseDate s with
  | some ms => return ms
  | none => federationCodecError (text field ++ text " must be an ISO timestamp")

def isText (value : Option (JsValue ν)) (s : String) : Bool :=
  match value with
  | some (.string t) => t = text s
  | _ => false

def validateTransportPolicy (now : Int) (value : Option (JsValue ν)) : Except JsString Unit :=
  match value with
  | some (.object own proto) => do
    let policy : JsValue ν := .object own proto
    let field (key : String) := policy.get (text key)
    if isText (field "kind") "localUnix" then
      exactKeys federationCodecError policy ["kind", "path"] (text "localUnix")
      let _ ← absolutePath (field "path") "local Unix path"
      return
    else if isText (field "kind") "loopbackSsh" then
      exactKeys federationCodecError policy
        ["kind", "peerAuthorityId", "sshDestination", "sshUser", "localEndpoint", "localPort"] (text "loopbackSsh")
      let _ ← nonBlankField (field "peerAuthorityId") "peerAuthorityId"
      let _ ← nonBlankField (field "sshDestination") "SSH destination"
      let _ ← nonBlankField (field "sshUser") "SSH user"
      requireEnvelope (["127.0.0.1", "::1", "localhost"].any (isText (field "localEndpoint")) = true)
        (text "loopback SSH Rooms endpoint must be 127.0.0.1, ::1, or localhost")
      let _ ← port p (field "localPort") "loopback SSH local port"
      return
    else if isText (field "kind") "tailscalePeer" then
      exactKeys federationCodecError policy
        ["kind", "peerAuthorityId", "address", "nodeIdentity", "verifiedAt"] (text "tailscalePeer")
      requireEnvelope (isTailscaleAddress p (field "address") = true)
        (text "tailscale peer requires a verified Tailscale address")
      let _ ← nonBlankField (field "peerAuthorityId") "peerAuthorityId"
      let _ ← nonBlankField (field "nodeIdentity") "Tailscale node identity"
      let verifiedAt ← timestamp p (field "verifiedAt") "verifiedAt"
      requireEnvelope (verifiedAt ≤ now) (text "verifiedAt cannot be in the future")
    else federationCodecError (text "transport policy kind is not supported")
  | _ => federationCodecError (text "transport policy must be an object")

def assertExactKeys (record : JsValue ν) (allowed : List String) (label : JsString) : Except JsString Unit :=
  exactKeys relayProtocolError record allowed label

def str (value : Option (JsValue ν)) (field : String) : Except JsString JsString :=
  match value with
  | some (.string (c :: rest)) => .ok (c :: rest)
  | _ => relayProtocolError (text field ++ text " must be a non-blank string")

def boundedStr (value : Option (JsValue ν)) (field : String) (maxBytes : Nat) : Except JsString JsString := do
  let s ← str value field
  require (s.byteLength ≤ maxBytes) (text field ++ text " exceeds " ++ decimal maxBytes ++ text " bytes")
  return s

def patternField (pattern : JsString → Bool) (message : String) (value : Option (JsValue ν)) (field : String) :
    Except JsString JsString := do
  let s ← str value field
  require (pattern s = true) (text field ++ text message)
  return s

/-- `toAuthorityId` finds nothing blank in what the pattern lets through. -/
def authorityField (value : Option (JsValue ν)) (field : String) : Except JsString JsString := do
  let s ← patternField AUTHORITY_ID_PATTERN " is not a well-formed authority id" value field
  authorityId s

def fingerprintField (value : Option (JsValue ν)) (field : String) : Except JsString JsString :=
  patternField FINGERPRINT_PATTERN " must be a SHA-256 hex fingerprint" value field

def isPaddedBase64 (s : JsString) : Bool := BASE64_PATTERN s && s.length % 4 = 0

def base64Field (value : Option (JsValue ν)) (field : String) : Except JsString JsString :=
  patternField isPaddedBase64 " must be base64-encoded" value field

def nonceField (value : Option (JsValue ν)) (field : String) : Except JsString JsString :=
  patternField NONCE_PATTERN " must be a lowercase hex string of at least 256 bits" value field

def connectionIdField (value : Option (JsValue ν)) : Except JsString JsString :=
  patternField CONNECTION_ID_PATTERN " must be a UUID" value "connectionId"

def timestampField (value : Option (JsValue ν)) (field : String) : Except JsString JsString := do
  let s ← str value field
  require ((p.parseDate s).isSome = true) (text field ++ text " must be an ISO timestamp")
  return s

def boundedBase64 (value : Option (JsValue ν)) (field : String) (maxBytes : Nat) : Except JsString JsString := do
  let encoded ← boundedStr value field maxBytes
  require (isPaddedBase64 encoded = true) (text field ++ text " must be base64-encoded")
  return encoded

def transportPolicyField (now : Int) (value : Option (JsValue ν)) (field : String) :
    Except JsString (JsValue ν) :=
  match validateTransportPolicy p now value with
  | .error message => relayProtocolError (text field ++ text ": " ++ message)
  | .ok () => .ok (value.getD .null)

inductive RelayDirection where
  | initiatorToResponder
  | responderToInitiator
  deriving DecidableEq

def RelayDirection.name : RelayDirection → String
  | .initiatorToResponder => "initiatorToResponder"
  | .responderToInitiator => "responderToInitiator"

def directionField (value : Option (JsValue ν)) : Except JsString RelayDirection :=
  if isText value "initiatorToResponder" then .ok .initiatorToResponder
  else if isText value "responderToInitiator" then .ok .responderToInitiator
  else relayProtocolError (text "direction must be initiatorToResponder or responderToInitiator")

def wholeNumber (value : Option (JsValue ν)) : Option Int :=
  match value with
  | some (.number n) => p.integer n
  | _ => none

/-- A whole number within the bounds, if they are given. -/
def integerField (low : Int) (high : Option Int) (message : String) (value : Option (JsValue ν)) :
    Except JsString Int :=
  match wholeNumber p value with
  | some n => if low ≤ n ∧ (∀ bound ∈ high, n ≤ bound) then .ok n else relayProtocolError (text message)
  | none => relayProtocolError (text message)

def MAX_SAFE_INTEGER : Int := 2 ^ 53 - 1

def seqField (value : Option (JsValue ν)) : Except JsString Nat := do
  let n ← integerField p 1 none "seq must be a positive integer" value
  return n.toNat

def booleanField (message : String) (value : Option (JsValue ν)) : Except JsString Bool :=
  match value with
  | some (.bool b) => .ok b
  | _ => relayProtocolError (text message)

def isPathUnit (c : CodeUnit) : Bool :=
  isLetter c || JsonText.isDigit c || c ∈ [0x2E, 0x5F, 0x2D, 0x2F]

def REMOTE_ABSOLUTE_PATH_PATTERN (s : JsString) : Bool := s.head? = some 0x2F && s.all isPathUnit

def assertSafeRemoteAbsolutePath (value : JsString) (label : String) : Except JsString JsString :=
  if value = [] then .error (text label ++ text " must be a non-blank string")
  else if 1024 < value.length then .error (text label ++ text " must be at most 1024 characters")
  else if REMOTE_ABSOLUTE_PATH_PATTERN value = false then
    .error (text label ++ text " must be an absolute path using only letters, digits, '.', '_', '-', and '/'")
  else if text ".." ∈ splitAt 0x2F value then .error (text label ++ text " must not contain '..'")
  else .ok value

def stateDirField (value : Option (JsValue ν)) : Except JsString (Option JsString) :=
  match value with
  | some .null => .ok none
  | some (.string s) =>
    match assertSafeRemoteAbsolutePath s "stateDir" with
    | .ok path => .ok (some path)
    | .error message => relayProtocolError message
  | _ => relayProtocolError (text "stateDir must be null or a string")

def heartbeatIntervalMsField (value : Option (JsValue ν)) : Except JsString (Option Int) :=
  match value with
  | some .null => .ok none
  | value => (integerField p 100 (some 300000)
      "heartbeatIntervalMs must be null or an integer between 100 and 300000" value).map some

def RELAY_PROTOCOL_VERSION : Int := 3

def RELAY_CHANNEL_KIND : String := "sshStdio"

def versionField (value : Option (JsValue ν)) : Except JsString Unit :=
  if wholeNumber p value = some RELAY_PROTOCOL_VERSION then .ok ()
  else do
    let shown ← JsValue.optionText p value
    relayProtocolError (text "unsupported relay protocol version " ++ shown)

def channelField (value : Option (JsValue ν)) : Except JsString Unit :=
  if isText value RELAY_CHANNEL_KIND then .ok ()
  else do
    let shown ← JsValue.optionText p value
    relayProtocolError (text "unsupported relay channel " ++ shown)

/-- `RELAY_MAX_TTL_SECONDS`, in milliseconds. -/
def RELAY_MAX_TTL_MS : Int := 300000

def windowField (issuedAt expiresAt : JsString) : Except JsString Unit := do
  let issuedAtMs := (p.parseDate issuedAt).getD 0
  let expiresAtMs := (p.parseDate expiresAt).getD 0
  require (issuedAtMs < expiresAtMs) (text "expiresAt must be after issuedAt")
  require (expiresAtMs - issuedAtMs ≤ RELAY_MAX_TTL_MS)
    (text "handshake validity window exceeds the maximum allowed TTL")

/-- `String(value)` is one of these names. -/
def namedField (names : List String) (message : String) (value : Option (JsValue ν)) :
    Except JsString (JsValue ν) := do
  let shown ← JsValue.optionText p value
  require (shown ∈ names.map text) (text message)
  return value.getD .null

end Wardroom.Federation
