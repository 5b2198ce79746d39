import Mathlib
import Wardroom.Library.Base64Raw
import Wardroom.Library.JsonSize
import Wardroom.Library.PosixPath
import Wardroom.Runtime.Host.DeliveryBounds

/-! # Enrolling a host

The daemon builds a launch specification and writes it to the host as one frame of
JSON. The host decodes the JSON strictly and checks the enrollment by limits of its own.
-/

namespace Wardroom.Runtime.Host
open Wardroom.Library Wardroom.Library.JsonText
open JsString (ofString byteLength isPaired quoted)

structure ManagedProviderLaunch where
  arguments : List JsString
  providerThreadId : Option JsString
  promptPreloaded : Bool

/-- `argument.startsWith(option)`. -/
def startsWith (argument option : JsString) : Bool := option.isPrefixOf argument

def prepareManagedProviderLaunch (createThreadId : JsString) (adapterKind : JsString) (arguments : List JsString)
    (prompt : JsString) : Except String ManagedProviderLaunch :=
  if adapterKind = ofString "codex" then .ok ⟨arguments ++ [prompt], none, true⟩
  else if adapterKind ≠ ofString "gemini" then .ok ⟨arguments, none, false⟩
  else if arguments.any fun argument => argument = ofString "-i" || argument = ofString "--prompt-interactive" ||
      startsWith argument (ofString "--prompt-interactive=") || argument = ofString "--session-id" ||
      startsWith argument (ofString "--session-id=") then
    .error "Rooms owns Gemini --session-id and --prompt-interactive for managed launches"
  else .ok ⟨arguments ++ [ofString "--session-id", createThreadId, ofString "--prompt-interactive", prompt],
    some createThreadId, true⟩

/-- A generation that is no integer is refused like one below 1. -/
structure RuntimeCreateRequest where
  runtimeId : Option JsString
  homeAuthorityId : JsString
  sessionId : JsString
  generation : Option Int
  channelId : Option JsString
  stateDir : Option JsString
  command : Option (List JsString)
  cwd : Option JsString

structure RuntimeServiceOptions where
  defaultHomeAuthorityId : JsString
  stateDir : JsString
  socketDirectory : JsString

structure RuntimeHostSpec where
  sessionId : JsString
  channelId : Option JsString
  runtimeId : JsString
  homeAuthorityId : JsString
  generation : Nat
  stateDir : JsString
  socketPath : JsString
  command : Option (List JsString)
  cwd : Option JsString
  secret : List UInt8
  sessionProof : List UInt8

/-- The rest of what a creation takes from its surroundings. -/
structure Surroundings where
  /-- `realpathSync.native`. -/
  realpath : JsString → Except String JsString
  /-- The hexadecimal digest of a text. -/
  sha256 : JsString → JsString
  /-- `runtime-` and a new UUID. -/
  freshRuntimeId : JsString
  /-- Two times 32 random bytes. -/
  reconnectSecret : List UInt8
  sessionProof : List UInt8

def runtimeSocketPath (sha256 : JsString → JsString) (homeAuthorityId sessionId runtimeId : JsString) (generation : Nat)
    (socketDirectory : JsString) : JsString :=
  let digest := (sha256 (homeAuthorityId ++ 0 :: sessionId ++ 0 :: runtimeId ++ 0 :: decimalText generation)).take 32
  PosixPath.join socketDirectory (ofString "r-" ++ digest ++ ofString ".sock")

def orDefault (value default : JsString) : JsString := if value = [] then default else value

def canonicalProviderCwd (realpath : JsString → Except String JsString) : Option JsString → Except String (Option JsString)
  | none => .ok none
  | some cwd => (realpath cwd).map some

/-- The specification that a creation hands to the supervisor, up to what the database refuses. -/
def create (around : Surroundings) (options : RuntimeServiceOptions) (request : RuntimeCreateRequest) :
    Except String RuntimeHostSpec :=
  let runtimeId := request.runtimeId.getD around.freshRuntimeId
  let generation := request.generation.getD 1
  let homeAuthorityId := orDefault request.homeAuthorityId options.defaultHomeAuthorityId
  match canonicalProviderCwd around.realpath request.cwd with
  | .error message => .error message
  | .ok launchCwd =>
    if homeAuthorityId = [] ∨ request.sessionId = [] ∨ runtimeId = [] ∨ generation < 1 ∨ 2 ^ 53 - 1 < generation then
      .error "invalidRuntimeIdentity"
    else if around.reconnectSecret.length < 32 then .error "invalidRuntimeCredential"
    else .ok ⟨request.sessionId, request.channelId, runtimeId, homeAuthorityId, generation.toNat,
      request.stateDir.getD options.stateDir,
      runtimeSocketPath around.sha256 homeAuthorityId request.sessionId runtimeId generation.toNat options.socketDirectory,
      request.command, launchCwd, around.reconnectSecret, around.sessionProof⟩

namespace RuntimeHostSpec
variable (spec : RuntimeHostSpec)

def statePath : JsString := PosixPath.join spec.stateDir (spec.runtimeId ++ ofString ".state.json")

/-- The supervisor's default. -/
def ringBytes : Nat := 262144

def member (key : String) (value : Tree) : JsString × Tree := (ofString key, value)

def count (n : Nat) : Tree := .number (decimalText n)

/-- A member that an empty text or none leaves out. -/
def optionalText (key : String) (value : Option JsString) : List (JsString × Tree) :=
  match value with
  | none | some [] => []
  | some text => [member key (.string text)]

def commandMembers : List (JsString × Tree) :=
  match spec.command with
  | none => []
  | some command => [member "command" (.array (command.map .string))]

def enrollmentMembers (expiresAt : Nat) : List (JsString × Tree) :=
  [member "version" (count 1), member "sessionId" (.string spec.sessionId)] ++
    optionalText "channelId" spec.channelId ++
    [member "runtimeId" (.string spec.runtimeId), member "homeAuthorityId" (.string spec.homeAuthorityId),
      member "generation" (count spec.generation), member "protocolVersion" (count 1),
      member "expiresAt" (count expiresAt), member "reconnectSecret" (.string (Base64.encodeRaw spec.secret)),
      member "sessionProof" (.string (Base64.encodeRaw spec.sessionProof)), member "statePath" (.string spec.statePath),
      member "socketPath" (.string spec.socketPath), member "ringBytes" (count ringBytes)] ++
    commandMembers spec ++ optionalText "cwd" spec.cwd

def enrollmentPayload (expiresAt : Nat) : List UInt8 :=
  JsString.toUtf8 (Tree.object (spec.enrollmentMembers expiresAt)).write

/-- `encodeEnrollment` as the supervisor calls it. -/
def encodeEnrollment (expiresAt : Nat) : Except String (List UInt8) :=
  frame Proto.TEnroll.toNat (spec.enrollmentPayload expiresAt)

end RuntimeHostSpec

structure Enrollment where
  version : Int := 0
  sessionId : String := ""
  channelId : String := ""
  runtimeId : String := ""
  homeAuthorityId : String := ""
  generation : Nat := 0
  protocolVersion : Nat := 0
  expiresAt : Int := 0
  reconnectSecret : String := ""
  sessionProof : String := ""
  statePath : String := ""
  socketPath : String := ""
  ringBytes : Int := 0
  command : List String := []
  cwd : String := ""
  deriving DecidableEq

/-- `strconv.ParseInt` of a number in JSON. -/
def parseInt (width : Nat) (text : JsString) : Option Int :=
  match text with
  | 0x2D :: digits =>
    if digits ≠ [] ∧ digits.all isDigit ∧ digitsValue digits ≤ 2 ^ (width - 1) then some (-(digitsValue digits : Int))
    else none
  | digits =>
    if digits ≠ [] ∧ digits.all isDigit ∧ digitsValue digits < 2 ^ (width - 1) then some (digitsValue digits) else none

def readInt (width : Nat) : Tree → Option Int
  | .number text => parseInt width text
  | _ => none

/-- The characters of a text as the host has them. -/
def goText (text : JsString) : String := String.ofList (JsString.chars text)

def readText : Tree → Option String
  | .string text => some (goText text)
  | _ => none

def setField {α ρ : Type} (read : Tree → Option α) (set : ρ → α → ρ) (record : ρ) : Tree → Option ρ
  | .null => some record
  | value => (read value).map (set record)

/-- Elements that are null are zero values. -/
def readTexts : Tree → Option (List String) := readSlice (setField readText (fun _ text => text) "")

/-- The fields of an enrollment by their names in JSON. -/
def Enrollment.fields : List (String × (Enrollment → Tree → Option Enrollment)) :=
  [("version", setField (readInt 64) fun e v => { e with version := v }),
    ("sessionId", setField readText fun e v => { e with sessionId := v }),
    ("channelId", setField readText fun e v => { e with channelId := v }),
    ("runtimeId", setField readText fun e v => { e with runtimeId := v }),
    ("homeAuthorityId", setField readText fun e v => { e with homeAuthorityId := v }),
    ("generation", setField (readUint 32) fun e v => { e with generation := v }),
    ("protocolVersion", setField (readUint 16) fun e v => { e with protocolVersion := v }),
    ("expiresAt", setField (readInt 64) fun e v => { e with expiresAt := v }),
    ("reconnectSecret", setField readText fun e v => { e with reconnectSecret := v }),
    ("sessionProof", setField readText fun e v => { e with sessionProof := v }),
    ("statePath", setField readText fun e v => { e with statePath := v }),
    ("socketPath", setField readText fun e v => { e with socketPath := v }),
    ("ringBytes", setField (readInt 64) fun e v => { e with ringBytes := v }),
    ("command", fun e value => (readTexts value).map fun v => { e with command := v }),
    ("cwd", setField readText fun e v => { e with cwd := v })]

/-- Unknown fields are refused. -/
def readMember {ρ : Type} (fields : List (String × (ρ → Tree → Option ρ))) (record : ρ) (m : JsString × Tree) : Option ρ :=
  (fields.find? fun field => isField field.1 m.1).bind fun field => field.2 record m.2

/-- `decodeStrict` into a record. -/
def decodeRecord {ρ : Type} (fields : List (String × (ρ → Tree → Option ρ))) (zero : ρ) (payload : List UInt8) : Option ρ :=
  match Federation.parseText treeBuilder (JsString.ofUtf8 payload) with
  | .ok (.object members) => members.foldlM (readMember fields) zero
  | .ok .null => some zero
  | _ => none

/-- `filepath.IsAbs`. -/
def isAbs (path : String) : Bool := path.toList.head? = some '/'

/-- What `RawStdEncoding` decodes. -/
def decodeSecret (text : String) : Option (List UInt8) :=
  (Base64.decodeRaw (ofString text)).filter fun secret => 32 ≤ secret.length && secret.length ≤ 256

def parseEnrollment (now : Int) (payload : List UInt8) : Except String (Enrollment × List UInt8) :=
  if payload.length = 0 ∨ 8192 < payload.length then .error "invalid enrollment size"
  else
    match decodeRecord Enrollment.fields {} payload with
    | none => .error "invalid enrollment"
    | some e =>
      if e.version ≠ 1 ∨ e.protocolVersion ≠ Version ∨ e.generation = 0 ∨ e.expiresAt ≤ now then .error "invalid enrollment"
      else if "" ∈ [e.sessionId, e.runtimeId, e.homeAuthorityId, e.statePath, e.socketPath] then
        .error "incomplete enrollment"
      else if 64 < e.command.length then .error "command too long"
      else if e.command.any fun arg => arg = "" || '\x00' ∈ arg.toList then .error "invalid command"
      else if e.cwd ≠ "" ∧ isAbs e.cwd = false then .error "cwd must be absolute"
      else if isAbs e.statePath = false ∨ isAbs e.socketPath = false then .error "enrollment paths must be absolute"
      else
        match decodeSecret e.reconnectSecret, decodeSecret e.sessionProof with
        | none, _ => .error "invalid reconnect secret"
        | some _, none => .error "invalid session proof"
        | some secret, some _ => .ok (e, secret)

/-- The enrollment that a specification stands for. -/
def RuntimeHostSpec.enrolled (spec : RuntimeHostSpec) (expiresAt : Nat) : Enrollment where
  version := 1
  sessionId := goText spec.sessionId
  channelId := goText (spec.channelId.getD [])
  runtimeId := goText spec.runtimeId
  homeAuthorityId := goText spec.homeAuthorityId
  generation := spec.generation
  protocolVersion := 1
  expiresAt := expiresAt
  reconnectSecret := goText (Base64.encodeRaw spec.secret)
  sessionProof := goText (Base64.encodeRaw spec.sessionProof)
  statePath := goText spec.statePath
  socketPath := goText spec.socketPath
  ringBytes := RuntimeHostSpec.ringBytes
  command := (spec.command.getD []).map goText
  cwd := goText (spec.cwd.getD [])

section Decoding
open RuntimeHostSpec

theorem readUint_count (width n : Nat) : readUint width (count n) = if n < 2 ^ width then some n else none := by
  have hdigits := digits_decimalText n
  have hall : (decimalText n).all isDigit = true := List.all_eq_true.mpr hdigits.all
  rw [count, readUint, parseUint, if_pos ⟨hdigits.some, hall⟩, digitsValue_decimalText]

theorem readInt_count {width n : Nat} (h : n < 2 ^ (width - 1)) : readInt width (count n) = some (n : Int) := by
  have hdigits := digits_decimalText n
  have hall : (decimalText n).all isDigit = true := List.all_eq_true.mpr hdigits.all
  have hvalue := digitsValue_decimalText n
  rw [count, readInt]
  cases htext : decimalText n with
  | nil => exact absurd htext hdigits.some
  | cons c rest =>
    have hc : c ≠ 0x2D := by
      rintro rfl
      exact absurd (hdigits.all 0x2D (htext ▸ List.mem_cons_self)) (by decide)
    rw [htext] at hall hvalue
    rw [parseInt.eq_2 width (c :: rest) fun digits heq => hc (List.cons.inj heq).1,
      if_pos ⟨List.cons_ne_nil _ _, hall, by rw [hvalue]; exact h⟩, hvalue]

theorem readTexts_strings (texts : List JsString) :
    readTexts (.array (texts.map .string)) = some (texts.map goText) :=
  mapM_map fun _ _ => rfl

theorem foldlM_optional {ρ : Type} (fields : List (String × (ρ → Tree → Option ρ))) {key : String} (set : ρ → String → ρ)
    (hread : ∀ record text, readMember fields record (member key (.string text)) = some (set record (goText text)))
    {record : ρ} (hempty : set record "" = record) (value : Option JsString) :
    (optionalText key value).foldlM (readMember fields) record = some (set record (goText (value.getD []))) := by
  cases value with
  | none => exact congrArg some hempty.symm
  | some text =>
    cases text with
    | nil => exact congrArg some hempty.symm
    | cons c rest =>
      rw [optionalText, List.foldlM_cons, hread]
      rfl
      simp

theorem writable_count (n : Nat) : (count n).Writable := number_decimalText n

theorem writable_optional (key : String) (value : Option JsString) : ∀ m ∈ optionalText key value, m.2.Writable := by
  intro m hm
  unfold optionalText at hm
  split at hm
  · cases hm
  · cases hm
  · rw [List.mem_singleton.mp hm]
    trivial

theorem writable_command (spec : RuntimeHostSpec) : ∀ m ∈ spec.commandMembers, m.2.Writable := by
  intro m hm
  unfold commandMembers at hm
  split at hm
  · cases hm
  · rw [List.mem_singleton.mp hm]
    apply elementsWritable_iff.mpr
    intro tree htree
    obtain ⟨text, -, rfl⟩ := List.mem_map.mp htree
    trivial

theorem writable_enrollment (spec : RuntimeHostSpec) (expiresAt : Nat) :
    (Tree.object (spec.enrollmentMembers expiresAt)).Writable := by
  apply membersWritable_iff.mpr
  simp only [enrollmentMembers, List.forall_mem_append, List.forall_mem_cons, List.not_mem_nil, false_implies, implies_true,
    and_true]
  exact ⟨⟨⟨⟨⟨writable_count 1, trivial⟩, writable_optional _ _⟩, trivial, trivial, writable_count _, writable_count 1,
    writable_count _, trivial, trivial, trivial, trivial, writable_count _⟩, writable_command spec⟩, writable_optional _ _⟩

theorem decode_enrollment (spec : RuntimeHostSpec) {expiresAt : Nat} (hclock : expiresAt < 2 ^ 63) :
    decodeRecord Enrollment.fields {} (spec.enrollmentPayload expiresAt) =
      if spec.generation < 2 ^ 32 then some (spec.enrolled expiresAt) else none := by
  have hfirst : [member "version" (count 1), member "sessionId" (.string spec.sessionId)].foldlM
      (readMember Enrollment.fields) {} = some { version := 1, sessionId := goText spec.sessionId } := rfl
  have hoptional (key : String) (set : Enrollment → String → Enrollment)
      (hread : ∀ e text, readMember Enrollment.fields e (member key (.string text)) = some (set e (goText text)))
      (e : Enrollment) (hempty : set e "" = e) (value : Option JsString) :=
    foldlM_optional Enrollment.fields set hread hempty value
  have hcommand (e : Enrollment) (hnone : e.command = []) : spec.commandMembers.foldlM (readMember Enrollment.fields) e =
      some { e with command := (spec.command.getD []).map goText } := by
    unfold commandMembers
    cases spec.command with
    | none =>
      rw [List.foldlM_nil, Option.getD_none, List.map_nil, ← hnone]
      rfl
    | some command =>
      have hread : readMember Enrollment.fields e (member "command" (.array (command.map .string))) =
          (readTexts (.array (command.map .string))).map fun v => { e with command := v } := rfl
      rw [List.foldlM_cons, hread, readTexts_strings]
      rfl
  have htext (e : Enrollment) (text : JsString) :
      readMember Enrollment.fields e (member "runtimeId" (.string text)) = some { e with runtimeId := goText text } ∧
      readMember Enrollment.fields e (member "homeAuthorityId" (.string text)) =
        some { e with homeAuthorityId := goText text } ∧
      readMember Enrollment.fields e (member "reconnectSecret" (.string text)) =
        some { e with reconnectSecret := goText text } ∧
      readMember Enrollment.fields e (member "sessionProof" (.string text)) = some { e with sessionProof := goText text } ∧
      readMember Enrollment.fields e (member "statePath" (.string text)) = some { e with statePath := goText text } ∧
      readMember Enrollment.fields e (member "socketPath" (.string text)) = some { e with socketPath := goText text } :=
    ⟨rfl, rfl, rfl, rfl, rfl, rfl⟩
  have hgeneration (e : Enrollment) : readMember Enrollment.fields e (member "generation" (count spec.generation)) =
      (readUint 32 (count spec.generation)).map fun v => { e with generation := v } := rfl
  have hprotocol (e : Enrollment) : readMember Enrollment.fields e (member "protocolVersion" (count 1)) =
      some { e with protocolVersion := 1 } := rfl
  have hexpires (e : Enrollment) : readMember Enrollment.fields e (member "expiresAt" (count expiresAt)) =
      some { e with expiresAt := expiresAt } := congrArg (Option.map _) (readInt_count hclock)
  have hring (e : Enrollment) (n : Nat) (h : n < 2 ^ 63) :
      readMember Enrollment.fields e (member "ringBytes" (count n)) = some { e with ringBytes := n } :=
    congrArg (Option.map _) (readInt_count h)
  rw [decodeRecord, enrollmentPayload, Federation.ChannelResultAssembler.parseText_sent (writable_enrollment spec expiresAt)]
  dsimp only
  simp only [enrollmentMembers, List.foldlM_append, hfirst, Option.bind_eq_bind, Option.bind_some]
  rw [hoptional "channelId" (fun e v => { e with channelId := v }) (fun _ _ => rfl) _ rfl, Option.bind_some]
  simp only [List.foldlM_cons, List.foldlM_nil, htext, hgeneration, hprotocol, hexpires,
    hring _ ringBytes (by decide), readUint_count, Option.bind_eq_bind, Option.bind_some]
  by_cases hsmall : spec.generation < 2 ^ 32
  · rw [if_pos hsmall, if_pos hsmall, Option.map_some, Option.bind_some, Option.pure_def, Option.bind_some,
      hcommand _ rfl, Option.bind_some, hoptional "cwd" (fun e v => { e with cwd := v }) (fun _ _ => rfl) _ rfl]
    rfl
  · rw [if_neg hsmall, if_neg hsmall]
    rfl

end Decoding

end Wardroom.Runtime.Host
