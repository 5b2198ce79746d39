import Wardroom.Runtime.ProviderIdentity

/-! # The final answer of a provider

A provider appends its turns to transcripts of its own. A scan reads what was
appended since the offsets it holds, waits for the delivered input, and takes
the answer that an explicit final record completes.
-/

namespace Wardroom.Runtime
open Wardroom.Library

structure ProviderReplyScanState where
  offsets : List (String × Nat)
  inputSeen : Bool
  candidateText : Option String
  completed : Bool
  completedAt : Option String
  failureReason : Option String
  deriving DecidableEq, Repr

inductive ReplyStatus where
  | pending
  | complete
  | failed
  deriving DecidableEq, Repr

structure ProviderFinalReply where
  state : ProviderReplyScanState
  status : ReplyStatus
  text : Option String
  reason : Option String

inductive ArtifactKey where
  | transcript
  | lifecycle
  | history
  deriving DecidableEq, Repr

def ArtifactKey.name : ArtifactKey → String
  | .transcript => "transcript"
  | .lifecycle => "lifecycle"
  | .history => "history"

structure TranscriptArtifact where
  key : ArtifactKey
  path : String

/-- The transcripts at one moment: the files in which the search for a conversation ends, by adapter,
conversation and home directory, and what each file holds. -/
structure Transcripts where
  found : String → String → Option String → List TranscriptArtifact
  bytes : String → Option (List UInt8)

def providerTranscriptArtifacts (transcripts : Transcripts) (adapterKind : String)
    (providerThreadId homeDirectory : Option String) : List TranscriptArtifact :=
  match providerThreadId.filter fun id => id ≠ "" with
  | none => []
  | some providerThreadId => transcripts.found adapterKind providerThreadId homeDirectory

def supportsProviderFinalReply (adapterKind : String) : Bool := (Provider.ofAdapterKind adapterKind).isSome

/-- The sizes of the files before the message is typed. -/
def captureProviderReplyScanState (transcripts : Transcripts) (adapterKind : String)
    (providerThreadId homeDirectory : Option String) : ProviderReplyScanState where
  offsets := (providerTranscriptArtifacts transcripts adapterKind providerThreadId homeDirectory).map
    fun artifact => (artifact.key.name, ((transcripts.bytes artifact.path).map List.length).getD 0)
  inputSeen := false
  candidateText := none
  completed := false
  completedAt := none
  failureReason := none

def isText (value : Option Json) (s : String) : Bool :=
  match value with
  | some (.str t) => t = s
  | _ => false

namespace ProviderRecord

def cleanText (value : Option Json) : Option String :=
  match value with
  | some (.str s) => (some (Text.trim s)).filter fun s => s ≠ ""
  | _ => none

def text (value : Option Json) : Option String :=
  match value with
  | some (.str s) => (some s).filter fun s => s ≠ ""
  | _ => none

def items (value : Option Json) : List Json :=
  match value with
  | some (.arr items) => items
  | _ => []

mutual

/-- The strings anywhere in a value. -/
def collectStrings : Json → List String
  | .str s => [s]
  | .arr items => collectItems items
  | .obj members => collectMembers members
  | _ => []

def collectItems : List Json → List String
  | [] => []
  | v :: vs => collectStrings v ++ collectItems vs

def collectMembers : List (String × Json) → List String
  | [] => []
  | (_, v) :: ms => collectStrings v ++ collectMembers ms

end

def providerInput (adapterKind : String) (artifact : ArtifactKey) (record : Json) : Option Json :=
  match Provider.ofAdapterKind adapterKind with
  | some .codex =>
    let payload := record.member "payload"
    if isText (record.member "type") "response_item" && isText (payload.bind fun p => p.member "role") "user" then
      payload.bind fun p => p.member "content"
    else none
  | some .claude =>
    if isText (record.member "type") "user" then (record.member "message").bind fun m => m.member "content" else none
  | some .grok =>
    if artifact = .history && isText (record.member "type") "user" then record.member "content" else none
  | some .gemini => if isText (record.member "type") "user" then record.member "content" else none
  | some .agy => if isText (record.member "type") "USER_INPUT" then record.member "content" else none
  | none => none

def providerInputContains (adapterKind : String) (artifact : ArtifactKey) (record : Json)
    (expectedInput : String) : Bool :=
  let normalizedExpected := Text.trim expectedInput
  match providerInput adapterKind artifact record with
  | none => false
  | some value => normalizedExpected ≠ "" &&
      (collectStrings value).any fun part => decide (normalizedExpected.toList <:+: part.toList)

structure Observation where
  candidateText : Option String := none
  clearCandidate : Bool := false
  completed : Bool := false
  completedAt : Option String := none
  failureReason : Option String := none

def joinedParts (parts : List Json) : Option String :=
  cleanText (some (.str ("\n\n".intercalate (parts.filterMap fun part => cleanText (part.member "text")))))

def cleanGeminiContent (value : Option Json) : Option String :=
  match value with
  | some (.str s) => cleanText (some (.str s))
  | some (.arr parts) => joinedParts parts
  | _ => none

def observeClaude (record : Json) (at' : Option String) : Observation :=
  if isText (record.member "type") "assistant" then
    let parts := items ((record.member "message").bind fun m => m.member "content")
    if parts.any fun part => isText (part.member "type") "tool_use" then { clearCandidate := true }
    else { candidateText := joinedParts (parts.filter fun part => isText (part.member "type") "text") }
  else if isText (record.member "type") "system" && isText (record.member "subtype") "turn_duration" then
    { completed := true, completedAt := at' }
  else
    match isText (record.member "type") "result", record.member "is_error" with
    | true, some (.bool true) =>
      { clearCandidate := true, completedAt := at', failureReason := some "provider-turn-error" }
    | _, _ => {}

def observeGrok (artifact : ArtifactKey) (record : Json) (at' : Option String) : Observation :=
  if artifact = .history && isText (record.member "type") "assistant" then
    if items (record.member "tool_calls") matches [] then { candidateText := cleanText (record.member "content") }
    else { clearCandidate := true }
  else if artifact = .lifecycle && isText (record.member "type") "turn_ended" then
    match text (record.member "outcome") with
    | none => { completed := true, completedAt := at' }
    | some outcome =>
      if outcome ≠ "completed" ∧ outcome ≠ "success" then
        { clearCandidate := true, completedAt := at', failureReason := some ("provider-turn-" ++ outcome) }
      else { completed := true, completedAt := at' }
  else {}

def observeGemini (record : Json) (at' : Option String) : Observation :=
  if isText (record.member "type") "gemini" then
    if items (record.member "toolCalls") matches [] then
      { candidateText := cleanGeminiContent (record.member "content"), completed := true, completedAt := at' }
    else { clearCandidate := true, completedAt := at' }
  else if isText (record.member "type") "error" then
    { clearCandidate := true, completedAt := at', failureReason := some "provider-turn-error" }
  else {}

def observeAgy (record : Json) (at' : Option String) : Observation :=
  if isText (record.member "type") "PLANNER_RESPONSE" && isText (record.member "status") "DONE" &&
      isText (record.member "source") "MODEL" && (items (record.member "tool_calls") matches []) then
    match cleanText (record.member "content") with
    | none => {}
    | some answer => { candidateText := some answer, completed := true, completedAt := at' }
  else if isText (record.member "status") "ERROR" || isText (record.member "status") "FAILED" then
    { clearCandidate := true, completedAt := at', failureReason := some "provider-turn-error" }
  else {}

/-- What a record says of the turn. -/
def observeProviderRecord (adapterKind : String) (artifact : ArtifactKey) (record : Json) : Observation :=
  let at' := ((text (record.member "timestamp")).or (text (record.member "created_at"))).or (text (record.member "ts"))
  match Provider.ofAdapterKind adapterKind with
  | some .codex =>
    let payload := record.member "payload"
    if isText (record.member "type") "event_msg" && isText (payload.bind fun p => p.member "type") "task_complete" then
      { candidateText := cleanText (payload.bind fun p => p.member "last_agent_message")
        completed := true, completedAt := at' }
    else {}
  | some .claude => observeClaude record at'
  | some .grok => observeGrok artifact record at'
  | some .gemini => observeGemini record at'
  | some .agy => observeAgy record at'
  | none => {}

end ProviderRecord

open ProviderRecord

def READ_CHUNK_BYTES : Nat := 512 * 1024

/-- The whole lines appended since an offset, as far as one chunk goes. A line longer than the chunk
is passed over. -/
def readJsonlAppend (parse : List UInt8 → Option Json) (file : Option (List UInt8)) (requestedOffset : Nat) :
    List Json × Nat :=
  match file with
  | none => ([], requestedOffset)
  | some file =>
    let start := if file.length < requestedOffset then 0 else requestedOffset
    let bytes := (file.drop start).take READ_CHUNK_BYTES
    let whole := (bytes.reverse.dropWhile fun b => b ≠ 0x0a).reverse
    if whole = [] then ([], if bytes.length = READ_CHUNK_BYTES then start + bytes.length else start)
    else
      (((whole.dropLast).splitOn 0x0a).filterMap fun line =>
        (parse line).filter fun record => !(record matches .null), start + whole.length)

def records (value : Option Json) : List Json :=
  match value with
  | some (.arr items) => items.filter Json.isRecord
  | some (.obj members) => [.obj members]
  | _ => []

def expandGeminiRecord (record : Json) : List Json :=
  match record.member "type" with
  | some (.str _) => [record]
  | _ => records ((record.member "$set").bind fun r => r.member "messages") ++
      records ((record.member "$push").bind fun r => r.member "messages")

/-- Nothing counts before the input has been seen. -/
def observeRecord (adapterKind : String) (artifact : ArtifactKey) (expectedInput : Option String)
    (state : ProviderReplyScanState) (record : Json) : ProviderReplyScanState :=
  if state.inputSeen then
    let observed := observeProviderRecord adapterKind artifact record
    { state with
      candidateText := observed.candidateText.or (if observed.clearCandidate then none else state.candidateText)
      completed := state.completed || observed.completed
      completedAt := if observed.completed then observed.completedAt.or state.completedAt else state.completedAt
      failureReason := observed.failureReason.or state.failureReason }
  else if expectedInput.any fun input => providerInputContains adapterKind artifact record input then
    { state with
      inputSeen := true, candidateText := none, completed := false, completedAt := none, failureReason := none }
  else state

def setOffset (offsets : List (String × Nat)) (key : String) (offset : Nat) : List (String × Nat) :=
  (key, offset) :: offsets.filter fun o => o.1 ≠ key

/-- The end of a turn in the lifecycle of grok does not count before the history has shown the input. -/
def scanArtifact (parse : List UInt8 → Option Json) (transcripts : Transcripts) (adapterKind : String)
    (expectedInput : Option String) (state : ProviderReplyScanState) (artifact : TranscriptArtifact) :
    ProviderReplyScanState :=
  if Provider.ofAdapterKind adapterKind = some .grok ∧ artifact.key = .lifecycle ∧ state.inputSeen = false then state
  else
    let offset := ((state.offsets.find? fun o => o.1 = artifact.key.name).map Prod.snd).getD 0
    let read := readJsonlAppend parse (transcripts.bytes artifact.path) offset
    let found := if Provider.ofAdapterKind adapterKind = some .gemini then read.1.flatMap expandGeminiRecord else read.1
    found.foldl (observeRecord adapterKind artifact.key expectedInput)
      { state with offsets := setOffset state.offsets artifact.key.name read.2 }

def ProviderReplyScanState.reply (state : ProviderReplyScanState) : ProviderFinalReply :=
  let finalMissing := state.completed && state.candidateText.isNone
  { state := state
    status := if state.failureReason.isSome || finalMissing then .failed
      else if state.completed then .complete else .pending
    text := if state.completed then state.candidateText else none
    reason := state.failureReason.or (if finalMissing then some "provider-final-empty" else none) }

def scanProviderFinalReply (parse : List UInt8 → Option Json) (transcripts : Transcripts) (adapterKind : String)
    (providerThreadId : Option String) (state : ProviderReplyScanState) (expectedInput homeDirectory : Option String) :
    ProviderFinalReply :=
  ((providerTranscriptArtifacts transcripts adapterKind providerThreadId homeDirectory).foldl
    (scanArtifact parse transcripts adapterKind expectedInput)
    { state with inputSeen := expectedInput.isNone || state.inputSeen }).reply

end Wardroom.Runtime
