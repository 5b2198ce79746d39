import Wardroom.Library.Text
import Wardroom.Storage.RuntimeRepository
import Mathlib

/-! # Finding out which conversation a provider process opened

A provider writes its own transcript and tells the daemon nothing. The daemon
looks through the transcripts of the working directory for one that quotes the
Rooms session id of the launch, and claims the conversation it names.
-/

namespace Wardroom.Runtime
open Wardroom.Library Wardroom.Domain Wardroom.Storage Prog

/-- The providers that keep a transcript the daemon knows how to find. -/
inductive Provider where
  | claude | codex | grok | agy | gemini
  deriving DecidableEq, Repr

def Provider.ofAdapterKind (adapterKind : String) : Option Provider :=
  if adapterKind = "claude" then some .claude
  else if adapterKind = "codex" then some .codex
  else if adapterKind = "grok" then some .grok
  else if adapterKind = "agy" then some .agy
  else if adapterKind = "gemini" then some .gemini
  else none

abbrev FilePath := List String

/-- A file of a provider, with the runtime whose process wrote it. -/
structure TranscriptFile where
  path : FilePath
  device : Nat
  inode : Nat
  created : Nat
  bytes : List UInt8
  writer : String
  deriving DecidableEq, Repr

abbrev Files := Table TranscriptFile.path

/-- What the language and its libraries provide. -/
structure Builtins where
  parse : List UInt8 → Option Json
  encodeURIComponent : String → String
  sha256 : String → String

def transcriptScanChunkBytes : Nat := 64 * 1024

/-- The provider's metadata record, never the whole transcript. -/
def readFirstLine (file : TranscriptFile) : List UInt8 :=
  (file.bytes.take transcriptScanChunkBytes).takeWhile fun byte => byte ≠ 10

structure FileMarkerScanState where
  offset : Nat
  device : Option Nat
  inode : Option Nat
  deriving DecidableEq, Repr

/-- A scan of another file, or of one that has shrunk, starts over. -/
def FileMarkerScanState.rewound (state : FileMarkerScanState) (file : TranscriptFile) :
    FileMarkerScanState :=
  if state.device ≠ some file.device ∨ state.inode ≠ some file.inode ∨
      file.bytes.length < state.offset then ⟨0, some file.device, some file.inode⟩
  else state

/-- Scan one chunk from where the last scan ended, with an overlap for a marker split across
writes. -/
def fileContainsMarker (file : Option TranscriptFile) (marker : String)
    (state : FileMarkerScanState) : Bool × FileMarkerScanState :=
  let wanted := Text.utf8 marker
  match file with
  | none => (false, state)
  | some file =>
    if wanted = [] ∨ file.bytes = [] then (false, state)
    else
      let state := state.rewound file
      let start := state.offset - (wanted.length - 1)
      let length := min (file.bytes.length - start) (max transcriptScanChunkBytes wanted.length)
      if length = 0 then (false, state)
      else
        let buffer := (file.bytes.drop start).take length
        (decide (wanted <:+: buffer),
          { state with offset := max state.offset (start + buffer.length) })

theorem infix_of_fileContainsMarker {file : Option TranscriptFile} {marker : String}
    {state : FileMarkerScanState} (h : (fileContainsMarker file marker state).1 = true) :
    ∃ f, file = some f ∧ Text.utf8 marker <:+: f.bytes := by
  cases file with
  | none => cases h
  | some f =>
    refine ⟨f, rfl, ?_⟩
    unfold fileContainsMarker at h
    by_cases hempty : Text.utf8 marker = [] ∨ f.bytes = []
    · simp only [if_pos hempty] at h
      cases h
    · simp only [if_neg hempty] at h
      generalize (state.rewound f).offset - ((Text.utf8 marker).length - 1) = start at h
      by_cases hlength : min (f.bytes.length - start)
          (max transcriptScanChunkBytes (Text.utf8 marker).length) = 0
      · simp only [if_pos hlength] at h
        cases h
      · simp only [if_neg hlength, decide_eq_true_eq] at h
        have hdrop : f.bytes.drop start <:+: f.bytes := (List.drop_suffix start f.bytes).isInfix
        exact h.trans ((List.take_prefix _ _).isInfix.trans hdrop)

/-- A transcript a poll looks at: where it is listed, the conversation id where the listing gives
it, and the file in which the marker is looked for. -/
structure Candidate where
  path : FilePath
  sessionId : Option String
  markerPath : FilePath
  deriving DecidableEq, Repr

/-- A discovery under way for a launched runtime; `found` is what it has returned. -/
structure Discovery where
  runtimeId : String
  sessionId : String
  provider : Provider
  cwd : String
  homeDirectory : FilePath
  launchedAfter : Nat
  scans : List (FilePath × FileMarkerScanState) := []
  pending : List Candidate := []
  found : Option String := none
  deriving DecidableEq, Repr

/-- What a launch without a known conversation asks of discovery. -/
structure DiscoveryRequest where
  runtimeId : String
  sessionId : String
  adapterKind : Option String
  cwd : Option String
  homeDirectory : FilePath
  launchedAfter : Nat

/-- There is nothing to discover without a directory, or for an adapter without transcripts. -/
def DiscoveryRequest.begin (request : DiscoveryRequest) : Option Discovery :=
  match request.cwd.filter fun cwd => cwd ≠ "",
      request.adapterKind.bind Provider.ofAdapterKind with
  | some cwd, some provider => some
    { runtimeId := request.runtimeId, sessionId := request.sessionId, provider := provider,
      cwd := cwd, homeDirectory := request.homeDirectory, launchedAfter := request.launchedAfter }
  | _, _ => none

/-- The files below a directory, with their names relative to it. -/
def namesUnder (files : Files) (root : FilePath) : List (FilePath × TranscriptFile) :=
  files.rows.filterMap fun file =>
    if root <+: file.path then some (file.path.drop root.length, file) else none

def oldestFirst (a b : FilePath × TranscriptFile) : Prop := a.2.created ≤ b.2.created

def newestFirst (a b : FilePath × TranscriptFile) : Prop := b.2.created ≤ a.2.created

instance : DecidableRel oldestFirst := fun _ _ => inferInstanceAs (Decidable (_ ≤ _))

instance : DecidableRel newestFirst := fun _ _ => inferInstanceAs (Decidable (_ ≤ _))

/-- Replace every code unit that is no letter, digit, underscore or hyphen. -/
def claudeProjectKey (cwd : String) : String :=
  String.ofList (cwd.toList.flatMap fun c =>
    if c.isAlphanum || c = '_' || c = '-' then [c]
    else if c.toNat < 0x10000 then ['-'] else ['-', '-'])

def endsWithJsonl (name : FilePath) : Bool := name.getLast?.any fun s => s.endsWith ".jsonl"

/-- `(^|/)chats/session-….jsonl$`. -/
def isGeminiChat : FilePath → Bool
  | [] => false
  | [_] => false
  | part :: first :: rest =>
    (part = "chats" && first.startsWith "session-" && endsWithJsonl (first :: rest)) ||
      isGeminiChat (first :: rest)

section Listings

variable (b : Builtins) (files : Files)

/-- The conversation id that the text at a member of the record gives. -/
def memberText (record : Json) (k : String) : Option String :=
  match record.member k with
  | some (.str s) => some s
  | _ => none

def geminiId (cwd : String) (file : TranscriptFile) : Option String :=
  (b.parse (readFirstLine file)).bind fun metadata =>
    if memberText metadata "projectHash" = some (b.sha256 cwd) then memberText metadata "sessionId"
    else none

def listGeminiSessionCandidates (d : Discovery) : List Candidate :=
  let listed := (namesUnder files (d.homeDirectory ++ [".gemini", "tmp"])).filter fun entry =>
    isGeminiChat entry.1 && d.launchedAfter - 1000 ≤ entry.2.created
  (listed.insertionSort oldestFirst).filterMap fun entry =>
    (geminiId b d.cwd entry.2).map fun id => ⟨entry.2.path, some id, entry.2.path⟩

/-- The brain directory that a transcript of AGY lies in. -/
def agyId : FilePath → Option String
  | [id, ".system_generated", "logs", "transcript.jsonl"] => some id
  | _ => none

def listAgySessionCandidates (d : Discovery) : List Candidate :=
  let listed := (namesUnder files
    (d.homeDirectory ++ [".gemini", "antigravity-cli", "brain"])).filter fun entry =>
      (agyId entry.1).isSome && d.launchedAfter - 1000 ≤ entry.2.created
  (listed.insertionSort oldestFirst).filterMap fun entry =>
    (agyId entry.1).map fun id => ⟨entry.2.path, some id, entry.2.path⟩

/-- The session directory of an event log under the key of the working directory. -/
def grokId (cwd : String) (name : FilePath) : Option String :=
  match name.reverse with
  | "events.jsonl" :: sessionId :: projectKey :: _ =>
    if (projectKey = b.encodeURIComponent cwd ∨ projectKey = cwd) ∧ sessionId ≠ "" then
      some sessionId
    else none
  | _ => none

/-- Grok keeps user input, and with it the marker, beside its event log. -/
def listGrokSessionCandidates (d : Discovery) : List Candidate :=
  let root := d.homeDirectory ++ [".grok", "sessions"]
  let listed := (namesUnder files root).filter fun entry =>
    (grokId b d.cwd entry.1).isSome && d.launchedAfter - 1000 ≤ entry.2.created
  (listed.insertionSort newestFirst).filterMap fun entry =>
    (grokId b d.cwd entry.1).map fun id =>
      ⟨entry.2.path, some id, root ++ [b.encodeURIComponent d.cwd, id, "chat_history.jsonl"]⟩

/-- The marker is looked for only if there is one. -/
def Discovery.ownershipMarker (d : Discovery) : Option String :=
  if Text.blank d.sessionId then none else some d.sessionId

/-- Claude keeps the transcripts of a project in one directory, Codex all of them in a tree. -/
def listTranscripts (d : Discovery) : List Candidate :=
  let directory := d.homeDirectory ++
    if d.provider = .claude then [".claude", "projects", claudeProjectKey d.cwd]
    else [".codex", "sessions"]
  let listed := (namesUnder files directory).filter fun entry =>
    (d.provider = .codex || entry.1.length = 1) && endsWithJsonl entry.1 &&
      d.launchedAfter - 1000 ≤ entry.2.created
  let sorted := if d.ownershipMarker.isSome then listed.insertionSort oldestFirst
    else listed.insertionSort newestFirst
  sorted.map fun entry => ⟨entry.2.path, none, entry.2.path⟩

def candidates (d : Discovery) : List Candidate :=
  match d.provider with
  | .grok => listGrokSessionCandidates b files d
  | .gemini => listGeminiSessionCandidates b files d
  | .agy => listAgySessionCandidates files d
  | .claude => listTranscripts files d
  | .codex => listTranscripts files d

/-- The id that the first record of a transcript gives, for Codex if it is of the directory. -/
def recordedId (d : Discovery) (file : TranscriptFile) : Option String :=
  (b.parse (readFirstLine file)).bind fun record =>
    let id := if d.provider = .codex then
        (record.member "payload").bind fun payload =>
          if memberText payload "cwd" = some d.cwd then memberText payload "id" else none
      else memberText record "sessionId"
    id.filter fun s => s ≠ ""

def candidateId (d : Discovery) (c : Candidate) : Option String :=
  c.sessionId.or ((files.find? c.path).bind (recordedId b d))

end Listings

/-- The daemon with the transcripts beside it and the discoveries it has under way. -/
structure Launches where
  daemon : Daemon
  files : Files
  discoveries : Table Discovery.runtimeId

/-- Without a marker every transcript passes. -/
def Discovery.containsOwnershipMarker (d : Discovery) (files : Files) (path : FilePath) :
    Bool × List (FilePath × FileMarkerScanState) :=
  match d.ownershipMarker with
  | none => (true, d.scans)
  | some marker =>
    let scan := ((d.scans.find? fun s => s.1 = path).map Prod.snd).getD ⟨0, none, none⟩
    let outcome := fileContainsMarker (files.find? path) marker scan
    (outcome.1, (path, outcome.2) :: d.scans.filter fun s => s.1 ≠ path)

/-- Whether a live runtime other than this one holds the conversation. -/
def isClaimed (daemon : Daemon) (runtimeId providerThreadId : String) : Bool :=
  !Text.blank providerThreadId && (daemon.providerThreadHolder providerThreadId runtimeId).isSome

def keepPolling (daemon : Daemon) (runtimeId : String) : Bool :=
  (daemon.runtime runtimeId).any fun r =>
    r.providerThreadId.isNone && r.endedAt.isNone &&
      (r.state = .creating || r.state = .running || r.state = .recovering)

def Launches.set (l : Launches) (runtimeId : String) (f : Discovery → Discovery)
    (hf : ∀ d, (f d).runtimeId = d.runtimeId) : Launches :=
  { l with discoveries := l.discoveries.update (fun d => d.runtimeId = runtimeId) f hf }

theorem Discovery.runtimeId_proceed (pending : List Candidate)
    (scans : List (FilePath × FileMarkerScanState)) (found : Option String) (d : Discovery) :
    ({ d with pending := pending, scans := scans, found := found } : Discovery).runtimeId =
      d.runtimeId := rfl

/-- What is left of a round once a candidate was looked at. -/
def Launches.proceed (l : Launches) (runtimeId : String) (pending : List Candidate)
    (scans : List (FilePath × FileMarkerScanState)) (found : Option String) : Launches :=
  l.set runtimeId (fun d => { d with pending := pending, scans := scans, found := found })
    (Discovery.runtimeId_proceed pending scans found)

/-- Begin a round over the transcripts there are. -/
def poll (b : Builtins) (l : Launches) (runtimeId : String) : Launches :=
  match l.discoveries.find? runtimeId with
  | none => l
  | some d =>
    if d.found.isNone ∧ d.pending = [] ∧ keepPolling l.daemon runtimeId = true then
      l.proceed runtimeId (candidates b l.files d) d.scans none
    else l

/-- Claim a candidate that carries the marker. An exception of the claim ends the round, except
where each candidate has a handler of its own. -/
def claim (l : Launches) (d : Discovery) (id : String) (rest : List Candidate)
    (scans : List (FilePath × FileMarkerScanState)) : Launches :=
  let outcome := tryClaimProviderThreadId d.runtimeId id false l.daemon
  let l : Launches := { l with daemon := outcome.2 }
  match outcome.1 with
  | .ok (.claimed _) => l.proceed d.runtimeId [] scans (some id)
  | .ok (.refused _) => l.proceed d.runtimeId rest scans none
  | .error _ =>
    l.proceed d.runtimeId (if d.provider = .claude ∨ d.provider = .codex then rest else []) scans none

/-- Look at the next candidate of a round. -/
def examine (b : Builtins) (l : Launches) (runtimeId : String) : Launches :=
  match l.discoveries.find? runtimeId with
  | none => l
  | some d =>
    match d.pending with
    | [] => l
    | c :: rest =>
      match candidateId b l.files d c with
      | none => l.proceed runtimeId rest d.scans none
      | some id =>
        if isClaimed l.daemon runtimeId id = true then l.proceed runtimeId rest d.scans none
        else
          let marked := d.containsOwnershipMarker l.files c.markerPath
          if marked.1 = true then claim l d id rest marked.2
          else l.proceed runtimeId rest marked.2 none

end Wardroom.Runtime
