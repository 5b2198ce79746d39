import Wardroom.Library.Trace
import Wardroom.Runtime.ProviderIdentity

/-! # Whose conversation a discovery claims

The marker of a launch is its Rooms session id, wherever it stands in a
transcript. Another provider's transcript may quote it: in the roster of its
launch prompt, in a message, or inside a longer id.
-/

namespace Wardroom.Runtime
open Wardroom.Library Wardroom.Domain Wardroom.Storage Prog

/-- A controlled profile gets its identity elsewhere. -/
def composeSessionLaunchPrompt (sessionId callerPrompt : String) (controlledProfile : Bool) :
    String :=
  if controlledProfile then callerPrompt
  else "You are a Rooms session " ++ sessionId ++ ".\n\n" ++ callerPrompt

/-- A provider writes a transcript, a launch begins its discovery, the daemon does anything else, or
a discovery takes a step. -/
inductive LaunchOp where
  | create (file : TranscriptFile)
  | grow (path : FilePath) (bytes : List UInt8)
  | daemon (daemon : Daemon)
  | launch (request : DiscoveryRequest)
  | poll (runtimeId : String)
  | examine (runtimeId : String)

def TranscriptFile.grown (bytes : List UInt8) (file : TranscriptFile) : TranscriptFile :=
  { file with bytes := file.bytes ++ bytes }

theorem TranscriptFile.path_grown (bytes : List UInt8) (file : TranscriptFile) :
    (file.grown bytes).path = file.path := rfl

section Runs

variable (b : Builtins)

def launchStep (l : Launches) : LaunchOp → Launches
  | .create file => { l with files := l.files.put file }
  | .grow path bytes => { l with
      files := l.files.update (fun f => f.path = path) (TranscriptFile.grown bytes)
        (TranscriptFile.path_grown bytes) }
  | .daemon daemon => { l with daemon := daemon }
  | .launch request => { l with
      discoveries := request.begin.elim l.discoveries fun d => l.discoveries.put d }
  | .poll runtimeId => poll b l runtimeId
  | .examine runtimeId => examine b l runtimeId

/-- The conversation id of a transcript: where the provider keeps it, or what its first record
says. -/
def transcriptId (d : Discovery) (file : TranscriptFile) : Option String :=
  match d.provider with
  | .grok => grokId b d.cwd (file.path.drop (d.homeDirectory ++ [".grok", "sessions"]).length)
  | .agy =>
    agyId (file.path.drop (d.homeDirectory ++ [".gemini", "antigravity-cli", "brain"]).length)
  | .gemini => geminiId b d.cwd file
  | _ => recordedId b d file

/-- The transcript gave this id, as it is or as it was when less of it was written. -/
def Names (d : Discovery) (file : TranscriptFile) (id : String) : Prop :=
  ∃ bytes, bytes <+: file.bytes ∧ transcriptId b d { file with bytes := bytes } = some id

/-- The runtime's own provider process wrote a transcript of this id. -/
def OwnConversation (l : Launches) (d : Discovery) (id : String) : Prop :=
  ∃ file ∈ l.files.rows, file.writer = d.runtimeId ∧ Names b d file id

/-- The next candidate of a discovery is a transcript of another process. No live runtime holds
its conversation, it quotes the session id of the discovery, and the runtime may still claim it. -/
structure Misled (l : Launches) (d : Discovery) (c : Candidate) (file : TranscriptFile) (id : String) :
    Prop where
  listed : l.files.find? c.path = some file
  foreign : file.writer ≠ d.runtimeId
  named : candidateId b l.files d c = some id
  unheld : isClaimed l.daemon d.runtimeId id = false
  quoted : Text.blank d.sessionId = true ∨
    ∃ marked, l.files.find? c.markerPath = some marked ∧ Text.utf8 d.sessionId <:+: marked.bytes
  unbound : ∃ r, l.daemon.runtime d.runtimeId = some r ∧
    (r.providerThreadId = none ∨ r.providerThreadId = some id)

/-- No discovery looks at a transcript that misleads it. -/
def Unmistaken (l : Launches) : LaunchOp → Prop
  | .examine runtimeId => ∀ d c rest file id, l.discoveries.find? runtimeId = some d →
      d.pending = c :: rest → ¬Misled b l d c file id
  | _ => True

/-- A candidate is a stored transcript, whose id is the one of the listing. -/
def Listed (files : Files) (d : Discovery) (c : Candidate) : Prop :=
  ∃ file, files.find? c.path = some file ∧ (∀ id, c.sessionId = some id → Names b d file id) ∧
    (c.sessionId = none → d.provider = .claude ∨ d.provider = .codex)

/-- Each discovery looks at stored transcripts, and has found its own. -/
structure Discovering (l : Launches) : Prop where
  pending : ∀ d ∈ l.discoveries.rows, ∀ c ∈ d.pending, Listed b l.files d c
  found : ∀ d ∈ l.discoveries.rows, ∀ id, d.found = some id → OwnConversation b l d id

variable {b} {l : Launches} {d : Discovery} {files files' : Files} {c : Candidate} {id : String}

/-- Every transcript is still there, with perhaps more in it. -/
def Grows (files files' : Files) : Prop :=
  ∀ path file, files.find? path = some file →
    ∃ more, files'.find? path = some (file.grown more)

theorem grown_nil (file : TranscriptFile) : file.grown [] = file := by
  simp [TranscriptFile.grown]

theorem Grows.refl (files : Files) : Grows files files := by
  intro path file hfile
  exact ⟨[], by rw [grown_nil, hfile]⟩

theorem grows_put (files : Files) (file : TranscriptFile) : Grows files (files.put file) := by
  intro path old hold
  refine ⟨[], ?_⟩
  rw [Table.find?_put, hold, Option.some_or, grown_nil]

theorem grows_update (files : Files) (path : FilePath) (bytes : List UInt8) :
    Grows files (files.update (fun f => f.path = path) (TranscriptFile.grown bytes)
      (TranscriptFile.path_grown bytes)) := by
  intro other file hfile
  rw [Table.find?_rewrite rfl (TranscriptFile.path_grown bytes), hfile, Option.map_some]
  by_cases hpath : file.path = path
  · exact ⟨bytes, by rw [if_pos (by simpa using hpath)]⟩
  · exact ⟨[], by rw [if_neg (by simpa using hpath), grown_nil]⟩

theorem Names.grown {file : TranscriptFile} (h : Names b d file id) (more : List UInt8) :
    Names b d (file.grown more) id := by
  obtain ⟨bytes, hfront, hid⟩ := h
  exact ⟨bytes, hfront.trans (List.prefix_append _ _), hid⟩

theorem names_now {file : TranscriptFile} (h : transcriptId b d file = some id) :
    Names b d file id := ⟨file.bytes, List.prefix_rfl, h⟩

theorem Listed.grows (h : Listed b files d c) (hgrows : Grows files files') :
    Listed b files' d c := by
  obtain ⟨file, hfile, hnames, hrecorded⟩ := h
  obtain ⟨more, hmore⟩ := hgrows c.path file hfile
  exact ⟨file.grown more, hmore, fun id hid => (hnames id hid).grown more, hrecorded⟩

theorem OwnConversation.grows (h : OwnConversation b l d id) {l' : Launches}
    (hgrows : Grows l.files l'.files) : OwnConversation b l' d id := by
  obtain ⟨file, hfile, hwriter, hnames⟩ := h
  obtain ⟨more, hmore⟩ := hgrows file.path file (Table.find?_of_mem hfile)
  exact ⟨file.grown more, (Table.find?_some hmore).1, hwriter, hnames.grown more⟩

/-- What providers write and the daemon does takes nothing from a discovery. -/
theorem Discovering.grows (h : Discovering b l) {l' : Launches}
    (hdiscoveries : l'.discoveries = l.discoveries) (hgrows : Grows l.files l'.files) :
    Discovering b l' where
  pending d hd c hc := (h.pending d (hdiscoveries ▸ hd) c hc).grows hgrows
  found d hd id hid := (h.found d (hdiscoveries ▸ hd) id hid).grows hgrows

theorem begin_fresh {request : DiscoveryRequest} (h : request.begin = some d) :
    d.pending = [] ∧ d.found = none := by
  unfold DiscoveryRequest.begin at h
  split at h
  · cases h
    exact ⟨rfl, rfl⟩
  · cases h

theorem Discovering.launched (h : Discovering b l) (request : DiscoveryRequest) :
    Discovering b { l with
      discoveries := request.begin.elim l.discoveries fun d => l.discoveries.put d } := by
  cases hbegin : request.begin with
  | none => exact h
  | some d =>
    obtain ⟨hpending, hfound⟩ := begin_fresh hbegin
    have hmem (d' : Discovery) (hd' : d' ∈ (l.discoveries.put d).rows) :
        d' ∈ l.discoveries.rows ∨ d' = d := by
      rcases Table.rows_put l.discoveries d with hrows | hrows
      · exact .inl (hrows ▸ hd')
      · rw [hrows, List.mem_append, List.mem_singleton] at hd'
        exact hd'
    constructor
    · intro d' hd' c hc
      rcases hmem d' hd' with hold | rfl
      · exact h.pending d' hold c hc
      · rw [hpending] at hc
        cases hc
    · intro d' hd' id hid
      rcases hmem d' hd' with hold | rfl
      · exact h.found d' hold id hid
      · rw [hfound] at hid
        cases hid

theorem Discovering.proceed (h : Discovering b l) (daemon : Daemon)
    (hd : l.discoveries.find? d.runtimeId = some d) {pending : List Candidate}
    (hpending : ∀ c ∈ pending, Listed b l.files d c)
    (scans : List (FilePath × FileMarkerScanState)) {found : Option String}
    (hfound : ∀ id, found = some id → OwnConversation b l d id) :
    Discovering b (({ l with daemon := daemon } : Launches).proceed d.runtimeId pending scans found) := by
  have hmem (d' : Discovery) (hd' : d' ∈ (({ l with daemon := daemon } : Launches).proceed
      d.runtimeId pending scans found).discoveries.rows) : d' ∈ l.discoveries.rows ∨
        d' = { d with pending := pending, scans := scans, found := found } := by
    obtain ⟨old, hold, rfl⟩ := List.mem_map.mp hd'
    by_cases hsame : old.runtimeId = d.runtimeId
    · have hrow : old = d := Table.eq_of_key hold (Table.find?_some hd).1 hsame
      right
      rw [if_pos (by simpa using hsame), hrow]
    · left
      rw [if_neg (by simpa using hsame)]
      exact hold
  constructor
  · intro d' hd' c hc
    rcases hmem d' hd' with hold | rfl
    · exact h.pending d' hold c hc
    · exact hpending c hc
  · intro d' hd' id hid
    rcases hmem d' hd' with hold | rfl
    · exact h.found d' hold id hid
    · exact hfound id hid

theorem mem_namesUnder {root : FilePath} {entry : FilePath × TranscriptFile}
    (h : entry ∈ namesUnder files root) :
    files.find? entry.2.path = some entry.2 ∧ entry.1 = entry.2.path.drop root.length := by
  obtain ⟨file, hfile, hentry⟩ := List.mem_filterMap.mp h
  by_cases hroot : root <+: file.path
  · rw [if_pos hroot] at hentry
    cases hentry
    exact ⟨Table.find?_of_mem hfile, rfl⟩
  · rw [if_neg hroot] at hentry
    cases hentry

theorem listed_of_id {root : FilePath} {order : FilePath × TranscriptFile →
    FilePath × TranscriptFile → Prop} [DecidableRel order] {keep : FilePath × TranscriptFile → Bool}
    {idOf : FilePath × TranscriptFile → Option String}
    {candidate : FilePath × TranscriptFile → String → Candidate}
    (hid : ∀ entry, entry.1 = entry.2.path.drop root.length →
      idOf entry = transcriptId b d entry.2)
    (hpath : ∀ entry id, (candidate entry id).path = entry.2.path)
    (hsession : ∀ entry id, (candidate entry id).sessionId = some id)
    (h : c ∈ (((namesUnder files root).filter keep).insertionSort order).filterMap fun entry =>
      (idOf entry).map (candidate entry)) : Listed b files d c := by
  obtain ⟨entry, hentry, hc⟩ := List.mem_filterMap.mp h
  rw [List.mem_insertionSort, List.mem_filter] at hentry
  obtain ⟨id, hgiven, rfl⟩ := Option.map_eq_some_iff.mp hc
  obtain ⟨hfile, hname⟩ := mem_namesUnder hentry.1
  refine ⟨entry.2, by rw [hpath, hfile], fun id' hid' => ?_, fun hnone => ?_⟩
  · rw [hsession] at hid'
    cases hid'
    exact names_now ((hid entry hname).symm.trans hgiven)
  · rw [hsession] at hnone
    cases hnone

theorem listTranscripts_listed (hprovider : d.provider = .claude ∨ d.provider = .codex)
    (h : c ∈ listTranscripts files d) : Listed b files d c := by
  unfold listTranscripts at h
  obtain ⟨entry, hentry, rfl⟩ := List.mem_map.mp h
  have hfile : files.find? entry.2.path = some entry.2 := by
    by_cases hmarker : d.ownershipMarker.isSome = true
    · rw [if_pos hmarker, List.mem_insertionSort, List.mem_filter] at hentry
      exact (mem_namesUnder hentry.1).1
    · rw [if_neg hmarker, List.mem_insertionSort, List.mem_filter] at hentry
      exact (mem_namesUnder hentry.1).1
  refine ⟨entry.2, hfile, fun id hid => ?_, fun _ => hprovider⟩
  cases hid

theorem candidates_listed (h : c ∈ candidates b files d) : Listed b files d c := by
  unfold candidates at h
  cases hprovider : d.provider with
  | grok =>
    rw [hprovider] at h
    refine listed_of_id (fun entry hname => ?_) (fun _ _ => rfl) (fun _ _ => rfl) h
    rw [transcriptId, hprovider, hname]
  | gemini =>
    rw [hprovider] at h
    refine listed_of_id (fun entry hname => ?_) (fun _ _ => rfl) (fun _ _ => rfl) h
    rw [transcriptId, hprovider]
  | agy =>
    rw [hprovider] at h
    refine listed_of_id (fun entry hname => ?_) (fun _ _ => rfl) (fun _ _ => rfl) h
    rw [transcriptId, hprovider, hname]
  | claude =>
    rw [hprovider] at h
    exact listTranscripts_listed (.inl hprovider) h
  | codex =>
    rw [hprovider] at h
    exact listTranscripts_listed (.inr hprovider) h

/-- The transcript of a candidate gives its id. -/
theorem Listed.names (h : Listed b files d c) (hid : candidateId b files d c = some id) :
    ∃ file, files.find? c.path = some file ∧ Names b d file id := by
  obtain ⟨file, hfile, hnames, hrecorded⟩ := h
  refine ⟨file, hfile, ?_⟩
  unfold candidateId at hid
  cases hsession : c.sessionId with
  | some given =>
    rw [hsession, Option.some_or] at hid
    exact hnames id (hsession.trans hid)
  | none =>
    rw [hsession, Option.none_or, hfile, Option.bind_some] at hid
    apply names_now
    unfold transcriptId
    rcases hrecorded hsession with hprovider | hprovider
    · rw [hprovider]
      exact hid
    · rw [hprovider]
      exact hid

theorem quoted_of_marked {path : FilePath}
    (h : (d.containsOwnershipMarker files path).1 = true) : Text.blank d.sessionId = true ∨
      ∃ marked, files.find? path = some marked ∧ Text.utf8 d.sessionId <:+: marked.bytes := by
  by_cases hblank : Text.blank d.sessionId = true
  · exact .inl hblank
  · right
    have hmarker : d.ownershipMarker = some d.sessionId := by
      rw [Discovery.ownershipMarker, if_neg hblank]
    unfold Discovery.containsOwnershipMarker at h
    rw [hmarker] at h
    exact infix_of_fileContainsMarker h

theorem claim_discovering (h : Discovering b l) (hd : l.discoveries.find? d.runtimeId = some d)
    {rest : List Candidate} (hpending : d.pending = c :: rest)
    (hid : candidateId b l.files d c = some id) (hclaimed : isClaimed l.daemon d.runtimeId id = false)
    {scans : List (FilePath × FileMarkerScanState)}
    (hmarked : (d.containsOwnershipMarker l.files c.markerPath).1 = true)
    (hguard : ∀ file, ¬Misled b l d c file id) : Discovering b (claim l d id rest scans) := by
  have hrow := (Table.find?_some hd).1
  have hlisted : ∀ c' ∈ c :: rest, Listed b l.files d c' := hpending ▸ h.pending d hrow
  have hrest : ∀ c' ∈ rest, Listed b l.files d c' :=
    fun c' hc' => hlisted c' (List.mem_cons_of_mem _ hc')
  have hspec := cases_of_wp (tryClaim_spec l.daemon d.runtimeId id)
  unfold claim
  cases houtcome : (tryClaimProviderThreadId d.runtimeId id false l.daemon).1 with
  | error e =>
    simp only [houtcome]
    refine h.proceed _ hd (fun c' hc' => ?_) scans fun _ hnone => by cases hnone
    by_cases hhandled : d.provider = .claude ∨ d.provider = .codex
    · rw [if_pos hhandled] at hc'
      exact hrest c' hc'
    · rw [if_neg hhandled] at hc'
      cases hc'
  | ok outcome =>
    cases outcome with
    | refused reason =>
      simp only [houtcome]
      exact h.proceed _ hd hrest scans fun _ hnone => by cases hnone
    | claimed runtime =>
      simp only [houtcome]
      refine h.proceed _ hd (fun _ hc' => by cases hc') scans fun id' hid' => ?_
      cases hid'
      obtain ⟨file, hfile, hnames⟩ := (hlisted c List.mem_cons_self).names hid
      have hunbound : ∃ r, l.daemon.runtime d.runtimeId = some r ∧
          (r.providerThreadId = none ∨ r.providerThreadId = some id) := by
        rcases hspec with ⟨a, hok, hpost⟩ | ⟨e, herror, _⟩
        · rw [houtcome] at hok
          cases hok
          exact (hpost runtime rfl).1
        · rw [houtcome] at herror
          cases herror
      have hwriter : file.writer = d.runtimeId := by
        by_contra hforeign
        exact hguard file ⟨hfile, hforeign, hid, hclaimed, quoted_of_marked hmarked, hunbound⟩
      exact ⟨file, (Table.find?_some hfile).1, hwriter, hnames⟩

theorem examine_discovering (h : Discovering b l) {runtimeId : String}
    (hguard : Unmistaken b l (.examine runtimeId)) : Discovering b (examine b l runtimeId) := by
  unfold examine
  cases hfind : l.discoveries.find? runtimeId with
  | none => exact h
  | some d =>
    have hself : d.runtimeId = runtimeId := (Table.find?_some hfind).2
    subst hself
    cases hpending : d.pending with
    | nil => simpa only [hpending] using h
    | cons c rest =>
      have hrest : ∀ c' ∈ rest, Listed b l.files d c' := fun c' hc' =>
        h.pending d (Table.find?_some hfind).1 c' (hpending ▸ List.mem_cons_of_mem _ hc')
      simp only [hpending]
      have hskip (scans : List (FilePath × FileMarkerScanState)) :
          Discovering b (l.proceed d.runtimeId rest scans none) :=
        h.proceed l.daemon hfind hrest scans fun _ hnone => by cases hnone
      cases hid : candidateId b l.files d c with
      | none => exact hskip _
      | some id =>
        simp only
        by_cases hclaimed : isClaimed l.daemon d.runtimeId id = true
        · rw [if_pos hclaimed]
          exact hskip _
        · rw [if_neg hclaimed]
          by_cases hmarked : (d.containsOwnershipMarker l.files c.markerPath).1 = true
          · rw [if_pos hmarked]
            exact claim_discovering h hfind hpending hid (by simpa using hclaimed) hmarked
              fun file => hguard d c rest file id hfind hpending
          · rw [if_neg hmarked]
            exact hskip _

theorem poll_discovering (h : Discovering b l) (runtimeId : String) :
    Discovering b (poll b l runtimeId) := by
  unfold poll
  cases hfind : l.discoveries.find? runtimeId with
  | none => exact h
  | some d =>
    have hself : d.runtimeId = runtimeId := (Table.find?_some hfind).2
    subst hself
    by_cases hready : d.found.isNone ∧ d.pending = [] ∧ keepPolling l.daemon d.runtimeId = true
    · simp only [if_pos hready]
      exact h.proceed l.daemon hfind (fun _ hc => candidates_listed hc) d.scans
        fun _ hnone => by cases hnone
    · simpa only [if_neg hready] using h

theorem launchStep_discovering (h : Discovering b l) (op : LaunchOp) (hop : Unmistaken b l op) :
    Discovering b (launchStep b l op) := by
  cases op with
  | create file => exact h.grows rfl (grows_put l.files file)
  | grow path bytes => exact h.grows rfl (grows_update l.files path bytes)
  | daemon daemon => exact h.grows rfl (.refl l.files)
  | launch request => exact h.launched request
  | poll runtimeId => exact poll_discovering h runtimeId
  | examine runtimeId => exact examine_discovering h hop

end Runs

/-- A session with a running provider process. -/
def launchedRuntime (sessionId : String) : Runtime where
  runtimeId := "runtime-" ++ sessionId
  homeAuthorityId := "ship"
  sessionId := sessionId
  generation := 1
  state := .running
  machineId := "ship"
  providerThreadId := none
  effectiveCwd := some "/ship"
  effectiveHome := none
  createdAt := ""
  updatedAt := ""
  endedAt := none
  exitReason := none

def agyLaunch (sessionId : String) : DiscoveryRequest where
  runtimeId := "runtime-" ++ sessionId
  sessionId := sessionId
  adapterKind := some "agy"
  cwd := some "/ship"
  homeDirectory := ["home"]
  launchedAfter := 0

/-- The transcript that the process of a session writes from its launch prompt. -/
def agyTranscript (sessionId conversation : String) : TranscriptFile where
  path := ["home", ".gemini", "antigravity-cli", "brain", conversation, ".system_generated", "logs",
    "transcript.jsonl"]
  device := 1
  inode := 1
  created := 1
  bytes := Text.utf8 (composeSessionLaunchPrompt sessionId "Wait." false)
  writer := "runtime-" ++ sessionId

/-- Bob and Bobby have been launched in one directory. -/
def shipyard : Launches where
  daemon := { Daemon.initial (.initial .empty (fun _ => "") fun _ => "") with
    runtimes := .ofRows [launchedRuntime "bob", launchedRuntime "bobby"] }
  files := .empty
  discoveries := .empty

def plainBuiltins : Builtins := ⟨fun _ => none, id, id⟩

/-- In a run in which no discovery looks at a transcript that misleads it, every discovery finds a
conversation of its own provider process. -/
theorem discovery_binds_own {b : Builtins} {l : Launches} (hstart : l.discoveries = .empty)
    (ops : List LaunchOp) (hmeets : Trace.Meets (launchStep b) (Unmistaken b) l ops) :
    ∀ d ∈ (Trace.run (launchStep b) l ops).discoveries.rows, ∀ id, d.found = some id →
      OwnConversation b (Trace.run (launchStep b) l ops) d id := by
  have hbegin : Discovering b l := by
    constructor <;> rw [hstart] <;> exact fun _ hd => (nomatch hd)
  exact (Trace.invariant_run (G := Unmistaken b)
    (fun _ op h hop => launchStep_discovering h op hop) hbegin hmeets).found

/-- Bob is the first to write a transcript. -/
def orderly : List LaunchOp :=
  [.launch (agyLaunch "bob"), .launch (agyLaunch "bobby"),
    .create (agyTranscript "bob" "conversation"), .poll "runtime-bob", .examine "runtime-bob"]

theorem discovery_binds_own_orderly :
    (Trace.run (launchStep plainBuiltins) shipyard orderly).discoveries.rows ≠ [] ∧
      ∀ d ∈ (Trace.run (launchStep plainBuiltins) shipyard orderly).discoveries.rows, ∀ id,
        d.found = some id → OwnConversation plainBuiltins
          (Trace.run (launchStep plainBuiltins) shipyard orderly) d id := by
  refine ⟨by decide +kernel, discovery_binds_own (b := plainBuiltins) (l := shipyard) rfl orderly
    ⟨trivial, trivial, trivial, trivial, ?_, trivial⟩⟩
  intro d c rest file id hd _ hmisled
  have hself : d.runtimeId = "runtime-bob" := (Table.find?_some hd).2
  have hwriters : ∀ f ∈ (Trace.run (launchStep plainBuiltins) shipyard
      (orderly.take 4)).files.rows, f.writer = "runtime-bob" := by decide +kernel
  exact hmisled.foreign ((hwriters file (Table.find?_some hmisled.listed).1).trans hself.symm)

/-- Bobby is. -/
def mixUp : List LaunchOp :=
  [.launch (agyLaunch "bob"), .launch (agyLaunch "bobby"),
    .create (agyTranscript "bobby" "conversation"), .poll "runtime-bob", .examine "runtime-bob"]

/-- The prompt of Bobby quotes the id of Bob, who claims the conversation of Bobby. -/
theorem discovery_binds_foreign :
    ∃ d ∈ (Trace.run (launchStep plainBuiltins) shipyard mixUp).discoveries.rows,
      d.found = some "conversation" ∧
        ((Trace.run (launchStep plainBuiltins) shipyard mixUp).daemon.runtime d.runtimeId).bind
          Runtime.providerThreadId = some "conversation" ∧
        ¬OwnConversation plainBuiltins (Trace.run (launchStep plainBuiltins) shipyard mixUp) d
          "conversation" := by
  have hstored : ((Trace.run (launchStep plainBuiltins) shipyard mixUp).discoveries.find?
      "runtime-bob").isSome = true := by decide +kernel
  obtain ⟨d, hd⟩ := Option.isSome_iff_exists.mp hstored
  obtain ⟨hrow, hself⟩ := Table.find?_some hd
  have hfound : ((Trace.run (launchStep plainBuiltins) shipyard mixUp).discoveries.find?
      "runtime-bob").bind Discovery.found = some "conversation" := by decide +kernel
  have hwriters : ∀ f ∈ (Trace.run (launchStep plainBuiltins) shipyard mixUp).files.rows,
      f.writer = "runtime-bobby" := by decide +kernel
  refine ⟨d, hrow, ?_, ?_, ?_⟩
  · rwa [hd, Option.bind_some] at hfound
  · rw [hself]
    decide +kernel
  · rintro ⟨file, hfile, hwriter, _⟩
    rw [hself, hwriters file hfile] at hwriter
    exact absurd hwriter (by decide)

end Wardroom.Runtime
