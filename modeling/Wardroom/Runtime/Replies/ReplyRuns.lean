import Wardroom.Library.Trace
import Wardroom.Runtime.Replies.ReplyTurns

/-! # The schedule of the scans

The transcripts of a provider grow while they are scanned, at any byte and at
any time. Where no scan comes too late for the end of the turn, and none takes
an earlier end for it, every schedule gives the reply of the turn.
-/

namespace Wardroom.Runtime
open Wardroom.Library Wardroom.Library.WholeLines ProviderRecord Conversation

inductive ReplyEvent where
  | append (path : String) (bytes : List UInt8)
  | scan

structure ReplyScans where
  files : String → Option (List UInt8)
  state : ProviderReplyScanState
  reply : Option ProviderFinalReply

namespace ReplyScans

/-- The transcripts are scanned until a reply is not pending. -/
def step (c : Conversation) (s : ReplyScans) : ReplyEvent → ReplyScans
  | .append path bytes => { s with files := Function.update s.files path (some ((s.files path).getD [] ++ bytes)) }
  | .scan =>
    if s.reply.isSome then s
    else
      let reply := scanProviderFinalReply c.parse (c.transcripts s.files) c.adapterKind (some c.providerThreadId) s.state
        (some c.expectedInput) none
      { s with state := reply.state, reply := if reply.status = .pending then none else some reply }

/-- The offsets are taken before the message is typed. -/
def initial (c : Conversation) (files : String → Option (List UInt8)) : ReplyScans :=
  ⟨files, captureProviderReplyScanState (c.transcripts files) c.adapterKind (some c.providerThreadId) none, none⟩

/-- The files grow towards the transcripts. -/
def Grows (c : Conversation) (files : String → Option (List UInt8)) (appended : String → List UInt8)
    (s : ReplyScans) : ReplyEvent → Prop
  | .append path bytes => ∀ artifact ∈ c.artifacts, artifact.path = path →
    (s.files path).getD [] ++ bytes <+: (files path).getD [] ++ appended path
  | .scan => True

/-- What a scan reads of an artifact. -/
def batch (c : Conversation) (s : ReplyScans) (artifact : TranscriptArtifact) : List Json :=
  let offset := ((s.state.offsets.find? fun o => o.1 = artifact.key.name).map Prod.snd).getD 0
  let read := readJsonlAppend c.parse (s.files artifact.path) offset
  if c.provider = .gemini then read.1.flatMap expandGeminiRecord else read.1

/-- What it has read of an artifact when it is done. -/
def consumed (c : Conversation) (files : String → Option (List UInt8)) (s : ReplyScans)
    (artifact : TranscriptArtifact) : List UInt8 :=
  let offset := ((s.state.offsets.find? fun o => o.1 = artifact.key.name).map Prod.snd).getD 0
  let read := readJsonlAppend c.parse (s.files artifact.path) offset
  (((s.files artifact.path).getD []).take read.2).drop ((files artifact.path).getD []).length

/-- A scan that reads the end of a turn reads that of the turn of the input, and nothing that is said behind it. One
that reads it in the lifecycle of grok has read all that the history says in the turn, and nothing that it says in the
next one; the ends of earlier turns that it reads are silent. -/
def Timely (c : Conversation) (files : String → Option (List UInt8)) (earlier : Nat) (appended : String → List UInt8)
    (s : ReplyScans) : ReplyEvent → Prop
  | .append _ _ => True
  | .scan => s.reply = none →
    if c.provider = .grok then
      let history := c.recordsOf (s.consumed c files ⟨.history, c.paths .history⟩)
      let turn := c.firstTurn .history (c.recordsOf (appended (c.paths .history)))
      let ending := s.batch c ⟨.lifecycle, c.paths .lifecycle⟩
      let cut := c.cutTurns .lifecycle earlier ending
      (∃ r ∈ history, c.contains .history r = true) → c.Ending .lifecycle ending →
        c.Ending .lifecycle cut.2 ∧ c.EndsQuietly .lifecycle cut.2 ∧
          (∀ r ∈ cut.1, (c.observe .lifecycle r).silent = true) ∧
          (∀ r ∈ turn.drop history.length, (c.observe .history r).silent = true) ∧
          ∀ r ∈ history.drop turn.length, (c.observe .history r).silent = true
    else
      let read := c.afterInput .transcript s.state.inputSeen (s.batch c ⟨.transcript, c.paths .transcript⟩)
      let turn := read.filter fun record => !c.blank record
      c.Ending .transcript read → c.Ending .transcript turn ∧ c.EndsQuietly .transcript turn

variable {c : Conversation} {s : ReplyScans} {files : String → Option (List UInt8)} {earlier : Nat}
  {appended : String → List UInt8}

theorem readJsonlAppend_at (parse : List UInt8 → Option Json) (start rest : List UInt8)
    (hlines : LinesWithin READ_CHUNK_BYTES rest) :
    ∃ w v, rest = w ++ v ∧ AtLineEnd w ∧
      readJsonlAppend parse (some (start ++ rest)) start.length =
        ((wholeLines w).filterMap fun line => (parse line).filter fun record => !(record matches .null),
          start.length + w.length) := by
  have hprefix : whole (rest.take READ_CHUNK_BYTES) <+: rest := (whole_isPrefix _).trans (List.take_prefix _ _)
  obtain ⟨v, hv⟩ := hprefix
  refine ⟨_, v, hv.symm, atLineEnd_whole _, ?_⟩
  have hbytes : ((start ++ rest).drop start.length).take READ_CHUNK_BYTES = rest.take READ_CHUNK_BYTES := by
    rw [List.drop_left]
  have hstart : (if (start ++ rest).length < start.length then 0 else start.length) = start.length :=
    if_neg (by simp)
  unfold readJsonlAppend
  dsimp only
  rw [hstart, hbytes, wholeLines, whole_of_atLineEnd (atLineEnd_whole _), ← whole]
  split_ifs with hempty hfull
  · exfalso
    have hmem : (0x0a : UInt8) ∈ rest.take READ_CHUNK_BYTES := by
      apply hlines [] _ (rest.drop READ_CHUNK_BYTES) _ hfull
      rw [List.nil_append, List.take_append_drop]
    exact whole_ne_nil hmem hempty
  · simp [hempty]
  · rfl

/-- An artifact is read so far behind what it held at first. -/
structure ReadTo (files : String → Option (List UInt8)) (appended : String → List UInt8)
    (visible : String → Option (List UInt8)) (offsets : List (String × Nat)) (artifact : TranscriptArtifact)
    (u : List UInt8) : Prop where
  offset : ((offsets.find? fun o => o.1 = artifact.key.name).map Prod.snd).getD 0 =
    ((files artifact.path).getD []).length + u.length
  lineEnd : AtLineEnd u
  growing : ∃ rest, (visible artifact.path).getD [] = (files artifact.path).getD [] ++ (u ++ rest) ∧
    u ++ rest <+: appended artifact.path

section
variable {visible : String → Option (List UInt8)} {offsets : List (String × Nat)} {artifact : TranscriptArtifact}
  {u : List UInt8}

theorem find_setOffset_other {key key' : ArtifactKey} (h : key' ≠ key) (n : Nat) :
    ((setOffset offsets key.name n).find? fun o => o.1 = key'.name) = offsets.find? fun o => o.1 = key'.name := by
  have hname : key.name ≠ key'.name := by
    cases key <;> cases key' <;> simp [ArtifactKey.name] at h ⊢
  rw [setOffset, List.find?_cons_of_neg (by simpa using hname), List.find?_filter]
  congr 1
  ext o
  by_cases ho : o.1 = key'.name
  · simp [ho, hname.symm]
  · simp [ho]

theorem ReadTo.other (h : ReadTo files appended visible offsets artifact u) {key : ArtifactKey}
    (hkey : artifact.key ≠ key) (n : Nat) :
    ReadTo files appended visible (setOffset offsets key.name n) artifact u := by
  refine ⟨?_, h.lineEnd, h.growing⟩
  rw [find_setOffset_other hkey]
  exact h.offset

theorem ReadTo.append (h : ReadTo files appended visible offsets artifact u) {path : String} {bytes : List UInt8}
    (hgrows : artifact.path = path →
      (visible path).getD [] ++ bytes <+: (files path).getD [] ++ appended path) :
    ReadTo files appended (Function.update visible path (some ((visible path).getD [] ++ bytes))) offsets artifact u := by
  refine ⟨h.offset, h.lineEnd, ?_⟩
  obtain ⟨rest, hvisible, hrest⟩ := h.growing
  by_cases hpath : artifact.path = path
  · subst hpath
    have hnext := hgrows rfl
    rw [Function.update_self, Option.getD_some, hvisible]
    rw [hvisible, List.append_assoc, List.prefix_append_right_inj, List.append_assoc] at hnext
    exact ⟨rest ++ bytes, by simp, hnext⟩
  · rw [Function.update_of_ne hpath]
    exact ⟨rest, hvisible, hrest⟩

/-- A read goes on to a line end. -/
theorem ReadTo.next (h : ReadTo files appended visible offsets artifact u)
    (hlines : LinesWithin READ_CHUNK_BYTES (appended artifact.path)) (c : Conversation) :
    ∃ w, let offset := ((offsets.find? fun o => o.1 = artifact.key.name).map Prod.snd).getD 0
      let read := readJsonlAppend c.parse (visible artifact.path) offset
      ReadTo files appended visible (setOffset offsets artifact.key.name read.2) artifact (u ++ w) ∧
        (if c.provider = .gemini then read.1.flatMap expandGeminiRecord else read.1) = c.recordsOf w ∧
        (((visible artifact.path).getD []).take read.2).drop ((files artifact.path).getD []).length = u ++ w := by
  obtain ⟨rest, hvisible, hrest⟩ := h.growing
  cases hfile : visible artifact.path with
  | none =>
    rw [hfile, Option.getD_none, eq_comm, List.append_eq_nil_iff, List.append_eq_nil_iff] at hvisible
    obtain ⟨hbase, rfl, rfl⟩ := hvisible
    refine ⟨[], ⟨?_, .inl rfl, [], by simp [hfile, hbase], by simp⟩, ?_, by simp⟩
    · rw [h.offset, hbase]
      simp [setOffset, readJsonlAppend]
    · rw [recordsOf_nil]
      simp [readJsonlAppend]
  | some file =>
    rw [hfile, Option.getD_some] at hvisible
    have hrestLines : LinesWithin READ_CHUNK_BYTES rest := by
      obtain ⟨after, hafter⟩ := hrest
      rw [← hafter] at hlines
      intro before within later hwithin
      exact hlines (u ++ before) within (later ++ after) (by rw [hwithin]; simp)
    obtain ⟨w, v, rfl, hw, hread⟩ := readJsonlAppend_at c.parse ((files artifact.path).getD [] ++ u) rest hrestLines
    rw [List.append_assoc, List.length_append, ← hvisible] at hread
    refine ⟨w, ⟨?_, h.lineEnd.append hw, v, ?_, ?_⟩, ?_, ?_⟩
    · rw [h.offset, hread]
      simp [setOffset, Nat.add_assoc]
    · rw [hfile, Option.getD_some, hvisible]
      simp
    · simpa using hrest
    · rw [h.offset, hread]
      rfl
    · rw [h.offset, hread, Option.getD_some, hvisible]
      simp [List.take_append, Nat.add_assoc]

theorem scanArtifact_eq (c : Conversation) (visible : String → Option (List UInt8)) (state : ProviderReplyScanState)
    (artifact : TranscriptArtifact)
    (h : ¬(c.provider = .grok ∧ artifact.key = .lifecycle ∧ state.inputSeen = false)) :
    scanArtifact c.parse (c.transcripts visible) c.adapterKind (some c.expectedInput) state artifact =
      let offset := ((state.offsets.find? fun o => o.1 = artifact.key.name).map Prod.snd).getD 0
      let read := readJsonlAppend c.parse (visible artifact.path) offset
      { (if c.provider = .gemini then read.1.flatMap expandGeminiRecord else read.1).foldl (c.record artifact.key) state with
        offsets := setOffset state.offsets artifact.key.name read.2 } := by
  dsimp only
  rw [← foldl_offsets]
  unfold scanArtifact
  rw [c.known, if_neg (by simpa using h)]
  simp only [Option.some.injEq]
  rfl

end

/-- Before a reply the scans have read whole lines that settle nothing. Then the reply is the one of the turn. -/
def Reported (c : Conversation) (files : String → Option (List UInt8)) (earlier : Nat)
    (appended : String → List UInt8) (s : ReplyScans) : Prop :=
  match s.reply with
  | some reply => ∃ state, reply = state.reply ∧ finding state = ((c.finalReply earlier appended).status,
      (c.finalReply earlier appended).text, (c.finalReply earlier appended).reason)
  | none =>
    if c.provider = .grok then
      ∃ u v, ReadTo files appended s.files s.state.offsets ⟨.history, c.paths .history⟩ u ∧
        ReadTo files appended s.files s.state.offsets ⟨.lifecycle, c.paths .lifecycle⟩ v ∧
        s.state = { (c.recordsOf u).foldl (c.record .history) unread with offsets := s.state.offsets } ∧
        ¬c.Ending .lifecycle (c.recordsOf v)
    else
      ∃ u, ReadTo files appended s.files s.state.offsets ⟨.transcript, c.paths .transcript⟩ u ∧
        (c.settle .transcript unread (c.recordsOf u)).reply.status = .pending ∧
        s.state = { c.settle .transcript unread (c.recordsOf u) with offsets := s.state.offsets }

theorem recordsOf_of_prefix {u : List UInt8} (hu : AtLineEnd u) {path : String} (h : u <+: appended path) :
    ∃ rest, c.recordsOf (appended path) = c.recordsOf u ++ rest := by
  obtain ⟨v, hv⟩ := h
  exact ⟨c.recordsOf v, by rw [← hv, recordsOf_append hu]⟩

theorem step_scan (hnone : s.reply = none) {next : ProviderReplyScanState}
    (hnext : c.artifacts.foldl (scanArtifact c.parse (c.transcripts s.files) c.adapterKind (some c.expectedInput))
      s.state = next) :
    step c s .scan = ⟨s.files, next, if next.reply.status = .pending then none else some next.reply⟩ := by
  have hartifacts : providerTranscriptArtifacts (c.transcripts s.files) c.adapterKind (some c.providerThreadId) none =
      c.artifacts := by
    unfold providerTranscriptArtifacts
    rw [Option.filter_some, if_pos (by simpa using c.named)]
    rfl
  rw [step, if_neg (by simp [hnone]), ← hnext]
  unfold scanProviderFinalReply
  rw [hartifacts]
  rfl

theorem ReadTo.prefix_appended {visible : String → Option (List UInt8)} {offsets : List (String × Nat)}
    {artifact : TranscriptArtifact} {u : List UInt8} (h : ReadTo files appended visible offsets artifact u) :
    u <+: appended artifact.path := by
  obtain ⟨rest, -, hrest⟩ := h.growing
  exact (List.prefix_append u rest).trans hrest

theorem scan_transcript (hkind : c.provider ≠ .grok)
    (hlines : LinesWithin READ_CHUNK_BYTES (appended (c.paths .transcript))) (hnone : s.reply = none)
    (h : Reported c files earlier appended s) (htimely : Timely c files earlier appended s .scan) :
    Reported c files earlier appended (step c s .scan) := by
  rw [Reported, hnone] at h
  dsimp only at h
  rw [if_neg hkind] at h
  obtain ⟨u, hread, hpending, hstate⟩ := h
  obtain ⟨w, hnext, hbatch, -⟩ := hread.next hlines c
  replace htimely := htimely hnone
  rw [if_neg hkind, batch] at htimely
  dsimp only at hbatch hnext htimely
  have hartifact := scanArtifact_eq c s.files s.state ⟨.transcript, c.paths .transcript⟩ (by simp [hkind])
  dsimp only at hartifact
  rw [hbatch] at hartifact htimely
  have hfold : c.artifacts.foldl (scanArtifact c.parse (c.transcripts s.files) c.adapterKind (some c.expectedInput))
      s.state =
      scanArtifact c.parse (c.transcripts s.files) c.adapterKind (some c.expectedInput) s.state
        ⟨.transcript, c.paths .transcript⟩ := by
    rw [artifacts, if_neg hkind]
    rfl
  rw [step_scan hnone (hfold.trans hartifact)]
  have hpendingState : s.state.reply.status = .pending := by rw [hstate]; exact hpending
  have hsettle (rs : List Json) : c.settle .transcript s.state rs =
      { c.settle .transcript (c.settle .transcript unread (c.recordsOf u)) rs with offsets := s.state.offsets } := by
    rw [hstate, settle_offsets]
  by_cases hend : c.Ending .transcript (c.afterInput .transcript s.state.inputSeen (c.recordsOf w))
  · -- the end of the turn is among the records that the scan has read
    obtain ⟨hending, hquiet⟩ := htimely hend
    rw [← afterInput_filter] at hending hquiet
    obtain ⟨hsettled, hanswer⟩ := answer_foldl hpendingState hquiet hending
    have hfound := ((Masks.refl s.state).foldl_filter (c.recordsOf w)).finding hsettled
    have hdone := done_of_finding hfound hsettled.done
    have hlast : (c.settle .transcript (c.settle .transcript unread (c.recordsOf u))
        ((c.recordsOf w).filter fun r => !c.blank r)).reply.status ≠ .pending := by
      rw [hsettle] at hanswer
      exact done_of_finding hanswer.symm hsettled.done
    unfold Reported
    dsimp only
    rw [reply_offsets, if_neg hdone]
    refine ⟨_, rfl, ?_⟩
    rw [finalReply, if_neg hkind]
    obtain ⟨rest, hrest⟩ := recordsOf_of_prefix hnext.lineEnd hnext.prefix_appended
    dsimp only at hrest
    rw [hrest, recordsOf_append hread.lineEnd, List.filter_append, List.filter_append, List.append_assoc,
      settle_append_of_pending (by rw [settle_filter rfl hpending]; exact hpending), settle_filter rfl hpending,
      settle_append_of_settled hpending hlast]
    have hsame := hfound.trans hanswer
    rw [hsettle] at hsame
    exact hsame
  · obtain ⟨hstill, hall⟩ := pending_foldl hpendingState hend
    unfold Reported
    dsimp only
    rw [reply_offsets, if_pos hstill, if_neg hkind]
    have hread' : c.settle .transcript unread (c.recordsOf (u ++ w)) =
        c.settle .transcript (c.settle .transcript unread (c.recordsOf u)) (c.recordsOf w) := by
      rw [recordsOf_append hread.lineEnd, settle_append_of_pending hpending]
    rw [← hall, hsettle] at hstill ⊢
    rw [← hread'] at hstill ⊢
    exact ⟨u ++ w, hnext, hstill, rfl⟩

theorem scan_grok (hkind : c.provider = .grok)
    (hhistory : LinesWithin READ_CHUNK_BYTES (appended (c.paths .history)))
    (hlifecycle : LinesWithin READ_CHUNK_BYTES (appended (c.paths .lifecycle))) (hnone : s.reply = none)
    (h : Reported c files earlier appended s) (htimely : Timely c files earlier appended s .scan) :
    Reported c files earlier appended (step c s .scan) := by
  rw [Reported, hnone] at h
  dsimp only at h
  rw [if_pos hkind] at h
  obtain ⟨u, v, hread, hreadLifecycle, hstate, hends⟩ := h
  obtain ⟨w, hnext, hbatch, hconsumed⟩ := hread.next hhistory c
  dsimp only at hbatch hnext hconsumed
  set offsets := setOffset s.state.offsets ArtifactKey.history.name (readJsonlAppend c.parse
    (s.files (c.paths .history))
    (((s.state.offsets.find? fun o => o.1 = ArtifactKey.history.name).map Prod.snd).getD 0)).2 with hoffsets
  set history := (c.recordsOf (u ++ w)).foldl (c.record .history) unread with hfolded
  have hpending : history.reply.status = .pending :=
    (pending_foldl rfl fun ⟨r, _, hr⟩ => by rw [history_ends hkind r] at hr; cases hr).1
  have hfirst : scanArtifact c.parse (c.transcripts s.files) c.adapterKind (some c.expectedInput) s.state
      ⟨.history, c.paths .history⟩ = { history with offsets := offsets } := by
    have hartifact := scanArtifact_eq c s.files s.state ⟨.history, c.paths .history⟩ (by simp)
    dsimp only at hartifact
    rw [hartifact, hbatch, foldl_of_offsets hstate, hfolded, recordsOf_append hread.lineEnd, List.foldl_append]
  have hfold : c.artifacts.foldl (scanArtifact c.parse (c.transcripts s.files) c.adapterKind (some c.expectedInput))
      s.state =
      scanArtifact c.parse (c.transcripts s.files) c.adapterKind (some c.expectedInput)
        { history with offsets := offsets } ⟨.lifecycle, c.paths .lifecycle⟩ := by
    rw [artifacts, if_pos hkind, ← hfirst]
    rfl
  have hother := hreadLifecycle.other (show ArtifactKey.lifecycle ≠ ArtifactKey.history by simp)
    (readJsonlAppend c.parse (s.files (c.paths .history))
      (((s.state.offsets.find? fun o => o.1 = ArtifactKey.history.name).map Prod.snd).getD 0)).2
  rw [← hoffsets] at hother
  cases hseen : history.inputSeen with
  | false =>
    have hskip : scanArtifact c.parse (c.transcripts s.files) c.adapterKind (some c.expectedInput)
        { history with offsets := offsets } ⟨.lifecycle, c.paths .lifecycle⟩ = { history with offsets := offsets } := by
      unfold scanArtifact
      rw [c.known, hkind, if_pos ⟨rfl, rfl, hseen⟩]
    rw [step_scan hnone (hfold.trans hskip), reply_offsets, if_pos hpending]
    unfold Reported
    dsimp only
    rw [if_pos hkind]
    exact ⟨u ++ w, v, hnext, hother, rfl, hends⟩
  | true =>
    obtain ⟨x, hnextLifecycle, hbatchLifecycle, -⟩ := hother.next hlifecycle c
    dsimp only at hbatchLifecycle hnextLifecycle
    have hsameOffset : (offsets.find? fun o => o.1 = ArtifactKey.lifecycle.name) =
        s.state.offsets.find? fun o => o.1 = ArtifactKey.lifecycle.name := find_setOffset_other (by simp) _
    have hlast := scanArtifact_eq c s.files { history with offsets := offsets } ⟨.lifecycle, c.paths .lifecycle⟩
      (by simp [hseen])
    dsimp only at hlast
    rw [hbatchLifecycle, foldl_offsets] at hlast
    dsimp only at hlast
    rw [step_scan hnone (hfold.trans hlast)]
    have hgrows : ¬c.Ending .lifecycle (c.recordsOf x) → ¬c.Ending .lifecycle (c.recordsOf (v ++ x)) := by
      rintro hend ⟨r, hr, hrends⟩
      rw [recordsOf_append hreadLifecycle.lineEnd, List.mem_append] at hr
      exact hr.elim (fun hr => hends ⟨r, hr, hrends⟩) fun hr => hend ⟨r, hr, hrends⟩
    by_cases hend : c.Ending .lifecycle (c.recordsOf x)
    · rw [hsameOffset] at hbatchLifecycle
      have hhistoryRead : s.consumed c files ⟨.history, c.paths .history⟩ = u ++ w := hconsumed
      have hlifecycleRead : s.batch c ⟨.lifecycle, c.paths .lifecycle⟩ = c.recordsOf x := hbatchLifecycle
      replace htimely := htimely hnone
      rw [if_pos hkind, hhistoryRead, hlifecycleRead] at htimely
      have hcontains := (inputSeen_foldl unread (c.recordsOf (u ++ w))).mp hseen
      replace hcontains := hcontains.resolve_left (by simp [unread])
      obtain ⟨hending, hquiet, hfalse, hunsaid, hbehind⟩ := htimely hcontains hend
      -- the ends of the earlier turns are silent, so the own end settles the reply
      have hskips : ∀ r ∈ (c.cutTurns .lifecycle earlier (c.recordsOf x)).1,
          (c.observe .lifecycle r).silent = true ∧ c.contains .lifecycle r = false :=
        fun r hr => ⟨hfalse r hr, lifecycle_contains hkind r⟩
      have hmasks := ((Masks.refl history).foldl_skip hskips).foldl c .lifecycle
        (c.cutTurns .lifecycle earlier (c.recordsOf x)).2
      rw [← List.foldl_append, cutTurns_append] at hmasks
      have hread : c.afterInput .lifecycle history.inputSeen (c.cutTurns .lifecycle earlier (c.recordsOf x)).2 =
          (c.cutTurns .lifecycle earlier (c.recordsOf x)).2 := by rw [hseen, afterInput_true]
      obtain ⟨hsettled, hanswer⟩ := answer_foldl hpending (hread.symm ▸ hquiet) (hread.symm ▸ hending)
      have hfound := (hmasks.finding hsettled).trans hanswer
      have hdone := done_of_finding hanswer.symm hsettled.done
      have hreported := done_of_finding hfound hdone
      rw [reply_offsets, if_neg hreported]
      refine ⟨_, rfl, ?_⟩
      have hhistoryTurn : (c.firstTurn .history (c.recordsOf (appended (c.paths .history)))).foldl (c.record .history)
          unread = history := by
        obtain ⟨rest, hrest⟩ := recordsOf_of_prefix (c := c) hnext.lineEnd hnext.prefix_appended
        have hall : c.recordsOf (u ++ w) <+: c.recordsOf (appended (c.paths .history)) := ⟨rest, hrest.symm⟩
        apply foldl_history hkind (firstTurn_isPrefix c .history _) hall _ hcontains hunsaid hbehind
        obtain ⟨r, hr, hinput⟩ := hcontains
        exact firstTurn_contains ⟨r, hall.subset hr, hinput⟩
      obtain ⟨rest, hrest⟩ := recordsOf_of_prefix hnextLifecycle.lineEnd hnextLifecycle.prefix_appended
      obtain ⟨before, hcut, hbefore⟩ := cutTurns_endless earlier hends (c.recordsOf x ++ rest)
      have hnonempty : (c.cutTurns .lifecycle earlier (c.recordsOf x)).2 ≠ [] := by
        obtain ⟨r, hr, -⟩ := hending
        exact List.ne_nil_of_mem hr
      have hquietBefore : c.settle .lifecycle history before = history := by
        have hends (r : Json) (hr : r ∈ before) : (c.observe .lifecycle r).ends = false :=
          Bool.eq_false_iff.mpr fun he => hbefore ⟨r, hr, he⟩
        rw [(pending_foldl hpending (by rwa [hseen, afterInput_true])).2]
        exact foldl_silent hseen (fun r hr => lifecycle_silent hkind (hends r hr)) hends
      dsimp only at hrest
      rw [finalReply, if_pos hkind, hhistoryTurn, hrest, recordsOf_append hreadLifecycle.lineEnd, List.append_assoc,
        hcut, cutTurns_more hnonempty, settle_append_of_pending (by rw [hquietBefore]; exact hpending), hquietBefore,
        settle_append_of_settled hpending hdone]
      exact hfound
    · have hsame : (c.recordsOf x).foldl (c.record .lifecycle) history = history :=
        foldl_silent hseen (fun r hr => lifecycle_silent hkind (Bool.eq_false_iff.mpr fun he => hend ⟨r, hr, he⟩))
          fun r hr => Bool.eq_false_iff.mpr fun he => hend ⟨r, hr, he⟩
      rw [hsame, reply_offsets, if_pos hpending]
      unfold Reported
      dsimp only
      rw [if_pos hkind]
      exact ⟨u ++ w, v ++ x, hnext.other (by simp) _, hnextLifecycle, rfl, hgrows hend⟩

theorem Reported.step_append {path : String} {bytes : List UInt8} (h : Reported c files earlier appended s)
    (hgrows : Grows c files appended s (.append path bytes)) :
    Reported c files earlier appended (step c s (.append path bytes)) := by
  have hnext : ∀ artifact ∈ c.artifacts, artifact.path = path →
      (s.files path).getD [] ++ bytes <+: (files path).getD [] ++ appended path := hgrows
  unfold Reported at h ⊢
  rw [step]
  dsimp only
  cases hreply : s.reply with
  | some reply =>
    rw [hreply] at h
    exact h
  | none =>
    rw [hreply] at h
    dsimp only at h ⊢
    split_ifs at h ⊢ with hkind
    · rw [artifacts, if_pos hkind] at hnext
      obtain ⟨u, v, hread, hreadLifecycle, hstate, hends⟩ := h
      exact ⟨u, v, hread.append (hnext _ (by simp)), hreadLifecycle.append (hnext _ (by simp)), hstate, hends⟩
    · rw [artifacts, if_neg hkind] at hnext
      obtain ⟨u, hread, hpending, hstate⟩ := h
      exact ⟨u, hread.append (hnext _ (by simp)), hpending, hstate⟩

theorem reported_initial (c : Conversation) (files : String → Option (List UInt8))
    (earlier : Nat) (appended : String → List UInt8) : Reported c files earlier appended (initial c files) := by
  have hartifacts : (initial c files).state.offsets = c.artifacts.map fun artifact =>
      (artifact.key.name, ((files artifact.path).map List.length).getD 0) := by
    unfold initial captureProviderReplyScanState providerTranscriptArtifacts
    rw [Option.filter_some, if_pos (by simpa using c.named)]
    rfl
  have hlength : ∀ path, ((files path).map List.length).getD 0 = ((files path).getD []).length := by
    intro path
    cases files path <;> rfl
  have hread : ∀ artifact ∈ c.artifacts,
      ReadTo files appended files (initial c files).state.offsets artifact [] := by
    intro artifact hartifact
    refine ⟨?_, .inl rfl, [], by simp, by simp⟩
    rw [hartifacts, artifacts] at *
    split_ifs at hartifact ⊢ with hkind
    · rw [List.mem_pair] at hartifact
      rcases hartifact with rfl | rfl <;> simp [ArtifactKey.name, hlength]
    · rw [List.mem_singleton] at hartifact
      subst hartifact
      simp [hlength]
  unfold Reported
  rw [initial]
  dsimp only
  split_ifs with hkind
  · refine ⟨[], [], hread _ (by simp [artifacts, hkind]), hread _ (by simp [artifacts, hkind]), ?_, ?_⟩
    · rw [recordsOf_nil]
      rfl
    · rw [recordsOf_nil]
      rintro ⟨r, hr, -⟩
      cases hr
  · refine ⟨[], hread _ (by simp [artifacts, hkind]), ?_, ?_⟩
    · rw [recordsOf_nil]
      rfl
    · rw [recordsOf_nil]
      rfl

/-- However the transcripts grow and whenever they are scanned, the reply is the one of the turn. -/
theorem reply_of_turn (c : Conversation) (files : String → Option (List UInt8)) (earlier : Nat)
    (appended : String → List UInt8) (events : List ReplyEvent) (reply : ProviderFinalReply)
    (hlines : ∀ artifact ∈ c.artifacts, LinesWithin READ_CHUNK_BYTES (appended artifact.path))
    (hevents : Trace.Meets (step c)
      (fun s event => Grows c files appended s event ∧ Timely c files earlier appended s event) (initial c files) events)
    (hreply : (Trace.run (step c) (initial c files) events).reply = some reply) :
    reply.status = (c.finalReply earlier appended).status ∧ reply.text = (c.finalReply earlier appended).text ∧
      reply.reason = (c.finalReply earlier appended).reason := by
  have hreported : Reported c files earlier appended (Trace.run (step c) (initial c files) events) := by
    apply Trace.invariant_run (I := Reported c files earlier appended) _ (reported_initial c files earlier appended)
      hevents
    intro s event h hguard
    cases event with
    | append path bytes => exact h.step_append hguard.1
    | scan =>
      cases hnone : s.reply with
      | some earlier =>
        rw [step, if_pos (by simp [hnone])]
        exact h
      | none =>
        by_cases hkind : c.provider = .grok
        · rw [artifacts, if_pos hkind] at hlines
          exact scan_grok hkind (hlines ⟨.history, _⟩ (by simp)) (hlines ⟨.lifecycle, _⟩ (by simp)) hnone h hguard.2
        · rw [artifacts, if_neg hkind] at hlines
          exact scan_transcript hkind (hlines ⟨.transcript, _⟩ (by simp)) hnone h hguard.2
  rw [Reported, hreply] at hreported
  obtain ⟨state, rfl, hanswer⟩ := hreported
  simp only [finding, Prod.mk.injEq] at hanswer
  exact hanswer

/-- A message of a transcript, as it is written and as it is read. -/
def spoken (kind content : String) : List UInt8 × Json :=
  (("\x7b\u0022type\u0022:\u0022" ++ kind ++ "\u0022,\u0022content\u0022:\u0022" ++ content ++
    "\u0022\x7d").toList.map fun ch => UInt8.ofNat ch.toNat, .obj [("type", .str kind), ("content", .str content)])

def spokenBytes (messages : List (List UInt8 × Json)) : List UInt8 := messages.flatMap fun m => m.1 ++ [0x0a]

def conversation (adapterKind : String) (provider : Provider)
    (known : Provider.ofAdapterKind adapterKind = some provider) : Conversation where
  adapterKind := adapterKind
  provider := provider
  known := known
  providerThreadId := "/home/chat.jsonl"
  named := by decide
  paths key := "/home/" ++ key.name
  apart := by decide
  expectedInput := "hi"
  parse line := ([spoken "user" "hi", spoken "gemini" "one", spoken "gemini" "two", spoken "assistant" "three",
    spoken "turn_ended" ""].find? fun m => m.1 = line).map Prod.snd

/-- An earlier turn of grok ends beside the one of the input. -/
def answered : List ReplyEvent :=
  [.append "/home/history" (spokenBytes [spoken "user" "hi", spoken "assistant" "three"]), .scan,
    .append "/home/lifecycle" (spokenBytes [spoken "turn_ended" "", spoken "turn_ended" ""]), .scan]

/-- A scan in time takes the answer of the first turn. -/
theorem reply_of_first_turn :
    ∃ reply, (Trace.run (step (conversation "grok" .grok rfl)) (initial (conversation "grok" .grok rfl) fun _ => none)
        answered).reply = some reply ∧ reply.status = .complete ∧ reply.text = some "three" := by
  let c := conversation "grok" .grok rfl
  let appended (path : String) : List UInt8 :=
    if path = "/home/history" then spokenBytes [spoken "user" "hi", spoken "assistant" "three"]
    else spokenBytes [spoken "turn_ended" "", spoken "turn_ended" ""]
  have hrun : ((Trace.run (step c) (initial c fun _ => none) answered).reply).isSome = true := by decide +kernel
  obtain ⟨reply, hreply⟩ := Option.isSome_iff_exists.mp hrun
  have hsame := reply_of_turn c (fun _ => none) 1 appended answered reply
    (fun artifact _ => linesWithin_of_length (by
      dsimp only [appended]
      split_ifs <;> decide +kernel)) (by
      refine ⟨⟨?_, trivial⟩, ⟨trivial, fun _ => ?_⟩, ⟨?_, trivial⟩, ⟨trivial, fun _ => ?_⟩, trivial⟩
      · intro artifact _ _
        exact ⟨[], by decide +kernel⟩
      · rw [if_pos (by decide)]
        dsimp only
        intro _ hend
        refine absurd hend ?_
        unfold Ending
        decide +kernel
      · intro artifact _ _
        exact ⟨[], by decide +kernel⟩
      · rw [if_pos (by decide)]
        dsimp only
        intro _ _
        unfold Ending EndsQuietly
        decide +kernel) hreply
  have hfinal : (c.finalReply 1 appended).status = .complete ∧ (c.finalReply 1 appended).text = some "three" := by
    decide +kernel
  exact ⟨reply, hreply, hsame.1.trans hfinal.1, hsame.2.1.trans hfinal.2⟩

/-- A scan that comes late takes the answer of a later turn. -/
theorem reply_of_later_turn :
    ¬∀ (c : Conversation) (files : String → Option (List UInt8)) (earlier : Nat) (appended : String → List UInt8)
      (events : List ReplyEvent) (reply : ProviderFinalReply),
      (∀ artifact ∈ c.artifacts, LinesWithin READ_CHUNK_BYTES (appended artifact.path)) →
      Trace.Meets (step c) (Grows c files appended) (initial c files) events →
      (Trace.run (step c) (initial c files) events).reply = some reply →
      reply.status = (c.finalReply earlier appended).status ∧ reply.text = (c.finalReply earlier appended).text := by
  intro h
  let c := conversation "gemini" .gemini rfl
  let turns := spokenBytes [spoken "user" "hi", spoken "gemini" "one", spoken "gemini" "two"]
  have hrun : ((Trace.run (step c) (initial c fun _ => none)
      [.append "/home/transcript" turns, .scan]).reply).map ProviderFinalReply.text = some (some "two") := by
    decide +kernel
  obtain ⟨reply, hreply, htext⟩ := Option.map_eq_some_iff.mp hrun
  have hsame := h c (fun _ => none) 0 (fun _ => turns) _ reply
    (fun artifact _ => linesWithin_of_length (by decide +kernel)) (by
      refine ⟨?_, trivial, trivial⟩
      intro artifact _ _
      exact List.prefix_rfl) hreply
  have hfinal : (c.finalReply 0 fun _ => turns).text = some "one" := by decide +kernel
  rw [htext, hfinal] at hsame
  simp at hsame

end ReplyScans
end Wardroom.Runtime
