import Mathlib
import Wardroom.Library.WholeLines
import Wardroom.Runtime.Replies.FinalReply

/-! # The turn of a delivered input

The records that a provider appends belong to turns. The answer is that of the
first turn that ends after the expected input. A scan that reads the end of the
turn also takes what is said behind it.
-/

namespace Wardroom.Runtime
open Wardroom.Library Wardroom.Library.WholeLines ProviderRecord

/-- The record ends a turn. -/
def ProviderRecord.Observation.ends (o : Observation) : Bool := o.completed || o.failureReason.isSome

/-- The record says nothing that an answer is made of. -/
def ProviderRecord.Observation.silent (o : Observation) : Bool :=
  o.candidateText.isNone && !o.clearCandidate && o.failureReason.isNone

/-- One conversation, and what the scans of its transcripts wait for. -/
structure Conversation where
  adapterKind : String
  provider : Provider
  known : Provider.ofAdapterKind adapterKind = some provider
  providerThreadId : String
  named : providerThreadId ≠ ""
  paths : ArtifactKey → String
  apart : paths .history ≠ paths .lifecycle
  expectedInput : String
  parse : List UInt8 → Option Json

namespace Conversation
variable (c : Conversation)

def artifacts : List TranscriptArtifact :=
  if c.provider = .grok then [⟨.history, c.paths .history⟩, ⟨.lifecycle, c.paths .lifecycle⟩]
  else [⟨.transcript, c.paths .transcript⟩]

def transcripts (files : String → Option (List UInt8)) : Transcripts := ⟨fun _ _ _ => c.artifacts, files⟩

def observe (key : ArtifactKey) (record : Json) : Observation := observeProviderRecord c.adapterKind key record

def contains (key : ArtifactKey) (record : Json) : Bool :=
  providerInputContains c.adapterKind key record c.expectedInput

def record (key : ArtifactKey) (state : ProviderReplyScanState) (record : Json) : ProviderReplyScanState :=
  observeRecord c.adapterKind key (some c.expectedInput) state record

/-- The records of the whole lines. -/
def recordsOf (bytes : List UInt8) : List Json :=
  let found := (wholeLines bytes).filterMap fun line => (c.parse line).filter fun record => !(record matches .null)
  if c.provider = .gemini then found.flatMap expandGeminiRecord else found

/-- The records are taken up to the one that settles the reply. -/
def settle (key : ArtifactKey) (state : ProviderReplyScanState) : List Json → ProviderReplyScanState
  | [] => state
  | record :: records =>
    if (c.record key state record).reply.status = .pending then settle key (c.record key state record) records
    else c.record key state record

/-- The records up to the input after the expected one. -/
def firstTurn (key : ArtifactKey) (records : List Json) : List Json :=
  let before := records.takeWhile fun record => !c.contains key record
  match records.dropWhile fun record => !c.contains key record with
  | [] => records
  | input :: rest => before ++ input :: rest.takeWhile fun record => (providerInput c.adapterKind key record).isNone

def unread : ProviderReplyScanState := ⟨[], false, none, false, none, none⟩

/-- A message of gemini that has neither a text nor a call of a tool ends no turn. -/
def blank (record : Json) : Bool :=
  let observed := c.observe .transcript record
  c.provider = .gemini && observed.completed && observed.candidateText.isNone

/-- The records up to the end of so many turns, and the records behind it. -/
def cutTurns (key : ArtifactKey) : Nat → List Json → List Json × List Json
  | 0, records => ([], records)
  | _ + 1, [] => ([], [])
  | turns + 1, record :: records =>
    let cut := cutTurns key (if (c.observe key record).ends then turns else turns + 1) records
    (record :: cut.1, cut.2)

/-- The final answer of the first turn that is completed after the expected input, in transcripts to which these
bytes are appended. Grok says in one file what it completes in the other, where `earlier` turns that were begun
before the input still end. -/
def finalReply (earlier : Nat) (appended : String → List UInt8) : ProviderFinalReply :=
  if c.provider = .grok then
    (c.settle .lifecycle
      ((c.firstTurn .history (c.recordsOf (appended (c.paths .history)))).foldl (c.record .history) unread)
      (c.cutTurns .lifecycle earlier (c.recordsOf (appended (c.paths .lifecycle)))).2).reply
  else
    (c.settle .transcript unread
      ((c.recordsOf (appended (c.paths .transcript))).filter fun record => !c.blank record)).reply

def afterInput (key : ArtifactKey) (inputSeen : Bool) (records : List Json) : List Json :=
  if inputSeen then records else (records.dropWhile fun record => !c.contains key record).tail

/-- Nothing is said behind the end of a turn. -/
def EndsQuietly (key : ArtifactKey) (records : List Json) : Prop :=
  records.Pairwise fun r r' => (c.observe key r).ends = true → (c.observe key r').silent = true

def Ending (key : ArtifactKey) (records : List Json) : Prop := ∃ r ∈ records, (c.observe key r).ends = true

variable {c : Conversation} {key : ArtifactKey} {s : ProviderReplyScanState} {r : Json} {rs : List Json}

theorem pending_iff (s : ProviderReplyScanState) :
    s.reply.status = .pending ↔ s.completed = false ∧ s.failureReason = none := by
  unfold ProviderReplyScanState.reply
  dsimp only
  cases s.completed <;> cases s.failureReason <;> cases s.candidateText <;> simp

theorem observe_failure (c : Conversation) (key : ArtifactKey) (r : Json) (h : (c.observe key r).failureReason.isSome = true) :
    (c.observe key r).clearCandidate = true ∧ (c.observe key r).candidateText = none := by
  revert h
  unfold observe observeProviderRecord
  rw [c.known]
  cases c.provider with
  | codex =>
    dsimp only
    split_ifs <;> simp
  | claude =>
    dsimp only [observeClaude]
    split_ifs
    · simp
    · simp
    · simp
    · split <;> simp
  | grok =>
    dsimp only [observeGrok]
    split_ifs
    · simp
    · simp
    · split
      · simp
      · split_ifs <;> simp
    · simp
  | gemini =>
    dsimp only [observeGemini]
    split_ifs <;> simp
  | agy =>
    dsimp only [observeAgy]
    split_ifs
    · split <;> simp
    · simp
    · simp

theorem record_seen (h : s.inputSeen = true) (r : Json) :
    c.record key s r = { s with
      candidateText := (c.observe key r).candidateText.or (if (c.observe key r).clearCandidate then none else s.candidateText)
      completed := s.completed || (c.observe key r).completed
      completedAt := if (c.observe key r).completed then (c.observe key r).completedAt.or s.completedAt else s.completedAt
      failureReason := (c.observe key r).failureReason.or s.failureReason } := by
  rw [record, observeRecord, if_pos h]
  rfl

theorem record_input (h : s.inputSeen = false) (hr : c.contains key r = true) :
    c.record key s r = { s with
      inputSeen := true, candidateText := none, completed := false, completedAt := none, failureReason := none } := by
  rw [record, observeRecord, if_neg (by simp [h])]
  exact if_pos hr

theorem record_before (h : s.inputSeen = false) (hr : c.contains key r = false) : c.record key s r = s := by
  rw [record, observeRecord, if_neg (by simp [h])]
  exact if_neg (by rw [Option.any_some]; exact ne_true_of_eq_false hr)

theorem record_pending (h : s.inputSeen = true) (hs : s.reply.status = .pending) :
    (c.record key s r).reply.status = .pending ↔ (c.observe key r).ends = false := by
  obtain ⟨hcompleted, hfailure⟩ := (pending_iff s).mp hs
  rw [pending_iff, record_seen h, hcompleted, hfailure, Observation.ends]
  simp

def finding (s : ProviderReplyScanState) : ReplyStatus × Option String × Option String :=
  (s.reply.status, s.reply.text, s.reply.reason)

variable {s' : ProviderReplyScanState}

theorem done_of_finding (h : finding s' = finding s)
    (hs : s.reply.status ≠ .pending) : s'.reply.status ≠ .pending :=
  fun hpending => hs ((congrArg Prod.fst h).symm.trans hpending)

structure Settled (s : ProviderReplyScanState) : Prop where
  seen : s.inputSeen = true
  done : s.reply.status ≠ .pending
  failed : s.failureReason.isSome = true → s.candidateText = none

theorem settled_of_ends (h : s.inputSeen = true) (hs : s.reply.status = .pending) (hr : (c.observe key r).ends = true) :
    Settled (c.record key s r) := by
  refine ⟨by rw [record_seen h]; exact h, ?_, fun hfailed => ?_⟩
  · rw [ne_eq, record_pending h hs, hr]
    simp
  · rw [record_seen h, ((pending_iff s).mp hs).2, Option.or_none] at hfailed
    obtain ⟨hclear, hnone⟩ := c.observe_failure key r hfailed
    rw [record_seen h, hclear, hnone]
    rfl

/-- A silent record changes nothing of a reply that is settled. -/
theorem Settled.record (h : Settled s) (hr : (c.observe key r).silent = true) :
    Settled (c.record key s r) ∧ finding (c.record key s r) = finding s := by
  simp only [Observation.silent, Bool.and_eq_true, Option.isNone_iff_eq_none, Bool.not_eq_true'] at hr
  obtain ⟨⟨htext, hclear⟩, hfailure⟩ := hr
  have hdone := h.done
  rw [ne_eq, pending_iff] at hdone
  have hfailed := h.failed
  rw [record_seen h.seen, htext, hclear, hfailure]
  constructor
  · refine ⟨h.seen, ?_, hfailed⟩
    rw [ne_eq, pending_iff]
    simp only [Option.none_or]
    intro hpending
    rw [Bool.or_eq_false_iff] at hpending
    exact hdone ⟨hpending.1.1, hpending.2⟩
  · unfold finding ProviderReplyScanState.reply
    dsimp only
    cases hcompleted : s.completed with
    | true => simp
    | false =>
      cases hreason : s.failureReason with
      | none => exact absurd ⟨hcompleted, hreason⟩ hdone
      | some reason =>
        rw [hfailed (by rw [hreason]; rfl)]
        cases (c.observe key r).completed <;> simp

theorem Settled.foldl (h : Settled s) (hrs : ∀ r ∈ rs, (c.observe key r).silent = true) :
    Settled (rs.foldl (c.record key) s) ∧ finding (rs.foldl (c.record key) s) = finding s := by
  induction rs generalizing s with
  | nil => exact ⟨h, rfl⟩
  | cons r rs ih =>
    obtain ⟨hnext, hsame⟩ := h.record (hrs r List.mem_cons_self)
    obtain ⟨hlast, hrest⟩ := ih hnext fun x hx => hrs x (List.mem_cons_of_mem _ hx)
    exact ⟨hlast, hrest.trans hsame⟩

theorem settle_append_of_pending (h : (c.settle key s rs).reply.status = .pending) (rs' : List Json) :
    c.settle key s (rs ++ rs') = c.settle key (c.settle key s rs) rs' := by
  induction rs generalizing s with
  | nil => rfl
  | cons r rs ih =>
    rw [List.cons_append, settle, settle]
    rw [settle] at h
    split_ifs at h ⊢ with hr
    · exact ih h
    · exact absurd h hr

theorem settle_append_of_settled (hs : s.reply.status = .pending) (h : (c.settle key s rs).reply.status ≠ .pending)
    (rs' : List Json) : c.settle key s (rs ++ rs') = c.settle key s rs := by
  induction rs generalizing s with
  | nil => exact absurd hs h
  | cons r rs ih =>
    rw [List.cons_append, settle, settle]
    rw [settle] at h
    split_ifs at h ⊢ with hr
    · exact ih hr h
    · rfl

theorem afterInput_true (c : Conversation) (key : ArtifactKey) (rs : List Json) : c.afterInput key true rs = rs := rfl

theorem afterInput_input (hr : c.contains key r = true) : c.afterInput key false (r :: rs) = rs := by
  simp [afterInput, hr]

theorem afterInput_before (hr : c.contains key r = false) :
    c.afterInput key false (r :: rs) = c.afterInput key false rs := by
  simp [afterInput, hr]

/-- What is read at once says the same as what is read up to the end of the turn, when nothing is said behind it. -/
theorem answer_foldl (hs : s.reply.status = .pending) (h : c.EndsQuietly key (c.afterInput key s.inputSeen rs))
    (hending : c.Ending key (c.afterInput key s.inputSeen rs)) :
    Settled (rs.foldl (c.record key) s) ∧ finding (rs.foldl (c.record key) s) = finding (c.settle key s rs) := by
  induction rs generalizing s with
  | nil =>
    obtain ⟨r, hr, -⟩ := hending
    simp [afterInput] at hr
  | cons r rs ih =>
    rw [List.foldl_cons, settle]
    cases hseen : s.inputSeen with
    | true =>
      rw [hseen, afterInput_true] at h hending
      have htail := List.pairwise_cons.mp h
      have hnext : (c.record key s r).inputSeen = true := by
        rw [record_seen hseen]
        exact hseen
      split_ifs with hr
      · rw [record_pending hseen hs] at hr
        obtain ⟨x, hx, hends⟩ := hending
        have hlater : x ∈ rs := (List.mem_cons.mp hx).resolve_left (by rintro rfl; rw [hr] at hends; cases hends)
        apply ih ((record_pending hseen hs).mpr hr)
        · rw [hnext]
          exact htail.2
        · rw [hnext]
          exact ⟨x, hlater, hends⟩
      · have hends : (c.observe key r).ends = true := by
          rw [record_pending hseen hs] at hr
          simpa using hr
        exact (settled_of_ends hseen hs hends).foldl fun r' hr' => htail.1 r' hr' hends
    | false =>
      rw [hseen] at h hending
      cases hcontains : c.contains key r with
      | true =>
        have hpending : (c.record key s r).reply.status = .pending := by
          rw [pending_iff, record_input hseen hcontains]
          simp
        rw [if_pos hpending]
        rw [afterInput_input hcontains] at h hending
        apply ih hpending <;> rw [record_input hseen hcontains] <;> assumption
      | false =>
        rw [record_before hseen hcontains, if_pos hs]
        rw [afterInput_before hcontains, ← hseen] at h hending
        exact ih hs h hending

theorem pending_foldl (hs : s.reply.status = .pending) (h : ¬c.Ending key (c.afterInput key s.inputSeen rs)) :
    (rs.foldl (c.record key) s).reply.status = .pending ∧ c.settle key s rs = rs.foldl (c.record key) s := by
  induction rs generalizing s with
  | nil => exact ⟨hs, rfl⟩
  | cons r rs ih =>
    rw [List.foldl_cons, settle]
    have hnext : (c.record key s r).reply.status = .pending ∧
        ¬c.Ending key (c.afterInput key (c.record key s r).inputSeen rs) := by
      cases hseen : s.inputSeen with
      | true =>
        rw [hseen, afterInput_true] at h
        have hr : (c.observe key r).ends = false :=
          Bool.eq_false_iff.mpr fun hends => h ⟨r, List.mem_cons_self, hends⟩
        refine ⟨(record_pending hseen hs).mpr hr, fun ⟨x, hx, hends⟩ => h ⟨x, List.mem_cons_of_mem _ ?_, hends⟩⟩
        rw [record_seen hseen] at hx
        dsimp only at hx
        rwa [hseen] at hx
      | false =>
        rw [hseen] at h
        cases hcontains : c.contains key r with
        | true =>
          rw [afterInput_input hcontains] at h
          rw [record_input hseen hcontains]
          exact ⟨(pending_iff _).mpr ⟨rfl, rfl⟩, h⟩
        | false =>
          rw [afterInput_before hcontains] at h
          rw [record_before hseen hcontains, hseen]
          exact ⟨hs, h⟩
    rw [if_pos hnext.1]
    exact ih hnext.1 hnext.2

/-- The second state differs from the first one in the end of the turn only, which it has seen first. -/
structure Masks (s s' : ProviderReplyScanState) : Prop where
  seen : s'.inputSeen = s.inputSeen
  text : s'.candidateText = s.candidateText
  failure : s'.failureReason = s.failureReason
  completed : s.completed = true → s'.completed = true

theorem Masks.refl (s : ProviderReplyScanState) : Masks s s := ⟨rfl, rfl, rfl, id⟩

theorem Masks.record (h : Masks s s') (r : Json) :
    Masks (c.record key s r) (c.record key s' r) := by
  cases hseen : s.inputSeen with
  | true =>
    have hseen' := h.seen.trans hseen
    rw [record_seen hseen, record_seen hseen']
    refine ⟨h.seen, ?_, ?_, fun hdone => ?_⟩
    · simp only [h.text]
    · simp only [h.failure]
    · rw [Bool.or_eq_true] at hdone ⊢
      exact hdone.imp_left h.completed
  | false =>
    have hseen' := h.seen.trans hseen
    cases hcontains : c.contains key r with
    | true =>
      rw [record_input hseen hcontains, record_input hseen' hcontains]
      exact ⟨rfl, rfl, rfl, id⟩
    | false =>
      rw [record_before hseen hcontains, record_before hseen' hcontains]
      exact h

/-- A silent record is not missed. -/
theorem Masks.skip (h : Masks s s') (hr : (c.observe key r).silent = true)
    (hcontains : c.contains key r = false) : Masks s (c.record key s' r) := by
  simp only [Observation.silent, Bool.and_eq_true, Option.isNone_iff_eq_none, Bool.not_eq_true'] at hr
  cases hseen : s'.inputSeen with
  | true =>
    rw [record_seen hseen, hr.1.1, hr.1.2, hr.2]
    refine ⟨h.seen, h.text, h.failure, fun hdone => ?_⟩
    rw [Bool.or_eq_true]
    exact .inl (h.completed hdone)
  | false =>
    rw [record_before hseen hcontains]
    exact h

theorem Masks.foldl (h : Masks s s') (c : Conversation) (key : ArtifactKey) (rs : List Json) :
    Masks (rs.foldl (c.record key) s) (rs.foldl (c.record key) s') := by
  induction rs generalizing s s' with
  | nil => exact h
  | cons r rs ih => exact ih (h.record r)

theorem Masks.foldl_skip (h : Masks s s')
    (hrs : ∀ r ∈ rs, (c.observe key r).silent = true ∧ c.contains key r = false) :
    Masks s (rs.foldl (c.record key) s') := by
  induction rs generalizing s' with
  | nil => exact h
  | cons r rs ih =>
    obtain ⟨hsilent, hcontains⟩ := hrs r List.mem_cons_self
    exact ih (h.skip hsilent hcontains) fun x hx => hrs x (List.mem_cons_of_mem _ hx)

theorem Masks.finding (h : Masks s s') (hs : Settled s) : finding s' = finding s := by
  have hdone := hs.done
  rw [ne_eq, pending_iff, not_and] at hdone
  unfold Conversation.finding ProviderReplyScanState.reply
  dsimp only
  rw [h.text, h.failure]
  cases hcompleted : s.completed with
  | true => rw [h.completed hcompleted]
  | false =>
    have hfailed := Option.isSome_iff_ne_none.mpr (hdone hcompleted)
    rw [hs.failed hfailed, hfailed]
    cases s'.completed <;> simp [hfailed, Option.or_of_isSome]

theorem blank_spec (h : c.blank r = true) : (c.observe .transcript r).silent = true ∧
    c.contains .transcript r = false ∧ (c.observe .transcript r).ends = true := by
  unfold blank at h
  simp only [Bool.and_eq_true, decide_eq_true_eq, Option.isNone_iff_eq_none] at h
  obtain ⟨⟨hgemini, hcompleted⟩, htext⟩ := h
  have hends : (c.observe .transcript r).ends = true := by rw [Observation.ends, hcompleted, Bool.true_or]
  have hkind : isText (r.member "type") "gemini" = true := by
    by_contra hkind
    unfold observe observeProviderRecord at hcompleted
    rw [c.known, hgemini] at hcompleted
    dsimp only [observeGemini] at hcompleted
    rw [if_neg hkind] at hcompleted
    split_ifs at hcompleted
  have huser : isText (r.member "type") "user" = false := by
    cases hmember : r.member "type" with
    | none => rfl
    | some value => cases value <;> simp_all [isText]
  refine ⟨?_, ?_, hends⟩
  · have hfailure : (c.observe .transcript r).failureReason = none ∧ (c.observe .transcript r).clearCandidate = false := by
      revert hcompleted
      unfold observe observeProviderRecord
      rw [c.known, hgemini]
      dsimp only [observeGemini]
      rw [if_pos hkind]
      split_ifs <;> simp
    rw [Observation.silent, htext, hfailure.1, hfailure.2]
    rfl
  · unfold contains providerInputContains providerInput
    rw [c.known, hgemini]
    dsimp only
    rw [huser]
    rfl

theorem Masks.foldl_filter (h : Masks s s') (rs : List Json) :
    Masks ((rs.filter fun r => !c.blank r).foldl (c.record .transcript) s) (rs.foldl (c.record .transcript) s') := by
  induction rs generalizing s s' with
  | nil => exact h
  | cons r rs ih =>
    cases hblank : c.blank r with
    | true =>
      rw [List.filter_cons_of_neg (by simp [hblank])]
      obtain ⟨hsilent, hcontains, -⟩ := blank_spec hblank
      exact ih (h.skip hsilent hcontains)
    | false =>
      rw [List.filter_cons_of_pos (by simp [hblank])]
      exact ih (h.record r)

theorem afterInput_filter (seen : Bool) (rs : List Json) :
    c.afterInput .transcript seen (rs.filter fun r => !c.blank r) =
      (c.afterInput .transcript seen rs).filter fun r => !c.blank r := by
  cases seen with
  | true => rfl
  | false =>
    induction rs with
    | nil => rfl
    | cons r rs ih =>
      cases hblank : c.blank r with
      | true => rw [List.filter_cons_of_neg (by simp [hblank]), ih, afterInput_before (blank_spec hblank).2.1]
      | false =>
        rw [List.filter_cons_of_pos (by simp [hblank])]
        cases hcontains : c.contains .transcript r with
        | true => rw [afterInput_input hcontains, afterInput_input hcontains]
        | false => rw [afterInput_before hcontains, afterInput_before hcontains, ih]

/-- A blank message does not matter where nothing is settled. -/
theorem settle_filter (hs : s.reply.status = .pending) (h : (c.settle .transcript s rs).reply.status = .pending) :
    c.settle .transcript s (rs.filter fun r => !c.blank r) = c.settle .transcript s rs := by
  induction rs generalizing s with
  | nil => rfl
  | cons r rs ih =>
    rw [settle] at h ⊢
    split_ifs at h ⊢ with hr
    · cases hblank : c.blank r with
      | true =>
        obtain ⟨-, hcontains, hends⟩ := blank_spec hblank
        have hseen : s.inputSeen = false := by
          by_contra hseen
          rw [Bool.not_eq_false] at hseen
          rw [record_pending hseen hs, hends] at hr
          cases hr
        rw [record_before hseen hcontains] at h ⊢
        rw [List.filter_cons_of_neg (by simp [hblank])]
        exact ih hs h
      | false =>
        rw [List.filter_cons_of_pos (by simp [hblank]), settle, if_pos hr]
        exact ih hr h
    · exact absurd h hr

theorem cutTurns_zero (c : Conversation) (key : ArtifactKey) (rs : List Json) : c.cutTurns key 0 rs = ([], rs) := by
  cases rs <;> rfl

theorem cutTurns_append (c : Conversation) (key : ArtifactKey) (turns : Nat) (rs : List Json) :
    (c.cutTurns key turns rs).1 ++ (c.cutTurns key turns rs).2 = rs := by
  induction rs generalizing turns with
  | nil => cases turns <;> rfl
  | cons r rs ih =>
    cases turns with
    | zero => rfl
    | succ turns =>
      rw [cutTurns]
      exact congrArg (r :: ·) (ih _)

theorem cutTurns_more {turns : Nat} (h : (c.cutTurns key turns rs).2 ≠ []) (more : List Json) :
    (c.cutTurns key turns (rs ++ more)).2 = (c.cutTurns key turns rs).2 ++ more := by
  induction rs generalizing turns with
  | nil =>
    cases turns with
    | zero => rw [List.nil_append, cutTurns_zero, cutTurns_zero, List.nil_append]
    | succ turns => exact absurd rfl h
  | cons r rs ih =>
    cases turns with
    | zero => rfl
    | succ turns =>
      rw [List.cons_append, cutTurns]
      rw [cutTurns] at h ⊢
      exact ih h

theorem cutTurns_endless (turns : Nat) (h : ¬c.Ending key rs) (more : List Json) :
    ∃ before, (c.cutTurns key turns (rs ++ more)).2 = before ++ (c.cutTurns key turns more).2 ∧ ¬c.Ending key before := by
  cases turns with
  | zero => exact ⟨rs, by rw [cutTurns_zero, cutTurns_zero], h⟩
  | succ turns =>
    refine ⟨[], ?_, by rintro ⟨r, hr, -⟩; cases hr⟩
    rw [List.nil_append]
    induction rs with
    | nil => rfl
    | cons r rs ih =>
      have hr : (c.observe key r).ends = false := Bool.eq_false_iff.mpr fun hr => h ⟨r, List.mem_cons_self, hr⟩
      rw [List.cons_append, cutTurns, if_neg (by rw [hr]; exact Bool.false_ne_true)]
      exact ih fun ⟨x, hx, hends⟩ => h ⟨x, List.mem_cons_of_mem _ hx, hends⟩

theorem inputSeen_foldl (s : ProviderReplyScanState) (rs : List Json) :
    (rs.foldl (c.record key) s).inputSeen = true ↔ s.inputSeen = true ∨ ∃ r ∈ rs, c.contains key r = true := by
  induction rs generalizing s with
  | nil => simp
  | cons r rs ih =>
    rw [List.foldl_cons, ih]
    cases hseen : s.inputSeen with
    | true =>
      rw [record_seen hseen]
      simp [hseen]
    | false =>
      cases hcontains : c.contains key r with
      | true =>
        rw [record_input hseen hcontains]
        simp [hcontains]
      | false =>
        rw [record_before hseen hcontains]
        simp [hcontains, hseen]

theorem record_silent (hs : s.inputSeen = true) (hr : (c.observe key r).silent = true)
    (hends : (c.observe key r).ends = false) : c.record key s r = s := by
  simp only [Observation.silent, Bool.and_eq_true, Option.isNone_iff_eq_none, Bool.not_eq_true'] at hr
  simp only [Observation.ends, Bool.or_eq_false_iff] at hends
  rw [record_seen hs, hr.1.1, hr.1.2, hr.2, hends.1]
  simp

theorem foldl_silent (hs : s.inputSeen = true) (hrs : ∀ r ∈ rs, (c.observe key r).silent = true)
    (hends : ∀ r ∈ rs, (c.observe key r).ends = false) : rs.foldl (c.record key) s = s := by
  induction rs with
  | nil => rfl
  | cons r rs ih =>
    rw [List.foldl_cons, record_silent hs (hrs r List.mem_cons_self) (hends r List.mem_cons_self)]
    exact ih (fun x hx => hrs x (List.mem_cons_of_mem _ hx)) fun x hx => hends x (List.mem_cons_of_mem _ hx)

theorem history_ends (hgrok : c.provider = .grok) (r : Json) : (c.observe .history r).ends = false := by
  unfold observe observeProviderRecord
  rw [c.known, hgrok]
  dsimp only [observeGrok]
  split_ifs <;> simp_all [Observation.ends]

theorem firstTurn_isPrefix (c : Conversation) (key : ArtifactKey) (rs : List Json) : c.firstTurn key rs <+: rs := by
  unfold firstTurn
  dsimp only
  split
  · exact List.prefix_rfl
  · rename_i input rest hrest
    conv_rhs => rw [← List.takeWhile_append_dropWhile (p := fun r => !c.contains key r) (l := rs), hrest]
    rw [List.prefix_append_right_inj, List.cons_prefix_cons]
    exact ⟨rfl, List.takeWhile_prefix _⟩

theorem firstTurn_contains (h : ∃ r ∈ rs, c.contains key r = true) :
    ∃ r ∈ c.firstTurn key rs, c.contains key r = true := by
  unfold firstTurn
  dsimp only
  split
  · exact h
  · rename_i input rest hrest
    refine ⟨input, by simp, ?_⟩
    have hhead := List.head?_dropWhile_not (fun r => !c.contains key r) rs
    rw [hrest] at hhead
    simpa using hhead

theorem foldl_history (hgrok : c.provider = .grok) {xs ys all : List Json} (hxs : xs <+: all) (hys : ys <+: all)
    (hx : ∃ r ∈ xs, c.contains .history r = true) (hy : ∃ r ∈ ys, c.contains .history r = true)
    (hbeyond : ∀ r ∈ xs.drop ys.length, (c.observe .history r).silent = true)
    (hbehind : ∀ r ∈ ys.drop xs.length, (c.observe .history r).silent = true) :
    xs.foldl (c.record .history) unread = ys.foldl (c.record .history) unread := by
  rcases List.prefix_or_prefix_of_prefix hxs hys with ⟨later, rfl⟩ | ⟨later, rfl⟩
  · rw [List.drop_left] at hbehind
    rw [List.foldl_append]
    exact (foldl_silent ((inputSeen_foldl _ _).mpr (.inr hx)) hbehind fun r _ => history_ends hgrok r).symm
  · rw [List.drop_left] at hbeyond
    rw [List.foldl_append]
    exact foldl_silent ((inputSeen_foldl _ _).mpr (.inr hy)) hbeyond fun r _ => history_ends hgrok r

theorem lifecycle_silent (hgrok : c.provider = .grok) (h : (c.observe .lifecycle r).ends = false) :
    (c.observe .lifecycle r).silent = true := by
  revert h
  unfold observe observeProviderRecord
  rw [c.known, hgrok]
  dsimp only [observeGrok]
  rw [if_neg (by simp)]
  split_ifs
  · split
    · simp [Observation.ends]
    · split_ifs <;> simp [Observation.ends]
  · simp [Observation.silent]

theorem lifecycle_contains (hgrok : c.provider = .grok) (r : Json) : c.contains .lifecycle r = false := by
  unfold contains providerInputContains providerInput
  rw [c.known, hgrok]
  rfl

theorem record_offsets (s : ProviderReplyScanState) (o : List (String × Nat)) (r : Json) :
    c.record key { s with offsets := o } r = { c.record key s r with offsets := o } := by
  unfold record observeRecord
  dsimp only
  split_ifs <;> rfl

theorem foldl_offsets (s : ProviderReplyScanState) (o : List (String × Nat)) (rs : List Json) :
    rs.foldl (c.record key) { s with offsets := o } = { rs.foldl (c.record key) s with offsets := o } := by
  induction rs generalizing s with
  | nil => rfl
  | cons r rs ih => rw [List.foldl_cons, List.foldl_cons, record_offsets, ih]

theorem foldl_of_offsets {base : ProviderReplyScanState} (h : s = { base with offsets := s.offsets }) :
    rs.foldl (c.record key) s = { rs.foldl (c.record key) base with offsets := s.offsets } := by
  rw [← foldl_offsets, ← h]

theorem reply_offsets (s : ProviderReplyScanState) (o : List (String × Nat)) :
    ({ s with offsets := o } : ProviderReplyScanState).reply.status = s.reply.status := rfl

theorem settle_offsets (s : ProviderReplyScanState) (o : List (String × Nat)) (rs : List Json) :
    c.settle key { s with offsets := o } rs = { c.settle key s rs with offsets := o } := by
  induction rs generalizing s with
  | nil => rfl
  | cons r rs ih =>
    rw [settle, settle, record_offsets, reply_offsets]
    split_ifs
    · exact ih _
    · rfl

theorem recordsOf_append {u : List UInt8} (hu : AtLineEnd u) (v : List UInt8) :
    c.recordsOf (u ++ v) = c.recordsOf u ++ c.recordsOf v := by
  unfold recordsOf
  dsimp only
  rw [wholeLines_append hu, List.filterMap_append]
  split_ifs
  · rw [List.flatMap_append]
  · rfl

theorem recordsOf_nil : c.recordsOf [] = [] := by
  unfold recordsOf
  simp [wholeLines, whole]

end Conversation

end Wardroom.Runtime
