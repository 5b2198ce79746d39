import Mathlib
import Wardroom.Library.Json
import Wardroom.Library.RecordFile
import Wardroom.Library.Text
import Wardroom.Library.Utf8
import Wardroom.Storage.UsageReadings

/-! # The usage that a provider reports

A provider writes the tokens of each turn into its transcript, of which the daemon reads the end: no more than
so many bytes, without the line that they begin in. For codex the last line that tells of usage holds the
cumulative count, for claude the count is the sum over the lines that were read.
-/

namespace Wardroom.Runtime
open Wardroom.Library Wardroom.Domain Wardroom.Storage

structure ResolvedUsage extends Storage.ProviderUsage where
  updatedAt : Option Json

/-- `JSON.parse` of a line, none where it throws, and `Number(…)`, none where it is not finite. -/
structure UsageBuiltins where
  parse : List UInt8 → Option Json
  number : Json → Option Int

def emptyUsage (status : UsageState) (reason : String) : ResolvedUsage :=
  ⟨⟨⟨none, none, none, none⟩, status, reason⟩, none⟩

namespace UsageBuiltins

variable (js : UsageBuiltins)

/-- `Number(undefined)` is not finite. -/
def finite (value : Option Json) : Option Int := (value.bind js.number).filter fun n => 0 ≤ n

def codexRaw (line : Json) : Option Json :=
  Json.coalesce (Json.coalesce (((line.member "payload").bind (·.member "info")).bind (·.member "total_token_usage"))
    ((line.member "payload").bind (·.member "total_token_usage"))) (line.member "usage")

/-- `value ?? null`. -/
def orNull (value : Option Json) : Option Json := if Json.nullish value then none else value

def codexUsage (line : Json) : Option ResolvedUsage := do
  let raw ← (codexRaw line).filter Json.truthy
  let inputTokens ← js.finite (raw.member "input_tokens")
  let cachedInputTokens := (js.finite (raw.member "cached_input_tokens")).getD 0
  let outputTokens ← js.finite (raw.member "output_tokens")
  let totalTokens := (js.finite (raw.member "total_tokens")).getD (inputTokens + outputTokens)
  return ⟨⟨⟨some inputTokens, some cachedInputTokens, some outputTokens, some totalTokens⟩, .available, "provider-reported"⟩,
    orNull (Json.coalesce (line.member "timestamp") (line.member "ts"))⟩

structure Tokens where
  input : Int
  cached : Int
  output : Int
  deriving DecidableEq, Repr

def claudeTokens (line : Json) : Option Tokens := do
  let raw ← (Json.coalesce ((line.member "message").bind (·.member "usage")) (line.member "usage")).filter Json.truthy
  let input ← js.finite (raw.member "input_tokens")
  let cached := (js.finite (Json.coalesce (raw.member "cache_read_input_tokens") (raw.member "cached_input_tokens"))).getD 0
  let output ← js.finite (raw.member "output_tokens")
  return ⟨input, cached, output⟩

structure ClaudeSum where
  inputTokens : Int := 0
  cachedInputTokens : Int := 0
  outputTokens : Int := 0
  found : Bool := false
  updatedAt : Option Json := none

def addLine (sum : ClaudeSum) (line : Json) : ClaudeSum :=
  match js.claudeTokens line with
  | none => sum
  | some tokens =>
    ⟨sum.inputTokens + tokens.input, sum.cachedInputTokens + tokens.cached, sum.outputTokens + tokens.output, true,
      Json.coalesce (Json.coalesce (line.member "timestamp") (line.member "ts")) sum.updatedAt⟩

def resolveProviderUsage (adapterKind : Option String) (lines : List Json) : ResolvedUsage :=
  if adapterKind ≠ some "codex" ∧ adapterKind ≠ some "claude" then emptyUsage .unsupported "provider-usage-unsupported"
  else if adapterKind = some "codex" then
    (lines.reverse.findSome? js.codexUsage).getD (emptyUsage .unavailable "provider-usage-not-reported")
  else
    let sum := lines.foldl js.addLine {}
    if sum.found then
      ⟨⟨⟨some sum.inputTokens, some sum.cachedInputTokens, some sum.outputTokens, some (sum.inputTokens + sum.outputTokens)⟩,
        .available, "provider-reported"⟩, sum.updatedAt⟩
    else emptyUsage .unavailable "provider-usage-not-reported"

def TAIL_BYTES : Nat := 256 * 1024

/-- `line.trim()` is empty. -/
def blankLine (line : List UInt8) : Bool := Text.blank (String.ofList (Utf8.decode line))

/-- The bytes are split before they are decoded, which comes to the same for a line feed. -/
def readJsonlTail (bytes : List UInt8) : List Json :=
  if bytes.length = 0 then []
  else
    let start := if TAIL_BYTES < bytes.length then bytes.length - TAIL_BYTES else 0
    let lines := (bytes.drop start).splitOn 0x0a
    let lines := if 0 < start then lines.tail else lines
    ((lines.filter fun line => !blankLine line).filterMap js.parse).filter Json.truthy

structure CachedUsage where
  expiresAt : Int
  usage : ResolvedUsage

def CACHE_MS : Int := 1000

def providerSessionUsage (adapterKind providerThreadId : Option String) (cached : Option CachedUsage) (now : Int)
    (transcript : List UInt8) : ResolvedUsage × Option CachedUsage :=
  if adapterKind ≠ some "codex" ∧ adapterKind ≠ some "claude" then
    (emptyUsage .unsupported "provider-usage-unsupported", cached)
  else if Text.given providerThreadId = false then (emptyUsage .unavailable "provider-session-not-bound", cached)
  else
    match cached.filter fun entry => now < entry.expiresAt with
    | some entry => (entry.usage, cached)
    | none =>
      let usage := js.resolveProviderUsage adapterKind (js.readJsonlTail transcript)
      (usage, some ⟨now + CACHE_MS, usage⟩)

def lineOf (record : List UInt8) : Option Json :=
  if blankLine record then none else (js.parse record).filter Json.truthy

def usageRecords (records : List (List UInt8)) : List Tokens :=
  records.filterMap fun record => (js.lineOf record).bind js.claudeTokens

/-- The records that the reading of a transcript leaves out. -/
def leftOut (records : List (List UInt8)) : List (List UInt8) :=
  let length := (RecordFile.file 0x0a records).length
  if TAIL_BYTES < length then RecordFile.upto (length - TAIL_BYTES) records else []

def readOf (records : List (List UInt8)) : List (List UInt8) :=
  let length := (RecordFile.file 0x0a records).length
  if TAIL_BYTES < length then RecordFile.past (length - TAIL_BYTES) records else records

theorem leftOut_append_readOf (records : List (List UInt8)) : leftOut records ++ readOf records = records := by
  simp only [leftOut, readOf]
  split_ifs
  · exact RecordFile.upto_append_past _ _
  · rfl

theorem filterMap_lineOf (lines : List (List UInt8)) :
    ((lines.filter fun line => !blankLine line).filterMap js.parse).filter Json.truthy = lines.filterMap js.lineOf := by
  induction lines with
  | nil => rfl
  | cons line lines ih =>
    by_cases hblank : blankLine line = true
    · simp [lineOf, hblank, ih]
    · cases hparse : js.parse line with
      | none => simp [lineOf, hblank, hparse, ih]
      | some value =>
        by_cases htruthy : value.truthy = true <;>
          simp [Option.filter_some, lineOf, hblank, hparse, htruthy, ih]

theorem lineOf_nil : js.lineOf [] = none := by
  have hblank : blankLine [] = true := by decide
  rw [lineOf, if_pos hblank]

theorem readJsonlTail_file {records : List (List UInt8)} (h : ∀ record ∈ records, 0x0a ∉ record) :
    js.readJsonlTail (RecordFile.file 0x0a records) = (readOf records).filterMap js.lineOf := by
  have hlast (lines : List (List UInt8)) : (lines ++ [[]]).filterMap js.lineOf = lines.filterMap js.lineOf := by
    simp [List.filterMap_append, lineOf_nil]
  unfold readJsonlTail readOf
  by_cases hempty : (RecordFile.file 0x0a records).length = 0
  · have hnone : records = [] := by
      cases records with
      | nil => rfl
      | cons record records => simp [RecordFile.file] at hempty
    subst hnone
    rfl
  · rw [if_neg hempty]
    dsimp only
    rw [filterMap_lineOf]
    by_cases hlong : TAIL_BYTES < (RecordFile.file 0x0a records).length
    · have htail : 0 < TAIL_BYTES := by decide
      rw [if_pos hlong, if_pos hlong, if_pos (by omega), RecordFile.tail_splitOn_drop h (by omega), hlast]
    · rw [if_neg hlong, if_neg hlong, if_neg (lt_irrefl 0), List.drop_zero, RecordFile.splitOn_file h, hlast]

/-- The cumulative counters of some usage records, none where there is no record. -/
def counters (records : List Tokens) : UsageCounters :=
  if records = [] then ⟨none, none, none, none⟩
  else
    ⟨some (records.map Tokens.input).sum, some (records.map Tokens.cached).sum, some (records.map Tokens.output).sum,
      some ((records.map Tokens.input).sum + (records.map Tokens.output).sum)⟩

theorem foldl_addLine (lines : List Json) (sum : ClaudeSum) :
    (lines.foldl js.addLine sum).inputTokens = sum.inputTokens + ((lines.filterMap js.claudeTokens).map Tokens.input).sum ∧
      (lines.foldl js.addLine sum).cachedInputTokens =
        sum.cachedInputTokens + ((lines.filterMap js.claudeTokens).map Tokens.cached).sum ∧
      (lines.foldl js.addLine sum).outputTokens =
        sum.outputTokens + ((lines.filterMap js.claudeTokens).map Tokens.output).sum ∧
      ((lines.foldl js.addLine sum).found = true ↔ sum.found = true ∨ lines.filterMap js.claudeTokens ≠ []) := by
  induction lines generalizing sum with
  | nil => simp
  | cons line lines ih =>
    rw [List.foldl_cons]
    obtain ⟨hinput, hcached, houtput, hfound⟩ := ih (js.addLine sum line)
    rw [hinput, hcached, houtput, hfound]
    cases htokens : js.claudeTokens line with
    | none => simp [addLine, htokens]
    | some tokens => simp [addLine, htokens, add_assoc]

theorem resolve_claude (lines : List Json) :
    (js.resolveProviderUsage (some "claude") lines).toUsageCounters = counters (lines.filterMap js.claudeTokens) := by
  obtain ⟨hinput, hcached, houtput, hfound⟩ := js.foldl_addLine lines {}
  rw [resolveProviderUsage, if_neg (by decide), if_neg (by decide), counters]
  dsimp only
  by_cases hnone : lines.filterMap js.claudeTokens = []
  · have hlost : ¬(lines.foldl js.addLine {}).found = true := by simp [hfound, hnone]
    rw [if_neg hlost, if_pos hnone]
    rfl
  · have hsome : (lines.foldl js.addLine {}).found = true := by simp [hfound, hnone]
    rw [if_pos hsome, if_neg hnone, hinput, hcached, houtput]
    simp

def Tokens.Nonneg (t : Tokens) : Prop := 0 ≤ t.input ∧ 0 ≤ t.cached ∧ 0 ≤ t.output

theorem finite_nonneg {value : Option Json} {n : Int} (h : js.finite value = some n) : 0 ≤ n := by
  rw [finite, Option.filter_eq_some_iff] at h
  simpa using h.2

theorem claudeTokens_nonneg {line : Json} {tokens : Tokens} (h : js.claudeTokens line = some tokens) : tokens.Nonneg := by
  simp only [claudeTokens, bind, Option.bind_eq_some_iff, pure, Option.some.injEq] at h
  obtain ⟨raw, -, input, hinput, output, houtput, rfl⟩ := h
  refine ⟨js.finite_nonneg hinput, ?_, js.finite_nonneg houtput⟩
  cases hcached : js.finite (Json.coalesce (raw.member "cache_read_input_tokens") (raw.member "cached_input_tokens")) with
  | none => exact le_refl 0
  | some n => exact js.finite_nonneg hcached

theorem usageRecords_nonneg {records : List (List UInt8)} {tokens : Tokens} (h : tokens ∈ js.usageRecords records) :
    tokens.Nonneg := by
  obtain ⟨record, -, hrecord⟩ := List.mem_filterMap.mp h
  obtain ⟨line, -, htokens⟩ := Option.bind_eq_some_iff.mp hrecord
  exact js.claudeTokens_nonneg htokens

theorem sum_eq_zero_iff {f : Tokens → Int} {records : List Tokens} (h : ∀ t ∈ records, 0 ≤ f t) :
    (records.map f).sum = 0 ↔ ∀ t ∈ records, f t = 0 := by
  induction records with
  | nil => simp
  | cons t records ih =>
    have hrest : 0 ≤ (records.map f).sum :=
      List.sum_nonneg fun x hx => by
        obtain ⟨u, hu, rfl⟩ := List.mem_map.mp hx
        exact h u (List.mem_cons_of_mem _ hu)
    have hfirst := h t List.mem_cons_self
    rw [List.map_cons, List.sum_cons, List.forall_mem_cons, ← ih fun u hu => h u (List.mem_cons_of_mem _ hu)]
    omega

theorem counters_append_iff {earlier later : List Tokens} (h : ∀ t ∈ earlier, t.Nonneg) :
    counters later = counters (earlier ++ later) ↔
      (∀ t ∈ earlier, t = ⟨0, 0, 0⟩) ∧ (earlier ≠ [] → later ≠ []) := by
  by_cases hearlier : earlier = []
  · simp [hearlier]
  · have hall : earlier ++ later ≠ [] := by simp [hearlier]
    by_cases hlater : later = []
    · simp [counters, hearlier, hlater]
    · have hzero : (∀ t ∈ earlier, t = ⟨0, 0, 0⟩) ↔ (earlier.map Tokens.input).sum = 0 ∧
          (earlier.map Tokens.cached).sum = 0 ∧ (earlier.map Tokens.output).sum = 0 := by
        rw [sum_eq_zero_iff fun t ht => (h t ht).1, sum_eq_zero_iff fun t ht => (h t ht).2.1,
          sum_eq_zero_iff fun t ht => (h t ht).2.2]
        constructor
        · intro hz
          refine ⟨fun t ht => ?_, fun t ht => ?_, fun t ht => ?_⟩ <;> rw [hz t ht]
        · rintro ⟨hinput, hcached, houtput⟩ ⟨input, cached, output⟩ ht
          rw [Tokens.mk.injEq]
          exact ⟨hinput _ ht, hcached _ ht, houtput _ ht⟩
      rw [hzero, counters, counters, if_neg hlater, if_neg hall]
      simp only [List.map_append, List.sum_append, UsageCounters.mk.injEq, Option.some.injEq, ne_eq, hearlier, hlater,
        not_false_eq_true, forall_const, and_true]
      omega

theorem counters_onward (earlier : List Tokens) {later : List Tokens} (h : ∀ t ∈ later, t.Nonneg) :
    (counters earlier).Onward (counters (earlier ++ later)) := by
  have hsum {f : Tokens → Int} (hf : ∀ t ∈ later, 0 ≤ f t) : 0 ≤ (later.map f).sum :=
    List.sum_nonneg fun x hx => by
      obtain ⟨t, ht, rfl⟩ := List.mem_map.mp hx
      exact hf t ht
  have hinput := hsum fun t ht => (h t ht).1
  have hcached := hsum fun t ht => (h t ht).2.1
  have houtput := hsum fun t ht => (h t ht).2.2
  intro counter v hv
  by_cases hearlier : earlier = []
  · rw [counters, if_pos hearlier] at hv
    cases counter <;> cases hv
  · have hall : earlier ++ later ≠ [] := by simp [hearlier]
    rw [counters, if_neg hearlier] at hv
    rw [counters, if_neg hall, List.map_append, List.map_append, List.map_append, List.sum_append, List.sum_append,
      List.sum_append]
    cases counter <;> obtain rfl := Option.some.inj hv <;> refine ⟨_, rfl, ?_⟩ <;> omega

/-- A bound runtime whose usage is sampled. -/
structure SampledRuntime where
  channelId : Option String
  sessionId : String
  runtimeId : String
  generation : Nat
  providerThreadId : String
  bound : providerThreadId ≠ ""

structure TranscriptSample where
  records : List (List UInt8)
  sampledAt : Int
  now : Int

/-- The usage that is read for a sample, with nothing cached. -/
def sampledUsage (runtime : SampledRuntime) (sample : TranscriptSample) : ResolvedUsage :=
  (js.providerSessionUsage (some "claude") (some runtime.providerThreadId) none sample.now
    (RecordFile.file 0x0a sample.records)).1

/-- `sampleUsage`. -/
def usageInput (runtime : SampledRuntime) (sample : TranscriptSample) : UsageInput where
  channelId := runtime.channelId
  sessionId := runtime.sessionId
  runtimeId := runtime.runtimeId
  generation := runtime.generation
  adapterKind := "claude"
  providerThreadId := some runtime.providerThreadId
  usage := (js.sampledUsage runtime sample).toProviderUsage
  sampledAt := sample.sampledAt
  now := sample.now

/-- Complete records that are only appended to, sampled as time goes on. -/
structure AppendedTo (samples : List TranscriptSample) : Prop where
  complete : ∀ sample ∈ samples, ∀ record ∈ sample.records, 0x0a ∉ record
  grows : samples.Pairwise fun a b => a.records <+: b.records
  clock : samples.Pairwise fun a b => a.sampledAt ≤ b.sampledAt

/-- The samples count the tokens of the transcript: each has the sum over all its usage records, the counters go
onward, and the deltas of a series add up to what the counters grew by. -/
structure CountsTokens (runtime : SampledRuntime) (samples : List TranscriptSample) : Prop where
  total : ∀ sample ∈ samples, (js.sampledUsage runtime sample).toUsageCounters = counters (js.usageRecords sample.records)
  onward : samples.Pairwise fun a b =>
    (js.sampledUsage runtime a).toUsageCounters.Onward (js.sampledUsage runtime b).toUsageCounters
  once : ∀ options counter window now series,
    (UsageHistory.run options (samples.map (js.usageInput runtime))).query .session runtime.sessionId window now = .ok series →
      ((series.points.filter fun point => point.runtimeId = runtime.runtimeId ∧ point.generation = runtime.generation).map
          (·.delta counter)).sum =
        Counter.growth
          ((UsageHistory.run options (samples.map (js.usageInput runtime))).before counter runtime.sessionId
            runtime.runtimeId runtime.generation (now - series.window.WINDOW_MS))
          ((UsageHistory.run options (samples.map (js.usageInput runtime))).within counter runtime.sessionId
            runtime.runtimeId runtime.generation (now - series.window.WINDOW_MS))

/-- The records that are left out count no tokens, and are not the only ones that tell of usage. -/
structure Covered (records : List (List UInt8)) : Prop where
  idle : ∀ tokens ∈ js.usageRecords (leftOut records), tokens = ⟨0, 0, 0⟩
  told : js.usageRecords (leftOut records) ≠ [] → js.usageRecords (readOf records) ≠ []

theorem usageRecords_append (xs ys : List (List UInt8)) :
    js.usageRecords (xs ++ ys) = js.usageRecords xs ++ js.usageRecords ys := List.filterMap_append

theorem toUsageCounters_sampledUsage (runtime : SampledRuntime) {sample : TranscriptSample}
    (h : ∀ record ∈ sample.records, 0x0a ∉ record) :
    (js.sampledUsage runtime sample).toUsageCounters = counters (js.usageRecords (readOf sample.records)) := by
  have hgiven : ¬Text.given (some runtime.providerThreadId) = false := by simp [Text.given, runtime.bound]
  rw [sampledUsage, providerSessionUsage, if_neg (by decide), if_neg hgiven]
  rw [Option.filter_none]
  dsimp only
  rw [resolve_claude, readJsonlTail_file js h, List.filterMap_filterMap]
  rfl

theorem covered_iff (runtime : SampledRuntime) {sample : TranscriptSample} (h : ∀ record ∈ sample.records, 0x0a ∉ record) :
    (js.sampledUsage runtime sample).toUsageCounters = counters (js.usageRecords sample.records) ↔
      js.Covered sample.records := by
  have hall : js.usageRecords sample.records =
      js.usageRecords (leftOut sample.records) ++ js.usageRecords (readOf sample.records) := by
    rw [← usageRecords_append, leftOut_append_readOf]
  rw [toUsageCounters_sampledUsage js runtime h, hall, counters_append_iff fun t ht => js.usageRecords_nonneg ht]
  exact ⟨fun ⟨hidle, htold⟩ => ⟨hidle, htold⟩, fun hcovered => ⟨hcovered.idle, hcovered.told⟩⟩

/-- The samples count the tokens of the transcript exactly if whatever a reading leaves out counts nothing. -/
theorem counts_tokens_iff (runtime : SampledRuntime) {samples : List TranscriptSample} (h : AppendedTo samples) :
    js.CountsTokens runtime samples ↔ ∀ sample ∈ samples, js.Covered sample.records := by
  constructor
  · intro hcounts sample hsample
    exact (js.covered_iff runtime (h.complete sample hsample)).mp (hcounts.total sample hsample)
  · intro hcovered
    have htotal (sample : TranscriptSample) (hsample : sample ∈ samples) :=
      (js.covered_iff runtime (h.complete sample hsample)).mpr (hcovered sample hsample)
    have honward : samples.Pairwise fun a b =>
        (js.sampledUsage runtime a).toUsageCounters.Onward (js.sampledUsage runtime b).toUsageCounters := by
      refine h.grows.imp_of_mem fun {a b} ha hb ⟨later, hlater⟩ => ?_
      rw [htotal a ha, htotal b hb, ← hlater, usageRecords_append]
      exact counters_onward _ fun t ht => js.usageRecords_nonneg ht
    refine ⟨htotal, honward, fun options counter window now series hseries => ?_⟩
    apply UsageHistory.sum_deltas_of_onward options _ _ _ counter hseries
    · exact List.pairwise_map.mpr h.clock
    · intro input hinput
      obtain ⟨sample, -, rfl⟩ := List.mem_map.mp hinput
      exact ⟨rfl, rfl, rfl⟩
    · exact List.pairwise_map.mpr honward

def turnLine : List UInt8 := Text.utf8 "\x7b\"usage\":\x7b\"input_tokens\":5,\"output_tokens\":5\x7d\x7d"

/-- An empty object in a line that ends in spaces. -/
def paddedLine (spaces : Nat) : List UInt8 := [0x7b, 0x7d] ++ List.replicate spaces 0x20

theorem length_paddedLine (spaces : Nat) : (paddedLine spaces).length = spaces + 2 := by
  simp [paddedLine]

theorem feed_paddedLine (spaces : Nat) : 0x0a ∉ paddedLine spaces := by
  simp [paddedLine]

def turnBuiltins : UsageBuiltins where
  parse line :=
    if line = turnLine then some (.obj [("usage", .obj [("input_tokens", .num "5"), ("output_tokens", .num "5")])])
    else if line.take 2 = [0x7b, 0x7d] then some (.obj [])
    else none
  number
    | .num "5" => some 5
    | _ => none

def pilotRuntime : SampledRuntime := ⟨none, "pilot", "runtime", 1, "thread", by decide⟩

theorem usage_turnLine : (turnBuiltins.lineOf turnLine).bind turnBuiltins.claudeTokens = some ⟨5, 0, 5⟩ := by
  decide +kernel

theorem counts_tokens_turns :
    turnBuiltins.CountsTokens pilotRuntime [⟨[turnLine], 60000, 60000⟩, ⟨[turnLine, turnLine], 120000, 120000⟩] := by
  have happended : AppendedTo [⟨[turnLine], 60000, 60000⟩, ⟨[turnLine, turnLine], 120000, 120000⟩] := by
    have hfeed : 0x0a ∉ turnLine := by decide
    exact ⟨by simp [hfeed], by simp, by simp⟩
  refine (counts_tokens_iff turnBuiltins pilotRuntime happended).mpr fun sample hsample => ?_
  have hshort : leftOut sample.records = [] := by
    rcases List.mem_cons.mp hsample with rfl | hsecond
    · decide
    · rw [List.mem_singleton.mp hsecond]
      decide
  refine ⟨fun tokens htokens => ?_, fun hne => absurd ?_ hne⟩
  · rw [hshort] at htokens
    cases htokens
  · rw [hshort]
    rfl

theorem mem_leftOut {record long : List UInt8} (h : TAIL_BYTES ≤ long.length) : record ∈ leftOut [record, long] := by
  have hlength : (RecordFile.file 0x0a [record, long]).length = record.length + long.length + 2 := by
    have hnone : (RecordFile.file 0x0a ([] : List (List UInt8))).length = 0 := rfl
    rw [RecordFile.file_cons, RecordFile.file_cons, List.length_append, List.length_cons, List.length_append,
      List.length_cons, hnone]
    omega
  simp only [leftOut, hlength, RecordFile.upto]
  rw [if_pos (by omega), if_neg (by omega)]
  exact List.mem_cons_self

theorem not_counts_before (js : UsageBuiltins) (runtime : SampledRuntime) {record long : List UInt8}
    (hfeed : ∀ line ∈ [record, long], 0x0a ∉ line) (hlong : TAIL_BYTES ≤ long.length) {tokens : Tokens}
    (htokens : (js.lineOf record).bind js.claudeTokens = some tokens) (hsome : tokens ≠ ⟨0, 0, 0⟩)
    {sampledAt now : Int} : ¬js.CountsTokens runtime [⟨[record, long], sampledAt, now⟩] := by
  intro hcounts
  have hcovered := (covered_iff js runtime hfeed).mp (hcounts.total _ List.mem_cons_self)
  exact hsome (hcovered.idle tokens (List.mem_filterMap.mpr ⟨record, mem_leftOut hlong, htokens⟩))

/-- The turn is forgotten once a long line follows it. -/
theorem turn_forgotten : ¬∀ (js : UsageBuiltins) (runtime : SampledRuntime) (samples : List TranscriptSample),
    AppendedTo samples → js.CountsTokens runtime samples := by
  intro h
  have hfeed : ∀ record ∈ [turnLine, paddedLine TAIL_BYTES], 0x0a ∉ record := by
    have hturn : 0x0a ∉ turnLine := by decide
    simp [hturn, feed_paddedLine]
  have hlong : TAIL_BYTES ≤ (paddedLine TAIL_BYTES).length := by
    rw [length_paddedLine]
    exact Nat.le_add_right _ 2
  have happended : AppendedTo [⟨[turnLine, paddedLine TAIL_BYTES], 60000, 60000⟩] :=
    ⟨by simpa using hfeed, by simp, by simp⟩
  have hcounts := h turnBuiltins pilotRuntime _ happended
  exact not_counts_before turnBuiltins pilotRuntime hfeed hlong usage_turnLine (by decide) hcounts

end UsageBuiltins
end Wardroom.Runtime
