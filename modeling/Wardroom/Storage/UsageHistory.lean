import Mathlib
import Wardroom.Domain.Contracts
import Wardroom.Library.Counter
import Wardroom.Library.Lists

/-! # Usage history

The counters of a provider are sampled, and a series reports the increase of
each sample over the one before it of the same generation of a runtime. A sample
that comes too early takes the place of the one before it.
-/

namespace Wardroom.Storage
open Wardroom.Library Wardroom.Domain

inductive UsageState where
  | available | unavailable | unsupported | privacy
deriving DecidableEq, Repr

structure UsageCounters where
  inputTokens : Option Int
  cachedInputTokens : Option Int
  outputTokens : Option Int
  totalTokens : Option Int
deriving DecidableEq, Repr

inductive UsageCounter where
  | inputTokens | cachedInputTokens | outputTokens | totalTokens
deriving DecidableEq, Repr

def UsageCounters.value (counters : UsageCounters) : UsageCounter → Option Int
  | .inputTokens => counters.inputTokens
  | .cachedInputTokens => counters.cachedInputTokens
  | .outputTokens => counters.outputTokens
  | .totalTokens => counters.totalTokens

structure ProviderUsage extends UsageCounters where
  status : UsageState
  reason : String
deriving DecidableEq, Repr

/-- A row of `provider_usage_samples`. Times are in milliseconds. -/
structure UsageSample extends UsageCounters where
  sampleId : Nat
  channelId : Option String
  sessionId : String
  runtimeId : String
  generation : Nat
  adapterKind : String
  providerThreadId : Option String
  status : UsageState
  reason : String
  counterReset : Bool
  sampledAt : Int
deriving DecidableEq, Repr

/-- The numbers that are configured, `none` for one that is no integer. -/
structure UsageOptions where
  retentionMs : Option Int
  minSampleIntervalMs : Option Int

/-- A call of `record`. The clock is read for the sample, and again for what is too old. -/
structure UsageInput where
  channelId : Option String
  sessionId : String
  runtimeId : String
  generation : Nat
  adapterKind : String
  providerThreadId : Option String
  usage : ProviderUsage
  sampledAt : Int
  now : Int

/-- The table, with the last number that was given to a row. -/
structure UsageHistory where
  rows : List UsageSample := []
  lastId : Nat := 0
deriving DecidableEq, Repr

def positive (value : Option Int) (fallback : Nat) : Nat :=
  match value with
  | some n => if 0 < n ∧ n ≤ 9007199254740991 then n.toNat else fallback
  | none => fallback

/-- `ORDER BY sampled_at, sample_id`. -/
def sampledBefore (a b : UsageSample) : Prop :=
  a.sampledAt < b.sampledAt ∨ a.sampledAt = b.sampledAt ∧ a.sampleId ≤ b.sampleId

instance : DecidableRel sampledBefore := fun _ _ => inferInstanceAs (Decidable (_ ∨ _))

def inOrder (rows : List UsageSample) : List UsageSample := rows.insertionSort sampledBefore

namespace UsageHistory

def minSampleIntervalMs (options : UsageOptions) : Nat := positive options.minSampleIntervalMs 60000

def retainedWindowMs (options : UsageOptions) : Nat := positive options.retentionMs 604800000

def maxSamples (options : UsageOptions) : Nat :=
  (retainedWindowMs options + minSampleIntervalMs options - 1) / minSampleIntervalMs options + 2

/-- The newest sample of a runtime. -/
def prior (history : UsageHistory) (sessionId runtimeId : String) : Option UsageSample :=
  (inOrder (history.rows.filter fun row => row.sessionId = sessionId ∧ row.runtimeId = runtimeId)).getLast?

def resets (input : UsageInput) (prior : UsageSample) : Bool :=
  prior.generation ≠ input.generation ||
    [UsageCounter.inputTokens, .cachedInputTokens, .outputTokens, .totalTokens].any fun counter =>
      match input.usage.value counter, prior.value counter with
      | some value, some old => value < old
      | _, _ => false

def coalesces (options : UsageOptions) (input : UsageInput) (prior : UsageSample) : Bool :=
  prior.generation = input.generation && input.sampledAt - prior.sampledAt < minSampleIntervalMs options

def coalesced (input : UsageInput) (prior row : UsageSample) : UsageSample :=
  { row with
    toUsageCounters := input.usage.toUsageCounters
    channelId := input.channelId
    adapterKind := input.adapterKind
    providerThreadId := input.providerThreadId
    status := input.usage.status
    reason := input.usage.reason
    counterReset := resets input prior || prior.counterReset }

def sample (input : UsageInput) (prior : Option UsageSample) (sampleId : Nat) : UsageSample where
  toUsageCounters := input.usage.toUsageCounters
  sampleId := sampleId
  channelId := input.channelId
  sessionId := input.sessionId
  runtimeId := input.runtimeId
  generation := input.generation
  adapterKind := input.adapterKind
  providerThreadId := input.providerThreadId
  status := input.usage.status
  reason := input.usage.reason
  counterReset := prior.any (resets input)
  sampledAt := input.sampledAt

/-- The sample takes the place of the one before it, or is a row of its own. -/
def store (options : UsageOptions) (history : UsageHistory) (input : UsageInput) : UsageHistory :=
  let prior := history.prior input.sessionId input.runtimeId
  match prior.filter (coalesces options input) with
  | some prior =>
    { history with rows := history.rows.map fun row =>
        if row.sampleId = prior.sampleId then coalesced input prior row else row }
  | none => ⟨history.rows ++ [sample input prior (history.lastId + 1)], history.lastId + 1⟩

/-- `DELETE` of what is too old. -/
def expire (options : UsageOptions) (now : Int) (history : UsageHistory) : UsageHistory :=
  let cutoff := now - retainedWindowMs options - minSampleIntervalMs options
  { history with rows := history.rows.filter fun row => cutoff ≤ row.sampledAt }

/-- `DELETE` of what a session has too much. -/
def limit (options : UsageOptions) (sessionId : String) (history : UsageHistory) : UsageHistory :=
  let kept := ((inOrder (history.rows.filter fun row => row.sessionId = sessionId)).reverse.take
    (maxSamples options)).map UsageSample.sampleId
  { history with rows := history.rows.filter fun row => row.sessionId ≠ sessionId ∨ row.sampleId ∈ kept }

def record (options : UsageOptions) (history : UsageHistory) (input : UsageInput) : UsageHistory :=
  limit options input.sessionId (expire options input.now (store options history input))

end UsageHistory

inductive UsageWindow where
  | m15 | h1 | h6 | h24 | d7
deriving DecidableEq, Repr

namespace UsageWindow

def USAGE_WINDOWS : List (String × UsageWindow) := [("15m", m15), ("1h", h1), ("6h", h6), ("24h", h24), ("7d", d7)]

def WINDOW_MS : UsageWindow → Int
  | m15 => 900000
  | h1 => 3600000
  | h6 => 21600000
  | h24 => 86400000
  | d7 => 604800000

def parse (window : String) : Except Failure UsageWindow :=
  match USAGE_WINDOWS.lookup window with
  | some w => .ok w
  | none => .error (.rooms "unsupportedUsageWindow" ("unsupported usage window \"" ++ window ++ "\""))

end UsageWindow

inductive UsageScope where
  | session | channel
deriving DecidableEq, Repr

def UsageScope.holds (scope : UsageScope) (id : String) (row : UsageSample) : Bool :=
  match scope with
  | .session => row.sessionId = id
  | .channel => row.channelId = some id

structure UsagePoint extends UsageCounters where
  sampledAt : Int
  sessionId : String
  runtimeId : String
  generation : Nat
  adapterKind : String
  state : UsageState
  reason : String
  counterReset : Bool
  deltaInputTokens : Int
  deltaCachedInputTokens : Int
  deltaOutputTokens : Int
  deltaTotalTokens : Int
deriving DecidableEq, Repr

def UsagePoint.delta (point : UsagePoint) : UsageCounter → Int
  | .inputTokens => point.deltaInputTokens
  | .cachedInputTokens => point.deltaCachedInputTokens
  | .outputTokens => point.deltaOutputTokens
  | .totalTokens => point.deltaTotalTokens

structure UsageSeries where
  scope : UsageScope
  id : String
  window : UsageWindow
  state : UsageState
  reason : String
  points : List UsagePoint
  sampledThrough : Int
deriving DecidableEq, Repr

def usageDelta (reset : Bool) (value old : Option Int) : Int :=
  match value, old with
  | some value, some old => if reset then 0 else max 0 (value - old)
  | _, _ => 0

def rowPoint (row : UsageSample) (prior : Option UsagePoint) : UsagePoint :=
  let delta := usageDelta row.counterReset
  { row with
    state := row.status
    deltaInputTokens := delta row.inputTokens (prior.bind (·.inputTokens))
    deltaCachedInputTokens := delta row.cachedInputTokens (prior.bind (·.cachedInputTokens))
    deltaOutputTokens := delta row.outputTokens (prior.bind (·.outputTokens))
    deltaTotalTokens := delta row.totalTokens (prior.bind (·.totalTokens)) }

def usageKey (runtimeId : String) (generation : Nat) : String := runtimeId ++ ":" ++ toString generation

/-- Each row is measured against the point before it under its key. -/
def usagePoints (previous : String → Option UsagePoint) : List UsageSample → List UsagePoint
  | [] => []
  | row :: rows =>
    let key := usageKey row.runtimeId row.generation
    let point := rowPoint row (previous key)
    point :: usagePoints (Function.update previous key (some point)) rows

namespace UsageHistory

def privacySeries (scope : UsageScope) (id window : String) (now : Int) : Except Failure UsageSeries := do
  let window ← UsageWindow.parse window
  return ⟨scope, id, window, .privacy, "usage-history-opt-in-required", [], now⟩

/-- The newest of the rows of each generation of a runtime. -/
def baselines (rows : List UsageSample) : List UsageSample :=
  rows.filter fun row =>
    (inOrder (rows.filter fun other => other.runtimeId = row.runtimeId ∧ other.generation = row.generation)).getLast? = some row

def query (history : UsageHistory) (scope : UsageScope) (id window : String) (now : Int) : Except Failure UsageSeries := do
  let window ← UsageWindow.parse window
  let since := now - window.WINDOW_MS
  let rows := inOrder (history.rows.filter fun row => scope.holds id row && since ≤ row.sampledAt)
  let old := baselines (history.rows.filter fun row => scope.holds id row && row.sampledAt < since)
  let previous := old.foldl (fun previous row =>
    Function.update previous (usageKey row.runtimeId row.generation) (some (rowPoint row none))) fun _ => none
  let points := usagePoints previous rows
  let latest := points.getLast?
  return ⟨scope, id, window, (latest.map (·.state)).getD .unavailable, (latest.map (·.reason)).getD "usage-history-empty",
    points, now⟩

end UsageHistory

end Wardroom.Storage
