import Wardroom.Storage.RuntimeRepository
import Wardroom.Storage.UsageHistory

/-! # Series that are collected

A series that is to be collected first samples the provider of each latest
runtime in its scope. Without that consent nothing is sampled and the series has
no points.
-/

namespace Wardroom.Storage
open Wardroom.Library Wardroom.Domain

/-- A runtime with its session and its binding. -/
structure UsageRow where
  sessionId : String
  runtimeId : String
  generation : Nat
  channelId : Option String
  adapterKind : Option String
  providerThreadId : Option String
  deriving DecidableEq, Repr

/-- What a series reads beside the tables: the options, the provider's counters and the clock, reading by reading. -/
structure UsageSurroundings where
  options : UsageOptions
  providerUsage : Option String → Option String → ProviderUsage
  clock : Nat → Int

/-- `ORDER BY r.generation DESC, r.created_at DESC`. -/
def latestRuntime (a b : Runtime) : Prop :=
  b.generation < a.generation ∨ a.generation = b.generation ∧ b.createdAt ≤ a.createdAt

instance : DecidableRel latestRuntime := fun _ _ => inferInstanceAs (Decidable (_ ∨ _))

namespace Daemon

/-- The joined row of a runtime, if it has a session and a binding. -/
def usageRow (d : Daemon) (r : Runtime) : Option UsageRow :=
  match d.db.currentSession r.sessionId, d.binding r.runtimeId with
  | some s, some b => some
    { sessionId := r.sessionId, runtimeId := r.runtimeId, generation := r.generation, channelId := b.channelId
      adapterKind := some b.adapterKind, providerThreadId := r.providerThreadId.or s.providerThreadId }
  | _, _ => none

/-- The rows of a session, the latest runtime first. -/
def usageRows (d : Daemon) (sessionId : String) : List UsageRow :=
  ((d.runtimes.select fun r => r.sessionId = sessionId).insertionSort latestRuntime).filterMap d.usageRow

def sessionUsageRows (d : Daemon) (sessionId : String) : List UsageRow := (d.usageRows sessionId).take 1

/-- The latest row of each session in the channel, session by session. -/
def channelUsageRows (d : Daemon) (channelId : String) : List UsageRow :=
  let sessions := (d.db.sessions.rows.map Session.id).insertionSort (· ≤ ·)
  sessions.filterMap fun sessionId => ((d.usageRows sessionId).filter fun row => row.channelId = some channelId).head?

end Daemon

/-- The sample of the row, at the two readings of the clock that are its own. -/
def sampleUsage (u : UsageSurroundings) (history : UsageHistory) (row : UsageRow × Nat) : UsageHistory :=
  UsageHistory.record u.options history
    { channelId := row.1.channelId
      sessionId := row.1.sessionId
      runtimeId := row.1.runtimeId
      generation := row.1.generation
      adapterKind := row.1.adapterKind.getD "unknown"
      providerThreadId := row.1.providerThreadId
      usage := u.providerUsage row.1.adapterKind row.1.providerThreadId
      sampledAt := u.clock (2 * row.2)
      now := u.clock (2 * row.2 + 1) }

def usageSeries (u : UsageSurroundings) (d : Daemon) (scope : UsageScope) (id window : String) (collect : Bool)
    (history : UsageHistory) : Except Failure UsageSeries × UsageHistory :=
  if collect = false then (UsageHistory.privacySeries scope id window (u.clock 0), history)
  else
    let rows := match scope with
      | .session => d.sessionUsageRows id
      | .channel => d.channelUsageRows id
    let history := rows.zipIdx.foldl (sampleUsage u) history
    (history.query scope id window (u.clock (2 * rows.length)), history)

end Wardroom.Storage
