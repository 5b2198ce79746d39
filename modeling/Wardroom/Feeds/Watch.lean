import Wardroom.Library.Text
import Wardroom.Feeds.Subscription

/-! # The watch stream of the native handler

The stream is a generator: it runs only while a consumer's pull is pending. It
is put together from a snapshot, a replay of the journal, and a queue that a
change listener fills. Changes are committed at any time in between, also
between two of its items.
-/

namespace Wardroom.Feeds
open Wardroom.Library Wardroom.Domain Wardroom.Storage

structure WatchRequest where
  channelId : Option String
  afterCursor : Option String

inductive WatchItem where
  | snapshot (value : Snapshot)
  | delta (change : Change)

/-- The consumer returned the generator, or the generator threw. -/
inductive WatchEnd where
  | returned
  | thrown (e : Failure)

/-- Where the generator is suspended. From `live` on its listener is registered, and it waits to be
woken or stands at the yield of its queue. -/
inductive WatchPhase where
  | fresh
  | snapshotYielded
  | replaying (rest : List Change)
  | live (queue : List Change) (waiting : Bool)
  | ended (outcome : WatchEnd)

structure Watching where
  db : Database
  phase : WatchPhase
  yielded : List WatchItem

/-- A commit may rewrite every table, and appends one change. `wake` is the resumption of a
generator whose wait was resolved; it runs after the code that committed. -/
inductive WatchEvent where
  | commit (tables : Database) (channelId : Option String) (payload : Payload) (occurredAt : String)
  | pull
  | wake
  | return

def watchBackpressure : Failure := .rooms "backpressure" "watch buffered more than 128 deltas"

/-- Resume at the end of the inner loop, or right after the registration of the listener. -/
def drainQueue (queue : List Change) (s : Watching) : Watching :=
  match queue with
  | [] => { s with phase := .live [] true }
  | change :: queue =>
    { s with phase := .live queue false, yielded := s.yielded ++ [.delta change] }

def replayRest (rest : List Change) (s : Watching) : Watching :=
  match rest with
  | [] => drainQueue [] s
  | change :: rest => { s with phase := .replaying rest, yielded := s.yielded ++ [.delta change] }

def startReplay (request : WatchRequest) (s : Watching) : Watching :=
  match s.db.replay (request.afterCursor.getD "0") request.channelId with
  | .error e => { s with phase := .ended (.thrown e) }
  | .ok changes => replayRest changes s

/-- The stream begins with a snapshot. -/
def WatchRequest.snapshotFirst (request : WatchRequest) : Bool :=
  Text.given request.channelId && request.afterCursor.isNone

def watchPull (request : WatchRequest) (s : Watching) : Watching :=
  match s.phase with
  | .fresh =>
    if request.snapshotFirst then
      match s.db.snapshot (request.channelId.getD "") with
      | .error e => { s with phase := .ended (.thrown e) }
      | .ok value =>
        { s with phase := .snapshotYielded, yielded := s.yielded ++ [.snapshot value] }
    else startReplay request s
  | .snapshotYielded => startReplay request s
  | .replaying rest => replayRest rest s
  | .live queue false => drainQueue queue s
  | .live _ true => s
  | .ended _ => s

/-- The bound is checked here alone: not while the queue is drained. -/
def watchWake (s : Watching) : Watching :=
  match s.phase with
  | .live (change :: queue) true =>
    if defaultMaxBufferedDeltaBatches < (change :: queue).length then
      { s with phase := .ended (.thrown watchBackpressure) }
    else drainQueue (change :: queue) s
  | _ => s

def watchReturn (s : Watching) : Watching :=
  match s.phase with
  | .live _ true => s
  | .ended _ => s
  | _ => { s with phase := .ended .returned }

/-- The change that the next commit hands to the listeners. -/
def nextChange (s : Watching) (channelId : Option String) (payload : Payload)
    (occurredAt : String) : Change :=
  ⟨s.db.changes.latestCursor + 1, channelId, payload, occurredAt, none⟩

/-- The listener queues what is of its channel or of none. -/
def enqueue (request : WatchRequest) (queue : List Change) (change : Change) : List Change :=
  if Database.inScope request.channelId change then queue ++ [change] else queue

def watchCommit (request : WatchRequest) (tables : Database) (channelId : Option String)
    (payload : Payload) (occurredAt : String) (s : Watching) : Watching :=
  let change := nextChange s channelId payload occurredAt
  { s with
    db := { tables with changes := s.db.changes.append channelId payload occurredAt none }
    phase := match s.phase with
      | .live queue waiting => .live (enqueue request queue change) waiting
      | phase => phase }

def watchStep (request : WatchRequest) (s : Watching) : WatchEvent → Watching
  | .commit tables channelId payload occurredAt =>
    watchCommit request tables channelId payload occurredAt s
  | .pull => watchPull request s
  | .wake => watchWake s
  | .return => watchReturn s

def watchStart (db : Database) : Watching := ⟨db, .fresh, []⟩

def WatchItem.delta? : WatchItem → Option Change
  | .delta change => some change
  | .snapshot _ => none

def Watching.deltas (s : Watching) : List Change := s.yielded.filterMap WatchItem.delta?

/-- No relevant change is committed between the read of the replay and the registration of the
listener, none comes live that the cursor has already passed, and a first snapshot is of a known
channel without relevant changes. -/
def Seamless (request : WatchRequest) (after : Nat) (s : Watching) : WatchEvent → Prop
  | .commit _ channelId payload occurredAt =>
    Database.inScope request.channelId (nextChange s channelId payload occurredAt) = true →
      match s.phase with
      | .replaying _ => s.db.changes.latestCursor + 1 ≤ after
      | .live _ _ => after < s.db.changes.latestCursor + 1
      | _ => True
  | .pull =>
    match s.phase with
    | .fresh => request.snapshotFirst = true →
      (s.db.currentChannel (request.channelId.getD "")).isSome = true ∧
        ∀ c ∈ s.db.changes.rows, Database.inScope request.channelId c = false
    | _ => True
  | _ => True

/-- What the generator has yielded and still holds is what the journal has after the cursor. -/
structure Seamed (request : WatchRequest) (after : Nat) (s : Watching) : Prop where
  phase : match s.phase with
    | .fresh => s.yielded = []
    | .snapshotYielded => s.deltas = []
    | .replaying rest => s.deltas ++ rest = s.db.changesAfter after request.channelId
    | .live queue _ => s.deltas ++ queue = s.db.changesAfter after request.channelId
    | .ended outcome => s.deltas <+: s.db.changesAfter after request.channelId ∧
      (outcome = .returned ∨ outcome = .thrown watchBackpressure)
  snapshot : ∀ value, .snapshot value ∈ s.yielded →
    value.cursor ≤ s.db.changes.latestCursor ∧
      ∀ c ∈ s.db.changesAfter after request.channelId, value.cursor < c.cursor

section Seams

variable {request : WatchRequest} {after : Nat} {s : Watching}

theorem changesAfter_commit (db tables : Database) (channelId : Option String) (payload : Payload)
    (occurredAt : String) :
    ({ tables with changes := db.changes.append channelId payload occurredAt none } :
      Database).changesAfter after request.channelId =
      db.changesAfter after request.channelId ++
        [⟨db.changes.latestCursor + 1, channelId, payload, occurredAt, none⟩].filter fun c =>
          after < c.cursor && Database.inScope request.channelId c := by
  simp only [Database.changesAfter, Journal.rows_append, List.filter_append]

theorem changesAfter_ordered (db : Database) :
    (db.changesAfter after request.channelId).Pairwise fun a b => a.cursor < b.cursor :=
  db.changes.ordered.filter _

theorem Seamed.deltas_prefix (h : Seamed request after s) :
    s.deltas <+: s.db.changesAfter after request.channelId := by
  have hphase := h.phase
  cases hs : s.phase with
  | fresh =>
    rw [hs] at hphase
    simp only [Watching.deltas, hphase, List.filterMap_nil]
    exact List.nil_prefix
  | snapshotYielded =>
    rw [hs] at hphase
    rw [hphase]
    exact List.nil_prefix
  | replaying rest =>
    rw [hs] at hphase
    exact ⟨rest, hphase⟩
  | live queue waiting =>
    rw [hs] at hphase
    exact ⟨queue, hphase⟩
  | ended outcome =>
    rw [hs] at hphase
    exact hphase.1

theorem deltas_yield (s : Watching) (phase : WatchPhase) (change : Change) :
    Watching.deltas { s with phase := phase, yielded := s.yielded ++ [.delta change] } =
      s.deltas ++ [change] := by
  simp [Watching.deltas, WatchItem.delta?]

theorem mem_snapshot_yield {s : Watching} {change : Change} {value : Snapshot}
    (h : .snapshot value ∈ s.yielded ++ [.delta change]) : .snapshot value ∈ s.yielded := by
  rcases List.mem_append.mp h with h | h
  · exact h
  · cases List.mem_singleton.mp h

theorem drainQueue_seamed (h : Seamed request after s) {queue : List Change}
    (hqueue : s.deltas ++ queue = s.db.changesAfter after request.channelId) :
    Seamed request after (drainQueue queue s) := by
  cases queue with
  | nil => exact ⟨hqueue, h.snapshot⟩
  | cons change queue =>
    refine ⟨?_, fun value hvalue => h.snapshot value (mem_snapshot_yield hvalue)⟩
    change Watching.deltas { s with phase := _, yielded := _ } ++ queue = _
    rw [deltas_yield, List.append_assoc]
    exact hqueue

theorem replayRest_seamed (h : Seamed request after s) {rest : List Change}
    (hrest : s.deltas ++ rest = s.db.changesAfter after request.channelId) :
    Seamed request after (replayRest rest s) := by
  cases rest with
  | nil => exact drainQueue_seamed h hrest
  | cons change rest =>
    refine ⟨?_, fun value hvalue => h.snapshot value (mem_snapshot_yield hvalue)⟩
    change Watching.deltas { s with phase := _, yielded := _ } ++ rest = _
    rw [deltas_yield, List.append_assoc]
    exact hrest

theorem startReplay_seamed (hcursor : CursorCodec.decode (request.afterCursor.getD "0") = some after)
    (hbound : after < 2 ^ 63) (h : Seamed request after s) (hnone : s.deltas = []) :
    Seamed request after (startReplay request s) := by
  unfold startReplay
  rw [Database.replay_of_lt _ _ hcursor hbound]
  exact replayRest_seamed h (by rw [hnone, List.nil_append])

theorem watchPull_seamed (hcursor : CursorCodec.decode (request.afterCursor.getD "0") = some after)
    (hbound : after < 2 ^ 63) (h : Seamed request after s) (hseamless : Seamless request after s .pull) :
    Seamed request after (watchPull request s) := by
  have hphase := h.phase
  unfold watchPull
  cases hs : s.phase with
  | fresh =>
    rw [hs] at hphase
    have hnone : s.deltas = [] := by
      unfold Watching.deltas
      rw [hphase]
      rfl
    by_cases hfirst : request.snapshotFirst = true
    · simp only [Seamless, hs] at hseamless
      obtain ⟨hchannel, hirrelevant⟩ := hseamless hfirst
      obtain ⟨channel, hchannel⟩ := Option.isSome_iff_exists.mp hchannel
      simp only [if_pos hfirst, Database.snapshot, hchannel]
      refine ⟨?_, fun value hvalue => ?_⟩
      · change Watching.deltas { s with phase := _, yielded := _ } = []
        simp [Watching.deltas, hphase, WatchItem.delta?]
      · simp only [hphase, List.nil_append, List.mem_singleton, WatchItem.snapshot.injEq] at hvalue
        subst hvalue
        refine ⟨le_refl _, fun c hc => ?_⟩
        obtain ⟨hrow, hrelevant⟩ := List.mem_filter.mp hc
        simp [hirrelevant c hrow] at hrelevant
    · simp only [if_neg hfirst]
      exact startReplay_seamed hcursor hbound h hnone
  | snapshotYielded =>
    rw [hs] at hphase
    exact startReplay_seamed hcursor hbound h hphase
  | replaying rest =>
    rw [hs] at hphase
    exact replayRest_seamed h hphase
  | live queue waiting =>
    rw [hs] at hphase
    cases waiting with
    | false => exact drainQueue_seamed h hphase
    | true => exact h
  | ended outcome => exact h

theorem watchWake_seamed (h : Seamed request after s) : Seamed request after (watchWake s) := by
  have hphase := h.phase
  unfold watchWake
  cases hs : s.phase with
  | live queue waiting =>
    rw [hs] at hphase
    cases waiting with
    | false => cases queue <;> exact h
    | true =>
      cases queue with
      | nil => exact h
      | cons change queue =>
        by_cases hbound : defaultMaxBufferedDeltaBatches < (change :: queue).length
        · simp only [if_pos hbound]
          exact ⟨⟨⟨_, hphase⟩, .inr rfl⟩, h.snapshot⟩
        · simp only [if_neg hbound]
          exact drainQueue_seamed h hphase
  | _ => exact h

theorem watchReturn_seamed (h : Seamed request after s) : Seamed request after (watchReturn s) := by
  have hreturned : Seamed request after { s with phase := .ended .returned } :=
    ⟨⟨h.deltas_prefix, .inl rfl⟩, h.snapshot⟩
  unfold watchReturn
  cases hs : s.phase with
  | live queue waiting =>
    cases waiting with
    | false => exact hreturned
    | true => exact h
  | ended outcome => exact h
  | _ => exact hreturned

theorem watchCommit_seamed (h : Seamed request after s) {tables : Database}
    {channelId : Option String} {payload : Payload} {occurredAt : String}
    (hseamless : Seamless request after s (.commit tables channelId payload occurredAt)) :
    Seamed request after (watchCommit request tables channelId payload occurredAt s) := by
  have hafter : ({ tables with changes := s.db.changes.append channelId payload occurredAt none } :
      Database).changesAfter after request.channelId = _ :=
    changesAfter_commit s.db tables channelId payload occurredAt
  have hphase := h.phase
  simp only [Seamless, nextChange] at hseamless
  constructor
  · unfold watchCommit
    simp only [nextChange, hafter]
    cases hs : s.phase with
    | fresh =>
      rw [hs] at hphase
      exact hphase
    | snapshotYielded =>
      rw [hs] at hphase
      exact hphase
    | replaying rest =>
      rw [hs] at hphase hseamless
      have hmissed : (decide (after < s.db.changes.latestCursor + 1) &&
          Database.inScope request.channelId
            ⟨s.db.changes.latestCursor + 1, channelId, payload, occurredAt, none⟩) = false := by
        rw [Bool.and_eq_false_imp, decide_eq_true_eq]
        intro hlater
        by_contra hrelevant
        exact absurd (hseamless (by simpa using hrelevant)) (not_le.mpr hlater)
      simp only [List.filter_cons, hmissed, List.filter_nil, Bool.false_eq_true, if_false,
        List.append_nil]
      exact hphase
    | live queue waiting =>
      rw [hs] at hphase hseamless
      change s.deltas ++ enqueue request queue _ = _
      unfold enqueue
      by_cases hrelevant : Database.inScope request.channelId
          ⟨s.db.changes.latestCursor + 1, channelId, payload, occurredAt, none⟩ = true
      · have hlater : after < s.db.changes.latestCursor + 1 := hseamless hrelevant
        rw [if_pos hrelevant]
        simp only [List.filter_cons, hrelevant, hlater, decide_true, Bool.and_true, if_true,
          List.filter_nil]
        rw [← List.append_assoc, hphase]
      · rw [if_neg hrelevant]
        simp only [List.filter_cons, Bool.not_eq_true _ ▸ hrelevant, Bool.and_false,
          Bool.false_eq_true, if_false, List.filter_nil, List.append_nil]
        exact hphase
    | ended outcome =>
      rw [hs] at hphase
      exact ⟨hphase.1.trans (List.prefix_append _ _), hphase.2⟩
  · intro value hvalue
    obtain ⟨hle, hlater⟩ := h.snapshot value hvalue
    change value.cursor ≤ (s.db.changes.append channelId payload occurredAt none).latestCursor ∧ _
    rw [latestCursor_append]
    refine ⟨hle.trans (Nat.le_succ _), fun c hc => ?_⟩
    change c ∈ Database.changesAfter { tables with changes := _ } _ _ at hc
    rw [hafter] at hc
    rcases List.mem_append.mp hc with hc | hc
    · exact hlater c hc
    · rw [List.mem_singleton.mp (List.mem_filter.mp hc).1]
      exact Nat.lt_succ_of_le hle

theorem watchStep_seamed (hcursor : CursorCodec.decode (request.afterCursor.getD "0") = some after)
    (hbound : after < 2 ^ 63) (h : Seamed request after s) {event : WatchEvent}
    (hseamless : Seamless request after s event) :
    Seamed request after (watchStep request s event) := by
  cases event with
  | commit tables channelId payload occurredAt => exact watchCommit_seamed h hseamless
  | pull => exact watchPull_seamed hcursor hbound h hseamless
  | wake => exact watchWake_seamed h
  | «return» => exact watchReturn_seamed h

end Seams

/-- A commit that leaves the tables alone. -/
def post (db : Database) (channelId : String) (label : String) : WatchEvent :=
  .commit db (some channelId) (.channelLabelUpdated channelId (some label)) "noon"

def harbour : Channel :=
  ⟨"harbour", none, "dawn", none, .active, none, .all, .open⟩

/-- A store with one channel and two changes of it. -/
def moored : Database :=
  let db : Database := { Database.empty with
    channels := ⟨[harbour], List.nodup_singleton _⟩ }
  (db.record (some "harbour") (.channelRegistered "harbour" "dawn" none) "dawn" none).record
    (some "harbour") (.channelLabelUpdated "harbour" (some "quay")) "dawn" none

/-- Resume after the first change, and hear of two more. -/
def resumed : List WatchEvent :=
  [.pull, .pull, post moored "harbour" "pier", post moored "bridge" "deck", .wake,
    post moored "harbour" "dock", .pull, .pull]

end Wardroom.Feeds
