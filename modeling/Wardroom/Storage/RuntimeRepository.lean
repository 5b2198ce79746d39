import Wardroom.Runtime.Contracts
import Wardroom.Storage.Messages
import Wardroom.Storage.Roster

/-! # The runtimes of the daemon

The runtime tables share the connection of the store. What their transactions
write is rolled back with the rest of the database; the lifecycle of a bound
runtime is journaled by a write call of its own, after the commit.
-/

namespace Wardroom.Storage
open Wardroom.Library Wardroom.Domain Prog

structure Daemon where
  store : World
  runtimes : Table Runtime.runtimeId
  bindings : Table RuntimeBinding.runtimeId
  quotas : Table RuntimeQuota.machineId

abbrev Action (α : Type) := Prog Daemon Failure α

def onStore {α : Type} (x : Command α) : Action α := fun d =>
  ((x d.store).1, { d with store := (x d.store).2 })

namespace Daemon

abbrev db (d : Daemon) : Database := d.store.db

/-- Everything the connection would roll back. -/
def tables (d : Daemon) : Database × Table Runtime.runtimeId × Table RuntimeBinding.runtimeId :=
  (d.store.db, d.runtimes, d.bindings)

def restore (tables : Database × Table Runtime.runtimeId × Table RuntimeBinding.runtimeId)
    (d : Daemon) : Daemon :=
  { d with store := { d.store with db := tables.1 }, runtimes := tables.2.1, bindings := tables.2.2 }

/-- No transaction is open. -/
def AtRest (d : Daemon) : Prop := d.store.transactionDepth = 0

/-- The daemon with no runtime over a store. -/
def initial (w : World) : Daemon := ⟨w, .empty, .empty, .empty⟩

def runtime (d : Daemon) (runtimeId : String) : Option Runtime := d.runtimes.find? runtimeId

def binding (d : Daemon) (runtimeId : String) : Option RuntimeBinding := d.bindings.find? runtimeId

/-- `ORDER BY created_at, runtime_id`. -/
def creationOrder (a b : Runtime) : Prop :=
  a.createdAt < b.createdAt ∨ a.createdAt = b.createdAt ∧ a.runtimeId ≤ b.runtimeId

instance : DecidableRel creationOrder := fun _ _ => inferInstanceAs (Decidable (_ ∨ _))

def list (d : Daemon) : List Runtime := d.runtimes.rows.insertionSort creationOrder

/-- The runtime of a session that takes its deliveries: the live one of the highest generation. -/
def deliveryRuntime (d : Daemon) (sessionId : String) : Option Runtime :=
  ((d.list.filter fun r => r.sessionId = sessionId && r.endedAt.isNone &&
    r.state.delivers).insertionSort fun a b => b.generation ≤ a.generation).head?

/-- A live runtime that already holds the provider conversation. -/
def providerThreadHolder (d : Daemon) (providerThreadId exceptRuntimeId : String) : Option Runtime :=
  d.list.find? fun r => r.providerThreadId = some providerThreadId && r.runtimeId ≠ exceptRuntimeId &&
    r.endedAt.isNone && r.state.occupies

def maxActiveRuntimes (d : Daemon) (machineId : String) : Nat :=
  ((d.quotas.find? machineId).map RuntimeQuota.maxActiveRuntimes).getD 1000000

def activeRuntimes (d : Daemon) (machineId : String) : Nat :=
  (d.runtimes.select fun r => r.machineId = machineId && r.state.occupies).length

end Daemon

/-- `BEGIN IMMEDIATE` … `COMMIT`, with a rollback on every exception. -/
def transaction {α : Type} (body : Action α) : Action α := fun d =>
  if 0 < d.store.transactionDepth ∨ d.store.importSession.isSome then
    (.error (.sqlite "cannot start a transaction within a transaction"), d)
  else atomically Daemon.tables Daemon.restore body d

section Rules

variable {α : Type} {d : Daemon} {Q : α → Daemon → Prop} {E : Failure → Daemon → Prop}

@[simp] theorem wp_onStore {x : Command α} :
    wp (onStore x) Q E d ↔
      wp x (fun a w => Q a { d with store := w }) (fun e w => E e { d with store := w }) d.store := by
  unfold wp onStore
  rcases x d.store with ⟨r, w⟩
  cases r <;> rfl

theorem wp_transaction_iff {body : Action α} :
    wp (transaction body) Q E d ↔
      (0 < d.store.transactionDepth ∨ d.store.importSession.isSome →
        E (.sqlite "cannot start a transaction within a transaction") d) ∧
      (¬(0 < d.store.transactionDepth ∨ d.store.importSession.isSome) →
        wp body Q (fun e d' => E e (Daemon.restore d.tables d')) d) := by
  by_cases hopen : 0 < d.store.transactionDepth ∨ d.store.importSession.isSome
  · have hrefused : transaction body d =
        (.error (.sqlite "cannot start a transaction within a transaction"), d) := if_pos hopen
    simp [wp, hrefused, hopen]
  · have hruns : transaction body d = atomically Daemon.tables Daemon.restore body d := if_neg hopen
    have hsame : wp (transaction body) Q E d ↔
        wp (atomically Daemon.tables Daemon.restore body) Q E d := by
      unfold wp
      rw [hruns]
    rw [hsame, wp_atomically]
    simp [hopen]

theorem wp_transaction {body : Action α}
    (hbusy : E (.sqlite "cannot start a transaction within a transaction") d)
    (h : wp body Q (fun e d' => E e (Daemon.restore d.tables d')) d) : wp (transaction body) Q E d :=
  wp_transaction_iff.mpr ⟨fun _ => hbusy, fun _ => h⟩

end Rules

/-- The lifecycle of a runtime that is bound to a channel is told to the channel. -/
def emitLifecycle (runtimeId : String) : Action Unit := do
  let d ← read
  match d.runtime runtimeId, (d.binding runtimeId).bind RuntimeBinding.channelId with
  | some runtime, some channelId =>
    if channelId = "" then pure ()
    else do
      let _ ← onStore (recordRuntimeLifecycle channelId runtime.sessionId runtime.runtimeId
        runtime.generation runtime.state.text runtime.endedAt)
      pure ()
  | _, _ => pure ()

/-- The row of a runtime in a new state; an end or a reason once given stays. -/
def Runtime.marked (state : RuntimeState) (reason : Option String) (at' : String) (r : Runtime) :
    Runtime :=
  { r with
    state := state, updatedAt := at'
    endedAt := if state.ends then some at' else r.endedAt
    exitReason := reason.or r.exitReason }

theorem Runtime.runtimeId_marked (state : RuntimeState) (reason : Option String) (at' : String)
    (r : Runtime) : (Runtime.marked state reason at' r).runtimeId = r.runtimeId := rfl

def requireRuntime (runtimeId : String) : Action Runtime := do
  let d ← read
  match d.runtime runtimeId with
  | none => fail (.coded "runtimeNotFound")
  | some runtime => pure runtime

def markState (runtimeId : String) (generation : Nat) (state : RuntimeState)
    (reason : Option String) : Action Unit := do
  transaction do
    let runtime ← requireRuntime runtimeId
    if runtime.generation ≠ generation then fail (.coded "staleRuntimeGeneration")
    else do
      let at' ← onStore now
      modify fun d => { d with
        runtimes := d.runtimes.update
          (fun r => r.runtimeId = runtimeId ∧ r.generation = generation)
          (Runtime.marked state reason at') (Runtime.runtimeId_marked state reason at') }
  emitLifecycle runtimeId

/-- Why a provider conversation was not claimed. -/
inductive ClaimRefusal where
  | conflict | runtimeNotFound | invalidProviderThreadId | alreadyBound
  deriving DecidableEq, Repr

inductive ClaimOutcome where
  | claimed (runtime : Runtime)
  | refused (reason : ClaimRefusal)
  deriving DecidableEq, Repr

def Runtime.holding (providerThreadId at' : String) (r : Runtime) : Runtime :=
  { r with providerThreadId := some providerThreadId, updatedAt := at' }

theorem Runtime.runtimeId_holding (providerThreadId at' : String) (r : Runtime) :
    (Runtime.holding providerThreadId at' r).runtimeId = r.runtimeId := rfl

theorem Session.id_holding (providerThreadId : String) (s : Session) :
    ({ s with providerThreadId := some providerThreadId } : Session).id = s.id := rfl

/-- Claim a provider conversation for a runtime; of the live runtimes only one may hold it. -/
def tryClaimProviderThreadId (runtimeId providerThreadId : String) (allowReplace : Bool) :
    Action ClaimOutcome :=
  if Text.blank providerThreadId then pure (.refused .invalidProviderThreadId)
  else transaction do
    let d ← read
    match d.runtime runtimeId with
    | none => pure (.refused .runtimeNotFound)
    | some runtime =>
      if runtime.providerThreadId = some providerThreadId then pure (.claimed runtime)
      else if runtime.providerThreadId.isSome ∧ ¬allowReplace then pure (.refused .alreadyBound)
      else if (d.providerThreadHolder providerThreadId runtimeId).isSome then
        pure (.refused .conflict)
      else do
        let at' ← onStore now
        modify fun d => { d with
          runtimes := d.runtimes.update (fun r => r.runtimeId = runtimeId)
            (Runtime.holding providerThreadId at') (Runtime.runtimeId_holding providerThreadId at') }
        onStore (modifyDatabase fun db => { db with
          sessions := db.sessions.update (fun s => s.id = runtime.sessionId ∧ s.endedAt = none)
            (fun s => { s with providerThreadId := some providerThreadId })
            (Session.id_holding providerThreadId) })
        pure (.claimed (Runtime.holding providerThreadId at' runtime))

/-- Without leave to replace, a claim is for a runtime that holds nothing else; it then holds the
conversation. -/
theorem tryClaim_spec (d : Daemon) (runtimeId providerThreadId : String) :
    wp (tryClaimProviderThreadId runtimeId providerThreadId false)
      (fun outcome d' => ∀ claimed, outcome = .claimed claimed →
        (∃ r, d.runtime runtimeId = some r ∧
          (r.providerThreadId = none ∨ r.providerThreadId = some providerThreadId)) ∧
        ∃ r, d'.runtime runtimeId = some r ∧ r.providerThreadId = some providerThreadId)
      (fun _ _ => True) d := by
  unfold tryClaimProviderThreadId
  have hrefused {reason : ClaimRefusal} {claimed : Runtime} {P : Prop}
      (h : ClaimOutcome.refused reason = .claimed claimed) : P := by cases h
  refine (wp_ite _ _).mpr ⟨fun _ _ h => hrefused h, fun _ => wp_transaction trivial ?_⟩
  rw [wp_bind, wp_read]
  cases hruntime : d.runtime runtimeId with
  | none => exact fun _ h => hrefused h
  | some runtime =>
    simp only [wp_ite, wp_pure, wp_bind, wp_onStore, wp_now, wp_modify, wp_modifyDatabase]
    refine ⟨fun hsame _ _ => ⟨⟨runtime, rfl, .inr hsame⟩, runtime, hruntime, hsame⟩,
      fun _ => ⟨fun _ _ h => hrefused h, fun hunbound => ⟨fun _ _ h => hrefused h,
        fun _ _ _ => ⟨⟨runtime, rfl, .inl (by simpa using hunbound)⟩, ?_⟩⟩⟩⟩
    have hid : runtime.runtimeId = runtimeId := (Table.find?_some hruntime).2
    refine ⟨Runtime.holding providerThreadId (d.store.clock d.store.ticks) runtime, ?_, rfl⟩
    unfold Daemon.runtime at hruntime ⊢
    rw [Table.find?_rewrite rfl (Runtime.runtimeId_holding _ _), hruntime, Option.map_some,
      if_pos (by simpa using hid)]

namespace Database

/-- The sender that the first stored message of the id names. -/
def canonicalMessageSender (db : Database) (messageId : String) : Option String :=
  (db.messageRow messageId).bind fun row =>
    (row.2.member "senderSessionId").bind Json.extractText

/-- The recipients of a message whose target names no single session. -/
def addressedSet (event : Json) : List String :=
  match (event.member "target").bind fun t => t.member "sessionIds" with
  | some (.arr ids) => Json.texts ids
  | _ =>
    match event.member "deliveredRecipientSessionIds" with
    | some (.arr ids) => Json.texts ids
    | _ => []

/-- The sessions a stored message addresses. -/
def canonicalMessageRecipients (db : Database) (messageId : String) : List String :=
  match db.messageRow messageId with
  | none => []
  | some (_, event) =>
    match (event.member "target").bind fun t => t.member "sessionId" with
    | some (.str sessionId) => if sessionId ≠ "" then [sessionId] else addressedSet event
    | _ => addressedSet event

end Database

end Wardroom.Storage
