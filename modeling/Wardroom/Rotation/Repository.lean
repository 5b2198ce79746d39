import Wardroom.Storage.Effects

/-! # The swap of a rotated worker

Rotation shares the connection of the store but not its write calls: the swap
is a transaction of its own, and writes no journal row.
-/

namespace Wardroom.Rotation
open Wardroom.Library Wardroom.Domain Wardroom.Storage Prog

/-- `BEGIN IMMEDIATE` … `COMMIT`, with a rollback on every exception. -/
def immediate {α : Type} (body : Command α) : Command α := fun w =>
  if 0 < w.transactionDepth ∨ w.importSession.isSome then
    (.error (.sqlite "cannot start a transaction within a transaction"), w)
  else atomically World.db (fun db w => { w with db := db }) body w

structure SwapInput where
  channelId : String
  oldSessionId : String
  replacementSessionId : String
  expectedOldGeneration : Nat

/-- `inspected` is the generation of the runtime that the inspector finds for the old session. -/
def swapWorker (inspected : Option Nat) (input : SwapInput) : Command Unit := immediate do
  throwIf (inspected ≠ some input.expectedOldGeneration) (.runtime "rotationTargetChanged")
  let at' ← now
  let db ← database
  let left := (db.activeRows input.channelId input.oldSessionId).length
  modifyDatabase fun db => { db with
    memberships := db.memberships.update
      (fun m => m.channelId = input.channelId ∧ m.sessionId = input.oldSessionId ∧ m.active)
      (fun m => { m with leftAt := some at' }) (Membership.key_leftAt at') }
  throwIf (left ≠ 1) (.runtime "rotationTargetChanged")
  let db ← database
  references (db.channels.has input.channelId && db.sessions.has input.replacementSessionId)
  let memberships ← constrained (db.memberships.insert?
    ⟨input.channelId, input.replacementSessionId, at', none, none, some .worker⟩)
    "UNIQUE constraint failed: memberships.channel_id, memberships.session_id, memberships.joined_at"
  modifyDatabase fun db => { db with memberships := memberships }

/-- The database with the active memberships of one pair marked as left. -/
def retire (db : Database) (channelId sessionId leftAt : String) : Database :=
  { db with
    memberships := db.memberships.update
      (fun m => m.channelId = channelId ∧ m.sessionId = sessionId ∧ m.active)
      (fun m => { m with leftAt := some leftAt }) (Membership.key_leftAt leftAt) }

/-- One active membership of the old session leaves, and one of the replacement begins. -/
inductive Swapped (input : SwapInput) (db : Database) : Database → Prop
  | mk (at' : String) (memberships : Table Membership.key)
      (hone : (db.activeRows input.channelId input.oldSessionId).length = 1)
      (hinsert : (retire db input.channelId input.oldSessionId at').memberships.insert?
        ⟨input.channelId, input.replacementSessionId, at', none, none, some .worker⟩ =
          some memberships) :
      Swapped input db { db with memberships := memberships }

theorem immediate_settles {α : Type} {body : Command α} {w : World} {P : α → Database → Prop}
    (h : Ensures body w P) : Settles (immediate body) w P := by
  by_cases hbusy : 0 < w.transactionDepth ∨ w.importSession.isSome
  · unfold Settles wp immediate
    rw [if_pos hbusy]
    exact ⟨rfl, .refl w⟩
  · have hbody : Settles (atomically World.db (fun db w => { w with db := db }) body) w P := by
      unfold Settles
      rw [wp_atomically]
      exact wp_mono h (fun _ _ hpost => hpost) fun _ _ hkeeps =>
        ⟨rfl, hkeeps.transactionDepth, hkeeps.importSession, hkeeps.uuids, hkeeps.draws⟩
    have hrun : immediate body w = atomically World.db (fun db w => { w with db := db }) body w :=
      if_neg hbusy
    unfold Settles wp at hbody ⊢
    rw [hrun]
    exact hbody

structure Swaps (inspected : Option Nat) (input : SwapInput) (w : World) : Prop where
  generation : inspected = some input.expectedOldGeneration
  single : (w.db.activeRows input.channelId input.oldSessionId).length = 1
  present : (w.db.channels.has input.channelId && w.db.sessions.has input.replacementSessionId) = true
  fresh : w.db.memberships.has
    (input.channelId, input.replacementSessionId, w.clock w.ticks) = false

theorem swapWorker_settles (w : World) (inspected : Option Nat) (input : SwapInput) :
    Settles (swapWorker inspected input) w fun _ db' =>
      Swaps inspected input w ∧ Swapped input w.db db' := by
  refine immediate_settles ?_
  simp only [Ensures, wp_bind, wp_throwIf, wp_now, wp_database, wp_modifyDatabase, wp_references,
    wp_constrained]
  refine ⟨fun _ => .refl w, fun hgeneration => ⟨fun _ => ⟨rfl, rfl, rfl, le_rfl⟩, fun hone =>
    ⟨fun hpresent => ⟨fun memberships hinsert => ?_, fun _ => ⟨rfl, rfl, rfl, le_rfl⟩⟩,
      fun _ => ⟨rfl, rfl, rfl, le_rfl⟩⟩⟩⟩
  have hfresh := (Table.insert?_eq_some.mp hinsert).1
  rw [Table.has_rewrite rfl (fun _ => by rfl)] at hfresh
  exact ⟨⟨⟨not_not.mp hgeneration, not_not.mp hone, hpresent, Bool.not_eq_true _ ▸ hfresh⟩,
    .mk _ memberships (not_not.mp hone) hinsert⟩, ⟨rfl, rfl, rfl, le_rfl⟩⟩

theorem swapWorker_refused {w : World} (h : w.importSession.isSome = true) (inspected : Option Nat)
    (input : SwapInput) : (swapWorker inspected input w).2 = w := by
  unfold swapWorker immediate
  rw [if_pos (.inr h)]

end Wardroom.Rotation
