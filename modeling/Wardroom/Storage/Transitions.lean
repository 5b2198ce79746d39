import Wardroom.Storage.ImportEffects
import Wardroom.Storage.MessageEffects

/-! # What a step of the store can do

Whatever is called on a store at rest, the step has no effect, has its effect
on the database, or moves an import along. Properties of databases carry over
to the store, with the database an open import would restore.
-/

namespace Wardroom.Storage
open Wardroom.Library Wardroom.Domain Prog

/-- A step whose effect on the database is one that `E` allows. -/
inductive Transition (E : World → Database → Prop) (w w' : World) : Prop
  | refused (hdb : w'.db = w.db) (hkeeps : Keeps w w')
  | effect (hdb : E w w'.db) (hkeeps : Keeps w w')
  | began (h : Began w w')
  | committed (h : ImportCommitted w w')
  | rolledBack (h : RolledBack w w')

/-- Holds of the database and of the one that a rollback of an open import restores. -/
def Durable (I : Database → Prop) (w : World) : Prop :=
  I w.db ∧ ∀ session, w.importSession = some session → I session.before

section Transition

variable {E : World → Database → Prop} {I : Database → Prop} {w w' : World}

theorem Transition.durable (hE : ∀ db', I w.db → E w db' → I db')
    (hbatches : ∀ db batches, I db → I { db with importBatches := batches })
    (h : Transition E w w') (hI : Durable I w) : Durable I w' := by
  cases h with
  | refused hdb hkeeps => exact ⟨hdb ▸ hI.1, hkeeps.importSession ▸ hI.2⟩
  | effect hdb hkeeps => exact ⟨hE _ hI.1 hdb, hkeeps.importSession ▸ hI.2⟩
  | began h =>
    obtain ⟨batches, hdb⟩ := h.db
    obtain ⟨session, hsession, hbefore⟩ := h.importSession
    refine ⟨hdb ▸ hbatches _ _ hI.1, fun s hs => ?_⟩
    cases hsession.symm.trans hs
    exact hbefore ▸ hI.1
  | committed h =>
    obtain ⟨batches, hdb⟩ := h.db
    refine ⟨hdb ▸ hbatches _ _ hI.1, fun s hs => ?_⟩
    cases h.importSession.symm.trans hs
  | rolledBack h =>
    refine ⟨?_, fun s hs => ?_⟩
    · rw [h.db]
      cases hw : w.importSession with
      | none => exact hI.1
      | some session => exact hI.2 session hw
    · cases h.importSession.symm.trans hs

theorem Transition.transactionDepth (h : Transition E w w') :
    w'.transactionDepth = w.transactionDepth := by
  cases h with
  | refused _ hkeeps => exact hkeeps.transactionDepth
  | effect _ hkeeps => exact hkeeps.transactionDepth
  | began h => exact h.transactionDepth
  | committed h => exact h.transactionDepth
  | rolledBack h => exact h.transactionDepth

/-- What an open import would restore is a prefix of the journal. -/
def Restores (w : World) : Prop :=
  ∀ session, w.importSession = some session → session.before.changes.rows <+: w.db.changes.rows

theorem Transition.restores (hE : ∀ db', E w db' → w.db.changes.rows <+: db'.changes.rows)
    (h : Transition E w w') (hI : Restores w) : Restores w' := by
  intro session hs
  cases h with
  | refused hdb hkeeps => exact hdb ▸ hI session (hkeeps.importSession ▸ hs)
  | effect hdb hkeeps => exact (hI session (hkeeps.importSession ▸ hs)).trans (hE _ hdb)
  | began h =>
    obtain ⟨batches, hdb⟩ := h.db
    obtain ⟨s, hsession, hbefore⟩ := h.importSession
    cases hsession.symm.trans hs
    rw [hdb]
    exact hbefore ▸ List.prefix_rfl
  | committed h => cases h.importSession.symm.trans hs
  | rolledBack h => cases h.importSession.symm.trans hs

end Transition

section Steps

variable {α : Type} {w : World}

theorem transition_of_settles {x : Command α} {P : α → Database → Prop} (h : Settles x w P) :
    Transition (fun _ db' => ∃ a, P a db') w (x w).2 := by
  rcases h.outcome with ⟨a, _, heffect⟩ | ⟨_, hdb⟩
  · exact .effect ⟨a, heffect⟩ h.keeps
  · exact .refused hdb h.keeps

theorem Transition.mono {E E' : World → Database → Prop} {w w' : World} (h : Transition E w w')
    (hE : ∀ db', E w db' → E' w db') : Transition E' w w' := by
  cases h with
  | refused hdb hkeeps => exact .refused hdb hkeeps
  | effect hdb hkeeps => exact .effect (hE _ hdb) hkeeps
  | began h => exact .began h
  | committed h => exact .committed h
  | rolledBack h => exact .rolledBack h

/-- The database of an effect is the one the step leaves. -/
theorem Transition.reached {E : World → Database → Prop} {w w' : World} (h : Transition E w w') :
    Transition (fun v db' => E v db' ∧ db' = w'.db) w w' := by
  cases h with
  | refused hdb hkeeps => exact .refused hdb hkeeps
  | effect hdb hkeeps => exact .effect ⟨hdb, rfl⟩ hkeeps
  | began h => exact .began h
  | committed h => exact .committed h
  | rolledBack h => exact .rolledBack h

theorem importBegin_transition (E : World → Database → Prop) (sourceDigest : String)
    (sourceVersion : Int) : Transition E w (importBegin sourceDigest sourceVersion w).2 := by
  rcases cases_of_wp (importBegin_effect w sourceDigest sourceVersion) with
    ⟨_, _, hbegan⟩ | ⟨_, _, hdb, hkeeps⟩
  · exact .began hbegan
  · exact .refused hdb hkeeps

theorem importCommit_transition (E : World → Database → Prop) :
    Transition E w (importCommit w).2 := by
  rcases cases_of_wp (importCommit_effect w) with ⟨_, _, hcommitted⟩ | ⟨_, _, hsame⟩
  · exact .committed hcommitted
  · rw [hsame]
    exact .refused rfl (.refl w)

theorem importRollback_transition (E : World → Database → Prop) :
    Transition E w (importRollback w).2 := .rolledBack (importRollback_effect w)

theorem importAppend_transition (event : CanonicalImportEvent) :
    Transition (fun w db' => ∃ session, w.importSession = some session ∧
      ImportAppended session event w.db db') w (importAppend event w).2 := by
  rcases cases_of_wp (importAppend_effect w event) with
    ⟨_, _, hkeeps, happended⟩ | ⟨_, _, hback⟩
  · exact .effect happended hkeeps
  · exact .rolledBack hback

end Steps
/-- A property that every record and every row of an import keeps is kept by an event of the import,
which takes all of it back when it throws. -/
theorem Durable.importAppend {I : Database → Prop} {w : World}
    (hmessage : ∀ db, I db → ∀ channelId event at' ordinal, I (db.record channelId (.messageSent event) at' ordinal))
    (hlegacy : ∀ db, I db → ∀ channelId record at' ordinal, I (db.record channelId (.legacy record) at' ordinal))
    (hclosed : ∀ session, ImportClosed session I) (hI : Durable I w) (event : CanonicalImportEvent) :
    Durable I (importAppend event w).2 := by
  have hback {w' : World} (h : RolledBack w w') : Durable I w' := by
    refine ⟨?_, fun session hs => ?_⟩
    · rw [h.db]
      cases hw : w.importSession with
      | none => exact hI.1
      | some session => exact hI.2 session hw
    · cases h.importSession.symm.trans hs
  cases hsession : w.importSession with
  | none =>
    rcases cases_of_wp (importAppend_effect w event) with ⟨_, _, _, session, hopen, _⟩ | ⟨_, _, h⟩
    · cases hsession.symm.trans hopen
    · exact hback h
  | some session =>
    have hwp := wp_importAppend (P := I) hsession event (fun _ _ _ _ _ _ => hmessage _ hI.1 _ _ _ _)
      fun hkind => (importEffect_closed (hclosed session) hI.1 event hkind).mono
        fun _ _ hdb => hlegacy _ hdb _ _ _ _
    rcases cases_of_wp hwp with ⟨_, _, hkeeps, hdb⟩ | ⟨_, _, h⟩
    · exact ⟨hdb, fun s hs => hI.2 s (hkeeps.importSession ▸ hs)⟩
    · exact hback h

end Wardroom.Storage
