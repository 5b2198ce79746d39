import Wardroom.Storage.Database
import Wardroom.Library.Program

/-! # Commands, write transactions and change notification

The world of a store is its database together with what the process keeps
beside it: the registered change listeners, the depth of nested write calls, a
transaction that an import holds open, and the clock and the source of random
ids. A rollback gives back the database and nothing else.
-/

namespace Wardroom.Storage
open Wardroom.Library Wardroom.Domain

/-- A listener answers each change by returning or by throwing; the answer may depend on what it
has been handed before. -/
structure Listener where
  reacts : List Change → Change → Option Failure
  seen : List Change

/-- An open import transaction: the database its rollback restores and the rows that existed when
it began. -/
structure ImportSession where
  before : Database
  existingChannels : List String
  existingSessions : List String
  existingMemberships : List String

structure World where
  db : Database
  listeners : List Listener
  transactionDepth : Nat
  importSession : Option ImportSession
  clock : Nat → String
  ticks : Nat
  uuids : Nat → String
  draws : Nat

abbrev Command (α : Type) := Prog World Failure α

open Prog

def database : Command Database := fun w => (.ok w.db, w)

def modifyDatabase (f : Database → Database) : Command Unit := modify fun w => { w with db := f w.db }

def now : Command String := fun w => (.ok (w.clock w.ticks), { w with ticks := w.ticks + 1 })

def randomUUID : Command String := fun w => (.ok (w.uuids w.draws), { w with draws := w.draws + 1 })

def throwIf (c : Prop) [Decidable c] (e : Failure) : Command Unit := if c then fail e else pure ()

/-- The outcome of a statement that a table constraint may refuse. -/
def constrained {α : Type} (outcome : Option α) (message : String) : Command α :=
  match outcome with
  | some a => pure a
  | none => fail (.sqlite message)

def references (present : Bool) : Command Unit :=
  throwIf (present = false) (.sqlite "FOREIGN KEY constraint failed")

/-- Hand a change to the listeners in turn. One that throws ends the round. -/
def broadcast (change : Change) : List Listener → List Listener × Option Failure
  | [] => ([], none)
  | l :: ls =>
    let told : Listener := { l with seen := l.seen ++ [change] }
    match l.reacts l.seen change with
    | some e => (told :: ls, some e)
    | none => let rest := broadcast change ls; (told :: rest.1, rest.2)

def notify (change : Change) : Command Unit := fun w =>
  let outcome := broadcast change w.listeners
  (match outcome.2 with
    | some e => .error e
    | none => .ok (),
   { w with listeners := outcome.1 })

namespace Database

/-- A channel column may be null or must name a stored channel. -/
def channelReference (db : Database) (channelId : Option String) : Bool :=
  channelId.all fun id => db.channels.has id

/-- The database with one more row in its journal. -/
def record (db : Database) (channelId : Option String) (payload : Payload) (occurredAt : String)
    (sourceOrdinal : Option Int) : Database :=
  { db with changes := db.changes.append channelId payload occurredAt sourceOrdinal }

end Database

/-- The receipt of a command that found nothing to do. -/
def unchanged : Command MutationReceipt := do
  let db ← database
  return { cursor := db.changes.latestCursor, didAppend := false, changes := [] }

def appendChange (channelId : Option String) (payload : Payload) : Command MutationReceipt := do
  let occurredAt ← now
  let db ← database
  references (db.channelReference channelId)
  modifyDatabase fun db => db.record channelId payload occurredAt none
  let db ← database
  let cursor := db.changes.latestCursor
  let change : Change := ⟨cursor, channelId, payload, occurredAt, none⟩
  notify change
  return { cursor := cursor, didAppend := true, changes := [change] }

/-- The outermost call runs its body in a transaction; a nested one only runs it. The connection
refuses a second transaction while an import holds one. -/
def write {α : Type} (body : Command α) : Command α := fun w =>
  if 0 < w.transactionDepth then body w
  else if w.importSession.isSome then
    (.error (.sqlite "cannot start a transaction within a transaction"), w)
  else
    let outcome := atomically World.db (fun db w => { w with db := db }) body
      { w with transactionDepth := w.transactionDepth + 1 }
    (outcome.1, { outcome.2 with transactionDepth := w.transactionDepth })

def command {α : Type} (operation : Command α) : Command α := write operation

def onChange (reacts : List Change → Change → Option Failure) : Command Unit :=
  modify fun w => { w with listeners := w.listeners ++ [⟨reacts, []⟩] }

/-- The daemon's store before its first command: no listener, no transaction. -/
def World.initial (db : Database) (clock uuids : Nat → String) : World :=
  ⟨db, [], 0, none, clock, 0, uuids, 0⟩

/-- A source of distinct readings in increasing order. -/
def tally (n : Nat) : String := String.ofList (List.replicate n '1')

variable {α : Type} {Q : α → World → Prop} {E : Failure → World → Prop} {w : World}

@[simp] theorem wp_database {Q : Database → World → Prop} : wp database Q E w ↔ Q w.db w := Iff.rfl

@[simp] theorem wp_modifyDatabase {Q : Unit → World → Prop} (f : Database → Database) :
    wp (modifyDatabase f) Q E w ↔ Q () { w with db := f w.db } := Iff.rfl

@[simp] theorem wp_now {Q : String → World → Prop} :
    wp now Q E w ↔ Q (w.clock w.ticks) { w with ticks := w.ticks + 1 } := Iff.rfl

@[simp] theorem wp_randomUUID {Q : String → World → Prop} :
    wp randomUUID Q E w ↔ Q (w.uuids w.draws) { w with draws := w.draws + 1 } := Iff.rfl

@[simp] theorem wp_throwIf {Q : Unit → World → Prop} (c : Prop) [Decidable c] (e : Failure) :
    wp (throwIf c e) Q E w ↔ (c → E e w) ∧ (¬c → Q () w) := by
  simp [throwIf]

@[simp] theorem wp_constrained (outcome : Option α) (message : String) :
    wp (constrained outcome message) Q E w ↔
      (∀ a, outcome = some a → Q a w) ∧ (outcome = none → E (.sqlite message) w) := by
  cases outcome <;> simp [constrained]

@[simp] theorem wp_references {Q : Unit → World → Prop} (present : Bool) :
    wp (references present) Q E w ↔
      (present = true → Q () w) ∧
        (present = false → E (.sqlite "FOREIGN KEY constraint failed") w) := by
  cases present <;> simp [references]

@[simp] theorem wp_unchanged {Q : MutationReceipt → World → Prop} :
    wp unchanged Q E w ↔ Q ⟨w.db.changes.latestCursor, false, []⟩ w := Iff.rfl

/-- The change that a row appended now would be handed out as. -/
def World.nextChange (w : World) (channelId : Option String) (payload : Payload) : Change :=
  ⟨w.db.changes.latestCursor + 1, channelId, payload, w.clock w.ticks, none⟩

/-- The world once a change is stored and the listeners were told. -/
def World.appended (w : World) (channelId : Option String) (payload : Payload) : World :=
  { w with
    db := w.db.record channelId payload (w.clock w.ticks) none
    ticks := w.ticks + 1
    listeners := (broadcast (w.nextChange channelId payload) w.listeners).1 }

@[simp] theorem appended_db (w : World) (channelId : Option String) (payload : Payload) :
    (w.appended channelId payload).db = w.db.record channelId payload (w.clock w.ticks) none := rfl

theorem latestCursor_append (j : Journal) (channelId : Option String) (payload : Payload)
    (occurredAt : String) (sourceOrdinal : Option Int) :
    (j.append channelId payload occurredAt sourceOrdinal).latestCursor = j.latestCursor + 1 := by
  have hfold (ns : List Nat) (n : Nat) (h : ∀ m ∈ ns, m < n) : (ns ++ [n]).foldr max 0 = n := by
    induction ns with
    | nil => simp
    | cons m ns ih =>
      rw [List.cons_append, List.foldr_cons, ih fun k hk => h k (List.mem_cons_of_mem _ hk)]
      exact max_eq_right (h m List.mem_cons_self).le
  unfold Journal.latestCursor
  rw [Journal.rows_append, List.map_append, List.map_singleton]
  apply hfold
  intro m hm
  obtain ⟨c, hc, rfl⟩ := List.mem_map.mp hm
  exact Nat.lt_succ_of_le (Journal.cursor_le_latest hc)

theorem wp_appendChange {Q : MutationReceipt → World → Prop} (channelId : Option String)
    (payload : Payload) :
    wp (appendChange channelId payload) Q E w ↔
      (w.db.channelReference channelId = true →
        match (broadcast (w.nextChange channelId payload) w.listeners).2 with
        | none => Q ⟨w.db.changes.latestCursor + 1, true, [w.nextChange channelId payload]⟩
            (w.appended channelId payload)
        | some e => E e (w.appended channelId payload)) ∧
      (w.db.channelReference channelId = false →
        E (.sqlite "FOREIGN KEY constraint failed") { w with ticks := w.ticks + 1 }) := by
  simp only [appendChange, wp_bind, wp_now, wp_database, wp_references, wp_modifyDatabase]
  refine and_congr (imp_congr_right fun _ => ?_) Iff.rfl
  unfold wp notify
  simp only [Database.record, latestCursor_append, World.nextChange, World.appended]
  cases (broadcast ⟨w.db.changes.latestCursor + 1, channelId, payload, w.clock w.ticks, none⟩
    w.listeners).2 <;> rfl

/-- The world inside an outermost write call. -/
def World.entered (w : World) : World := { w with transactionDepth := w.transactionDepth + 1 }

theorem wp_write_nested (body : Command α) (h : 0 < w.transactionDepth) :
    wp (write body) Q E w ↔ wp body Q E w := by
  simp only [wp, write, if_pos h]

theorem wp_write_outermost (body : Command α) (hdepth : w.transactionDepth = 0)
    (himport : w.importSession = none) :
    wp (write body) Q E w ↔
      wp body (fun a w' => Q a { w' with transactionDepth := 0 })
        (fun e w' => E e { w' with db := w.db, transactionDepth := 0 }) w.entered := by
  have hwrite : wp (write body) Q E w ↔
      wp (atomically World.db (fun db w => { w with db := db }) body)
        (fun a w' => Q a { w' with transactionDepth := 0 })
        (fun e w' => E e { w' with transactionDepth := 0 }) w.entered := by
    unfold wp write World.entered
    simp only [hdepth, lt_irrefl, if_false, himport, Option.isSome_none, Bool.false_eq_true]
    rcases atomically World.db (fun db w => { w with db := db }) body _ with ⟨r, w'⟩
    cases r <;> rfl
  rw [hwrite, wp_atomically]
  rfl

/-- What no command of the store touches, apart from the importer's own: the transaction state and
the source of random ids, which is only ever drawn from. -/
structure Keeps (w w' : World) : Prop where
  transactionDepth : w'.transactionDepth = w.transactionDepth
  importSession : w'.importSession = w.importSession
  uuids : w'.uuids = w.uuids
  draws : w.draws ≤ w'.draws

namespace Keeps

variable {w w' w'' : World}

theorem refl (w : World) : Keeps w w := ⟨rfl, rfl, rfl, le_rfl⟩

theorem trans (h : Keeps w w') (h' : Keeps w' w'') : Keeps w w'' :=
  ⟨h'.transactionDepth.trans h.transactionDepth, h'.importSession.trans h.importSession,
    h'.uuids.trans h.uuids, h.draws.trans h'.draws⟩

end Keeps

/-- If the command returns, its result and the database satisfy `P`; either way it keeps what no
command touches. -/
def Ensures (x : Command α) (w : World) (P : α → Database → Prop) : Prop :=
  wp x (fun a w' => P a w'.db ∧ Keeps w w') (fun _ w' => Keeps w w') w

section Ensures

variable {β : Type} {x body : Command α} {P P' : α → Database → Prop}

theorem Ensures.of_ok {a : α} {w' : World} (h : Ensures x w P) (hx : x w = (.ok a, w')) :
    P a w'.db := by
  unfold Ensures at h
  have hpost := wp_of_ok h hx
  exact hpost.1

theorem Ensures.keeps (h : Ensures x w P) : Keeps w (x w).2 := by
  unfold Ensures at h
  rcases hx : x w with ⟨r, w'⟩
  cases r with
  | ok a => exact (wp_of_ok h hx).2
  | error e =>
    have hkeeps := wp_of_error h hx
    exact hkeeps

theorem Ensures.mono (h : Ensures x w P) (hP : ∀ a db, P a db → P' a db) : Ensures x w P' :=
  wp_mono h (fun a w' hpost => ⟨hP a w'.db hpost.1, hpost.2⟩) (fun _ _ hkeeps => hkeeps)

theorem ensures_seq {f : α → Command β} {R : β → Database → Prop} (hx : Ensures x w P)
    (hf : ∀ a w', P a w'.db → Ensures (f a) w' R) : Ensures (x >>= f) w R := by
  unfold Ensures
  rw [wp_bind]
  refine wp_mono hx (fun a w' hpost => ?_) (fun _ _ hkeeps => hkeeps)
  exact wp_mono (hf a w' hpost.1) (fun _ _ h => ⟨h.1, hpost.2.trans h.2⟩)
    (fun _ _ h => hpost.2.trans h)

theorem ensures_write (h : ∀ n, Ensures body { w with transactionDepth := n } P) :
    Ensures (write body) w P := by
  unfold Ensures
  by_cases hdepth : 0 < w.transactionDepth
  · rw [wp_write_nested body hdepth]
    exact h w.transactionDepth
  · by_cases himport : w.importSession = none
    · have hzero : w.transactionDepth = 0 := by omega
      rw [wp_write_outermost body hzero himport]
      exact wp_mono (h (w.transactionDepth + 1))
        (fun _ _ hpost => ⟨hpost.1, hzero.symm, hpost.2.importSession, hpost.2.uuids, hpost.2.draws⟩)
        (fun _ _ hkeeps => ⟨hzero.symm, hkeeps.importSession, hkeeps.uuids, hkeeps.draws⟩)
    · unfold wp write
      rw [if_neg hdepth, if_pos (Option.isSome_iff_ne_none.mpr himport)]
      exact .refl w

theorem ensures_appendChange {P : MutationReceipt → Database → Prop} {w w₁ : World}
    {channelId : Option String} {payload : Payload} (hkeeps : Keeps w w₁)
    (h : w₁.db.channelReference channelId = true →
      P ⟨w₁.db.changes.latestCursor + 1, true, [w₁.nextChange channelId payload]⟩
        (w₁.db.record channelId payload (w₁.clock w₁.ticks) none)) :
    wp (appendChange channelId payload) (fun a w' => P a w'.db ∧ Keeps w w')
      (fun _ w' => Keeps w w') w₁ := by
  have happended : Keeps w (w₁.appended channelId payload) :=
    ⟨hkeeps.transactionDepth, hkeeps.importSession, hkeeps.uuids, hkeeps.draws⟩
  rw [wp_appendChange]
  refine ⟨fun href => ?_, fun _ =>
    ⟨hkeeps.transactionDepth, hkeeps.importSession, hkeeps.uuids, hkeeps.draws⟩⟩
  cases (broadcast (w₁.nextChange channelId payload) w₁.listeners).2 with
  | none => exact ⟨h href, happended⟩
  | some e => exact happended

end Ensures

theorem write_error {body : Command α} {e : Failure} {w' : World} (hdepth : w.transactionDepth = 0)
    (h : write body w = (.error e, w')) : w'.db = w.db := by
  by_cases himport : w.importSession = none
  · have hw : wp (write body) (fun _ _ => True) (fun _ w' => w'.db = w.db) w := by
      rw [wp_write_outermost body hdepth himport]
      exact wp_of_cases (fun _ _ _ => trivial) (fun _ _ _ => rfl)
    have hdb := wp_of_error hw h
    exact hdb
  · unfold write at h
    rw [if_neg (by omega), if_pos (Option.isSome_iff_ne_none.mpr himport)] at h
    cases h
    rfl

/-- The command returns with its effect, or throws with none. -/
def Settles (x : Command α) (w : World) (P : α → Database → Prop) : Prop :=
  wp x (fun a w' => P a w'.db ∧ Keeps w w') (fun _ w' => w'.db = w.db ∧ Keeps w w') w

section Settles

variable {x body : Command α} {P P' : α → Database → Prop}

theorem write_settles (hx : x = write body) (hdepth : w.transactionDepth = 0)
    (h : Ensures x w P) : Settles x w P := by
  refine wp_of_cases (fun a w' hok => ?_) (fun e w' herror => ⟨write_error hdepth (hx ▸ herror), ?_⟩)
  · unfold Ensures at h
    have hpost := wp_of_ok h hok
    exact hpost
  · unfold Ensures at h
    have hkeeps := wp_of_error h herror
    exact hkeeps

theorem Settles.mono (h : Settles x w P) (hP : ∀ a db, P a db → P' a db) : Settles x w P' :=
  wp_mono h (fun a w' hpost => ⟨hP a w'.db hpost.1, hpost.2⟩) fun _ _ herror => herror

theorem Settles.of_ok {a : α} {w' : World} (h : Settles x w P) (hx : x w = (.ok a, w')) :
    P a w'.db := by
  unfold Settles at h
  have hpost := wp_of_ok h hx
  exact hpost.1

/-- The outcome of a command that settles. -/
theorem Settles.outcome (h : Settles x w P) :
    (∃ a, (x w).1 = .ok a ∧ P a (x w).2.db) ∨ ((∃ e, (x w).1 = .error e) ∧ (x w).2.db = w.db) := by
  rcases cases_of_wp h with ⟨a, hok, hpost, _⟩ | ⟨e, herror, hdb, _⟩
  · exact .inl ⟨a, hok, hpost⟩
  · exact .inr ⟨⟨e, herror⟩, hdb⟩

theorem Settles.keeps (h : Settles x w P) : Keeps w (x w).2 := by
  rcases cases_of_wp h with ⟨_, _, _, hkeeps⟩ | ⟨_, _, _, hkeeps⟩ <;> exact hkeeps

end Settles

/-- The command returns, with the database in `P`. -/
def Returns (x : Command α) (w : World) (P : Database → Prop) : Prop :=
  wp x (fun _ w' => P w'.db) (fun _ _ => False) w

/-- Nothing outside the command can make it throw: no open import, and no listener. -/
structure Quiet (w : World) : Prop where
  importSession : w.importSession = none
  listeners : w.listeners = []

theorem quiet_initial (db : Database) (clock uuids : Nat → String) :
    Quiet (World.initial db clock uuids) := ⟨rfl, rfl⟩

section Returns

variable {x body : Command α} {P : Database → Prop}

theorem Returns.ok (h : Returns x w P) : ∃ a, (x w).1 = .ok a ∧ P (x w).2.db := by
  rcases cases_of_wp h with ⟨a, hok, hpost⟩ | ⟨_, _, hfalse⟩
  · exact ⟨a, hok, hpost⟩
  · exact hfalse.elim

theorem write_returns (hquiet : Quiet w)
    (h : ∀ n, Returns body { w with transactionDepth := n } P) : Returns (write body) w P := by
  unfold Returns
  by_cases hdepth : 0 < w.transactionDepth
  · rw [wp_write_nested body hdepth]
    exact h w.transactionDepth
  · have hzero : w.transactionDepth = 0 := by omega
    rw [wp_write_outermost body hzero hquiet.importSession]
    exact h (w.transactionDepth + 1)

theorem appendChange_returns (hquiet : Quiet w) {channelId : Option String} {payload : Payload}
    (hreference : w.db.channelReference channelId = true)
    (h : P (w.db.record channelId payload (w.clock w.ticks) none)) :
    Returns (appendChange channelId payload) w P := by
  unfold Returns
  rw [wp_appendChange, hquiet.listeners]
  exact ⟨fun _ => h, fun hdangling => absurd hreference (by rw [hdangling]; decide)⟩

end Returns

end Wardroom.Storage
