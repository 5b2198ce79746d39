import Mathlib

/-! # Cumulative counters that are read with gaps

A counter only grows, but a reading of it may be missing, and a reading may be
marked as the first of a new count. The increase reported with a reading is
measured against the reading directly before it, so that nothing is reported
over a gap. The increases of a window add up to the growth of the counter
exactly if no growth falls on a reading after a gap or a mark.
-/

namespace Wardroom.Library.Counter

structure Reading (α : Type) where
  value : Option α
  reset : Bool
deriving Repr, DecidableEq

section
variable {α : Type}

/-- The values that were read. -/
def values (readings : List (Reading α)) : List α := readings.filterMap Reading.value

def last (readings : List (Reading α)) : Option α := (values readings).getLast?

theorem values_append (xs ys : List (Reading α)) : values (xs ++ ys) = values xs ++ values ys := List.filterMap_append

theorem last_concat (xs : List (Reading α)) (r : Reading α) : last (xs ++ [r]) = (r.value <|> last xs) := by
  rw [last, values_append]
  cases hvalue : r.value <;> simp [values, hvalue, last]

theorem last_of_getLast {xs : List (Reading α)} {r : Reading α} (h : xs.getLast? = some r) {v : α} (hv : r.value = some v) :
    last xs = some v := by
  obtain ⟨ys, rfl⟩ := List.getLast?_eq_some_iff.mp h
  simp [last_concat, hv]

end

section
variable {α : Type} [AddCommGroup α]

/-- From the last value before a window, or the first one in it, to the last one in it. -/
def growth (before within : List (Reading α)) : α :=
  match last within, last before <|> (values within).head? with
  | some value, some baseline => value - baseline
  | _, _ => 0

/-- What the counter grew by since its last value. -/
def gain (before : List (Reading α)) (r : Reading α) : α :=
  match r.value, last before with
  | some value, some old => value - old
  | _, _ => 0

theorem growth_nil (before : List (Reading α)) : growth before [] = 0 := rfl

theorem growth_cons (before : List (Reading α)) (r : Reading α) (rest : List (Reading α)) :
    growth before (r :: rest) = gain before r + growth (before ++ [r]) rest := by
  rw [growth, growth, gain, last_concat]
  cases hvalue : r.value with
  | none =>
    have hsame : values (r :: rest) = values rest := List.filterMap_cons_none hvalue
    simp [last, hsame]
  | some value =>
    have hcons : values (r :: rest) = value :: values rest := List.filterMap_cons_some hvalue
    cases hbefore : last before <;> cases hrest : last rest <;> simp_all [last, List.getLast?_cons]

end

section
variable {α : Type} [LinearOrder α]

/-- The counter never decreases up to this reading. -/
def Grown (before : List (Reading α)) (r : Reading α) : Prop := ∀ value ∈ r.value, ∀ old ∈ last before, old ≤ value

theorem grown_of_pairwise {before rest : List (Reading α)} {r : Reading α}
    (h : (values (before ++ r :: rest)).Pairwise (· ≤ ·)) : Grown before r := by
  intro value hvalue old hold
  rw [values_append] at h
  apply (List.pairwise_append.mp h).2.2 old (List.mem_of_getLast? hold)
  rw [values, List.filterMap_cons_some hvalue]
  exact List.mem_cons_self

/-- If the counter has grown, then it was read directly before, and no new count begins. -/
def Counted (before : List (Reading α)) (r : Reading α) : Prop :=
  ∀ value ∈ r.value, ∀ old ∈ last before, old < value →
    r.reset = false ∧ (before.getLast?.bind Reading.value).isSome = true

theorem counted_of_steady {before : List (Reading α)} {r : Reading α} (hreset : r.reset = false)
    (hsteady : before.Pairwise fun a b => a.value.isSome → b.value.isSome) : Counted before r := by
  intro value _ old hold _
  refine ⟨hreset, ?_⟩
  obtain ⟨q, hq, hread⟩ := List.mem_filterMap.mp (List.mem_of_getLast? hold)
  induction before using List.reverseRecOn with
  | nil => cases hq
  | append_singleton front p _ =>
    rw [List.getLast?_concat, Option.bind_some]
    rcases List.mem_append.mp hq with hfront | hlast
    · apply (List.pairwise_append.mp hsteady).2.2 q hfront p List.mem_cons_self
      rw [hread]
      rfl
    · rw [← List.mem_singleton.mp hlast, hread]
      rfl

end

variable {α : Type} [AddCommGroup α] [LinearOrder α]

/-- The increase that is reported with a reading. -/
def delta (prior : Option (Reading α)) (r : Reading α) : α :=
  match r.value, prior.bind Reading.value with
  | some value, some old => if r.reset then 0 else max 0 (value - old)
  | _, _ => 0

def deltas : Option (Reading α) → List (Reading α) → List α
  | _, [] => []
  | prior, r :: rest => delta prior r :: deltas (some r) rest

theorem delta_nonneg (prior : Option (Reading α)) (r : Reading α) : 0 ≤ delta prior r := by
  unfold delta
  split
  · split_ifs
    · exact le_refl 0
    · exact le_max_left _ _
  · exact le_refl 0

variable [IsOrderedAddMonoid α]

theorem gain_nonneg {before : List (Reading α)} {r : Reading α} (h : Grown before r) : 0 ≤ gain before r := by
  unfold gain
  split
  · rename_i value old hvalue hold
    exact sub_nonneg.mpr (h value hvalue old hold)
  · exact le_refl 0

theorem delta_le_gain {before : List (Reading α)} {r : Reading α} (h : Grown before r) :
    delta before.getLast? r ≤ gain before r := by
  have hgain := gain_nonneg h
  unfold delta
  split
  · rename_i value old hvalue hold
    obtain ⟨prior, hprior, hread⟩ := Option.bind_eq_some_iff.mp hold
    have hlast := last_of_getLast hprior hread
    rw [gain, hvalue, hlast] at hgain ⊢
    split_ifs
    · exact hgain
    · exact max_le hgain (le_refl _)
  · exact hgain

theorem delta_eq_gain_iff {before : List (Reading α)} {r : Reading α} (h : Grown before r) :
    delta before.getLast? r = gain before r ↔ Counted before r := by
  unfold Counted
  cases hvalue : r.value with
  | none => simp [delta, gain, hvalue]
  | some value =>
    cases hprior : before.getLast?.bind Reading.value with
    | none =>
      have hdelta : delta before.getLast? r = 0 := by simp [delta, hvalue, hprior]
      rw [hdelta]
      cases hlast : last before with
      | none => simp [gain, hlast]
      | some old =>
        have hle := h value hvalue old hlast
        simp only [gain, hvalue, hlast, Option.mem_def, Option.some.injEq, forall_eq', Option.isSome_none,
          Bool.false_eq_true, and_false, imp_false, not_lt]
        rw [eq_comm, sub_eq_zero]
        exact ⟨fun heq => heq.le, fun hge => le_antisymm hge hle⟩
    | some old =>
      obtain ⟨prior, hlastReading, hread⟩ := Option.bind_eq_some_iff.mp hprior
      have hlast := last_of_getLast hlastReading hread
      have hle := h value hvalue old hlast
      simp only [delta, gain, hvalue, hprior, hlast, Option.mem_def, Option.some.injEq, forall_eq', Option.isSome_some, and_true]
      cases r.reset with
      | false => simp [hle]
      | true =>
        simp only [if_true, Bool.true_eq_false, imp_false, not_lt]
        rw [eq_comm, sub_eq_zero]
        exact ⟨fun heq => heq.le, fun hge => le_antisymm hge hle⟩

theorem sum_deltas_le {before within : List (Reading α)} (h : (values (before ++ within)).Pairwise (· ≤ ·)) :
    (deltas before.getLast? within).sum ≤ growth before within := by
  induction within generalizing before with
  | nil => exact le_refl 0
  | cons r rest ih =>
    rw [growth_cons, deltas, List.sum_cons]
    have hnext := @ih (before ++ [r]) (by simpa using h)
    rw [List.getLast?_concat] at hnext
    exact add_le_add (delta_le_gain (grown_of_pairwise h)) hnext

/-- The increases that are reported in a window add up to the growth of the counter exactly if each growth is counted. -/
theorem sum_deltas_eq_iff {before within : List (Reading α)} (h : (values (before ++ within)).Pairwise (· ≤ ·)) :
    (deltas before.getLast? within).sum = growth before within ↔
      ∀ earlier r later, within = earlier ++ r :: later → Counted (before ++ earlier) r := by
  induction within generalizing before with
  | nil => simp [deltas, growth_nil]
  | cons r rest ih =>
    have hrest : (values ((before ++ [r]) ++ rest)).Pairwise (· ≤ ·) := by simpa using h
    have hgrown := grown_of_pairwise h
    have hnext := ih hrest
    have hle := sum_deltas_le hrest
    rw [List.getLast?_concat] at hnext hle
    have hsplit : (deltas before.getLast? (r :: rest)).sum = growth before (r :: rest) ↔
        delta before.getLast? r = gain before r ∧ (deltas (some r) rest).sum = growth (before ++ [r]) rest := by
      rw [growth_cons, deltas, List.sum_cons]
      exact add_eq_add_iff_eq_and_eq (delta_le_gain hgrown) hle
    rw [hsplit, hnext, delta_eq_gain_iff hgrown]
    constructor
    · rintro ⟨hfirst, hlater⟩ earlier q later heq
      cases earlier with
      | nil =>
        obtain ⟨rfl, -⟩ := List.cons.inj heq
        simpa using hfirst
      | cons q' earlier =>
        obtain ⟨rfl, htail⟩ := List.cons.inj heq
        simpa using hlater earlier q later htail
    · intro hall
      refine ⟨by simpa using hall [] r rest rfl, fun earlier q later heq => ?_⟩
      simpa using hall (r :: earlier) q later (by rw [heq]; rfl)

end Wardroom.Library.Counter
