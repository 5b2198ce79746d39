import Mathlib
import Wardroom.Storage.UsageDeltas

/-! # Samples of counters that only grow

Where a counter, once it is available, stays and never decreases, no row begins a new count and none is
without the counter after another has had it. A series then reports all growth.
-/

namespace Wardroom.Storage
open Wardroom.Library Wardroom.Domain

/-- What is available stays available, and does not decrease. -/
def UsageCounters.Onward (a b : UsageCounters) : Prop := ∀ counter, ∀ v ∈ a.value counter, ∃ w ∈ b.value counter, v ≤ w

namespace UsageHistory
variable {options : UsageOptions} {history : UsageHistory} {input : UsageInput} {sessionId runtimeId : String}
  {generation : Nat} {inputs : List UsageInput}

theorem run_keeps {I : UsageHistory → List UsageInput → Prop} (hempty : I {} [])
    (hrecord : ∀ history past input, history.Ordered → history.Newest input → I history past →
      I (record options history input) (past ++ [input]))
    (hclock : inputs.Pairwise fun a b => a.sampledAt ≤ b.sampledAt) : I (run options inputs) inputs := by
  have hrun : (run options inputs).Ordered ∧ I (run options inputs) inputs ∧
      ∀ later, (∀ input ∈ inputs, input.sampledAt ≤ later.sampledAt) → (run options inputs).Newest later := by
    induction inputs using List.reverseRecOn with
    | nil => exact ⟨⟨.nil, fun row hrow => by cases hrow⟩, hempty, fun _ _ row hrow => by cases hrow⟩
    | append_singleton past input ih =>
      obtain ⟨hpast, -, hlast⟩ := List.pairwise_append.mp hclock
      obtain ⟨hordered, hI, hnewest⟩ := ih hpast
      have hnew := hnewest input fun earlier hearlier => hlast earlier hearlier input List.mem_cons_self
      rw [run, List.foldl_append, List.foldl_cons, List.foldl_nil]
      refine ⟨?_, hrecord _ past input hordered hnew hI, fun later hlater =>
        record_newest hordered hnew (hlater input (by simp))⟩
      obtain ⟨rows, hrows, hrecord⟩ := record_rows options (run options past) input
      rw [run] at hrecord hrows hordered hnew
      rw [hrecord]
      exact (store_ordered hordered hnew).of_sublist hrows
  exact hrun.2.1

/-- The rows are samples of the generation, in their order, and none begins a new count. -/
structure Shows (sessionId runtimeId : String) (generation : Nat) (history : UsageHistory) (inputs : List UsageInput) :
    Prop where
  of : ∀ row ∈ history.rows, row.Of sessionId runtimeId generation
  counters : (history.rows.map UsageSample.toUsageCounters).Sublist (inputs.map fun input => input.usage.toUsageCounters)
  reset : ∀ row ∈ history.rows, row.counterReset = false

theorem Shows.of_sublist (h : Shows sessionId runtimeId generation history inputs) {rows : List UsageSample}
    (hrows : rows.Sublist history.rows) : Shows sessionId runtimeId generation { history with rows := rows } inputs :=
  ⟨fun row hrow => h.of row (hrows.mem hrow), (hrows.map _).trans h.counters, fun row hrow => h.reset row (hrows.mem hrow)⟩

theorem value_toUsageCounters (row : UsageSample) (counter : UsageCounter) :
    row.toUsageCounters.value counter = row.value counter := rfl

theorem resets_eq_false {prior : UsageSample} (hof : UsageInput.Of sessionId runtimeId generation input)
    (hprior : prior.Of sessionId runtimeId generation) (hon : prior.toUsageCounters.Onward input.usage.toUsageCounters) :
    resets input prior = false := by
  simp only [resets, hprior.2.2, hof.2.2, ne_eq, not_true_eq_false, decide_false, Bool.false_or]
  apply List.any_eq_false.mpr
  intro counter _
  have hcounter := hon counter
  rw [value_toUsageCounters] at hcounter
  cases hvalue : input.usage.value counter with
  | none => exact Bool.false_ne_true
  | some value =>
    cases hold : prior.value counter with
    | none => exact Bool.false_ne_true
    | some old =>
      obtain ⟨w, hw, hle⟩ := hcounter old hold
      obtain rfl : value = w := Option.some.inj (hvalue.symm.trans hw)
      simpa using hle

theorem record_shows {past : List UsageInput} (h : history.Ordered)
    (hshows : Shows sessionId runtimeId generation history past) (hof : UsageInput.Of sessionId runtimeId generation input)
    (hon : ∀ earlier ∈ past, earlier.usage.toUsageCounters.Onward input.usage.toUsageCounters) :
    Shows sessionId runtimeId generation (record options history input) (past ++ [input]) := by
  have hresets (prior : UsageSample) (hprior : prior ∈ history.rows) : resets input prior = false := by
    have hmem := hshows.counters.mem (List.mem_map_of_mem hprior)
    obtain ⟨earlier, hearlier, hcounters⟩ := List.mem_map.mp hmem
    apply resets_eq_false hof (hshows.of prior hprior)
    rw [← hcounters]
    exact hon earlier hearlier
  obtain ⟨rows, hrows, hrecord⟩ := record_rows options history input
  rw [hrecord]
  refine Shows.of_sublist ?_ hrows
  rcases store_cases h options input with hstore | ⟨front, prior, back, hbefore, hprior, hback, hstore⟩
  · rw [hstore]
    refine ⟨?_, ?_, ?_⟩
    · intro row hrow
      rcases List.mem_append.mp hrow with hold | hnew
      · exact hshows.of row hold
      · rw [List.mem_singleton.mp hnew]
        exact hof
    · rw [List.map_append, List.map_append]
      exact hshows.counters.append (.refl _)
    · intro row hrow
      rcases List.mem_append.mp hrow with hold | hnew
      · exact hshows.reset row hold
      · rw [List.mem_singleton.mp hnew, sample]
        cases hnewestRow : history.prior input.sessionId input.runtimeId with
        | none => rfl
        | some prior =>
          rw [UsageHistory.prior, inOrder_filter h.rows] at hnewestRow
          exact hresets prior (List.mem_filter.mp (List.mem_of_getLast? hnewestRow)).1
  · -- the prior row is the last of all, as all rows are of the generation
    have hmem : prior ∈ history.rows := by simp [hbefore]
    have hnone : back = [] := by
      apply List.eq_nil_iff_forall_not_mem.mpr
      intro row hrow
      have hrowOf := hshows.of row (by simp [hbefore, hrow])
      exact hback row hrow ⟨hrowOf.1.trans hof.1.symm, hrowOf.2.1.trans hof.2.1.symm⟩
    subst hnone
    have hcounters := hshows.counters
    rw [hbefore, List.map_append] at hcounters
    rw [hstore]
    refine ⟨?_, ?_, ?_⟩
    · intro row hrow
      rcases List.mem_append.mp hrow with hold | hnew
      · exact hshows.of row (by simp [hbefore, hold])
      · rw [List.mem_singleton.mp hnew]
        exact hshows.of prior hmem
    · rw [List.map_append, List.map_append]
      exact ((List.sublist_append_left _ _).trans hcounters).append (.refl _)
    · intro row hrow
      rcases List.mem_append.mp hrow with hold | hnew
      · exact hshows.reset row (by simp [hbefore, hold])
      · rw [List.mem_singleton.mp hnew]
        simp only [coalesced, hresets prior hmem, hshows.reset prior hmem, Bool.or_false]

theorem unbroken_of_onward (options : UsageOptions) (hclock : inputs.Pairwise fun a b => a.sampledAt ≤ b.sampledAt)
    (hof : ∀ input ∈ inputs, UsageInput.Of sessionId runtimeId generation input)
    (hon : inputs.Pairwise fun a b => a.usage.toUsageCounters.Onward b.usage.toUsageCounters) (counter : UsageCounter)
    (since : Int) : (run options inputs).Unbroken counter sessionId runtimeId generation since := by
  have hshows : (∀ input ∈ inputs, UsageInput.Of sessionId runtimeId generation input) →
      (inputs.Pairwise fun a b => a.usage.toUsageCounters.Onward b.usage.toUsageCounters) →
      Shows sessionId runtimeId generation (run options inputs) inputs := by
    apply run_keeps (I := fun history past => (∀ input ∈ past, UsageInput.Of sessionId runtimeId generation input) →
      (past.Pairwise fun a b => a.usage.toUsageCounters.Onward b.usage.toUsageCounters) →
      Shows sessionId runtimeId generation history past)
    · intro _ _
      exact ⟨fun row hrow => (by cases hrow), .slnil, fun row hrow => (by cases hrow)⟩
    · intro history past input hordered _ ih hof hon
      obtain ⟨hpast, -, hlast⟩ := List.pairwise_append.mp hon
      exact record_shows hordered (ih (fun i hi => hof i (List.mem_append_left _ hi)) hpast)
        (hof input (by simp)) fun earlier hearlier => hlast earlier hearlier input List.mem_cons_self
    · exact hclock
  obtain ⟨hrowsOf, hcounters, hreset⟩ := hshows hof hon
  have hcountersOn : ((run options inputs).rows.map UsageSample.toUsageCounters).Pairwise UsageCounters.Onward :=
    (List.pairwise_map.mpr hon).sublist hcounters
  intro earlier row later hrows _
  have hall : (run options inputs).rowsOf sessionId runtimeId generation = (run options inputs).rows := by
    apply List.filter_eq_self.mpr
    intro row hrow
    simpa using hrowsOf row hrow
  rw [hall] at hrows
  rw [hrows, List.map_append] at hcountersOn
  apply Counter.counted_of_steady
  · exact hreset row (by simp [hrows])
  · rw [List.pairwise_map]
    refine (List.pairwise_map.mp (List.pairwise_append.mp hcountersOn).1).imp fun hab hsome => ?_
    obtain ⟨v, hv⟩ := Option.isSome_iff_exists.mp hsome
    obtain ⟨w, hw, -⟩ := hab counter v hv
    exact Option.isSome_iff_exists.mpr ⟨w, hw⟩

theorem sum_deltas_of_onward (options : UsageOptions) (hclock : inputs.Pairwise fun a b => a.sampledAt ≤ b.sampledAt)
    (hof : ∀ input ∈ inputs, UsageInput.Of sessionId runtimeId generation input)
    (hon : inputs.Pairwise fun a b => a.usage.toUsageCounters.Onward b.usage.toUsageCounters) (counter : UsageCounter)
    {window : String} {now : Int} {series : UsageSeries}
    (hseries : (run options inputs).query .session sessionId window now = .ok series) :
    ((series.points.filter fun point => point.runtimeId = runtimeId ∧ point.generation = generation).map
        (·.delta counter)).sum =
      Counter.growth
        ((run options inputs).before counter sessionId runtimeId generation (now - series.window.WINDOW_MS))
        ((run options inputs).within counter sessionId runtimeId generation (now - series.window.WINDOW_MS)) := by
  obtain ⟨hordered, hvalues⟩ := run_kept options counter sessionId runtimeId generation hclock
  have hgrows : (availableCounters counter sessionId runtimeId generation inputs).Pairwise (· ≤ ·) := by
    rw [availableCounters, List.filter_eq_self.mpr fun input hinput => by simpa using hof input hinput, List.pairwise_filterMap]
    refine hon.imp fun hab v hv w hw => ?_
    obtain ⟨w', hw', hle⟩ := hab counter v hv
    obtain rfl : w = w' := Option.some.inj (hw.symm.trans hw')
    exact hle
  rw [(query_deltas hordered counter runtimeId generation hseries).1]
  refine (Counter.sum_deltas_eq_iff ?_).mpr ((unbroken_iff hordered _).mp
    (unbroken_of_onward options hclock hof hon counter _))
  rw [before, within, ← List.map_append, ← rowsOf_split hordered]
  exact hgrows.sublist hvalues

end UsageHistory
end Wardroom.Storage
