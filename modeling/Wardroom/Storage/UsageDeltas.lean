import Mathlib
import Wardroom.Domain.Cursors
import Wardroom.Storage.UsageHistory

/-! # Deltas over runs of samples

The rows stand in the order of their times, and what they say about the counters
of a generation of a runtime is part of what was sampled, in its order. A window
reports the growth of a counter exactly if no growth is first seen after a sample
that did not have the counter.
-/

namespace Wardroom.Storage
open Wardroom.Library Wardroom.Domain

def UsageSample.Of (sessionId runtimeId : String) (generation : Nat) (row : UsageSample) : Prop :=
  row.sessionId = sessionId ∧ row.runtimeId = runtimeId ∧ row.generation = generation

instance (sessionId runtimeId : String) (generation : Nat) : DecidablePred (UsageSample.Of sessionId runtimeId generation) :=
  fun _ => inferInstanceAs (Decidable (_ ∧ _))

def UsageInput.Of (sessionId runtimeId : String) (generation : Nat) (input : UsageInput) : Prop :=
  input.sessionId = sessionId ∧ input.runtimeId = runtimeId ∧ input.generation = generation

instance (sessionId runtimeId : String) (generation : Nat) : DecidablePred (UsageInput.Of sessionId runtimeId generation) :=
  fun _ => inferInstanceAs (Decidable (_ ∧ _))

def availableCounters (counter : UsageCounter) (sessionId runtimeId : String) (generation : Nat) (inputs : List UsageInput) :
    List Int :=
  (inputs.filter fun input => UsageInput.Of sessionId runtimeId generation input).filterMap fun input =>
    input.usage.value counter

def UsageSample.reading (counter : UsageCounter) (row : UsageSample) : Counter.Reading Int :=
  ⟨row.value counter, row.counterReset⟩

def UsagePoint.reading (counter : UsageCounter) (point : UsagePoint) : Counter.Reading Int :=
  ⟨point.value counter, point.counterReset⟩

namespace UsageHistory

def run (options : UsageOptions) (inputs : List UsageInput) : UsageHistory := inputs.foldl (record options) {}

def rowsOf (history : UsageHistory) (sessionId runtimeId : String) (generation : Nat) : List UsageSample :=
  history.rows.filter fun row => UsageSample.Of sessionId runtimeId generation row

def readings (history : UsageHistory) (counter : UsageCounter) (sessionId runtimeId : String) (generation : Nat) :
    List (Counter.Reading Int) :=
  (history.rowsOf sessionId runtimeId generation).map (UsageSample.reading counter)

/-- The rows stand in the order of their times and numbers. -/
structure Ordered (history : UsageHistory) : Prop where
  rows : history.rows.Pairwise fun a b => a.sampledAt ≤ b.sampledAt ∧ a.sampleId < b.sampleId
  numbered : ∀ row ∈ history.rows, row.sampleId ≤ history.lastId

end UsageHistory

section
variable {rows : List UsageSample} {p : UsageSample → Bool}

theorem sampledBefore_of_ordered {a b : UsageSample} (h : a.sampledAt ≤ b.sampledAt ∧ a.sampleId < b.sampleId) :
    sampledBefore a b := by
  unfold sampledBefore
  omega

theorem inOrder_filter (h : rows.Pairwise fun a b => a.sampledAt ≤ b.sampledAt ∧ a.sampleId < b.sampleId)
    (p : UsageSample → Bool) : inOrder (rows.filter p) = rows.filter p :=
  ((h.imp sampledBefore_of_ordered).filter p).insertionSort_eq

theorem Option.filter_cases {α : Type} (p : α → Bool) (o : Option α) :
    o.filter p = none ∨ ∃ a, o = some a ∧ p a = true ∧ o.filter p = some a := by
  cases o with
  | none => exact .inl rfl
  | some a => cases hp : p a <;> simp [hp]

end

namespace UsageHistory
variable {options : UsageOptions} {history : UsageHistory} {input : UsageInput} {counter : UsageCounter}
  {sessionId runtimeId : String} {generation : Nat}

theorem Ordered.of_sublist (h : history.Ordered) {rows : List UsageSample} (hrows : rows.Sublist history.rows) :
    Ordered { history with rows := rows } :=
  ⟨h.rows.sublist hrows, fun row hrow => h.numbered row (hrows.mem hrow)⟩

theorem store_cases (h : history.Ordered) (options : UsageOptions) (input : UsageInput) :
    (store options history input =
      ⟨history.rows ++ [sample input (history.prior input.sessionId input.runtimeId) (history.lastId + 1)], history.lastId + 1⟩) ∨
    ∃ front prior back, history.rows = front ++ prior :: back ∧
      prior.Of input.sessionId input.runtimeId input.generation ∧
      (∀ row ∈ back, ¬(row.sessionId = input.sessionId ∧ row.runtimeId = input.runtimeId)) ∧
      store options history input = { history with rows := front ++ coalesced input prior prior :: back } := by
  unfold store
  rcases Option.filter_cases (coalesces options input) (history.prior input.sessionId input.runtimeId) with
    hnone | ⟨prior, hprior, hcoalesces, hsome⟩
  · left
    simp only [hnone]
  · right
    rw [UsageHistory.prior, inOrder_filter h.rows] at hprior
    obtain ⟨front, back, hrows, hof, hback⟩ := getLast?_filter_eq_some hprior
    refine ⟨front, prior, back, hrows, ?_, fun row hrow => by simpa using hback row hrow, ?_⟩
    · simp only [coalesces, Bool.and_eq_true, decide_eq_true_eq] at hof hcoalesces
      exact ⟨hof.1, hof.2, hcoalesces.1⟩
    · have hordered := h.rows
      rw [hrows] at hordered
      obtain ⟨-, hprior, hfront⟩ := List.pairwise_append.mp hordered
      have hbefore : ∀ row ∈ front, row.sampleId ≠ prior.sampleId := fun row hrow =>
        (hfront row hrow prior List.mem_cons_self).2.ne
      have hafter : ∀ row ∈ back, row.sampleId ≠ prior.sampleId := fun row hrow =>
        ((List.pairwise_cons.mp hprior).1 row hrow).2.ne'
      have hsame {l : List UsageSample} (hl : ∀ row ∈ l, row.sampleId ≠ prior.sampleId) :
          (l.map fun row => if row.sampleId = prior.sampleId then coalesced input prior row else row) = l := by
        rw [List.map_congr_left (g := id) fun row hrow => by simp [hl row hrow], List.map_id]
      simp only [hsome, hrows, List.map_append, List.map_cons, if_true, hsame hbefore, hsame hafter]

/-- The sample is not older than any row. -/
def Newest (history : UsageHistory) (input : UsageInput) : Prop := ∀ row ∈ history.rows, row.sampledAt ≤ input.sampledAt

theorem store_ordered (h : history.Ordered) (hnewest : history.Newest input) : (store options history input).Ordered := by
  rcases store_cases h options input with hstore | ⟨front, prior, back, hrows, -, -, hstore⟩
  · rw [hstore]
    refine ⟨List.pairwise_append.mpr ⟨h.rows, List.pairwise_singleton _ _, ?_⟩, ?_⟩
    · intro row hrow other hother
      rw [List.mem_singleton.mp hother]
      exact ⟨hnewest row hrow, Nat.lt_succ_of_le (h.numbered row hrow)⟩
    · intro row hrow
      rcases List.mem_append.mp hrow with hrow | hrow
      · exact Nat.le_succ_of_le (h.numbered row hrow)
      · rw [List.mem_singleton.mp hrow]
        exact le_refl _
  · -- the row keeps its time and its number
    rw [hstore]
    have hordered := h.rows
    have hnumbered := h.numbered
    rw [hrows] at hordered hnumbered
    refine ⟨?_, ?_⟩
    · simpa [List.pairwise_append, coalesced] using hordered
    · intro row hrow
      rcases List.mem_append.mp hrow with hrow | hrow
      · exact hnumbered row (List.mem_append_left _ hrow)
      · rcases List.mem_cons.mp hrow with rfl | hrow
        · exact hnumbered prior (by simp)
        · exact hnumbered row (by simp [hrow])

theorem record_rows (options : UsageOptions) (history : UsageHistory) (input : UsageInput) :
    ∃ rows, rows.Sublist (store options history input).rows ∧
      record options history input = { store options history input with rows := rows } :=
  ⟨_, (List.filter_sublist).trans List.filter_sublist, rfl⟩

/-- The values of a generation in the rows are values of the samples. -/
def Values (counter : UsageCounter) (sessionId runtimeId : String) (generation : Nat) (history : UsageHistory)
    (values : List Int) : Prop :=
  (Counter.values (history.readings counter sessionId runtimeId generation)).Sublist values

theorem values_readings (rows : List UsageSample) :
    Counter.values (rows.map (UsageSample.reading counter)) = rows.filterMap (·.value counter) := by
  rw [Counter.values, List.filterMap_map]
  rfl

variable {values : List Int}

theorem store_values (h : history.Ordered) (hvalues : Values counter sessionId runtimeId generation history values) :
    Values counter sessionId runtimeId generation (store options history input)
      (values ++ availableCounters counter sessionId runtimeId generation [input]) := by
  unfold Values readings rowsOf at hvalues ⊢
  rw [values_readings] at hvalues ⊢
  have hof : ∀ row : UsageSample, row.Of input.sessionId input.runtimeId input.generation →
      (row.Of sessionId runtimeId generation ↔ UsageInput.Of sessionId runtimeId generation input) := by
    rintro row ⟨hs, hr, hg⟩
    rw [UsageSample.Of, UsageInput.Of, hs, hr, hg]
  rcases store_cases h options input with hstore | ⟨front, prior, back, hrows, hprior, hback, hstore⟩
  · have hsample := hof (sample input (history.prior input.sessionId input.runtimeId) (history.lastId + 1)) ⟨rfl, rfl, rfl⟩
    rw [hstore, List.filter_append, List.filterMap_append]
    apply hvalues.append
    by_cases hinput : UsageInput.Of sessionId runtimeId generation input
    · simp [availableCounters, hinput, hsample.mpr hinput]
      exact .refl _
    · simp [availableCounters, hinput, mt hsample.mp hinput]
  · have hcoalesced := hof (coalesced input prior prior) hprior
    rw [hstore]
    rw [hrows] at hvalues
    by_cases hinput : UsageInput.Of sessionId runtimeId generation input
    · -- the newest row of the generation gives its place to the sample
      have hnone : back.filter (fun row => row.Of sessionId runtimeId generation) = [] := by
        apply List.filter_eq_nil_iff.mpr
        intro row hrow
        have hother := hback row hrow
        rw [hinput.1, hinput.2.1] at hother
        intro hof
        obtain ⟨hs, hr, -⟩ := of_decide_eq_true hof
        exact hother ⟨hs, hr⟩
      rw [List.filter_append, List.filterMap_append] at hvalues
      rw [List.filter_append, List.filter_cons_of_pos (by simpa using hcoalesced.mpr hinput), hnone, List.filterMap_append]
      apply ((List.sublist_append_left _ _).trans hvalues).append
      simp [availableCounters, hinput]
      exact .refl _
    · have hprior := mt (hof prior hprior).mp hinput
      have hcoalesced := mt hcoalesced.mp hinput
      rw [List.filter_append, List.filter_cons_of_neg (by simpa using hcoalesced)]
      rw [List.filter_append, List.filter_cons_of_neg (by simpa using hprior)] at hvalues
      exact hvalues.trans (List.sublist_append_left _ _)

/-- What a sample keeps, and what a run of samples keeps. -/
structure Kept (counter : UsageCounter) (sessionId runtimeId : String) (generation : Nat) (history : UsageHistory)
    (values : List Int) : Prop where
  ordered : history.Ordered
  values : Values counter sessionId runtimeId generation history values

theorem Values.of_sublist (h : Values counter sessionId runtimeId generation history values)
    {rows : List UsageSample} (hrows : rows.Sublist history.rows) :
    Values counter sessionId runtimeId generation { history with rows := rows } values :=
  ((hrows.filter _).map _ |>.filterMap _).trans h

theorem record_kept (options : UsageOptions) (h : Kept counter sessionId runtimeId generation history values)
    (hnewest : history.Newest input) :
    Kept counter sessionId runtimeId generation (record options history input)
      (values ++ availableCounters counter sessionId runtimeId generation [input]) := by
  obtain ⟨rows, hrows, hrecord⟩ := record_rows options history input
  rw [hrecord]
  exact ⟨(store_ordered h.ordered hnewest).of_sublist hrows, (store_values h.ordered h.values).of_sublist hrows⟩

theorem record_newest (h : history.Ordered) (hnewest : history.Newest input) {later : UsageInput}
    (hlater : input.sampledAt ≤ later.sampledAt) : (record options history input).Newest later := by
  obtain ⟨rows, hrows, hrecord⟩ := record_rows options history input
  rw [hrecord]
  intro row hrow
  have hstored := hrows.mem hrow
  rcases store_cases h options input with hstore | ⟨front, prior, back, hbefore, -, -, hstore⟩
  · rw [hstore] at hstored
    rcases List.mem_append.mp hstored with hold | hnew
    · exact (hnewest row hold).trans hlater
    · rw [List.mem_singleton.mp hnew]
      exact hlater
  · rw [hstore] at hstored
    unfold Newest at hnewest
    rw [hbefore] at hnewest
    refine le_trans ?_ hlater
    rcases List.mem_append.mp hstored with hrow | hrow
    · exact hnewest row (List.mem_append_left _ hrow)
    · rcases List.mem_cons.mp hrow with rfl | hrow
      · exact hnewest prior (by simp)
      · exact hnewest row (by simp [hrow])

theorem availableCounters_append (xs ys : List UsageInput) :
    availableCounters counter sessionId runtimeId generation (xs ++ ys) =
      availableCounters counter sessionId runtimeId generation xs ++
        availableCounters counter sessionId runtimeId generation ys := by
  rw [availableCounters, List.filter_append, List.filterMap_append]
  rfl

theorem foldl_kept (options : UsageOptions) {inputs : List UsageInput}
    (h : Kept counter sessionId runtimeId generation history values)
    (hclock : inputs.Pairwise fun a b => a.sampledAt ≤ b.sampledAt) (hnewest : ∀ input ∈ inputs, history.Newest input) :
    Kept counter sessionId runtimeId generation (inputs.foldl (record options) history)
      (values ++ availableCounters counter sessionId runtimeId generation inputs) := by
  induction inputs generalizing history values with
  | nil => simpa [availableCounters] using h
  | cons input inputs ih =>
    obtain ⟨hfirst, hclock⟩ := List.pairwise_cons.mp hclock
    have hinput := hnewest input List.mem_cons_self
    have hnext := ih (record_kept options h hinput) hclock fun later hlater =>
      record_newest h.ordered hinput (hfirst later hlater)
    rwa [List.append_assoc, ← availableCounters_append] at hnext

theorem run_kept (options : UsageOptions) (counter : UsageCounter) (sessionId runtimeId : String) (generation : Nat)
    {inputs : List UsageInput} (hclock : inputs.Pairwise fun a b => a.sampledAt ≤ b.sampledAt) :
    Kept counter sessionId runtimeId generation (run options inputs)
      (availableCounters counter sessionId runtimeId generation inputs) := by
  have hempty : Kept counter sessionId runtimeId generation {} [] :=
    ⟨⟨.nil, fun row hrow => by cases hrow⟩, List.nil_sublist _⟩
  have hrun := foldl_kept options hempty hclock fun input _ row hrow => by cases hrow
  rwa [List.nil_append] at hrun

end UsageHistory

section
variable {counter : UsageCounter} {runtimeId : String} {generation : Nat}

theorem rowPoint_reading (row : UsageSample) (prior : Option UsagePoint) :
    (rowPoint row prior).reading counter = row.reading counter := by
  cases counter <;> rfl

theorem usageDelta_eq (row : UsageSample) (prior : Option (Counter.Reading Int)) :
    usageDelta row.counterReset (row.value counter) (prior.bind Counter.Reading.value) =
      Counter.delta prior (row.reading counter) := by
  unfold usageDelta Counter.delta UsageSample.reading
  cases row.value counter <;> cases prior.bind Counter.Reading.value <;> rfl

theorem rowPoint_delta (row : UsageSample) (prior : Option UsagePoint) :
    (rowPoint row prior).delta counter =
      Counter.delta (prior.map (UsagePoint.reading counter)) (row.reading counter) := by
  rw [← usageDelta_eq]
  cases counter <;> cases prior <;> rfl

theorem usageKey_eq_iff {runtimeId' : String} {generation' : Nat} :
    usageKey runtimeId generation = usageKey runtimeId' generation' ↔ runtimeId = runtimeId' ∧ generation = generation' := by
  constructor
  · intro h
    have hcolon (n : Nat) : ':' ∉ (toString n).toList := by
      intro hmem
      rw [Nat.toString_eq_ofList_toDigits, String.toList_ofList] at hmem
      exact absurd (Nat.isDigit_of_mem_toDigits (by decide) (by decide) hmem) (by decide)
    have hlist := congrArg String.toList h
    simp only [usageKey, String.toList_append, List.append_assoc] at hlist
    obtain ⟨hruntime, hgeneration⟩ := split_at_last (hcolon generation) (hcolon generation') hlist
    have hdecoded := congrArg CursorCodec.decode (String.toList_inj.mp hgeneration)
    rw [CursorCodec.decode_toString, CursorCodec.decode_toString] at hdecoded
    exact ⟨String.toList_inj.mp hruntime, Option.some.inj hdecoded⟩
  · rintro ⟨rfl, rfl⟩
    rfl

theorem usagePoints_deltas (previous : String → Option UsagePoint) (rows : List UsageSample) :
    ((usagePoints previous rows).filter fun point => point.runtimeId = runtimeId ∧ point.generation = generation).map
        (·.delta counter) =
      Counter.deltas ((previous (usageKey runtimeId generation)).map (UsagePoint.reading counter))
        ((rows.filter fun row => row.runtimeId = runtimeId ∧ row.generation = generation).map (UsageSample.reading counter)) := by
  induction rows generalizing previous with
  | nil => rfl
  | cons row rows ih =>
    rw [usagePoints]
    by_cases hkey : row.runtimeId = runtimeId ∧ row.generation = generation
    · have hpoint : (rowPoint row (previous (usageKey row.runtimeId row.generation))).runtimeId = runtimeId ∧
          (rowPoint row (previous (usageKey row.runtimeId row.generation))).generation = generation := hkey
      rw [List.filter_cons_of_pos (by simpa using hpoint), List.filter_cons_of_pos (by simpa using hkey), List.map_cons,
        List.map_cons, Counter.deltas, ih, rowPoint_delta, hkey.1, hkey.2]
      simp [rowPoint_reading]
    · have hpoint : ¬((rowPoint row (previous (usageKey row.runtimeId row.generation))).runtimeId = runtimeId ∧
          (rowPoint row (previous (usageKey row.runtimeId row.generation))).generation = generation) := hkey
      have hother : usageKey runtimeId generation ≠ usageKey row.runtimeId row.generation := by
        rw [Ne, usageKey_eq_iff]
        exact fun h => hkey ⟨h.1.symm, h.2.symm⟩
      rw [List.filter_cons_of_neg (by simpa using hpoint), List.filter_cons_of_neg (by simpa using hkey), ih,
        Function.update_of_ne hother]

theorem usagePoints_nonneg (previous : String → Option UsagePoint) (rows : List UsageSample) :
    ∀ point ∈ usagePoints previous rows, 0 ≤ point.delta counter := by
  induction rows generalizing previous with
  | nil => simp [usagePoints]
  | cons row rows ih =>
    intro point hpoint
    rcases List.mem_cons.mp hpoint with rfl | hpoint
    · rw [rowPoint_delta]
      exact Counter.delta_nonneg _ _
    · exact ih _ point hpoint

theorem foldl_update (rows : List UsageSample) (previous : String → Option UsagePoint) (key : String) :
    rows.foldl (fun previous row =>
        Function.update previous (usageKey row.runtimeId row.generation) (some (rowPoint row none))) previous key =
      ((rows.filter fun row => usageKey row.runtimeId row.generation = key).getLast?.map fun row => rowPoint row none).or
        (previous key) := by
  induction rows generalizing previous with
  | nil => simp
  | cons row rows ih =>
    rw [List.foldl_cons, ih]
    by_cases hkey : usageKey row.runtimeId row.generation = key
    · rw [List.filter_cons_of_pos (by simpa using hkey), List.getLast?_cons, hkey, Function.update_self]
      cases (rows.filter fun row => usageKey row.runtimeId row.generation = key).getLast? <;> simp
    · rw [List.filter_cons_of_neg (by simpa using hkey), Function.update_of_ne (Ne.symm hkey)]

theorem baselines_last {rows : List UsageSample}
    (h : rows.Pairwise fun a b => a.sampledAt ≤ b.sampledAt ∧ a.sampleId < b.sampleId) :
    ((UsageHistory.baselines rows).filter fun row =>
        usageKey row.runtimeId row.generation = usageKey runtimeId generation).getLast? =
      (rows.filter fun row => row.runtimeId = runtimeId ∧ row.generation = generation).getLast? := by
  have hmem (row : UsageSample) : row ∈ (UsageHistory.baselines rows).filter (fun row =>
      usageKey row.runtimeId row.generation = usageKey runtimeId generation) ↔
      (rows.filter fun row => row.runtimeId = runtimeId ∧ row.generation = generation).getLast? = some row := by
    simp only [UsageHistory.baselines, List.mem_filter, decide_eq_true_eq, usageKey_eq_iff, inOrder_filter h]
    constructor
    · rintro ⟨⟨-, hlast⟩, rfl, rfl⟩
      exact hlast
    · intro hlast
      obtain ⟨hrow, hkey⟩ := List.mem_filter.mp (List.mem_of_getLast? hlast)
      obtain ⟨rfl, rfl⟩ := of_decide_eq_true hkey
      exact ⟨⟨hrow, hlast⟩, rfl, rfl⟩
  apply Option.ext
  intro row
  rw [← hmem row]
  constructor
  · exact List.mem_of_getLast?
  · intro hrow
    cases hlast : ((UsageHistory.baselines rows).filter fun row =>
        usageKey row.runtimeId row.generation = usageKey runtimeId generation).getLast? with
    | none =>
      rw [List.getLast?_eq_none_iff.mp hlast] at hrow
      cases hrow
    | some other =>
      have hother := (hmem other).mp (List.mem_of_getLast? hlast)
      rw [(hmem row).mp hrow] at hother
      exact hother.symm

end

namespace UsageHistory
variable {options : UsageOptions} {history : UsageHistory} {counter : UsageCounter} {sessionId runtimeId : String}
  {generation : Nat}

/-- The readings of the rows from before a window. -/
def before (history : UsageHistory) (counter : UsageCounter) (sessionId runtimeId : String) (generation : Nat) (since : Int) :
    List (Counter.Reading Int) :=
  ((history.rowsOf sessionId runtimeId generation).filter fun row => row.sampledAt < since).map (UsageSample.reading counter)

def within (history : UsageHistory) (counter : UsageCounter) (sessionId runtimeId : String) (generation : Nat) (since : Int) :
    List (Counter.Reading Int) :=
  ((history.rowsOf sessionId runtimeId generation).filter fun row => since ≤ row.sampledAt).map (UsageSample.reading counter)

/-- No growth of the counter is first seen in a window after a sample without the counter, or where a count begins. -/
def Unbroken (history : UsageHistory) (counter : UsageCounter) (sessionId runtimeId : String) (generation : Nat)
    (since : Int) : Prop :=
  ∀ earlier row later, history.rowsOf sessionId runtimeId generation = earlier ++ row :: later → since ≤ row.sampledAt →
    Counter.Counted (earlier.map (UsageSample.reading counter)) (row.reading counter)

theorem rowsOf_split (h : history.Ordered) (since : Int) :
    history.rowsOf sessionId runtimeId generation =
      ((history.rowsOf sessionId runtimeId generation).filter fun row => row.sampledAt < since) ++
        (history.rowsOf sessionId runtimeId generation).filter fun row => since ≤ row.sampledAt := by
  have hsorted := h.rows.filter fun row => decide (UsageSample.Of sessionId runtimeId generation row)
  change (history.rowsOf sessionId runtimeId generation).Pairwise _ at hsorted
  generalize history.rowsOf sessionId runtimeId generation = rows at hsorted ⊢
  induction rows with
  | nil => rfl
  | cons row rows ih =>
    obtain ⟨hrow, hrows⟩ := List.pairwise_cons.mp hsorted
    by_cases hlt : row.sampledAt < since
    · rw [List.filter_cons_of_pos (by simpa using hlt), List.filter_cons_of_neg (by simpa using hlt), List.cons_append,
        ← ih hrows]
    · have hnone : (row :: rows).filter (fun row => row.sampledAt < since) = [] := by
        apply List.filter_eq_nil_iff.mpr
        intro other hother
        rcases List.mem_cons.mp hother with rfl | hother
        · simpa using hlt
        · have hle := (hrow other hother).1
          simp only [decide_eq_true_eq, not_lt]
          omega
      have hall : (row :: rows).filter (fun row => since ≤ row.sampledAt) = row :: rows := by
        apply List.filter_eq_self.mpr
        intro other hother
        simpa using List.filter_eq_nil_iff.mp hnone other hother
      rw [hnone, hall, List.nil_append]

theorem unbroken_iff (h : history.Ordered) (since : Int) :
    history.Unbroken counter sessionId runtimeId generation since ↔
      ∀ earlier r later, history.within counter sessionId runtimeId generation since = earlier ++ r :: later →
        Counter.Counted (history.before counter sessionId runtimeId generation since ++ earlier) r := by
  have hsplit : history.rowsOf sessionId runtimeId generation = _ := rowsOf_split h since
  unfold before within
  constructor
  · intro hunbroken earlier r later hwithin
    obtain ⟨front, back, hrows, rfl, hback⟩ := List.map_eq_append_iff.mp hwithin
    obtain ⟨row, rest, rfl, rfl, rfl⟩ := List.map_eq_cons_iff.mp hback
    have hrow : row ∈ (history.rowsOf sessionId runtimeId generation).filter fun row => since ≤ row.sampledAt := by
      simp [hrows]
    have hcounted := hunbroken (_ ++ front) row rest (by rw [hsplit, hrows, List.append_assoc]) (by
      simpa using (List.mem_filter.mp hrow).2)
    rwa [List.map_append] at hcounted
  · intro hwithin earlier row later hrows hsince
    rw [hsplit] at hrows
    rcases List.append_eq_append_iff.mp hrows with ⟨front, rfl, hfront⟩ | ⟨middle, hbefore, hmiddle⟩
    · have hcounted := hwithin (front.map (UsageSample.reading counter)) (row.reading counter)
        (later.map (UsageSample.reading counter)) (by rw [hfront, List.map_append, List.map_cons])
      rwa [← List.map_append] at hcounted
    · -- the row is not from before the window
      cases middle with
      | nil =>
        rw [List.append_nil] at hbefore
        rw [List.nil_append] at hmiddle
        have hcounted := hwithin [] (row.reading counter) (later.map (UsageSample.reading counter)) (by rw [← hmiddle]; rfl)
        rwa [List.append_nil, hbefore] at hcounted
      | cons other middle =>
        obtain ⟨rfl, -⟩ := List.cons.inj hmiddle
        have hmem : row ∈ (history.rowsOf sessionId runtimeId generation).filter fun row => row.sampledAt < since := by
          simp [hbefore]
        have hlt := of_decide_eq_true (List.mem_filter.mp hmem).2
        omega

theorem query_deltas (h : history.Ordered) (counter : UsageCounter) (runtimeId : String) (generation : Nat) {window : String} {now : Int} {series : UsageSeries}
    (hseries : history.query .session sessionId window now = .ok series) :
    ((series.points.filter fun point => point.runtimeId = runtimeId ∧ point.generation = generation).map (·.delta counter) =
      Counter.deltas
        (history.before counter sessionId runtimeId generation (now - series.window.WINDOW_MS)).getLast?
        (history.within counter sessionId runtimeId generation (now - series.window.WINDOW_MS))) ∧
      ∀ point ∈ series.points, 0 ≤ point.delta counter := by
  unfold query at hseries
  cases hwindow : UsageWindow.parse window with
  | error e =>
    rw [hwindow] at hseries
    cases hseries
  | ok w =>
    rw [hwindow] at hseries
    cases hseries
    dsimp only
    refine ⟨?_, usagePoints_nonneg _ _⟩
    rw [usagePoints_deltas, foldl_update, baselines_last (h.rows.filter _), inOrder_filter h.rows]
    have hreading : (UsagePoint.reading counter ∘ fun row => rowPoint row none) = UsageSample.reading counter := by
      funext row
      exact rowPoint_reading row none
    congr 1
    · rw [before, List.getLast?_map, rowsOf, List.filter_filter, List.filter_filter, Option.or_none, Option.map_map, hreading]
      congr 2
      apply List.filter_congr
      intro row _
      simp only [UsageScope.holds, UsageSample.Of]
      grind
    · rw [within, rowsOf, List.filter_filter, List.filter_filter]
      congr 1
      apply List.filter_congr
      intro row _
      simp only [UsageScope.holds, UsageSample.Of]
      grind

/-- No delta of a series is negative, and the deltas of a generation of a runtime add up to the growth of its counter
exactly if no growth follows a sample without the counter. -/
theorem deltas_telescope (options : UsageOptions) {inputs : List UsageInput}
    (hclock : inputs.Pairwise fun a b => a.sampledAt ≤ b.sampledAt) (counter : UsageCounter)
    (sessionId runtimeId : String) (generation : Nat)
    (hgrows : (availableCounters counter sessionId runtimeId generation inputs).Pairwise (· ≤ ·))
    {window : String} {now : Int} {series : UsageSeries}
    (hseries : (run options inputs).query .session sessionId window now = .ok series) :
    (∀ point ∈ series.points, 0 ≤ point.delta counter) ∧
      (((series.points.filter fun point => point.runtimeId = runtimeId ∧ point.generation = generation).map
            (·.delta counter)).sum =
          Counter.growth
            ((run options inputs).before counter sessionId runtimeId generation (now - series.window.WINDOW_MS))
            ((run options inputs).within counter sessionId runtimeId generation (now - series.window.WINDOW_MS)) ↔
        (run options inputs).Unbroken counter sessionId runtimeId generation (now - series.window.WINDOW_MS)) := by
  obtain ⟨hordered, hvalues⟩ := run_kept options counter sessionId runtimeId generation hclock
  obtain ⟨hdeltas, hnonneg⟩ := query_deltas hordered counter runtimeId generation hseries
  refine ⟨hnonneg, ?_⟩
  rw [hdeltas, unbroken_iff hordered]
  apply Counter.sum_deltas_eq_iff
  rw [before, within, ← List.map_append, ← rowsOf_split hordered]
  exact hgrows.sublist hvalues

/-- A sample of one runtime, taken in a minute of its own. -/
def minuteSample (minute : Int) (total : Option Int) : UsageInput where
  channelId := none
  sessionId := "pilot"
  runtimeId := "runtime"
  generation := 1
  adapterKind := "codex"
  providerThreadId := none
  usage := ⟨⟨total, total, total, total⟩, if total.isSome then .available else .unavailable, "provider"⟩
  sampledAt := minute * 60000
  now := minute * 60000

theorem deltas_telescope_hour : ∃ series : UsageSeries,
    series.points.map (·.delta .totalTokens) = [0, 8, 7] ∧
      (∀ point ∈ series.points, 0 ≤ point.delta .totalTokens) := by
  have hseries : (run ⟨none, none⟩ [minuteSample 1 (some 10), minuteSample 2 (some 18), minuteSample 3 (some 25)]).query
      .session "pilot" "1h" 180000 = .ok _ := rfl
  exact ⟨_, by decide +kernel, (deltas_telescope ⟨none, none⟩ (by simp [minuteSample]) .totalTokens "pilot" "runtime" 1
    (by decide +kernel) hseries).1⟩

/-- A sample without counters loses the growth that the next one finds. -/
theorem growth_lost_over_gap :
    ¬∀ (options : UsageOptions) (inputs : List UsageInput),
      (inputs.Pairwise fun a b => a.sampledAt ≤ b.sampledAt) →
      ∀ (counter : UsageCounter) (sessionId runtimeId : String) (generation : Nat),
        (availableCounters counter sessionId runtimeId generation inputs).Pairwise (· ≤ ·) →
        ∀ (window : String) (now : Int) (series : UsageSeries),
          (run options inputs).query .session sessionId window now = .ok series →
          ((series.points.filter fun point => point.runtimeId = runtimeId ∧ point.generation = generation).map
              (·.delta counter)).sum =
            Counter.growth
              ((run options inputs).before counter sessionId runtimeId generation (now - series.window.WINDOW_MS))
              ((run options inputs).within counter sessionId runtimeId generation (now - series.window.WINDOW_MS)) := by
  intro h
  have hsum := h ⟨none, none⟩ [minuteSample 1 (some 10), minuteSample 2 none, minuteSample 3 (some 25)]
    (by simp [minuteSample]) .totalTokens "pilot" "runtime" 1 (by decide +kernel) "1h" 180000 _ rfl
  revert hsum
  decide +kernel

end UsageHistory

end Wardroom.Storage
