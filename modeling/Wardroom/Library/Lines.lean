import Mathlib

/-! # Lines that end with a line feed -/

namespace Wardroom.Library.Lines

/-- The bytes a text takes in UTF-8. -/
def size (text : List Char) : Nat := (text.map Char.utf8Size).sum

@[simp] theorem size_nil : size [] = 0 := rfl

@[simp] theorem size_cons (c : Char) (text : List Char) : size (c :: text) = c.utf8Size + size text := rfl

@[simp] theorem size_append (a b : List Char) : size (a ++ b) = size a + size b := by
  simp [size]

/-- The lines a text completes and what it leaves of the next, after the start of a line. -/
def linesFrom : List Char → List Char → List (List Char) × List Char
  | start, [] => ([], start)
  | start, c :: text =>
    if c = '\n' then (start :: (linesFrom [] text).1, (linesFrom [] text).2)
    else linesFrom (start ++ [c]) text

def lines (text : List Char) : List (List Char) × List Char := linesFrom [] text

theorem linesFrom_append (start a b : List Char) :
    linesFrom start (a ++ b) = ((linesFrom start a).1 ++ (linesFrom (linesFrom start a).2 b).1,
      (linesFrom (linesFrom start a).2 b).2) := by
  induction a generalizing start with
  | nil => rfl
  | cons c a ih =>
    rw [List.cons_append, linesFrom, linesFrom]
    split_ifs
    · rw [ih]
      rfl
    · exact ih _

variable {text : List Char}

theorem linesFrom_of_notMem (start : List Char) (h : '\n' ∉ text) :
    linesFrom start text = ([], start ++ text) := by
  induction text generalizing start with
  | nil => rw [linesFrom, List.append_nil]
  | cons c text ih =>
    rw [List.mem_cons, not_or] at h
    rw [linesFrom, if_neg (Ne.symm h.1), ih _ h.2, List.append_assoc]
    rfl

theorem lines_append {start : List Char} (h : '\n' ∉ start) (text : List Char) :
    lines (start ++ text) = linesFrom start text := by
  rw [lines, linesFrom_append, linesFrom_of_notMem _ h]
  rfl

theorem rest_notMem {start : List Char} (h : '\n' ∉ start) (text : List Char) :
    '\n' ∉ (linesFrom start text).2 := by
  induction text generalizing start with
  | nil => exact h
  | cons c text ih =>
    rw [linesFrom]
    split_ifs with hfeed
    · exact ih List.not_mem_nil
    · refine ih ?_
      simpa using ⟨h, Ne.symm hfeed⟩

theorem length_lines (start text : List Char) : (linesFrom start text).1.length = text.count '\n' := by
  induction text generalizing start with
  | nil => rfl
  | cons c text ih =>
    rw [linesFrom, List.count_cons]
    split_ifs with hfeed hne hne
    · simp [ih]
    · simp [hfeed] at hne
    · simp at hne
      exact absurd hne hfeed
    · exact ih _

theorem rest_eq (h : '\n' ∈ text) (start : List Char) :
    (linesFrom start text).2 = (lines text).2 := by
  induction text generalizing start with
  | nil => cases h
  | cons c text ih =>
    by_cases hfeed : c = '\n'
    · simp [lines, linesFrom, hfeed]
    · have hrest : '\n' ∈ text := by
        rcases List.mem_cons.mp h with heq | hmem
        · exact absurd heq.symm hfeed
        · exact hmem
      rw [lines, linesFrom, linesFrom, if_neg hfeed, if_neg hfeed, ih hrest, ih hrest]

theorem first_extends {start text line : List Char} {more : List (List Char)}
    (h : (linesFrom start text).1 = line :: more) : ∃ added, line = start ++ added := by
  induction text generalizing start with
  | nil => cases h
  | cons c text ih =>
    rw [linesFrom] at h
    split_ifs at h with hfeed
    · cases h
      exact ⟨[], (List.append_nil _).symm⟩
    · obtain ⟨added, hadded⟩ := ih h
      exact ⟨c :: added, by rw [hadded, List.append_assoc]; rfl⟩

theorem linesFrom_join (start text : List Char) :
    (linesFrom start text).1.flatMap (· ++ ['\n']) ++ (linesFrom start text).2 = start ++ text := by
  induction text generalizing start with
  | nil => simp [linesFrom]
  | cons c text ih =>
    rw [linesFrom]
    split_ifs with hfeed
    · subst hfeed
      have hrest := ih []
      simp only [List.flatMap_cons, List.append_assoc]
      rw [hrest]
      rfl
    · rw [ih, List.append_assoc]
      rfl

theorem lines_join (text : List Char) :
    (lines text).1.flatMap (· ++ ['\n']) ++ (lines text).2 = text := linesFrom_join [] text

theorem lines_of_join {ls : List (List Char)} (h : ∀ line ∈ ls, '\n' ∉ line) (rest : List Char) :
    linesFrom [] (ls.flatMap (· ++ ['\n']) ++ rest) =
      (ls ++ (lines rest).1, (lines rest).2) := by
  induction ls with
  | nil => rfl
  | cons line ls ih =>
    rw [List.forall_mem_cons] at h
    rw [List.flatMap_cons, List.append_assoc, List.append_assoc, linesFrom_append,
      linesFrom_of_notMem _ h.1]
    change ([] ++ (linesFrom line ('\n' :: _)).1, _) = _
    simp [linesFrom, ih h.2]

/-- The first `k` lines with their line feeds, or all of the text when it has fewer. -/
def upto : Nat → List Char → List Char
  | 0, _ => []
  | _ + 1, [] => []
  | k + 1, c :: text => if c = '\n' then c :: upto k text else c :: upto (k + 1) text

@[simp] theorem upto_zero (text : List Char) : upto 0 text = [] := by rw [upto]

@[simp] theorem upto_nil (k : Nat) : upto k [] = [] := by
  cases k with
  | zero => rfl
  | succ k => rfl

theorem upto_append (k : Nat) (a b : List Char) :
    upto k (a ++ b) = if a.count '\n' < k then a ++ upto (k - a.count '\n') b else upto k a := by
  induction a generalizing k with
  | nil =>
    cases k with
    | zero => simp
    | succ k => simp
  | cons c a ih =>
    cases k with
    | zero => simp
    | succ k =>
      rw [List.cons_append, upto, upto]
      by_cases hfeed : c = '\n'
      · subst hfeed
        simp only [if_true, ih, List.count_cons_self, Nat.add_lt_add_iff_right, Nat.add_sub_add_right]
        split_ifs <;> rfl
      · simp only [if_neg hfeed, ih, List.count_cons_of_ne (fun h => hfeed h)]
        split_ifs <;> rfl

theorem upto_of_count_lt {k : Nat} (h : text.count '\n' < k) : upto k text = text := by
  have happend := upto_append k text []
  rw [List.append_nil, if_pos h, upto_nil, List.append_nil] at happend
  exact happend

theorem upto_join {ls : List (List Char)} (h : ∀ line ∈ ls, '\n' ∉ line) (rest : List Char) :
    upto ls.length (ls.flatMap (· ++ ['\n']) ++ rest) = ls.flatMap (· ++ ['\n']) := by
  induction ls with
  | nil => exact upto_zero _
  | cons line ls ih =>
    rw [List.forall_mem_cons] at h
    have hnone : line.count '\n' = 0 := List.count_eq_zero.mpr h.1
    rw [List.flatMap_cons, List.append_assoc, List.append_assoc, upto_append, hnone,
      if_pos (by simp), List.singleton_append, List.length_cons, Nat.sub_zero, upto, if_pos rfl, ih h.2]
    simp

theorem notMem_of_mem_linesFrom {start text : List Char} (hstart : '\n' ∉ start) :
    ∀ line ∈ (linesFrom start text).1, '\n' ∉ line := by
  induction text generalizing start with
  | nil => exact fun line hmem => (nomatch hmem)
  | cons c text ih =>
    rw [linesFrom]
    split_ifs with hfeed
    · exact List.forall_mem_cons.mpr ⟨hstart, ih List.not_mem_nil⟩
    · refine ih ?_
      simpa using ⟨hstart, Ne.symm hfeed⟩

theorem notMem_of_mem_lines : ∀ line ∈ (lines text).1, '\n' ∉ line :=
  notMem_of_mem_linesFrom List.not_mem_nil

theorem upto_eq {k : Nat} (h : k ≤ (lines text).1.length) :
    upto k text = ((lines text).1.take k).flatMap (· ++ ['\n']) := by
  have hsplit : text = ((lines text).1.take k).flatMap (· ++ ['\n']) ++
      (((lines text).1.drop k).flatMap (· ++ ['\n']) ++ (lines text).2) := by
    rw [← List.append_assoc, ← List.flatMap_append, List.take_append_drop, lines_join]
  have hfirst : ∀ line ∈ (lines text).1.take k, '\n' ∉ line :=
    fun line hmem => notMem_of_mem_lines line (List.mem_of_mem_take hmem)
  have hupto := upto_join hfirst (((lines text).1.drop k).flatMap (· ++ ['\n']) ++ (lines text).2)
  rw [List.length_take_of_le h, ← hsplit] at hupto
  exact hupto

/-- The first lines of a text are its beginning up to the last of their line feeds. -/
theorem take_eq_iff {k : Nat} {a b : List Char} (ha : k ≤ (lines a).1.length)
    (hb : k ≤ (lines b).1.length) :
    (lines a).1.take k = (lines b).1.take k ↔ upto k a = upto k b := by
  rw [upto_eq ha, upto_eq hb]
  constructor
  · intro h
    rw [h]
  · intro h
    have hlines (text : List Char) :
        lines (((lines text).1.take k).flatMap (· ++ ['\n'])) = ((lines text).1.take k, []) := by
      have hclean : ∀ line ∈ (lines text).1.take k, '\n' ∉ line := fun line hmem =>
        notMem_of_mem_lines line (List.mem_of_mem_take hmem)
      have hjoin := lines_of_join hclean []
      simpa [lines, linesFrom] using hjoin
    have heq := congrArg lines h
    rw [hlines, hlines] at heq
    exact congrArg Prod.fst heq

theorem upto_succ {k : Nat} {text line : List Char} {more : List (List Char)}
    (h : (lines text).1 = (lines text).1.take k ++ line :: more) (hk : k ≤ (lines text).1.length) :
    upto (k + 1) text = upto k text ++ (line ++ ['\n']) := by
  have hlen : k + 1 ≤ (lines text).1.length := by
    have := congrArg List.length h
    simp only [List.length_append, List.length_take, List.length_cons] at this
    omega
  rw [upto_eq hlen, upto_eq hk, List.take_add_one]
  have hline : (lines text).1[k]? = some line := by
    rw [h, List.getElem?_append_right (by simp [hk])]
    simp [hk]
  simp [hline]

theorem upto_length (text : List Char) :
    upto ((lines text).1.length + 1) text = upto (lines text).1.length text ++ (lines text).2 := by
  rw [upto_eq (Nat.le_refl _), List.take_length, lines_join]
  refine upto_of_count_lt ?_
  rw [lines, length_lines]
  exact Nat.lt_succ_self _

end Wardroom.Library.Lines
