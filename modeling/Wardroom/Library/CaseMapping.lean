import Wardroom.Library.Like

/-! # Lower case as JavaScript makes it

Every character has a lower case of one character or more, in the table of
Unicode. Only the capital sigma looks at its neighbours: at the end of a word it
becomes another letter.
-/

namespace Wardroom.Library

/-- The table of lower cases and the rule for the last letter of a word. -/
structure CaseTable where
  lower : Char → List Char
  /-- Whether a sigma between the two texts ends a word. -/
  isFinal : List Char → List Char → Bool
  ascii : ∀ c : Char, c.toNat < 128 → lower c = [c.toLower]
  sigma : lower 'Σ' = ['σ']
  /-- A lower case is its own lower case. -/
  stable : ∀ c, ∀ d ∈ lower c, lower d = [d]
  finalSigma : lower 'ς' = ['ς']
  ne_nil : ∀ c, lower c ≠ []

namespace CaseTable

variable (T : CaseTable)

/-- The lower case of a character between two texts. -/
def lowerAt (before : List Char) (c : Char) (after : List Char) : List Char :=
  if c = 'Σ' ∧ T.isFinal before after then ['ς'] else T.lower c

def lowerFrom : List Char → List Char → List Char
  | _, [] => []
  | before, c :: after => T.lowerAt before c after ++ lowerFrom (before ++ [c]) after

/-- `text.toLowerCase()`. -/
def toLowerCase (text : List Char) : List Char := T.lowerFrom [] text

/-- Characters that `toLowerCase` leaves as they are. -/
def Lowered (text : List Char) : Prop := ∀ c ∈ text, T.lower c = [c]

variable {T}

theorem lowered_lowerAt (before : List Char) (c : Char) (after : List Char) : T.Lowered (T.lowerAt before c after) := by
  intro d hd
  rw [lowerAt] at hd
  split_ifs at hd with hfinal
  · rw [List.mem_singleton.mp hd]
    exact T.finalSigma
  · exact T.stable c d hd

theorem lowered_lowerFrom (before text : List Char) : T.Lowered (T.lowerFrom before text) := by
  induction text generalizing before with
  | nil => exact fun d hd => (List.not_mem_nil hd).elim
  | cons c after ih => exact List.forall_mem_append.mpr ⟨lowered_lowerAt before c after, ih _⟩

theorem lowered_toLowerCase (text : List Char) : T.Lowered (T.toLowerCase text) := lowered_lowerFrom [] text

theorem toLowerCase_eq_nil {text : List Char} : T.toLowerCase text = [] ↔ text = [] := by
  cases text with
  | nil => exact ⟨fun _ => rfl, fun _ => rfl⟩
  | cons c after =>
    refine ⟨fun hnil => ?_, fun hnil => by cases hnil⟩
    rw [toLowerCase, lowerFrom, List.append_eq_nil_iff, lowerAt] at hnil
    obtain ⟨hfirst, -⟩ := hnil
    split_ifs at hfirst
    exact absurd hfirst (T.ne_nil c)

theorem toLower_of_not_ascii {c : Char} (h : ¬ c.toNat < 128) : c.toLower = c := by
  refine Char.toLower_eq_of_not_isUpper fun hupper => ?_
  rw [Char.isUpper, decide_eq_true_eq] at hupper
  exact h (Nat.lt_of_le_of_lt (UInt32.le_iff_toNat_le.mp hupper.2) (by decide))

theorem toLower_of_lower {c : Char} (h : T.lower c = [c]) : c.toLower = c := by
  by_cases hascii : c.toNat < 128
  · rw [T.ascii c hascii] at h
    exact List.head_eq_of_cons_eq h
  · exact toLower_of_not_ascii hascii

theorem Lowered.lower_eq {text : List Char} (h : T.Lowered text) : Like.lower text = text := by
  rw [Like.lower]
  exact (List.map_congr_left fun c hc => toLower_of_lower (h c hc)).trans (List.map_id text)

/-- A character whose lower case of ASCII stays has it as its lower case in the table. -/
theorem lowerAt_eq {c : Char} (h : T.lower c.toLower = [c.toLower]) (before after : List Char) :
    T.lowerAt before c after = [c.toLower] := by
  have hsigma : c ≠ 'Σ' := by
    rintro rfl
    have hsame : Char.toLower 'Σ' = 'Σ' := by decide
    rw [hsame, T.sigma] at h
    exact absurd (List.head_eq_of_cons_eq h) (by decide)
  rw [lowerAt, if_neg fun hfinal => hsigma hfinal.1]
  by_cases hascii : c.toNat < 128
  · exact T.ascii c hascii
  · rw [toLower_of_not_ascii hascii] at h ⊢
    exact h

theorem lowerFrom_append (before a b : List Char) (h : T.Lowered (Like.lower a)) :
    T.lowerFrom before (a ++ b) = Like.lower a ++ T.lowerFrom (before ++ a) b := by
  induction a generalizing before with
  | nil =>
    rw [List.append_nil]
    rfl
  | cons c a ih =>
    obtain ⟨hc, ha⟩ := List.forall_mem_cons.mp h
    rw [List.cons_append, lowerFrom, lowerAt_eq hc, ih _ ha, List.append_assoc]
    rfl

theorem infix_lowerFrom (before a b : List Char) :
    T.lowerFrom (before ++ a) b <:+: T.lowerFrom before (a ++ b) := by
  induction a generalizing before with
  | nil =>
    rw [List.append_nil]
    exact List.infix_rfl
  | cons c a ih =>
    rw [List.cons_append, lowerFrom]
    have hrest := ih (before ++ [c])
    rw [List.append_assoc] at hrest
    exact hrest.trans (List.suffix_append _ _).isInfix

/-- A text that is lower case and in which only the case of ASCII is ignored is found is found by all cases too. -/
theorem infix_toLowerCase {needle text : List Char} (hneedle : T.Lowered needle) (h : needle <:+: Like.lower text) :
    needle <:+: T.toLowerCase text := by
  obtain ⟨before, rest, hbefore, hrest⟩ : ∃ before rest, text = before ++ rest ∧ needle <+: Like.lower rest := by
    obtain ⟨suffix, hprefix, hsuffix⟩ := List.infix_iff_prefix_suffix.mp h
    obtain ⟨rest, hrest, rfl⟩ := List.suffix_map_iff.mp hsuffix
    obtain ⟨before, rfl⟩ := hrest
    exact ⟨before, rest, rfl, hprefix⟩
  obtain ⟨found, hfound, hsame⟩ := List.prefix_map_iff.mp hrest
  obtain ⟨after, rfl⟩ := hfound
  rw [hbefore]
  refine List.IsInfix.trans ?_ (infix_lowerFrom [] before (found ++ after))
  rw [lowerFrom_append _ _ _ (by rw [Like.lower, ← hsame]; exact hneedle), Like.lower, ← hsame]
  exact (List.prefix_append _ _).isInfix

end CaseTable

end Wardroom.Library
