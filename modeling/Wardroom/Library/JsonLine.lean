import Wardroom.Library.JsonWrite

/-! # A text on one line

Control characters are escaped in strings, and nothing else that is written is
one, so the text of a tree can be sent as a line.
-/

namespace Wardroom.Library.JsonText
open JsString (escape escapeUnit hexLetter quoted isHigh isLow isSurrogate)

/-- The text has no control character. -/
def Printed (text : JsString) : Prop := ∀ c ∈ text, ¬c < 0x20

instance (text : JsString) : Decidable (Printed text) := List.decidableBAll (fun c => ¬c < 0x20) text

@[simp] theorem printed_nil : Printed [] := fun _ h => absurd h List.not_mem_nil

@[simp] theorem printed_cons {c : CodeUnit} {text : JsString} : Printed (c :: text) ↔ ¬c < 0x20 ∧ Printed text :=
  List.forall_mem_cons

@[simp] theorem printed_append {a b : JsString} : Printed (a ++ b) ↔ Printed a ∧ Printed b := List.forall_mem_append

variable {text : JsString}

theorem lineFeed_notMem (h : Printed text) : 0x0A ∉ text := fun hmem => h _ hmem (by decide)

theorem printed_of_isDigit {c : CodeUnit} (h : isDigit c = true) : ¬c < 0x20 := by
  simp only [isDigit, Bool.and_eq_true, decide_eq_true_eq, UInt16.le_iff_toNat_le] at h
  have hzero : zero.toNat = 0x30 := rfl
  simp only [UInt16.lt_iff_toNat_lt, UInt16.reduceToNat]
  omega

theorem Digits.printed (h : Digits text) : Printed text := fun c hc => printed_of_isDigit (h.all c hc)

theorem IntegerPart.printed (h : IntegerPart text) : Printed text := by
  cases h with
  | zero => decide
  | digits hdigits _ => exact hdigits.printed

theorem FractionPart.printed (h : FractionPart text) : Printed text := by
  cases h with
  | none => simp
  | digits hdigits => exact printed_cons.mpr ⟨by decide, hdigits.printed⟩

theorem ExponentPart.printed (h : ExponentPart text) : Printed text := by
  cases h with
  | none => simp
  | digits he hsign hdigits =>
    have hmark : ¬plus < 0x20 ∧ ¬minus < 0x20 := by decide
    rcases he with rfl | rfl <;> rcases hsign with rfl | rfl | rfl <;> simpa [hmark] using hdigits.printed

theorem Number.printed (h : Number text) : Printed text := by
  obtain ⟨hsign, hinteger, hfraction, hexponent⟩ := h
  have hrest := printed_append.mpr ⟨hinteger.printed, printed_append.mpr ⟨hfraction.printed, hexponent.printed⟩⟩
  rcases hsign with rfl | rfl
  · exact hrest
  · exact printed_cons.mpr ⟨by decide, hrest⟩

theorem printed_hexLetter : ∀ n < 16, ¬hexLetter n < 0x20 := by decide

theorem printed_escapeUnit (c : CodeUnit) : Printed (escapeUnit c) := by
  have hlt := c.toNat_lt
  unfold escapeUnit
  split_ifs with hquote hbackslash hb hf hn hr ht hcontrol
  · decide
  · decide
  · decide
  · decide
  · decide
  · decide
  · decide
  · simp only [JsString.hexUnit, printed_cons, printed_nil, and_true]
    exact ⟨by decide, by decide, printed_hexLetter _ (by omega), printed_hexLetter _ (by omega),
      printed_hexLetter _ (by omega), printed_hexLetter _ (by omega)⟩
  · rw [Bool.or_eq_true, not_or, decide_eq_true_eq] at hcontrol
    simpa using hcontrol.1

theorem printed_escape (s : JsString) : Printed (escape s) := by
  induction s using Wardroom.Library.JsString.escape.induct with
  | case1 => exact printed_nil
  | case2 c => exact printed_escapeUnit c
  | case3 c d s hpair ih =>
    rw [escape, if_pos hpair]
    rw [Bool.and_eq_true] at hpair
    have hc := (plain_of_isSurrogate (c := c) (by simp [isSurrogate, hpair.1])).2.2
    have hd := (plain_of_isSurrogate (c := d) (by simp [isSurrogate, hpair.2])).2.2
    exact printed_cons.mpr ⟨hc, printed_cons.mpr ⟨hd, ih⟩⟩
  | case4 c d s hpair ih =>
    rw [escape, if_neg hpair]
    exact printed_append.mpr ⟨printed_escapeUnit c, ih⟩

theorem printed_quoted (s : JsString) : Printed (quoted s) := by
  rw [quoted, printed_cons, printed_append]
  exact ⟨by decide, printed_escape s, by decide⟩

theorem printed_commaSeparated {parts : List JsString} (h : ∀ part ∈ parts, Printed part) :
    Printed (commaSeparated parts) := by
  induction parts with
  | nil => exact printed_nil
  | cons part parts ih =>
    rw [List.forall_mem_cons] at h
    cases parts with
    | nil => exact h.1
    | cons next parts =>
      rw [commaSeparated.eq_3 part (next :: parts) (by simp), printed_append, printed_cons]
      exact ⟨h.1, by decide, ih h.2⟩

mutual

theorem printed_write : ∀ tree : Tree, tree.Writable → Printed tree.write
  | .null, _ => by
    rw [Tree.write]
    decide
  | .bool true, _ => by
    rw [Tree.write]
    decide
  | .bool false, _ => by
    rw [Tree.write]
    decide
  | .number _, h => Number.printed h
  | .string s, _ => printed_quoted s
  | .array elements, h => by
    rw [Tree.write, printed_cons, printed_append]
    exact ⟨by decide, printed_commaSeparated (printed_writeElements elements h), by decide⟩
  | .object members, h => by
    rw [Tree.write, printed_cons, printed_append]
    exact ⟨by decide, printed_commaSeparated (printed_writeMembers members h), by decide⟩

theorem printed_writeElements : ∀ elements : List Tree, ElementsWritable elements →
    ∀ part ∈ writeElements elements, Printed part
  | [], _ => by simp [writeElements]
  | tree :: elements, h => by
    rw [writeElements, List.forall_mem_cons]
    exact ⟨printed_write tree h.1, printed_writeElements elements h.2⟩

theorem printed_writeMembers : ∀ members : List (JsString × Tree), MembersWritable members →
    ∀ part ∈ writeMembers members, Printed part
  | [], _ => by simp [writeMembers]
  | (key, tree) :: members, h => by
    rw [writeMembers, List.forall_mem_cons, printed_append, printed_cons]
    exact ⟨⟨printed_quoted key, by decide, printed_write tree h.1⟩, printed_writeMembers members h.2⟩

end

end Wardroom.Library.JsonText
