import Wardroom.Library.JsonWrite
import Wardroom.Library.Utf8

/-! # UTF-16 text as bytes

Two surrogates that are a pair are one character, and a surrogate by itself is
replaced. A text without such surrogates is read back from its bytes.
-/

namespace Wardroom.Library.JsString

def unitChar (c : CodeUnit) : Char := if isSurrogate c then Utf8.replacement else Char.ofNat c.toNat

def pairChar (c d : CodeUnit) : Char :=
  Char.ofNat (0x10000 + (c.toNat - 0xD800) * 0x400 + (d.toNat - 0xDC00))

def chars : JsString → List Char
  | [] => []
  | [c] => [unitChar c]
  | c :: d :: rest => if isHigh c && isLow d then pairChar c d :: chars rest else unitChar c :: chars (d :: rest)

def ofChars (cs : List Char) : JsString := cs.flatMap ofChar

/-- `Buffer.from(text, "utf8")`. -/
def toUtf8 (s : JsString) : List UInt8 := Utf8.encode (chars s)

/-- `buffer.toString("utf8")`. -/
def ofUtf8 (bytes : List UInt8) : JsString := ofChars (Utf8.decode bytes)

/-- No surrogate is without its partner. -/
def isPaired : JsString → Bool
  | [] => true
  | [c] => !isSurrogate c
  | c :: d :: rest => if isHigh c && isLow d then isPaired rest else !isSurrogate c && isPaired (d :: rest)

theorem toNat_ofNat {n : Nat} (h : n < 0xD800 ∨ 0xDFFF < n ∧ n < 0x110000) : (Char.ofNat n).toNat = n := by
  have hvalid : n.isValidChar := h
  rw [Char.toNat_ofNat, if_pos hvalid]

theorem ofChar_unitChar {c : CodeUnit} (h : isSurrogate c = false) : ofChar (unitChar c) = [c] := by
  have hlt := c.toNat_lt
  have hrange : c.toNat < 0xD800 ∨ 0xDFFF < c.toNat := by
    simp only [isSurrogate, isHigh, isLow, Bool.or_eq_false_iff, Bool.and_eq_false_iff, decide_eq_false_iff_not,
      UInt16.le_iff_toNat_le, UInt16.reduceToNat] at h
    omega
  rw [unitChar, h, if_neg Bool.false_ne_true, ofChar, toNat_ofNat (by omega), if_pos (by omega)]
  simp

theorem ofChar_pairChar {c d : CodeUnit} (hc : isHigh c = true) (hd : isLow d = true) :
    ofChar (pairChar c d) = [c, d] := by
  simp only [isHigh, isLow, Bool.and_eq_true, decide_eq_true_eq, UInt16.le_iff_toNat_le,
    UInt16.reduceToNat] at hc hd
  rw [pairChar, ofChar, toNat_ofNat (by omega), if_neg (by omega)]
  have hhigh : 0xD800 + (0x10000 + (c.toNat - 0xD800) * 0x400 + (d.toNat - 0xDC00) - 0x10000) / 0x400 = c.toNat := by
    omega
  have hlow : 0xDC00 + (0x10000 + (c.toNat - 0xD800) * 0x400 + (d.toNat - 0xDC00) - 0x10000) % 0x400 = d.toNat := by
    omega
  rw [hhigh, hlow]
  simp

theorem ofChars_chars {s : JsString} (h : isPaired s = true) : ofChars (chars s) = s := by
  induction s using chars.induct with
  | case1 => rfl
  | case2 c =>
    rw [isPaired, Bool.not_eq_true'] at h
    rw [chars, ofChars, List.flatMap_singleton, ofChar_unitChar h]
  | case3 c d rest hpair ih =>
    rw [isPaired, if_pos hpair] at h
    rw [chars, if_pos hpair, ofChars, List.flatMap_cons]
    rw [Bool.and_eq_true] at hpair
    rw [ofChar_pairChar hpair.1 hpair.2]
    exact congrArg (fun t => c :: d :: t) (ih h)
  | case4 c d rest hpair ih =>
    rw [isPaired, if_neg hpair, Bool.and_eq_true, Bool.not_eq_true'] at h
    rw [chars, if_neg hpair, ofChars, List.flatMap_cons, ofChar_unitChar h.1]
    exact congrArg (c :: ·) (ih h.2)

theorem ofUtf8_toUtf8 {s : JsString} (h : isPaired s = true) : ofUtf8 (toUtf8 s) = s := by
  have hdecode := Utf8.decode_encode_append (chars s) []
  rw [List.append_nil] at hdecode
  rw [ofUtf8, toUtf8, hdecode]
  exact (congrArg ofChars (List.append_nil _)).trans (ofChars_chars h)

theorem chars_cons {c : CodeUnit} (h : isHigh c = false) (rest : JsString) :
    chars (c :: rest) = unitChar c :: chars rest := by
  cases rest with
  | nil => rfl
  | cons d rest => rw [chars, h, Bool.false_and, if_neg Bool.false_ne_true]

theorem chars_ofChar_append (c : Char) (rest : JsString) : chars (ofChar c ++ rest) = c :: chars rest := by
  have hvalid : c.toNat < 0xD800 ∨ 0xDFFF < c.toNat ∧ c.toNat < 0x110000 := c.valid
  unfold ofChar
  by_cases hsmall : c.toNat < 0x10000
  · have hunit : c.toNat.toUInt16.toNat = c.toNat := by
      rw [Nat.toUInt16, UInt16.toNat_ofNat']
      omega
    have hsurrogate : isSurrogate c.toNat.toUInt16 = false := by
      simp only [isSurrogate, isHigh, isLow, Bool.or_eq_false_iff, Bool.and_eq_false_iff,
        decide_eq_false_iff_not, UInt16.le_iff_toNat_le, UInt16.reduceToNat, hunit]
      omega
    have hhigh : isHigh c.toNat.toUInt16 = false := (Bool.or_eq_false_iff.mp hsurrogate).1
    rw [if_pos hsmall, List.singleton_append, chars_cons hhigh, unitChar, hsurrogate, hunit,
      if_neg Bool.false_ne_true, Char.ofNat_toNat]
  · have hupper : (0xD800 + (c.toNat - 0x10000) / 0x400).toUInt16.toNat = 0xD800 + (c.toNat - 0x10000) / 0x400 := by
      rw [Nat.toUInt16, UInt16.toNat_ofNat']
      omega
    have hlower : (0xDC00 + (c.toNat - 0x10000) % 0x400).toUInt16.toNat = 0xDC00 + (c.toNat - 0x10000) % 0x400 := by
      rw [Nat.toUInt16, UInt16.toNat_ofNat']
      omega
    have hpair : (isHigh (0xD800 + (c.toNat - 0x10000) / 0x400).toUInt16 &&
        isLow (0xDC00 + (c.toNat - 0x10000) % 0x400).toUInt16) = true := by
      simp only [isHigh, isLow, Bool.and_eq_true, decide_eq_true_eq, UInt16.le_iff_toNat_le,
        UInt16.reduceToNat, hupper, hlower]
      omega
    rw [if_neg hsmall]
    change chars (_ :: _ :: rest) = _
    rw [chars, if_pos hpair, pairChar, hupper, hlower]
    have hsum : 0x10000 + (0xD800 + (c.toNat - 0x10000) / 0x400 - 0xD800) * 0x400 +
        (0xDC00 + (c.toNat - 0x10000) % 0x400 - 0xDC00) = c.toNat := by omega
    rw [hsum, Char.ofNat_toNat]

theorem chars_ofString (s : String) : chars (ofString s) = s.toList := by
  unfold ofString
  induction s.toList with
  | nil => rfl
  | cons c cs ih => rw [List.flatMap_cons, chars_ofChar_append, ih]

theorem utf8Size_ofNat {n : Nat} (h : n < 0xD800 ∨ 0xDFFF < n ∧ n < 0x110000) :
    (Char.ofNat n).utf8Size = if n ≤ 0x7F then 1 else if n ≤ 0x7FF then 2 else if n ≤ 0xFFFF then 3 else 4 := by
  have hval : (Char.ofNat n).val.toNat = n := toNat_ofNat h
  simp only [Char.utf8Size, UInt32.le_iff_toNat_le, hval]
  rfl

theorem utf8Size_unitChar (c : CodeUnit) : (unitChar c).utf8Size = unitBytes c := by
  have hlt := c.toNat_lt
  unfold unitChar
  by_cases hsurrogate : isSurrogate c = true
  · rw [if_pos hsurrogate]
    simp only [isSurrogate, isHigh, isLow, Bool.or_eq_true, Bool.and_eq_true, decide_eq_true_eq,
      UInt16.le_iff_toNat_le, UInt16.reduceToNat] at hsurrogate
    rw [unitBytes, if_neg, if_neg]
    · rfl
    · rw [UInt16.lt_iff_toNat_lt]
      simp only [UInt16.reduceToNat]
      omega
    · rw [UInt16.lt_iff_toNat_lt]
      simp only [UInt16.reduceToNat]
      omega
  · rw [if_neg hsurrogate]
    simp only [isSurrogate, isHigh, isLow, Bool.or_eq_true, Bool.and_eq_true, decide_eq_true_eq,
      UInt16.le_iff_toNat_le, UInt16.reduceToNat] at hsurrogate
    rw [utf8Size_ofNat (by omega), unitBytes]
    simp only [UInt16.lt_iff_toNat_lt, UInt16.reduceToNat]
    split_ifs <;> omega

theorem utf8Size_pairChar {c d : CodeUnit} (hc : isHigh c = true) (hd : isLow d = true) :
    (pairChar c d).utf8Size = 4 := by
  simp only [isHigh, isLow, Bool.and_eq_true, decide_eq_true_eq, UInt16.le_iff_toNat_le,
    UInt16.reduceToNat] at hc hd
  rw [pairChar, utf8Size_ofNat (by omega), if_neg (by omega), if_neg (by omega), if_neg (by omega)]

theorem length_toUtf8 (s : JsString) : (toUtf8 s).length = byteLength s := by
  unfold toUtf8 Utf8.encode
  induction s using chars.induct with
  | case1 => rfl
  | case2 c =>
    rw [chars, List.flatMap_singleton, String.length_utf8EncodeChar, utf8Size_unitChar]
    rfl
  | case3 c d rest hpair ih =>
    rw [chars, if_pos hpair, List.flatMap_cons, List.length_append, ih, byteLength, if_pos hpair]
    rw [Bool.and_eq_true] at hpair
    rw [String.length_utf8EncodeChar, utf8Size_pairChar hpair.1 hpair.2]
  | case4 c d rest hpair ih =>
    rw [chars, if_neg hpair, List.flatMap_cons, List.length_append, ih, byteLength, if_neg hpair,
      String.length_utf8EncodeChar, utf8Size_unitChar]

theorem isPaired_append {a b : JsString} (ha : isPaired a = true) (hb : isPaired b = true) :
    isPaired (a ++ b) = true := by
  induction a using isPaired.induct with
  | case1 => exact hb
  | case2 c =>
    rw [isPaired] at ha
    cases b with
    | nil => exact ha
    | cons d rest =>
      have hhigh : isHigh c = false := by
        rw [isSurrogate, Bool.not_eq_true', Bool.or_eq_false_iff] at ha
        exact ha.1
      change isPaired (c :: d :: rest) = true
      rw [isPaired, hhigh, Bool.false_and, if_neg Bool.false_ne_true, ha, Bool.true_and]
      exact hb
  | case3 c d rest hpair ih =>
    rw [isPaired, if_pos hpair] at ha
    change isPaired (c :: d :: (rest ++ b)) = true
    rw [isPaired, if_pos hpair]
    exact ih ha
  | case4 c d rest hpair ih =>
    rw [isPaired, if_neg hpair, Bool.and_eq_true] at ha
    change isPaired (c :: d :: (rest ++ b)) = true
    rw [isPaired, if_neg hpair, ha.1, Bool.true_and]
    exact ih ha.2

theorem byteLength_append_of_paired {a : JsString} (ha : isPaired a = true) (b : JsString) :
    byteLength (a ++ b) = byteLength a + byteLength b := by
  induction a using isPaired.induct with
  | case1 => exact (Nat.zero_add _).symm
  | case2 c =>
    rw [isPaired, Bool.not_eq_true', isSurrogate, Bool.or_eq_false_iff] at ha
    exact byteLength_cons (.inl ha.1)
  | case3 c d rest hpair ih =>
    rw [isPaired, if_pos hpair] at ha
    change byteLength (c :: d :: (rest ++ b)) = _
    rw [byteLength, if_pos hpair, ih ha, byteLength, if_pos hpair, Nat.add_assoc]
  | case4 c d rest hpair ih =>
    rw [isPaired, if_neg hpair, Bool.and_eq_true] at ha
    change byteLength (c :: d :: (rest ++ b)) = _
    rw [byteLength, if_neg hpair, byteLength, if_neg hpair, Nat.add_assoc]
    exact congrArg (unitBytes c + ·) (ih ha.2)

theorem isPaired_cons {c : CodeUnit} (hc : isSurrogate c = false) {rest : JsString} (h : isPaired rest = true) :
    isPaired (c :: rest) = true := by
  have hone : isPaired [c] = true := by rw [isPaired, hc, Bool.not_false]
  exact isPaired_append hone h

theorem isPaired_of_all {s : JsString} (h : ∀ c ∈ s, isSurrogate c = false) : isPaired s = true := by
  induction s with
  | nil => rfl
  | cons c rest ih =>
    exact isPaired_cons (h c List.mem_cons_self) (ih fun d hd => h d (List.mem_cons_of_mem _ hd))

theorem isSurrogate_hexLetter : ∀ n < 16, isSurrogate (hexLetter n) = false := by decide

theorem isPaired_escapeUnit (c : CodeUnit) : isPaired (escapeUnit c) = true := by
  have hlt := c.toNat_lt
  unfold escapeUnit
  split_ifs with hquote hbackslash hb hf hn hr ht hcontrol
  · decide
  · decide
  · decide
  · decide
  · decide
  · decide
  · decide
  · refine isPaired_cons (by decide) (isPaired_cons (by decide) (isPaired_of_all ?_))
    simp only [hexUnit, List.forall_mem_cons, List.not_mem_nil, false_imp_iff, implies_true, and_true]
    exact ⟨isSurrogate_hexLetter _ (by omega), isSurrogate_hexLetter _ (by omega),
      isSurrogate_hexLetter _ (by omega), isSurrogate_hexLetter _ (by omega)⟩
  · rw [Bool.or_eq_true, not_or] at hcontrol
    exact isPaired_cons (Bool.eq_false_of_not_eq_true hcontrol.2) rfl

theorem isPaired_escape (s : JsString) : isPaired (escape s) = true := by
  induction s using escape.induct with
  | case1 => rfl
  | case2 c => exact isPaired_escapeUnit c
  | case3 c d rest hpair ih => rw [escape, if_pos hpair, isPaired, if_pos hpair, ih]
  | case4 c d rest hpair ih =>
    rw [escape, if_neg hpair]
    exact isPaired_append (isPaired_escapeUnit c) ih

theorem isPaired_quoted (s : JsString) : isPaired (quoted s) = true :=
  isPaired_cons (by decide) (isPaired_append (isPaired_escape s) (by decide))

end Wardroom.Library.JsString

namespace Wardroom.Library.JsonText
open JsString (isPaired isPaired_append isPaired_cons isPaired_of_all isPaired_quoted isSurrogate)

theorem Digits.isPaired {text : JsString} (h : Digits text) : isPaired text = true := by
  refine isPaired_of_all fun c hc => ?_
  have hdigit := h.all c hc
  simp only [isDigit, Bool.and_eq_true, decide_eq_true_eq, UInt16.le_iff_toNat_le, UInt16.reduceToNat] at hdigit
  simp only [isSurrogate, JsString.isHigh, JsString.isLow, Bool.or_eq_false_iff, Bool.and_eq_false_iff,
    decide_eq_false_iff_not, UInt16.le_iff_toNat_le, UInt16.reduceToNat]
  omega

theorem isPaired_sign {sign : JsString} (h : sign = [] ∨ sign = [plus] ∨ sign = [minus]) :
    isPaired sign = true := by
  rcases h with rfl | rfl | rfl <;> decide

theorem Number.isPaired {text : JsString} (h : Number text) : isPaired text = true := by
  obtain ⟨hsign, hinteger, hfraction, hexponent⟩ := h
  refine isPaired_append (isPaired_sign (hsign.imp_right .inr)) (isPaired_append ?_ (isPaired_append ?_ ?_))
  · cases hinteger with
    | zero => decide
    | digits hdigits _ => exact hdigits.isPaired
  · cases hfraction with
    | none => rfl
    | digits hdigits => exact isPaired_cons (by decide) hdigits.isPaired
  · cases hexponent with
    | none => rfl
    | digits he hsign hdigits =>
      refine isPaired_cons ?_ (isPaired_append (isPaired_sign hsign) hdigits.isPaired)
      rcases he with rfl | rfl <;> decide

mutual

theorem isPaired_write : ∀ (tree : Tree), tree.Writable → isPaired tree.write = true
  | .null, _ => by decide
  | .bool true, _ => by decide
  | .bool false, _ => by decide
  | .number _, h => Number.isPaired h
  | .string s, _ => isPaired_quoted s
  | .array elements, h =>
    isPaired_cons (by decide) (isPaired_append (isPaired_elements elements h) (by decide))
  | .object members, h =>
    isPaired_cons (by decide) (isPaired_append (isPaired_members members h) (by decide))

theorem isPaired_elements : ∀ (elements : List Tree), ElementsWritable elements →
    isPaired (commaSeparated (writeElements elements)) = true
  | [], _ => rfl
  | [tree], h => isPaired_write tree h.1
  | tree :: next :: elements, h =>
    isPaired_append (isPaired_write tree h.1) (isPaired_cons (by decide) (isPaired_elements (next :: elements) h.2))

theorem isPaired_members : ∀ (members : List (JsString × Tree)), MembersWritable members →
    isPaired (commaSeparated (writeMembers members)) = true
  | [], _ => rfl
  | [(key, tree)], h => isPaired_append (isPaired_quoted key) (isPaired_cons (by decide) (isPaired_write tree h.1))
  | (key, tree) :: next :: members, h =>
    isPaired_append (isPaired_append (isPaired_quoted key) (isPaired_cons (by decide) (isPaired_write tree h.1)))
      (isPaired_cons (by decide) (isPaired_members (next :: members) h.2))

end

end Wardroom.Library.JsonText
