import Wardroom.Library.JsonString

/-! # How a tree is written

The text of a tree has no white space. Reading it gives the tree back, as long as
every number in it is the text of a number.
-/

namespace Wardroom.Library.JsonText
open JsString (escape escapeUnit isHigh isLow isSurrogate hexLetter quoted)

def commaSeparated : List JsString → JsString
  | [] => []
  | [part] => part
  | part :: parts => part ++ comma :: commaSeparated parts

mutual

/-- `JSON.stringify`. -/
def Tree.write : Tree → JsString
  | .null => JsString.ofString "null"
  | .bool true => JsString.ofString "true"
  | .bool false => JsString.ofString "false"
  | .number text => text
  | .string s => quoted s
  | .array elements => openBracket :: (commaSeparated (writeElements elements) ++ [closeBracket])
  | .object members => openBrace :: (commaSeparated (writeMembers members) ++ [closeBrace])

def writeElements : List Tree → List JsString
  | [] => []
  | tree :: elements => tree.write :: writeElements elements

def writeMembers : List (JsString × Tree) → List JsString
  | [] => []
  | (key, tree) :: members => (quoted key ++ colon :: tree.write) :: writeMembers members

end

mutual

def Tree.Writable : Tree → Prop
  | .number text => Number text
  | .array elements => ElementsWritable elements
  | .object members => MembersWritable members
  | _ => True

def ElementsWritable : List Tree → Prop
  | [] => True
  | tree :: elements => tree.Writable ∧ ElementsWritable elements

def MembersWritable : List (JsString × Tree) → Prop
  | [] => True
  | (_, tree) :: members => tree.Writable ∧ MembersWritable members

end

theorem elementsWritable_iff {elements : List Tree} :
    ElementsWritable elements ↔ ∀ tree ∈ elements, tree.Writable := by
  induction elements with
  | nil => simp [ElementsWritable]
  | cons tree elements ih => simp [ElementsWritable, ih]

theorem hexDigit_hexLetter : ∀ n < 16, hexDigit (hexLetter n) = some n := by decide

theorem hexUnit_hexUnit (c : CodeUnit) :
    hexUnit (hexLetter (c.toNat / 4096)) (hexLetter (c.toNat / 256 % 16)) (hexLetter (c.toNat / 16 % 16))
      (hexLetter (c.toNat % 16)) = some c := by
  have hlt := c.toNat_lt
  rw [hexUnit, hexDigit_hexLetter _ (by omega), hexDigit_hexLetter _ (by omega),
    hexDigit_hexLetter _ (by omega), hexDigit_hexLetter _ (by omega)]
  have hsum : ((c.toNat / 4096 * 16 + c.toNat / 256 % 16) * 16 + c.toNat / 16 % 16) * 16 + c.toNat % 16 =
      c.toNat := by omega
  change some ((((c.toNat / 4096 * 16 + c.toNat / 256 % 16) * 16 + c.toNat / 16 % 16) * 16 +
    c.toNat % 16).toUInt16) = some c
  rw [hsum]
  simp

theorem plain_of_isSurrogate {c : CodeUnit} (h : isSurrogate c = true) :
    c ≠ quote ∧ c ≠ backslash ∧ ¬c < 0x20 := by
  simp only [isSurrogate, isHigh, isLow, Bool.or_eq_true, Bool.and_eq_true, decide_eq_true_eq,
    UInt16.le_iff_toNat_le, UInt16.reduceToNat] at h
  have hne (d : CodeUnit) (hd : d.toNat < 0xD800) : c ≠ d := by
    rintro rfl
    omega
  refine ⟨hne _ (by decide), hne _ (by decide), ?_⟩
  rw [UInt16.lt_iff_toNat_lt]
  simp only [UInt16.reduceToNat]
  omega

theorem chars_escapeUnit (c : CodeUnit) {s text rest : JsString} (h : Chars s text rest) :
    Chars (c :: s) (escapeUnit c ++ text) rest := by
  unfold escapeUnit
  split_ifs with hquote hbackslash hb hf hn hr ht hcontrol
  · exact .escape (by rw [hquote]; decide) h
  · exact .escape (by rw [hbackslash]; decide) h
  · exact .escape (by rw [hb]; decide) h
  · exact .escape (by rw [hf]; decide) h
  · exact .escape (by rw [hn]; decide) h
  · exact .escape (by rw [hr]; decide) h
  · exact .escape (by rw [ht]; decide) h
  · exact .unicode (hexUnit_hexUnit c) h
  · rw [Bool.or_eq_true, not_or, decide_eq_true_eq] at hcontrol
    exact .plain hquote hbackslash hcontrol.1 h

theorem chars_escape (s rest : JsString) : Chars s (escape s ++ quote :: rest) rest := by
  induction s using Wardroom.Library.JsString.escape.induct with
  | case1 => exact .close
  | case2 c => exact chars_escapeUnit c .close
  | case3 c d s hpair ih =>
    rw [escape, if_pos hpair]
    rw [Bool.and_eq_true] at hpair
    obtain ⟨hquote, hbackslash, hcontrol⟩ := plain_of_isSurrogate (c := c) (by simp [isSurrogate, hpair.1])
    obtain ⟨hquote', hbackslash', hcontrol'⟩ := plain_of_isSurrogate (c := d) (by simp [isSurrogate, hpair.2])
    exact .plain hquote hbackslash hcontrol (.plain hquote' hbackslash' hcontrol' ih)
  | case4 c d s hpair ih =>
    rw [escape, if_neg hpair, List.append_assoc]
    exact chars_escapeUnit c ih

theorem chars_quoted (s rest : JsString) : quoted s ++ rest = quote :: (escape s ++ quote :: rest) := by
  simp [quoted]

theorem key_quoted (key rest : JsString) : Key key (quoted key ++ colon :: rest) rest := by
  rw [chars_quoted]
  exact ⟨.nil, chars_escape key _, .nil⟩

theorem write_elements_cons (tree next : Tree) (elements : List Tree) (rest : JsString) :
    commaSeparated (writeElements (tree :: next :: elements)) ++ rest =
      tree.write ++ comma :: (commaSeparated (writeElements (next :: elements)) ++ rest) := by
  simp [writeElements, commaSeparated]

theorem write_members_cons (key : JsString) (tree : Tree) (next : JsString × Tree)
    (members : List (JsString × Tree)) (rest : JsString) :
    commaSeparated (writeMembers ((key, tree) :: next :: members)) ++ rest =
      quoted key ++ colon :: (tree.write ++ comma :: (commaSeparated (writeMembers (next :: members)) ++ rest)) := by
  simp [writeMembers, commaSeparated]

mutual

theorem value_write : ∀ (tree : Tree), tree.Writable → ∀ rest, Value tree (tree.write ++ rest) rest
  | .null, _, _ => .null
  | .bool true, _, _ => .true
  | .bool false, _, _ => .false
  | .number _, h, _ => .number h
  | .string s, _, rest => by
    rw [Tree.write, chars_quoted]
    exact .string (chars_escape s rest)
  | .array [], _, _ => .emptyArray .nil
  | .array (tree :: elements), h, rest => by
    rw [Tree.write, List.cons_append, List.append_assoc]
    exact .array (elements_write (tree :: elements) h (List.cons_ne_nil _ _) _)
  | .object [], _, _ => .emptyObject .nil
  | .object (member :: members), h, rest => by
    rw [Tree.write, List.cons_append, List.append_assoc]
    exact .object (members_write (member :: members) h (List.cons_ne_nil _ _) _)

theorem elements_write : ∀ (elements : List Tree), ElementsWritable elements → elements ≠ [] →
    ∀ rest, Elements elements (commaSeparated (writeElements elements) ++ rest) rest
  | [], _, hne, _ => absurd rfl hne
  | [tree], h, _, rest => .one .nil (value_write tree h.1 rest) .nil
  | tree :: next :: elements, h, _, rest => by
    rw [write_elements_cons]
    exact .more .nil (value_write tree h.1 _) .nil
      (elements_write (next :: elements) h.2 (List.cons_ne_nil _ _) rest)

theorem members_write : ∀ (members : List (JsString × Tree)), MembersWritable members → members ≠ [] →
    ∀ rest, Members members (commaSeparated (writeMembers members) ++ rest) rest
  | [], _, hne, _ => absurd rfl hne
  | [(key, tree)], h, _, rest => by
    change Members _ ((quoted key ++ colon :: tree.write) ++ rest) rest
    rw [List.append_assoc]
    exact .one (key_quoted key _) .nil (value_write tree h.1 rest) .nil
  | (key, tree) :: next :: members, h, _, rest => by
    rw [write_members_cons]
    exact .more (key_quoted key _) .nil (value_write tree h.1 _) .nil
      (members_write (next :: members) h.2 (List.cons_ne_nil _ _) rest)

end

theorem jsonText_write {tree : Tree} (h : tree.Writable) : JsonText tree tree.write := by
  have hvalue := value_write tree h []
  rw [List.append_nil] at hvalue
  exact ⟨_, _, .nil, hvalue, .nil⟩

end Wardroom.Library.JsonText
