import Wardroom.Library.Utf16

/-! # The bytes of a written tree

They are counted from its parts: each element and each member comes with a comma
or the last bracket.
-/

namespace Wardroom.Library.JsonText
open JsString (byteLength quoted isPaired isPaired_append isPaired_quoted byteLength_append_of_paired)

theorem membersWritable_iff {members : List (JsString × Tree)} :
    MembersWritable members ↔ ∀ m ∈ members, m.2.Writable := by
  induction members with
  | nil => simp [MembersWritable]
  | cons m members ih => rw [MembersWritable, ih, List.forall_mem_cons]

theorem byteLength_elements : ∀ {elements : List Tree}, ElementsWritable elements → elements ≠ [] →
    byteLength (commaSeparated (writeElements elements)) + 1 = (elements.map fun tree => byteLength tree.write + 1).sum
  | [], _, hne => absurd rfl hne
  | [only], _, _ => by simp [writeElements, commaSeparated]
  | first :: next :: rest, h, _ => by
    have hrest := byteLength_elements h.2 (List.cons_ne_nil next rest)
    have hsplit : byteLength (commaSeparated (writeElements (first :: next :: rest))) =
        byteLength first.write + byteLength (comma :: commaSeparated (writeElements (next :: rest))) :=
      byteLength_append_of_paired (isPaired_write first h.1) _
    have hcomma : byteLength (comma :: commaSeparated (writeElements (next :: rest))) =
        1 + byteLength (commaSeparated (writeElements (next :: rest))) :=
      @byteLength_append_of_paired [comma] (by decide) _
    rw [List.map_cons, List.sum_cons, ← hrest]
    omega

theorem byteLength_member {key : JsString} {tree : Tree} (h : tree.Writable) :
    isPaired (quoted key ++ colon :: tree.write) = true ∧
      byteLength (quoted key ++ colon :: tree.write) = byteLength (quoted key) + 1 + byteLength tree.write := by
  have hcolon : isPaired [colon] = true := by decide
  have hone : byteLength [colon] = 1 := by decide
  have hrest : isPaired ([colon] ++ tree.write) = true :=
    isPaired_append hcolon (isPaired_write tree h)
  refine ⟨isPaired_append (isPaired_quoted key) hrest, ?_⟩
  rw [byteLength_append_of_paired (isPaired_quoted key)]
  change _ + byteLength ([colon] ++ tree.write) = _
  rw [byteLength_append_of_paired hcolon, hone, Nat.add_assoc]

theorem byteLength_members : ∀ {members : List (JsString × Tree)}, MembersWritable members → members ≠ [] →
    byteLength (commaSeparated (writeMembers members)) + 1 =
      (members.map fun m => byteLength (quoted m.1) + byteLength m.2.write + 2).sum
  | [(key, tree)], h, _ => by
    change byteLength (quoted key ++ colon :: tree.write) + 1 = _
    rw [(byteLength_member h.1).2]
    simp only [List.map_cons, List.map_nil, List.sum_cons, List.sum_nil]
    omega
  | (key, tree) :: next :: members, h, _ => by
    have hrest := byteLength_members h.2 (List.cons_ne_nil next members)
    have hcomma : isPaired [comma] = true := by decide
    have hone : byteLength [comma] = 1 := by decide
    obtain ⟨hpaired, hmember⟩ := @byteLength_member key _ h.1
    have hsplit : commaSeparated (writeMembers ((key, tree) :: next :: members)) =
        (quoted key ++ colon :: tree.write) ++ ([comma] ++ commaSeparated (writeMembers (next :: members))) := rfl
    rw [hsplit, byteLength_append_of_paired hpaired, byteLength_append_of_paired hcomma, hone, hmember,
      List.map_cons, List.sum_cons, ← hrest]
    dsimp only
    omega

theorem byteLength_object {members : List (JsString × Tree)} (h : MembersWritable members) (hsome : members ≠ []) :
    byteLength (Tree.object members).write =
      (members.map fun m => byteLength (quoted m.1) + byteLength m.2.write + 2).sum + 1 := by
  have hopen : isPaired [openBrace] = true := by decide
  have hbegins : JsString.Begins [closeBrace] := JsString.begins_cons (by decide) []
  have hone : byteLength [openBrace] = 1 ∧ byteLength [closeBrace] = 1 := by decide
  change byteLength ([openBrace] ++ (commaSeparated (writeMembers members) ++ [closeBrace])) = _
  rw [byteLength_append_of_paired hopen, JsString.byteLength_append _ hbegins, hone.1, hone.2,
    ← byteLength_members h hsome]
  omega

theorem byteLength_array {elements : List Tree} (h : ElementsWritable elements) :
    byteLength (Tree.array elements).write = max 1 (elements.map fun tree => byteLength tree.write + 1).sum + 1 := by
  have hopen : isPaired [openBracket] = true := by decide
  have hbegins : JsString.Begins [closeBracket] := JsString.begins_cons (by decide) []
  have hone : byteLength [openBracket] = 1 ∧ byteLength [closeBracket] = 1 := by decide
  change byteLength ([openBracket] ++ (commaSeparated (writeElements elements) ++ [closeBracket])) = _
  rw [byteLength_append_of_paired hopen, JsString.byteLength_append _ hbegins, hone.1, hone.2]
  rcases eq_or_ne elements [] with rfl | hsome
  · decide
  · rw [← byteLength_elements h hsome]
    omega

theorem length_escape_le (s : JsString) : (JsString.escape s).length ≤ 6 * s.length := by
  have hunit (c : CodeUnit) : (JsString.escapeUnit c).length ≤ 6 := by
    unfold JsString.escapeUnit
    split_ifs <;> simp [JsString.hexUnit]
  induction s using JsString.escape.induct with
  | case1 => exact Nat.le_refl _
  | case2 c => exact hunit c
  | case3 c d rest hpair ih =>
    simp only [JsString.escape, if_pos hpair, List.length_cons]
    omega
  | case4 c d rest hpair ih =>
    have hc := hunit c
    simp only [JsString.escape, if_neg hpair, List.length_cons, List.length_append] at ih ⊢
    omega

theorem byteLength_quoted_le (s : JsString) : byteLength (quoted s) ≤ 18 * s.length + 2 := by
  have hbytes := JsString.byteLength_le (JsString.escape s)
  have hlength := length_escape_le s
  rw [JsString.byteLength_quoted]
  omega

end Wardroom.Library.JsonText
