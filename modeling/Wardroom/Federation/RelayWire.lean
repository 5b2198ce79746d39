import Wardroom.Federation.InventoryWalks
import Wardroom.Library.JsonLine

/-! # What a value is on the wire

A frame travels as the text of an object, and the peer reads that text with the
strict parser. The text has one parse tree, which is the value's own with its
members in JavaScript's order, so the peer sees the fields that were sent.
-/

namespace Wardroom.Federation
open Wardroom.Library Wardroom.Library.JsonText

variable {ν : Type} (p : Platform ν)

/-- The text of a finite number is a number of JSON. -/
def Platform.WritesNumbers : Prop := ∀ n, p.isFinite n = true → Number (p.numberText n)

theorem inKeyOrder_map {α β : Type} (f : α → β) (members : List (JsString × α)) :
    inKeyOrder (members.map fun m => (m.1, f m.2)) = (inKeyOrder members).map fun m => (m.1, f m.2) := by
  unfold inKeyOrder
  rw [List.map_append, List.filter_map, List.filter_map]
  congr 1
  symm
  exact List.map_mergeSort fun _ _ _ _ => rfl

theorem mem_inKeyOrder {α : Type} {members : List (JsString × α)} {m : JsString × α} :
    m ∈ inKeyOrder members ↔ m ∈ members := by
  unfold inKeyOrder
  rw [List.mem_append, List.mem_mergeSort, List.mem_filter, List.mem_filter]
  cases (arrayIndex m.1) <;> simp

namespace JsValue

mutual

/-- What `JSON.stringify` makes of the value. -/
def tree : JsValue ν → Tree
  | .null => .null
  | .bool b => .bool b
  | .number n => if p.isFinite n then .number (p.numberText n) else .null
  | .string s => .string s
  | .array elements => .array (treeElements elements)
  | .objectPrototype => .object []
  | .object own _ => .object (inKeyOrder (treeMembers own))

def treeElements : List (JsValue ν) → List Tree
  | [] => []
  | value :: values => value.tree :: treeElements values

def treeMembers : List (JsString × JsValue ν) → List (JsString × Tree)
  | [] => []
  | (key, value) :: members => (key, value.tree) :: treeMembers members

end

theorem treeMembers_eq (members : List (JsString × JsValue ν)) :
    treeMembers p members = members.map fun m => (m.1, m.2.tree p) := by
  induction members with
  | nil => rfl
  | cons m members ih => rw [treeMembers, ih, List.map_cons]

theorem writeMembers_eq (members : List (JsString × Tree)) :
    writeMembers members = members.map fun m => JsString.quoted m.1 ++ colon :: m.2.write := by
  induction members with
  | nil => rfl
  | cons m members ih => rw [writeMembers, ih, List.map_cons]

mutual

theorem stringify_eq_write : ∀ value : JsValue ν, value.stringify p = (value.tree p).write
  | .null => rfl
  | .bool true => rfl
  | .bool false => rfl
  | .number n => by
    rw [stringify, tree]
    split_ifs
    · rfl
    · rfl
  | .string _ => rfl
  | .array elements => by
    rw [stringify, tree, Tree.write, stringifyElements_eq_write elements, joinWith_comma]
    rfl
  | .objectPrototype => by
    rw [stringify, tree]
    decide +kernel
  | .object own _ => by
    rw [stringify, tree, Tree.write, stringifyMembers_eq_write own, inKeyOrder_map, joinWith_comma, writeMembers_eq,
      List.map_map]
    have hopen : text "\x7b" = [openBrace] := by decide
    have hclose : text "\x7d" = [closeBrace] := by decide
    have hcolon : text ":" = [colon] := by decide
    rw [hopen, hclose, hcolon]
    simp [Function.comp_def]

theorem stringifyElements_eq_write : ∀ elements : List (JsValue ν),
    stringifyElements p elements = writeElements (treeElements p elements)
  | [] => rfl
  | value :: elements => by
    rw [stringifyElements, treeElements, writeElements, stringify_eq_write value, stringifyElements_eq_write elements]

theorem stringifyMembers_eq_write : ∀ members : List (JsString × JsValue ν),
    stringifyMembers p members = (treeMembers p members).map fun m => (m.1, m.2.write)
  | [] => rfl
  | (key, value) :: members => by
    rw [stringifyMembers, treeMembers, List.map_cons, stringify_eq_write value, stringifyMembers_eq_write members]

end

theorem membersWritable_iff {members : List (JsString × Tree)} :
    MembersWritable members ↔ ∀ m ∈ members, m.2.Writable := by
  induction members with
  | nil => simp [MembersWritable]
  | cons m members ih => simp [MembersWritable, ih]

variable {p}

mutual

theorem writable_tree (hp : p.WritesNumbers) : ∀ value : JsValue ν, (value.tree p).Writable
  | .null => trivial
  | .bool _ => trivial
  | .number n => by
    rw [tree]
    split_ifs with hfinite
    · exact hp n hfinite
    · trivial
  | .string _ => trivial
  | .array elements => writable_treeElements hp elements
  | .objectPrototype => trivial
  | .object own _ => by
    rw [tree, Tree.Writable, membersWritable_iff]
    intro m hm
    exact membersWritable_iff.mp (writable_treeMembers hp own) m (mem_inKeyOrder.mp hm)

theorem writable_treeElements (hp : p.WritesNumbers) : ∀ elements : List (JsValue ν),
    ElementsWritable (treeElements p elements)
  | [] => trivial
  | value :: elements => ⟨writable_tree hp value, writable_treeElements hp elements⟩

theorem writable_treeMembers (hp : p.WritesNumbers) : ∀ members : List (JsString × JsValue ν),
    MembersWritable (treeMembers p members)
  | [] => trivial
  | (_, value) :: members => ⟨writable_tree hp value, writable_treeMembers hp members⟩

end

theorem jsonText_stringify (hp : p.WritesNumbers) (value : JsValue ν) :
    JsonText (value.tree p) (value.stringify p) := by
  rw [stringify_eq_write]
  exact jsonText_write (writable_tree hp value)

variable (p) in
mutual

/-- The value has a text of its own: no number loses anything, and its objects are plain, with keys in order and
without `__proto__`. -/
def Portable : JsValue ν → Prop
  | .number n => p.isFinite n = true ∧ p.number (p.numberText n) = n
  | .array elements => ElementsPortable elements
  | .objectPrototype => False
  | .object own proto =>
    (proto = .objectPrototype ∧ (own.map Prod.fst).Nodup ∧ protoKey ∉ own.map Prod.fst ∧ inKeyOrder own = own) ∧
      MembersPortable own
  | _ => True

def ElementsPortable : List (JsValue ν) → Prop
  | [] => True
  | value :: values => value.Portable ∧ ElementsPortable values

def MembersPortable : List (JsString × JsValue ν) → Prop
  | [] => True
  | (_, value) :: members => value.Portable ∧ MembersPortable members

end

theorem treeMembers_inKeyOrder {own : List (JsString × JsValue ν)} (h : inKeyOrder own = own) :
    inKeyOrder (treeMembers p own) = treeMembers p own := by
  rw [treeMembers_eq, inKeyOrder_map, h]

mutual

theorem fold_tree : ∀ value : JsValue ν, value.Portable p → (value.tree p).fold (assigned p.number) = some value
  | .null, _ => rfl
  | .bool _, _ => rfl
  | .number n, h => by
    rw [tree, if_pos h.1, Tree.fold]
    exact congrArg (fun m => some (JsValue.number m)) h.2
  | .string _, _ => rfl
  | .array elements, h => by
    rw [tree, Tree.fold, fold_treeElements elements h]
    rfl
  | .objectPrototype, h => h.elim
  | .object own proto, h => by
    obtain ⟨⟨rfl, hnodup, hproto, hordered⟩, hmembers⟩ := h
    have hread := fold_treeMembers own ⟨[], .objectPrototype⟩ hmembers hnodup hproto fun _ _ => List.not_mem_nil
    rw [tree, Tree.fold, treeMembers_inKeyOrder hordered]
    exact congrArg (Option.map (assigned p.number).object) hread

theorem fold_treeElements : ∀ elements : List (JsValue ν), ElementsPortable p elements →
    foldElements (assigned p.number) (treeElements p elements) = some elements
  | [], _ => rfl
  | value :: elements, h => by
    rw [treeElements, foldElements, fold_tree value h.1, fold_treeElements elements h.2]
    rfl

theorem fold_treeMembers : ∀ (members : List (JsString × JsValue ν)) (o : Plain ν), MembersPortable p members →
    (members.map Prod.fst).Nodup → protoKey ∉ members.map Prod.fst → (∀ key ∈ members.map Prod.fst, key ∉ o.keys) →
    foldMembers (assigned p.number) o (treeMembers p members) = some { o with own := o.own ++ members }
  | [], o, _, _, _, _ => by
    rw [treeMembers, foldMembers, List.append_nil]
  | (key, value) :: members, o, h, hnodup, hproto, hnew => by
    rw [List.map_cons, List.nodup_cons] at hnodup
    rw [List.map_cons, List.mem_cons, not_or] at hproto
    have hkey : key ≠ protoKey := Ne.symm hproto.1
    have hassigned : o.assign key value = { o with own := o.own ++ [(key, value)] } := if_neg fun hset => hkey hset.1
    rw [treeMembers, foldMembers_cons, fold_tree value h.1, Option.bind_some, if_neg (hnew key List.mem_cons_self),
      fold_treeMembers members _ h.2 hnodup.2 hproto.2, hassigned]
    · simp
    · intro next hnext hmem
      rw [Plain.keys_assign hkey, List.mem_append, List.mem_singleton] at hmem
      rcases hmem with hold | rfl
      · exact hnew next (List.mem_cons_of_mem _ hnext) hold
      · exact hnodup.1 hnext

end

theorem parse_portable (hp : p.WritesNumbers) {value : JsValue ν} (h : value.Portable p) :
    parseEnrollmentArtifactJson p.number (value.stringify p) = .ok value :=
  ok_of_fold p.number (jsonText_stringify hp value) (fold_tree value h)

end JsValue

/-- What the peer's checks decide of an object. -/
def checkRelayFrame (now : Int) : JsValue ν → Except JsString (RelayWireFrame ν)
  | .object own proto =>
    match (JsValue.object own proto).get (text "kind") with
    | some (.string kind) => validateFrame p now own proto kind
    | kind => relayProtocolError (text "unknown frame kind " ++ kind.elim (text "undefined") (JsValue.stringify p))
  | _ => relayProtocolError (text "frame must be an object")

variable {p}

theorem raw_of_encoded {value : JsValue ν} {line : JsString} (h : encodeObject p value = .ok line) :
    line = value.stringify p ++ [0x0A] ∧ (value.stringify p).byteLength ≤ RELAY_MAX_FRAME_BYTES := by
  unfold encodeObject at h
  split_ifs at h with hlong
  · cases h
  · cases h
    exact ⟨rfl, Nat.not_lt.mp hlong⟩

theorem parse_portable_frame (hp : p.WritesNumbers) {value : JsValue ν} (h : value.Portable p)
    (hshort : (value.stringify p).byteLength ≤ RELAY_MAX_FRAME_BYTES) (now : Int) :
    parseRelayFrame p now (value.stringify p) = checkRelayFrame p now value := by
  rw [parseRelayFrame, if_neg (Nat.not_lt.mpr hshort), JsValue.parse_portable hp h]
  cases value <;> rfl

/-- The line of an object holds one frame, and the peer decides on the very object that was encoded. -/
theorem encoded_transparent (hp : p.WritesNumbers) {value : JsValue ν} (h : value.Portable p) {line : JsString}
    (hline : encodeObject p value = .ok line) (now : Int) :
    ∃ raw, line = raw ++ [0x0A] ∧ 0x0A ∉ raw ∧ parseRelayFrame p now raw = checkRelayFrame p now value := by
  obtain ⟨hraw, hshort⟩ := raw_of_encoded hline
  refine ⟨value.stringify p, hraw, ?_, parse_portable_frame hp h hshort now⟩
  rw [JsValue.stringify_eq_write]
  exact lineFeed_notMem (printed_write _ (JsValue.writable_tree hp value))

/-- Whole numbers as JavaScript writes them, and no others. -/
def finitePlatform : Platform Int :=
  { wholePlatform with isFinite := fun n => 0 ≤ n ∧ n ≤ MAX_SAFE_INTEGER }

theorem finitePlatform_writesNumbers : finitePlatform.WritesNumbers := by
  intro n hfinite
  have hrange : 0 ≤ n ∧ n ≤ MAX_SAFE_INTEGER := of_decide_eq_true hfinite
  have htext : finitePlatform.numberText n = JsonText.decimalText n.toNat := if_pos hrange
  rw [htext]
  exact JsonText.number_decimalText _

/-- A text that holds the end of a line, and an array. -/
def tornObject : JsValue Int :=
  .object [(text "kind", .string [0x0A]), (text "seq", .array [.number 1, .null])] .objectPrototype

theorem encoded_transparent_torn :
    ∃ raw, (text "\x7b\"kind\":\"\\n\",\"seq\":[1,null]\x7d\n") = raw ++ [0x0A] ∧ 0x0A ∉ raw ∧
      parseRelayFrame finitePlatform 0 raw = checkRelayFrame finitePlatform 0 tornObject := by
  apply encoded_transparent finitePlatform_writesNumbers
  · simp only [tornObject, JsValue.Portable, JsValue.MembersPortable, JsValue.ElementsPortable, true_and, and_true]
    refine ⟨⟨by decide +kernel, by decide +kernel, inKeyOrder_names ?_⟩, by decide +kernel⟩
    simp only [List.mem_cons, List.not_mem_nil, or_false]
    rintro _ (rfl | rfl)
    · decide +kernel
    · decide +kernel
  · decide +kernel

end Wardroom.Federation
