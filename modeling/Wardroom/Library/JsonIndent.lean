import Wardroom.Library.JsonWrite

/-! # A tree written on lines

Each element and each member stands on a line of its own, two spaces deeper than
what holds it. White space lies between the parts only, so the text reads as the
tree.
-/

namespace Wardroom.Library.JsonText
open JsString (quoted)

/-- A line break and the indent of the next line. -/
def newline (depth : Nat) : JsString := 0x0A :: List.replicate (2 * depth) 0x20

/-- Texts on lines of their own, with a comma after all but the last. -/
def onLines (depth : Nat) : List JsString → JsString
  | [] => []
  | [part] => newline depth ++ part
  | part :: parts => newline depth ++ (part ++ comma :: onLines depth parts)

mutual

/-- `JSON.stringify(value, null, 2)`. -/
def Tree.indent (depth : Nat) : Tree → JsString
  | .null => JsString.ofString "null"
  | .bool true => JsString.ofString "true"
  | .bool false => JsString.ofString "false"
  | .number text => text
  | .string s => quoted s
  | .array [] => [openBracket, closeBracket]
  | .array elements =>
    openBracket :: (onLines (depth + 1) (indentElements (depth + 1) elements) ++ (newline depth ++ [closeBracket]))
  | .object [] => [openBrace, closeBrace]
  | .object members =>
    openBrace :: (onLines (depth + 1) (indentMembers (depth + 1) members) ++ (newline depth ++ [closeBrace]))

def indentElements (depth : Nat) : List Tree → List JsString
  | [] => []
  | tree :: elements => tree.indent depth :: indentElements depth elements

def indentMembers (depth : Nat) : List (JsString × Tree) → List JsString
  | [] => []
  | (key, tree) :: members => (quoted key ++ colon :: 0x20 :: tree.indent depth) :: indentMembers depth members

end

theorem ws_replicate (n : Nat) (rest : JsString) : Ws (List.replicate n 0x20 ++ rest) rest := by
  induction n with
  | zero => exact .nil
  | succ n ih => exact .cons (by decide) ih

theorem ws_newline (depth : Nat) (rest : JsString) : Ws (newline depth ++ rest) rest :=
  .cons (by decide) (ws_replicate (2 * depth) rest)

theorem onLines_elements_cons (depth : Nat) (tree next : Tree) (elements : List Tree) (rest : JsString) :
    onLines depth (indentElements depth (tree :: next :: elements)) ++ rest =
      newline depth ++ (tree.indent depth ++
        comma :: (onLines depth (indentElements depth (next :: elements)) ++ rest)) := by
  simp [indentElements, onLines]

theorem onLines_members_cons (depth : Nat) (key : JsString) (tree : Tree) (next : JsString × Tree)
    (members : List (JsString × Tree)) (rest : JsString) :
    onLines depth (indentMembers depth ((key, tree) :: next :: members)) ++ rest =
      newline depth ++ (quoted key ++ colon :: 0x20 :: (tree.indent depth ++
        comma :: (onLines depth (indentMembers depth (next :: members)) ++ rest))) := by
  simp [indentMembers, onLines]

theorem key_indent (depth : Nat) (key rest : JsString) :
    Key key (newline depth ++ (quoted key ++ colon :: rest)) rest := by
  rw [chars_quoted]
  exact ⟨ws_newline depth _, chars_escape key _, .nil⟩

mutual

theorem value_indent : ∀ (tree : Tree) (depth : Nat), tree.Writable → ∀ rest,
    Value tree (tree.indent depth ++ rest) rest
  | .null, _, _, _ => .null
  | .bool true, _, _, _ => .true
  | .bool false, _, _, _ => .false
  | .number _, _, h, _ => .number h
  | .string s, _, _, rest => by
    rw [Tree.indent, chars_quoted]
    exact .string (chars_escape s rest)
  | .array [], _, _, _ => .emptyArray .nil
  | .array (tree :: elements), depth, h, rest => by
    rw [Tree.indent]
    · simp only [List.cons_append, List.append_assoc]
      exact .array (elements_indent (tree :: elements) (depth + 1) h (List.cons_ne_nil _ _) (ws_newline depth _))
    · simp
  | .object [], _, _, _ => .emptyObject .nil
  | .object (member :: members), depth, h, rest => by
    rw [Tree.indent]
    · simp only [List.cons_append, List.append_assoc]
      exact .object (members_indent (member :: members) (depth + 1) h (List.cons_ne_nil _ _) (ws_newline depth _))
    · simp

theorem elements_indent : ∀ (elements : List Tree) (depth : Nat), ElementsWritable elements → elements ≠ [] →
    ∀ {after rest : JsString}, Ws after rest →
      Elements elements (onLines depth (indentElements depth elements) ++ after) rest
  | [], _, _, hne, _, _, _ => absurd rfl hne
  | [tree], depth, h, _, after, rest, hafter => by
    change Elements _ ((newline depth ++ tree.indent depth) ++ after) rest
    rw [List.append_assoc]
    exact .one (ws_newline depth _) (value_indent tree depth h.1 after) hafter
  | tree :: next :: elements, depth, h, _, after, rest, hafter => by
    rw [onLines_elements_cons]
    exact .more (ws_newline depth _) (value_indent tree depth h.1 _) .nil
      (elements_indent (next :: elements) depth h.2 (List.cons_ne_nil _ _) hafter)

theorem members_indent : ∀ (members : List (JsString × Tree)) (depth : Nat), MembersWritable members →
    members ≠ [] → ∀ {after rest : JsString}, Ws after rest →
      Members members (onLines depth (indentMembers depth members) ++ after) rest
  | [], _, _, hne, _, _, _ => absurd rfl hne
  | [(key, tree)], depth, h, _, after, rest, hafter => by
    have htext : onLines depth (indentMembers depth [(key, tree)]) ++ after =
        newline depth ++ (quoted key ++ colon :: 0x20 :: (tree.indent depth ++ after)) := by
      simp [indentMembers, onLines]
    rw [htext]
    exact .one (key_indent depth key _) (.cons (by decide) .nil) (value_indent tree depth h.1 after) hafter
  | (key, tree) :: next :: members, depth, h, _, after, rest, hafter => by
    rw [onLines_members_cons]
    exact .more (key_indent depth key _) (.cons (by decide) .nil) (value_indent tree depth h.1 _) .nil
      (members_indent (next :: members) depth h.2 (List.cons_ne_nil _ _) hafter)

end

theorem jsonText_indent {tree : Tree} (h : tree.Writable) : JsonText tree (tree.indent 0 ++ [0x0A]) :=
  ⟨_, [0x0A], .nil, value_indent tree 0 h [0x0A], .cons (by decide) .nil⟩

end Wardroom.Library.JsonText
