import Wardroom.Library.JsString

/-! # The grammar of JSON text

A text is read from its front: `Value tree text rest` holds when `text` begins
with a value whose parse tree is `tree` and `rest` is what follows it. A tree
keeps every member of an object, in order and with its repeats.
-/

namespace Wardroom.Library.JsonText

abbrev quote : CodeUnit := 0x22
abbrev backslash : CodeUnit := 0x5C
abbrev openBrace : CodeUnit := 0x7B
abbrev closeBrace : CodeUnit := 0x7D
abbrev openBracket : CodeUnit := 0x5B
abbrev closeBracket : CodeUnit := 0x5D
abbrev colon : CodeUnit := 0x3A
abbrev comma : CodeUnit := 0x2C
abbrev minus : CodeUnit := 0x2D
abbrev plus : CodeUnit := 0x2B
abbrev dot : CodeUnit := 0x2E
abbrev zero : CodeUnit := 0x30

inductive Tree where
  | null
  | bool (b : Bool)
  | number (text : JsString)
  | string (s : JsString)
  | array (elements : List Tree)
  | object (members : List (JsString × Tree))

def isWhitespace (c : CodeUnit) : Bool := c = 0x20 || c = 0x09 || c = 0x0A || c = 0x0D

def isDigit (c : CodeUnit) : Bool := zero ≤ c && c ≤ 0x39

inductive Ws : JsString → JsString → Prop where
  | nil {text : JsString} : Ws text text
  | cons {c : CodeUnit} {text rest : JsString} : isWhitespace c → Ws text rest → Ws (c :: text) rest

structure Digits (text : JsString) : Prop where
  some : text ≠ []
  all : ∀ c ∈ text, isDigit c

inductive IntegerPart : JsString → Prop where
  | zero : IntegerPart [zero]
  | digits {text : JsString} : Digits text → text.head? ≠ some zero → IntegerPart text

inductive FractionPart : JsString → Prop where
  | none : FractionPart []
  | digits {text : JsString} : Digits text → FractionPart (dot :: text)

inductive ExponentPart : JsString → Prop where
  | none : ExponentPart []
  | digits {e : CodeUnit} {sign text : JsString} : e = 0x65 ∨ e = 0x45 →
      sign = [] ∨ sign = [plus] ∨ sign = [minus] → Digits text → ExponentPart (e :: (sign ++ text))

inductive Number : JsString → Prop where
  | mk {sign integer fraction exponent : JsString} : sign = [] ∨ sign = [minus] →
      IntegerPart integer → FractionPart fraction → ExponentPart exponent →
      Number (sign ++ (integer ++ (fraction ++ exponent)))

/-- What a letter after a backslash stands for. -/
def simpleEscape (c : CodeUnit) : Option CodeUnit :=
  if c = quote || c = backslash || c = 0x2F then some c
  else if c = 0x62 then some 0x08
  else if c = 0x66 then some 0x0C
  else if c = 0x6E then some 0x0A
  else if c = 0x72 then some 0x0D
  else if c = 0x74 then some 0x09
  else none

def hexDigit (c : CodeUnit) : Option Nat :=
  if isDigit c then some (c.toNat - 0x30)
  else if 0x61 ≤ c && c ≤ 0x66 then some (c.toNat - 0x61 + 10)
  else if 0x41 ≤ c && c ≤ 0x46 then some (c.toNat - 0x41 + 10)
  else none

/-- Four hexadecimal digits. -/
def hexUnit (a b c d : CodeUnit) : Option CodeUnit := do
  let a ← hexDigit a
  let b ← hexDigit b
  let c ← hexDigit c
  let d ← hexDigit d
  return (((a * 16 + b) * 16 + c) * 16 + d).toUInt16

/-- The characters of a string after its opening quote. -/
inductive Chars : JsString → JsString → JsString → Prop where
  | close {rest : JsString} : Chars [] (quote :: rest) rest
  | plain {c : CodeUnit} {s text rest : JsString} : c ≠ quote → c ≠ backslash → ¬c < 0x20 →
      Chars s text rest → Chars (c :: s) (c :: text) rest
  | escape {c u : CodeUnit} {s text rest : JsString} : simpleEscape c = some u →
      Chars s text rest → Chars (u :: s) (backslash :: c :: text) rest
  | unicode {a b c d u : CodeUnit} {s text rest : JsString} : hexUnit a b c d = some u →
      Chars s text rest → Chars (u :: s) (backslash :: 0x75 :: a :: b :: c :: d :: text) rest

/-- A key of an object with its colon. -/
inductive Key : JsString → JsString → JsString → Prop where
  | mk {key text chars colons rest : JsString} : Ws text (quote :: chars) → Chars key chars colons →
      Ws colons (colon :: rest) → Key key text rest

mutual

inductive Value : Tree → JsString → JsString → Prop where
  | null {rest : JsString} : Value .null (JsString.ofString "null" ++ rest) rest
  | true {rest : JsString} : Value (.bool true) (JsString.ofString "true" ++ rest) rest
  | false {rest : JsString} : Value (.bool false) (JsString.ofString "false" ++ rest) rest
  | number {text rest : JsString} : Number text → Value (.number text) (text ++ rest) rest
  | string {s text rest : JsString} : Chars s text rest → Value (.string s) (quote :: text) rest
  | emptyArray {text rest : JsString} : Ws text (closeBracket :: rest) →
      Value (.array []) (openBracket :: text) rest
  | array {elements : List Tree} {text rest : JsString} : Elements elements text (closeBracket :: rest) →
      Value (.array elements) (openBracket :: text) rest
  | emptyObject {text rest : JsString} : Ws text (closeBrace :: rest) →
      Value (.object []) (openBrace :: text) rest
  | object {members : List (JsString × Tree)} {text rest : JsString} :
      Members members text (closeBrace :: rest) → Value (.object members) (openBrace :: text) rest

inductive Elements : List Tree → JsString → JsString → Prop where
  | one {tree : Tree} {text value after rest : JsString} : Ws text value → Value tree value after →
      Ws after rest → Elements [tree] text rest
  | more {tree : Tree} {elements : List Tree} {text value after next rest : JsString} : Ws text value →
      Value tree value after → Ws after (comma :: next) → Elements elements next rest →
      Elements (tree :: elements) text rest

inductive Members : List (JsString × Tree) → JsString → JsString → Prop where
  | one {key : JsString} {tree : Tree} {text space value after rest : JsString} : Key key text space →
      Ws space value → Value tree value after → Ws after rest → Members [(key, tree)] text rest
  | more {key : JsString} {tree : Tree} {members : List (JsString × Tree)}
      {text space value after next rest : JsString} : Key key text space → Ws space value →
      Value tree value after → Ws after (comma :: next) → Members members next rest →
      Members ((key, tree) :: members) text rest

end

/-- A whole text that is one value. -/
def JsonText (tree : Tree) (text : JsString) : Prop :=
  ∃ value after, Ws text value ∧ Value tree value after ∧ Ws after []

theorem Ws.length_le {text rest : JsString} (h : Ws text rest) : rest.length ≤ text.length := by
  induction h with
  | nil => exact Nat.le_refl _
  | cons _ _ ih => exact Nat.le_succ_of_le ih

theorem Chars.length_lt {s text rest : JsString} (h : Chars s text rest) : rest.length < text.length := by
  induction h with
  | close => exact Nat.lt_succ_self _
  | plain _ _ _ _ ih => exact Nat.lt_succ_of_lt ih
  | escape _ _ ih =>
    simp only [List.length_cons]
    omega
  | unicode _ _ ih =>
    simp only [List.length_cons]
    omega

theorem Key.length_lt {key text rest : JsString} (h : Key key text rest) : rest.length < text.length := by
  obtain ⟨hbefore, hchars, hafter⟩ := h
  have hbefore := hbefore.length_le
  have hchars := hchars.length_lt
  have hafter := hafter.length_le
  simp only [List.length_cons] at hbefore hafter
  omega

mutual

theorem Value.length_le {tree : Tree} {text rest : JsString} (h : Value tree text rest) :
    rest.length ≤ text.length := by
  cases h with
  | null => simp
  | true => simp
  | false => simp
  | number _ => simp
  | string hchars =>
    have := hchars.length_lt
    exact Nat.le_succ_of_le (Nat.le_of_lt this)
  | emptyArray hws =>
    have := hws.length_le
    simp only [List.length_cons] at this ⊢
    omega
  | array helements =>
    have := helements.length_le
    simp only [List.length_cons] at this ⊢
    omega
  | emptyObject hws =>
    have := hws.length_le
    simp only [List.length_cons] at this ⊢
    omega
  | object hmembers =>
    have := hmembers.length_le
    simp only [List.length_cons] at this ⊢
    omega

theorem Elements.length_le {elements : List Tree} {text rest : JsString}
    (h : Elements elements text rest) : rest.length ≤ text.length := by
  cases h with
  | one hbefore hvalue hafter =>
    have := hbefore.length_le
    have := hvalue.length_le
    have := hafter.length_le
    omega
  | more hbefore hvalue hafter hmore =>
    have := hbefore.length_le
    have := hvalue.length_le
    have hafter := hafter.length_le
    have := hmore.length_le
    simp only [List.length_cons] at hafter
    omega

theorem Members.length_le {members : List (JsString × Tree)} {text rest : JsString}
    (h : Members members text rest) : rest.length ≤ text.length := by
  cases h with
  | one hkey hbefore hvalue hafter =>
    have := hkey.length_lt
    have := hbefore.length_le
    have := hvalue.length_le
    have := hafter.length_le
    omega
  | more hkey hbefore hvalue hafter hmore =>
    have := hkey.length_lt
    have := hbefore.length_le
    have := hvalue.length_le
    have hafter := hafter.length_le
    have := hmore.length_le
    simp only [List.length_cons] at hafter
    omega

end

/-- How a reader of JSON makes its values; it may refuse a member of an object. -/
structure Builder (V O : Type) where
  null : V
  bool : Bool → V
  number : JsString → V
  string : JsString → V
  array : List V → V
  empty : O
  member : O → JsString → V → Option O
  object : O → V

section Fold
variable {V O : Type} (make : Builder V O)

mutual

def Tree.fold : Tree → Option V
  | .null => some make.null
  | .bool b => some (make.bool b)
  | .number text => some (make.number text)
  | .string s => some (make.string s)
  | .array elements => (foldElements elements).map make.array
  | .object members => (foldMembers make.empty members).map make.object

def foldElements : List Tree → Option (List V)
  | [] => some []
  | tree :: elements => do
    let value ← tree.fold
    let values ← foldElements elements
    return value :: values

def foldMembers (object : O) : List (JsString × Tree) → Option O
  | [] => some object
  | (key, tree) :: members => do
    let value ← tree.fold
    let object ← make.member object key value
    foldMembers object members

end
end Fold

def treeBuilder : Builder Tree (List (JsString × Tree)) where
  null := .null
  bool := .bool
  number := .number
  string := .string
  array := .array
  empty := []
  member object key value := some (object ++ [(key, value)])
  object := .object

mutual

theorem fold_treeBuilder : ∀ tree : Tree, tree.fold treeBuilder = some tree
  | .null => rfl
  | .bool _ => rfl
  | .number _ => rfl
  | .string _ => rfl
  | .array elements => by
    rw [Tree.fold, foldElements_treeBuilder]
    rfl
  | .object members => by
    rw [Tree.fold, foldMembers_treeBuilder]
    rfl

theorem foldElements_treeBuilder : ∀ elements : List Tree, foldElements treeBuilder elements = some elements
  | [] => rfl
  | tree :: elements => by
    rw [foldElements, fold_treeBuilder, foldElements_treeBuilder]
    rfl

theorem foldMembers_treeBuilder : ∀ (members : List (JsString × Tree)) (object : List (JsString × Tree)),
    foldMembers treeBuilder object members = some (object ++ members)
  | [], object => by rw [foldMembers, List.append_nil]
  | (key, tree) :: members, object => by
    rw [foldMembers, fold_treeBuilder]
    change foldMembers treeBuilder (object ++ [(key, tree)]) members = _
    rw [foldMembers_treeBuilder, List.append_assoc]
    rfl

end

/-- The member of an object that comes last under a key. -/
def Tree.get (key : JsString) : Tree → Option Tree
  | .object members => (members.reverse.find? fun member => member.1 = key).map Prod.snd
  | _ => none

mutual

def EveryObject (P : List (JsString × Tree) → Prop) : Tree → Prop
  | .array elements => EveryElement P elements
  | .object members => P members ∧ EveryMember P members
  | _ => True

def EveryElement (P : List (JsString × Tree) → Prop) : List Tree → Prop
  | [] => True
  | tree :: elements => EveryObject P tree ∧ EveryElement P elements

def EveryMember (P : List (JsString × Tree) → Prop) : List (JsString × Tree) → Prop
  | [] => True
  | (_, tree) :: members => EveryObject P tree ∧ EveryMember P members

end

def keys (members : List (JsString × Tree)) : List JsString := members.map Prod.fst

/-- No object repeats a key. -/
def Unrepeated : Tree → Prop := EveryObject fun members => (keys members).Nodup

mutual

theorem every_imp {P Q R : List (JsString × Tree) → Prop} (h : ∀ members, P members → Q members → R members) :
    ∀ tree, EveryObject P tree → EveryObject Q tree → EveryObject R tree
  | .null, _, _ => trivial
  | .bool _, _, _ => trivial
  | .number _, _, _ => trivial
  | .string _, _, _ => trivial
  | .array elements, hp, hq => everyElement_imp h elements hp hq
  | .object members, hp, hq => ⟨h members hp.1 hq.1, everyMember_imp h members hp.2 hq.2⟩

theorem everyElement_imp {P Q R : List (JsString × Tree) → Prop}
    (h : ∀ members, P members → Q members → R members) :
    ∀ elements, EveryElement P elements → EveryElement Q elements → EveryElement R elements
  | [], _, _ => trivial
  | tree :: elements, hp, hq => ⟨every_imp h tree hp.1 hq.1, everyElement_imp h elements hp.2 hq.2⟩

theorem everyMember_imp {P Q R : List (JsString × Tree) → Prop}
    (h : ∀ members, P members → Q members → R members) :
    ∀ members, EveryMember P members → EveryMember Q members → EveryMember R members
  | [], _, _ => trivial
  | (_, tree) :: members, hp, hq => ⟨every_imp h tree hp.1 hq.1, everyMember_imp h members hp.2 hq.2⟩

end

end Wardroom.Library.JsonText
