import Mathlib.Data.List.Basic

/-! # JSON values as a JavaScript program reads and writes them

An object is the list of its own members in insertion order. A number carries
its canonical text, so that equal texts are equal numbers and no arithmetic on
doubles is needed. Reading a member of anything but an object finds nothing,
which is what optional chaining gives.
-/

namespace Wardroom.Library

inductive Json where
  | null
  | bool (b : Bool)
  | num (text : String)
  | str (s : String)
  | arr (items : List Json)
  | obj (members : List (String × Json))

namespace Json

/-- Own members of a record; every other value has none. -/
def members : Json → List (String × Json)
  | .obj ms => ms
  | _ => []

def isRecord : Json → Bool
  | .obj _ => true
  | _ => false

def lookup (k : String) : List (String × Json) → Option Json
  | [] => none
  | (k', v) :: ms => if k' = k then some v else lookup k ms

def member (value : Json) (k : String) : Option Json := lookup k value.members

/-- Assignment overwrites a member in place or adds it at the end. -/
def assign (k : String) (v : Json) : List (String × Json) → List (String × Json)
  | [] => [(k, v)]
  | (k', v') :: ms => if k' = k then (k, v) :: ms else (k', v') :: assign k v ms

/-- The spread `{ ...value, k: v }`. -/
def set (value : Json) (k : String) (v : Json) : Json := .obj (assign k v value.members)

/-- A literal with its undefined members dropped, as serialisation drops them. -/
def record (ms : List (String × Option Json)) : Json :=
  .obj (ms.filterMap fun m => m.2.map fun v => (m.1, v))

def ofOption (value : Option String) : Json := value.elim .null .str

def truthy : Json → Bool
  | .null => false
  | .bool b => b
  | .num t => t ≠ "0"
  | .str s => s ≠ ""
  | .arr _ => true
  | .obj _ => true

/-- Undefined and null are the two values that `??` replaces. -/
def nullish : Option Json → Bool
  | none => true
  | some .null => true
  | some _ => false

def coalesce (a b : Option Json) : Option Json := if nullish a then b else a

def hexDigit (n : Nat) : Char := "0123456789abcdef".toList.getD n '0'

def escapeChar (c : Char) : List Char :=
  if c = '"' then ['\\', '"']
  else if c = '\\' then ['\\', '\\']
  else if c.toNat = 8 then ['\\', 'b']
  else if c.toNat = 9 then ['\\', 't']
  else if c.toNat = 10 then ['\\', 'n']
  else if c.toNat = 12 then ['\\', 'f']
  else if c.toNat = 13 then ['\\', 'r']
  else if c.toNat < 32 then ['\\', 'u', '0', '0', hexDigit (c.toNat / 16), hexDigit (c.toNat % 16)]
  else [c]

def quote (s : String) : String := "\"" ++ String.ofList (s.toList.flatMap escapeChar) ++ "\""

mutual

/-- The text `JSON.stringify` produces. -/
def render : Json → String
  | .null => "null"
  | .bool true => "true"
  | .bool false => "false"
  | .num t => t
  | .str s => quote s
  | .arr items => "[" ++ ",".intercalate (renderItems items) ++ "]"
  | .obj ms => "\x7b" ++ ",".intercalate (renderMembers ms) ++ "\x7d"

def renderItems : List Json → List String
  | [] => []
  | v :: vs => render v :: renderItems vs

def renderMembers : List (String × Json) → List String
  | [] => []
  | (k, v) :: ms => (quote k ++ ":" ++ render v) :: renderMembers ms

end

/-- What a text parameter is compared with when SQLite extracts a value: strings give their
text, arrays and objects their serialisation, and the other types never equal a text. -/
def extractText : Json → Option String
  | .str s => some s
  | .arr items => some (render (.arr items))
  | .obj ms => some (render (.obj ms))
  | _ => none

/-- The strings among the items of an array. -/
def texts : List Json → List String
  | [] => []
  | .str s :: items => s :: texts items
  | _ :: items => texts items

@[simp] theorem texts_map_str (ss : List String) : texts (ss.map .str) = ss := by
  induction ss with
  | nil => rfl
  | cons s ss ih => rw [List.map_cons, texts, ih]

@[simp] theorem members_obj (ms : List (String × Json)) : (obj ms).members = ms := rfl

@[simp] theorem member_obj (k : String) (ms : List (String × Json)) :
    (obj ms).member k = lookup k ms := rfl

@[simp] theorem lookup_nil (k : String) : lookup k [] = none := rfl

@[simp] theorem lookup_cons (k k' : String) (v : Json) (ms : List (String × Json)) :
    lookup k ((k', v) :: ms) = if k' = k then some v else lookup k ms := rfl

@[simp] theorem member_null (k : String) : null.member k = none := rfl

@[simp] theorem member_record_nil (k : String) : (record []).member k = none := rfl

@[simp] theorem member_record_cons (k k' : String) (v : Option Json)
    (ms : List (String × Option Json)) :
    (record ((k', v) :: ms)).member k =
      if k' = k then v.or ((record ms).member k) else (record ms).member k := by
  cases v with
  | none => simp [record]
  | some v => by_cases h : k' = k <;> simp [record, h]

theorem lookup_assign_self (k : String) (v : Json) (ms : List (String × Json)) :
    lookup k (assign k v ms) = some v := by
  induction ms with
  | nil => simp [assign]
  | cons m ms ih =>
    rcases m with ⟨k', v'⟩
    by_cases h : k' = k
    · simp [assign, h]
    · simp [assign, h, ih]

theorem lookup_assign_ne {k k' : String} (h : k' ≠ k) (v : Json) (ms : List (String × Json)) :
    lookup k' (assign k v ms) = lookup k' ms := by
  induction ms with
  | nil => simp [assign, Ne.symm h]
  | cons m ms ih =>
    rcases m with ⟨k₀, v₀⟩
    by_cases hm : k₀ = k
    · simp [assign, hm, Ne.symm h]
    · simp [assign, hm, ih]

@[simp] theorem member_set_self (value : Json) (k : String) (v : Json) :
    (value.set k v).member k = some v :=
  lookup_assign_self k v value.members

theorem member_set_ne {k k' : String} (h : k' ≠ k) (value v : Json) :
    (value.set k v).member k' = value.member k' :=
  lookup_assign_ne h v value.members

theorem assign_of_lookup {k : String} {v : Json} {ms : List (String × Json)}
    (h : lookup k ms = some v) : assign k v ms = ms := by
  induction ms with
  | nil => cases h
  | cons m ms ih =>
    rcases m with ⟨k', v'⟩
    by_cases hk : k' = k
    · subst hk
      have hv : v' = v := by simpa using h
      simp [assign, hv]
    · have hms : lookup k ms = some v := by simpa [hk] using h
      simp [assign, hk, ih hms]

theorem set_of_member {value : Json} {k : String} {v : Json} (h : value.member k = some v) :
    value.set k v = value := by
  cases value with
  | obj ms => exact congrArg Json.obj (assign_of_lookup h)
  | _ => cases h

mutual

/-- Equality of values, member by member. -/
def same : Json → Json → Bool
  | .null, .null => true
  | .bool a, .bool b => a == b
  | .num a, .num b => a == b
  | .str a, .str b => a == b
  | .arr as, .arr bs => sameItems as bs
  | .obj as, .obj bs => sameMembers as bs
  | _, _ => false

def sameItems : List Json → List Json → Bool
  | [], [] => true
  | a :: as, b :: bs => same a b && sameItems as bs
  | _, _ => false

def sameMembers : List (String × Json) → List (String × Json) → Bool
  | [], [] => true
  | (k, a) :: as, (l, b) :: bs => k == l && same a b && sameMembers as bs
  | _, _ => false

end

mutual

theorem same_iff (a b : Json) : same a b = true ↔ a = b := by
  cases a <;> cases b <;> simp [same]
  case arr.arr as bs => exact sameItems_iff as bs
  case obj.obj as bs => exact sameMembers_iff as bs

theorem sameItems_iff (as bs : List Json) : sameItems as bs = true ↔ as = bs := by
  cases as with
  | nil => cases bs <;> simp [sameItems]
  | cons a as =>
    cases bs with
    | nil => simp [sameItems]
    | cons b bs => simp [sameItems, same_iff a b, sameItems_iff as bs]

theorem sameMembers_iff (as bs : List (String × Json)) : sameMembers as bs = true ↔ as = bs := by
  match as, bs with
  | [], [] => simp [sameMembers]
  | [], _ :: _ => simp [sameMembers]
  | _ :: _, [] => simp [sameMembers]
  | (k, a) :: as, (l, b) :: bs =>
    simp [sameMembers, same_iff a b, sameMembers_iff as bs, and_assoc]

end

instance : DecidableEq Json := fun a b => decidable_of_iff _ (same_iff a b)

end Json
end Wardroom.Library
