import Wardroom.Federation.EnrollmentJson
import Wardroom.Library.JsonString

/-! # What the relay reads from a parsed value

Members are found along the chain of prototypes, and are listed and written in
JavaScript's order of own keys.
-/

namespace Wardroom.Federation
open Wardroom.Library

/-- The parts of the language and of Node that a frame's checks rest on: numbers, dates, addresses. -/
structure Platform (ν : Type) where
  /-- `Number(text)`. -/
  number : JsString → ν
  ofInteger : Int → ν
  /-- The whole number it is. -/
  integer : ν → Option Int
  isFinite : ν → Bool
  /-- `String(n)`. -/
  numberText : ν → JsString
  /-- No number takes more: `-2.2250738585072014e-308`. -/
  numberText_length : ∀ n, (numberText n).length ≤ 25
  numberText_plain : ∀ n, (numberText n).all JsString.isPlain = true
  /-- `Date.parse`, unless it is not a number. -/
  parseDate : JsString → Option Int
  /-- `new Date(ms).toISOString()`. -/
  toISOString : Int → JsString
  toISOString_length : ∀ ms, (toISOString ms).length ≤ 27
  toISOString_plain : ∀ ms, (toISOString ms).all JsString.isPlain = true
  /-- `isIP` of `node:net`. -/
  isIP : JsString → Nat
  /-- `Array.prototype.toString` of an object that inherits from an array. -/
  joined : JsValue ν → Except JsString JsString

def text (s : String) : JsString := JsString.ofString s

/-- The number of a key that is an array index, which comes before the other keys. -/
def arrayIndex (key : JsString) : Option Nat :=
  let n := key.foldl (fun n c => 10 * n + (c.toNat - 0x30)) 0
  if key ≠ [] ∧ key.all JsonText.isDigit ∧ (key.head? = some JsonText.zero → key.length = 1) ∧ n < 2 ^ 32 - 1
  then some n else none

/-- Own members in the order of `Object.keys`. -/
def inKeyOrder {α : Type} (members : List (JsString × α)) : List (JsString × α) :=
  (members.filter fun m => (arrayIndex m.1).isSome).mergeSort
      (fun a b => decide ((arrayIndex a.1).getD 0 ≤ (arrayIndex b.1).getD 0)) ++
    members.filter fun m => (arrayIndex m.1).isNone

def joinWith (separator : JsString) : List JsString → JsString
  | [] => []
  | [part] => part
  | part :: parts => part ++ separator ++ joinWith separator parts

namespace JsValue
variable {ν : Type}

def findOwn (own : List (JsString × JsValue ν)) (key : JsString) : Option (JsValue ν) :=
  (own.find? fun member => member.1 = key).map Prod.snd

/-- `value[key]`, where no built-in prototype has the key. -/
def get (key : JsString) : JsValue ν → Option (JsValue ν)
  | .object own proto => (findOwn own key).or (proto.get key)
  | _ => none

def ownKeys : JsValue ν → List JsString
  | .object own _ => (inKeyOrder own).map Prod.fst
  | _ => []

variable (p : Platform ν)

mutual

/-- `JSON.stringify`. -/
def stringify : JsValue ν → JsString
  | .null => text "null"
  | .bool true => text "true"
  | .bool false => text "false"
  | .number n => if p.isFinite n then p.numberText n else text "null"
  | .string s => JsString.quoted s
  | .array elements => text "[" ++ joinWith (text ",") (stringifyElements elements) ++ text "]"
  | .objectPrototype => text "\x7b\x7d"
  | .object own _ =>
    text "\x7b" ++ joinWith (text ",") ((inKeyOrder (stringifyMembers own)).map fun member =>
      JsString.quoted member.1 ++ text ":" ++ member.2) ++ text "\x7d"

def stringifyElements : List (JsValue ν) → List JsString
  | [] => []
  | value :: values => stringify value :: stringifyElements values

def stringifyMembers : List (JsString × JsValue ν) → List (JsString × JsString)
  | [] => []
  | (key, value) :: members => (key, stringify value) :: stringifyMembers members

end

/-- The method that `toString` is, along the prototypes. -/
inductive ToString where
  | ofObject
  | ofArray
  | uncallable

def toStringMethod : JsValue ν → ToString
  | .objectPrototype => .ofObject
  | .array _ => .ofArray
  | .object own proto => if hasOwn own (text "toString") then .uncallable else proto.toStringMethod
  | _ => .uncallable

mutual

/-- `String(value)`, or the message of the exception. -/
def toText : JsValue ν → Except JsString JsString
  | .null => .ok (text "null")
  | .bool true => .ok (text "true")
  | .bool false => .ok (text "false")
  | .number n => .ok (p.numberText n)
  | .string s => .ok s
  | .array elements => (elementTexts elements).map (joinWith (text ","))
  | .objectPrototype => .ok (text "[object Object]")
  | .object own proto =>
    match (JsValue.object own proto).toStringMethod with
    | .ofObject => .ok (text "[object Object]")
    | .ofArray => p.joined (.object own proto)
    | .uncallable => .error (text "Cannot convert object to primitive value")

def elementTexts : List (JsValue ν) → Except JsString (List JsString)
  | [] => .ok []
  | .null :: values => (elementTexts values).map fun texts => [] :: texts
  | value :: values => do
    let first ← toText value
    let texts ← elementTexts values
    return first :: texts

end

/-- `String(value)` where the value may be undefined. -/
def optionText : Option (JsValue ν) → Except JsString JsString
  | none => .ok (text "undefined")
  | some value => value.toText p

end JsValue

def digitText (n : Int) : JsString := if 0 ≤ n ∧ n < 10 then text (toString n) else text "NaN"

def digitTexts : List JsString := ["0", "1", "2", "3", "4", "5", "6", "7", "8", "9", "NaN"].map text

theorem digitText_mem (n : Int) : digitText n ∈ digitTexts := by
  unfold digitText
  split_ifs with h
  · obtain ⟨hlow, hhigh⟩ := h
    interval_cases n <;> decide +kernel
  · decide +kernel

theorem digitTexts_length : ∀ t ∈ digitTexts, t.length ≤ 25 := by decide +kernel

theorem digitTexts_plain : ∀ t ∈ digitTexts, t.all JsString.isPlain = true := by decide +kernel

/-- Whole numbers of one digit, and one moment. -/
def digitPlatform : Platform Int where
  number s := s.foldl (fun n c => 10 * n + (c.toNat - 0x30)) 0
  ofInteger n := n
  integer n := some n
  isFinite _ := true
  numberText := digitText
  numberText_length n := digitTexts_length _ (digitText_mem n)
  numberText_plain n := digitTexts_plain _ (digitText_mem n)
  parseDate _ := some 0
  toISOString _ := text "1970-01-01T00:00:00.000Z"
  toISOString_length _ := by decide +kernel
  toISOString_plain _ := by decide +kernel
  isIP _ := 0
  joined _ := .ok []

end Wardroom.Federation
