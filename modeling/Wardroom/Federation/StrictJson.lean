import Mathlib.Computability.RegularExpressions
import Wardroom.Library.JsonText

/-! # The strict JSON parser and its scanners

A parser by hand that stops at a repeated key. What it makes of the values it
reads is a parameter: the objects of the program, or the parse tree.
-/

namespace Wardroom.Federation
open Wardroom.Library Wardroom.Library.JsonText

/-- A failure and what was left of the text, which gives its position. -/
inductive Failure where
  | failed (message : JsString) (rest : JsString)
  | exhausted

def fail {α : Type} (message : String) (rest : JsString) : Except Failure α :=
  .error (.failed (JsString.ofString message) rest)

def skipWhitespace (text : JsString) : JsString := text.dropWhile isWhitespace

/-- `text.startsWith`, with what follows. -/
def strip : JsString → JsString → Option JsString
  | [], text => some text
  | _ :: _, [] => none
  | p :: pattern, c :: text => if p = c then strip pattern text else none

def parseString (result : JsString) : JsString → Except Failure (JsString × JsString)
  | [] => fail "unterminated string" []
  | c :: rest =>
    if c = quote then .ok (result, rest)
    else if c = backslash then
      match rest with
      | [] => fail "invalid escape sequence" []
      | letter :: after =>
        match simpleEscape letter with
        | some u => parseString (result ++ [u]) after
        | none =>
          if letter = 0x75 then
            match after with
            | a :: b :: c :: d :: next =>
              match hexUnit a b c d with
              | some u => parseString (result ++ [u]) next
              | none => fail "invalid unicode escape" rest
            | _ => fail "invalid unicode escape" rest
          else fail "invalid escape sequence" rest
    else if c < 0x20 then fail "unescaped control character in string" (c :: rest)
    else parseString (result ++ [c]) rest

def digits (text : JsString) : JsString × JsString := (text.takeWhile isDigit, text.dropWhile isDigit)

def optionalSign (signs : JsString) : JsString → JsString × JsString
  | [] => ([], [])
  | c :: rest => if c ∈ signs then ([c], rest) else ([], c :: rest)

def scanInteger : JsString → JsString × JsString
  | [] => ([], [])
  | c :: rest => if c = zero then ([c], rest) else digits (c :: rest)

def scanFraction : JsString → JsString × JsString
  | [] => ([], [])
  | c :: rest => if c = dot then (c :: (digits rest).1, (digits rest).2) else ([], c :: rest)

def scanExponent : JsString → JsString × JsString
  | [] => ([], [])
  | c :: rest =>
    if c = 0x65 || c = 0x45 then
      let (sign, after) := optionalSign [plus, minus] rest
      (c :: (sign ++ (digits after).1), (digits after).2)
    else ([], c :: rest)

def scanNumber (text : JsString) : JsString × JsString :=
  let (sign, text) := optionalSign [minus] text
  let (integer, text) := scanInteger text
  let (fraction, text) := scanFraction text
  let (exponent, text) := scanExponent text
  (sign ++ (integer ++ (fraction ++ exponent)), text)

section Pattern
open RegularExpression (char star)

/-- `[...]`. -/
def oneOf : List CodeUnit → RegularExpression CodeUnit
  | [] => 0
  | c :: cs => char c + oneOf cs

def nonzero : List CodeUnit := [0x31, 0x32, 0x33, 0x34, 0x35, 0x36, 0x37, 0x38, 0x39]

/-- `[0-9]`. -/
def digit : RegularExpression CodeUnit := oneOf (zero :: nonzero)

/-- `^-?(0|[1-9][0-9]*)(\.[0-9]+)?([eE][+-]?[0-9]+)?$`. -/
def numberPattern : RegularExpression CodeUnit :=
  (1 + char minus) * ((char zero + oneOf nonzero * star digit) * ((1 + char dot * (digit * star digit)) *
    (1 + oneOf [0x65, 0x45] * ((1 + oneOf [plus, minus]) * (digit * star digit)))))

end Pattern

def parseNumber (text : JsString) : Except Failure (JsString × JsString) :=
  let (numberText, rest) := scanNumber text
  if numberPattern.rmatch numberText then .ok (numberText, rest) else fail "invalid number" rest

section Parser
variable {V O : Type} (make : Builder V O)

def parseLiteral (text : JsString) : Except Failure (V × JsString) :=
  match strip (JsString.ofString "true") text with
  | some rest => .ok (make.bool true, rest)
  | none =>
    match strip (JsString.ofString "false") text with
    | some rest => .ok (make.bool false, rest)
    | none =>
      match strip (JsString.ofString "null") text with
      | some rest => .ok (make.null, rest)
      | none => fail "unexpected token" text

/-- The key of a member and its colon. -/
def parseKey (text : JsString) : Except Failure (JsString × JsString) :=
  match strip [quote] (skipWhitespace text) with
  | none => fail "expected an object key" (skipWhitespace text)
  | some chars => do
    let (key, after) ← parseString [] chars
    match strip [colon] (skipWhitespace after) with
    | none => fail "expected ':' after object key" (skipWhitespace after)
    | some rest => return (key, rest)

mutual

def parseValue : Nat → JsString → Except Failure (V × JsString)
  | 0, _ => .error .exhausted
  | fuel + 1, text =>
    match skipWhitespace text with
    | [] => fail "unexpected end of JSON input" []
    | c :: rest =>
      if c = openBrace then
        match strip [closeBrace] (skipWhitespace rest) with
        | some after => .ok (make.object make.empty, after)
        | none => parseMembers fuel make.empty rest
      else if c = openBracket then
        match strip [closeBracket] (skipWhitespace rest) with
        | some after => .ok (make.array [], after)
        | none => parseElements fuel [] rest
      else if c = quote then (parseString [] rest).map fun r => (make.string r.1, r.2)
      else if c = minus || isDigit c then (parseNumber (c :: rest)).map fun r => (make.number r.1, r.2)
      else parseLiteral make (c :: rest)

def parseMembers : Nat → O → JsString → Except Failure (V × JsString)
  | 0, _, _ => .error .exhausted
  | fuel + 1, result, text => do
    let (key, after) ← parseKey text
    let (value, after) ← parseValue fuel after
    match make.member result key value with
    | none => .error (.failed (JsString.ofString "duplicate object key \u0022" ++ key ++ [quote]) after)
    | some result =>
      match strip [comma] (skipWhitespace after) with
      | some next => parseMembers fuel result next
      | none =>
        match strip [closeBrace] (skipWhitespace after) with
        | some rest => .ok (make.object result, rest)
        | none => fail "expected ',' or '\x7d' in object" (skipWhitespace after)

def parseElements : Nat → List V → JsString → Except Failure (V × JsString)
  | 0, _, _ => .error .exhausted
  | fuel + 1, result, text => do
    let (value, after) ← parseValue fuel text
    match strip [comma] (skipWhitespace after) with
    | some next => parseElements fuel (result ++ [value]) next
    | none =>
      match strip [closeBracket] (skipWhitespace after) with
      | some rest => .ok (make.array (result ++ [value]), rest)
      | none => fail "expected ',' or ']' in array" (skipWhitespace after)

end

/-- The whole text is one value. -/
def parseText (text : JsString) : Except Failure V := do
  let (value, rest) ← parseValue make (2 * text.length + 1) text
  match skipWhitespace rest with
  | [] => return value
  | c :: rest => fail "unexpected trailing content after JSON value" (c :: rest)

end Parser

theorem strip_eq_some {pattern text rest : JsString} :
    strip pattern text = some rest ↔ text = pattern ++ rest := by
  induction pattern generalizing text with
  | nil => simp [strip]
  | cons p pattern ih =>
    cases text with
    | nil => simp [strip]
    | cons c text =>
      rw [strip]
      split_ifs with heq
      · rw [ih, heq, List.cons_append, List.cons.injEq, and_iff_right rfl]
      · constructor
        · intro h
          cases h
        · intro h
          exact absurd (List.cons.inj h).1.symm heq

theorem ws_skipWhitespace (text : JsString) : Ws text (skipWhitespace text) := by
  induction text with
  | nil => exact .nil
  | cons c text ih =>
    rw [skipWhitespace, List.dropWhile_cons]
    split_ifs with hspace
    · exact .cons hspace ih
    · exact .nil

/-- The text does not begin with such a code unit. -/
def Stops (p : CodeUnit → Bool) (text : JsString) : Prop := ∀ c ∈ text.head?, p c = false

variable {text rest : JsString}

theorem skipWhitespace_of_ws (h : Ws text rest) (hstops : Stops isWhitespace rest) :
    skipWhitespace text = rest := by
  induction h with
  | nil =>
    rename_i text
    cases text with
    | nil => rfl
    | cons c text =>
      have hc : isWhitespace c = false := hstops c rfl
      rw [skipWhitespace, List.dropWhile_cons, if_neg (by simp [hc])]
  | cons hspace _ ih =>
    rw [skipWhitespace, List.dropWhile_cons, if_pos hspace]
    exact ih hstops

theorem fail_ne_ok {α : Type} {message : String} {rest : JsString} {value : α} :
    (fail message rest : Except Failure α) ≠ .ok value := by
  intro h
  cases h

theorem parseString_sound {result text value rest : JsString}
    (h : parseString result text = .ok (value, rest)) :
    ∃ chars, value = result ++ chars ∧ Chars chars text rest := by
  fun_induction parseString result text with
  | case1 => exact absurd h fail_ne_ok
  | case2 result after =>
    cases h
    exact ⟨[], (List.append_nil _).symm, .close⟩
  | case3 => exact absurd h fail_ne_ok
  | case4 result letter after u hescape _ ih =>
    obtain ⟨chars, hvalue, hchars⟩ := ih h
    exact ⟨u :: chars, by simpa using hvalue, .escape hescape hchars⟩
  | case5 result a b c d next u hunit _ _ ih =>
    obtain ⟨chars, hvalue, hchars⟩ := ih h
    exact ⟨u :: chars, by simpa using hvalue, .unicode hunit hchars⟩
  | case6 => exact absurd h fail_ne_ok
  | case7 => exact absurd h fail_ne_ok
  | case8 => exact absurd h fail_ne_ok
  | case9 => exact absurd h fail_ne_ok
  | case10 result c after hquote hbackslash hcontrol ih =>
    obtain ⟨chars, hvalue, hchars⟩ := ih h
    exact ⟨c :: chars, by simpa using hvalue, .plain hquote hbackslash hcontrol hchars⟩

theorem parseString_complete {chars text rest : JsString} (h : Chars chars text rest) (result : JsString) :
    parseString result text = .ok (result ++ chars, rest) := by
  induction h generalizing result with
  | close =>
    rw [parseString.eq_def]
    simp
  | plain hquote hbackslash hcontrol _ ih =>
    rw [parseString.eq_def]
    simp [hquote, hbackslash, hcontrol, ih]
  | escape hescape _ ih =>
    rw [parseString.eq_def]
    have hne : backslash ≠ quote := by decide
    simp [hescape, ih, hne]
  | unicode hunit _ ih =>
    have hletter : simpleEscape 0x75 = none := by decide
    have hne : backslash ≠ quote := by decide
    rw [parseString.eq_def]
    simp [hletter, hunit, ih, hne]

variable {word : JsString}

theorem mem_oneOf {cs : List CodeUnit} :
    word ∈ (oneOf cs).matches' ↔ ∃ c ∈ cs, word = [c] := by
  induction cs with
  | nil => simp [oneOf]
  | cons c cs ih =>
    have hchar : word ∈ ({[c]} : Language CodeUnit) ↔ word = [c] := Iff.rfl
    rw [oneOf, RegularExpression.matches'_add, Language.mem_add, ih, RegularExpression.matches'_char, hchar]
    simp

variable {c : CodeUnit}

theorem mem_nonzero : c ∈ nonzero ↔ isDigit c = true ∧ c ≠ zero := by
  have hzero : zero.toNat = 0x30 := rfl
  simp only [nonzero, List.mem_cons, List.not_mem_nil, or_false, isDigit, Bool.and_eq_true, ne_eq,
    decide_eq_true_eq, UInt16.le_iff_toNat_le, ← UInt16.toNat_inj, UInt16.reduceToNat]
  omega

theorem mem_digit : word ∈ digit.matches' ↔ ∃ c, isDigit c = true ∧ word = [c] := by
  have hdigit (c : CodeUnit) : c ∈ zero :: nonzero ↔ isDigit c = true := by
    rw [List.mem_cons, mem_nonzero]
    constructor
    · rintro (rfl | ⟨hc, -⟩)
      · decide
      · exact hc
    · intro hc
      by_cases hzero : c = zero
      · exact .inl hzero
      · exact .inr ⟨hc, hzero⟩
  rw [digit, mem_oneOf]
  simp only [hdigit]

theorem mem_star_digit :
    word ∈ (RegularExpression.star digit).matches' ↔ ∀ c ∈ word, isDigit c = true := by
  rw [RegularExpression.matches'_star, Language.mem_kstar]
  constructor
  · rintro ⟨words, rfl, hwords⟩ c hc
    obtain ⟨w, hw, hcw⟩ := List.mem_flatten.mp hc
    obtain ⟨d, hd, rfl⟩ := mem_digit.mp (hwords w hw)
    rw [List.mem_singleton.mp hcw]
    exact hd
  · intro hall
    refine ⟨word.map fun c => [c], ?_, ?_⟩
    · induction word with
      | nil => rfl
      | cons c word ih =>
        rw [List.map_cons, List.flatten_cons, ← ih fun d hd => hall d (List.mem_cons_of_mem c hd)]
        rfl
    · intro w hw
      obtain ⟨c, hc, rfl⟩ := List.mem_map.mp hw
      exact mem_digit.mpr ⟨c, hall c hc, rfl⟩

theorem mem_digits :
    word ∈ (digit * RegularExpression.star digit).matches' ↔ Digits word := by
  rw [RegularExpression.matches'_mul, Language.mem_mul]
  constructor
  · rintro ⟨first, hfirst, more, hmore, rfl⟩
    obtain ⟨c, hc, rfl⟩ := mem_digit.mp hfirst
    exact ⟨List.cons_ne_nil c more, List.forall_mem_cons.mpr ⟨hc, mem_star_digit.mp hmore⟩⟩
  · rintro ⟨hsome, hall⟩
    cases word with
    | nil => exact absurd rfl hsome
    | cons c word =>
      rw [List.forall_mem_cons] at hall
      exact ⟨[c], mem_digit.mpr ⟨c, hall.1, rfl⟩, word, mem_star_digit.mpr hall.2, rfl⟩

theorem mem_optional {P : RegularExpression CodeUnit} :
    word ∈ (1 + P).matches' ↔ word = [] ∨ word ∈ P.matches' := by
  rw [RegularExpression.matches'_add, RegularExpression.matches'_epsilon, Language.mem_add,
    Language.mem_one]

theorem mem_char :
    word ∈ (RegularExpression.char c).matches' ↔ word = [c] := Iff.rfl

theorem mem_integer :
    word ∈ (RegularExpression.char zero + oneOf nonzero * RegularExpression.star digit).matches' ↔
      IntegerPart word := by
  rw [RegularExpression.matches'_add, Language.mem_add, mem_char, RegularExpression.matches'_mul,
    Language.mem_mul]
  constructor
  · rintro (rfl | ⟨first, hfirst, more, hmore, rfl⟩)
    · exact .zero
    · obtain ⟨c, hc, rfl⟩ := mem_oneOf.mp hfirst
      obtain ⟨hdigit, hne⟩ := mem_nonzero.mp hc
      refine .digits ⟨List.cons_ne_nil c more,
        List.forall_mem_cons.mpr ⟨hdigit, mem_star_digit.mp hmore⟩⟩ fun h => hne ?_
      cases h
      rfl
  · intro h
    cases h with
    | zero => exact .inl rfl
    | digits hdigits hhead =>
      obtain ⟨hsome, hall⟩ := hdigits
      cases word with
      | nil => exact absurd rfl hsome
      | cons c word =>
        rw [List.forall_mem_cons] at hall
        refine .inr ⟨[c], mem_oneOf.mpr ⟨c, mem_nonzero.mpr ⟨hall.1, fun h => hhead ?_⟩, rfl⟩, word,
          mem_star_digit.mpr hall.2, rfl⟩
        rw [h]
        rfl

theorem mem_fraction :
    word ∈ (1 + RegularExpression.char dot * (digit * RegularExpression.star digit)).matches' ↔
      FractionPart word := by
  rw [mem_optional, RegularExpression.matches'_mul, Language.mem_mul]
  constructor
  · rintro (rfl | ⟨first, rfl, more, hmore, rfl⟩)
    · exact .none
    · exact .digits (mem_digits.mp hmore)
  · intro h
    cases h with
    | none => exact .inl rfl
    | digits hdigits => exact .inr ⟨[dot], rfl, _, mem_digits.mpr hdigits, rfl⟩

theorem mem_exponent :
    word ∈ (1 + oneOf [0x65, 0x45] * ((1 + oneOf [plus, minus]) *
      (digit * RegularExpression.star digit))).matches' ↔ ExponentPart word := by
  rw [mem_optional, RegularExpression.matches'_mul, Language.mem_mul]
  constructor
  · rintro (rfl | ⟨first, hfirst, more, hmore, rfl⟩)
    · exact .none
    · obtain ⟨e, he, rfl⟩ := mem_oneOf.mp hfirst
      rw [RegularExpression.matches'_mul, Language.mem_mul] at hmore
      obtain ⟨sign, hsign, text, htext, rfl⟩ := hmore
      have hoptional : sign = [] ∨ sign = [plus] ∨ sign = [minus] := by
        rcases mem_optional.mp hsign with rfl | hsign
        · exact .inl rfl
        · obtain ⟨c, hc, rfl⟩ := mem_oneOf.mp hsign
          right
          simpa using hc
      exact @ExponentPart.digits e sign text (by simpa using he) hoptional (mem_digits.mp htext)
  · intro h
    cases h with
    | none => exact .inl rfl
    | @digits e sign text he hsign hdigits =>
      refine .inr ⟨[e], mem_oneOf.mpr ⟨e, by simpa using he, rfl⟩, sign ++ text, ?_, rfl⟩
      rw [RegularExpression.matches'_mul, Language.mem_mul]
      refine ⟨sign, mem_optional.mpr ?_, text, mem_digits.mpr hdigits, rfl⟩
      rcases hsign with rfl | rfl | rfl
      · exact .inl rfl
      · exact .inr (mem_oneOf.mpr ⟨plus, by simp, rfl⟩)
      · exact .inr (mem_oneOf.mpr ⟨minus, by simp, rfl⟩)

theorem rmatch_iff_number (text : JsString) : numberPattern.rmatch text = true ↔ Number text := by
  rw [RegularExpression.rmatch_iff_matches', numberPattern, RegularExpression.matches'_mul,
    Language.mem_mul]
  constructor
  · rintro ⟨sign, hsign, rest, hrest, rfl⟩
    rw [RegularExpression.matches'_mul, Language.mem_mul] at hrest
    obtain ⟨integer, hinteger, rest, hrest, rfl⟩ := hrest
    rw [RegularExpression.matches'_mul, Language.mem_mul] at hrest
    obtain ⟨fraction, hfraction, exponent, hexponent, rfl⟩ := hrest
    exact .mk (mem_optional.mp hsign) (mem_integer.mp hinteger) (mem_fraction.mp hfraction)
      (mem_exponent.mp hexponent)
  · rintro ⟨hsign, hinteger, hfraction, hexponent⟩
    refine ⟨_, mem_optional.mpr hsign, _, ?_, rfl⟩
    rw [RegularExpression.matches'_mul, Language.mem_mul]
    refine ⟨_, mem_integer.mpr hinteger, _, ?_, rfl⟩
    rw [RegularExpression.matches'_mul, Language.mem_mul]
    exact ⟨_, mem_fraction.mpr hfraction, _, mem_exponent.mpr hexponent, rfl⟩

def isNumberPart (c : CodeUnit) : Bool := isDigit c || c = dot || c = 0x65 || c = 0x45

theorem digits_append (h : ∀ c ∈ text, isDigit c = true)
    (hstops : Stops isDigit rest) : digits (text ++ rest) = (text, rest) := by
  have hnone : rest.takeWhile isDigit = [] ∧ rest.dropWhile isDigit = rest := by
    cases rest with
    | nil => exact ⟨rfl, rfl⟩
    | cons c rest =>
      have hc : isDigit c = false := hstops c rfl
      simp [hc]
  rw [digits, List.takeWhile_append_of_pos h, List.dropWhile_append_of_pos h, hnone.1, hnone.2,
    List.append_nil]

theorem optionalSign_append {signs sign rest : JsString} (h : sign = [] ∨ ∃ c ∈ signs, sign = [c])
    (hstops : Stops (fun c => c ∈ signs) rest) : optionalSign signs (sign ++ rest) = (sign, rest) := by
  rcases h with rfl | ⟨c, hc, rfl⟩
  · cases rest with
    | nil => rfl
    | cons c rest =>
      have hc : c ∉ signs := by simpa using hstops c rfl
      exact if_neg hc
  · exact if_pos hc

theorem stops_of_digits {text : JsString} (h : Digits text) (rest : JsString) {signs : JsString}
    (hsigns : signs = [minus] ∨ signs = [plus, minus]) :
    Stops (fun c => c ∈ signs) (text ++ rest) := by
  obtain ⟨hsome, hall⟩ := h
  cases text with
  | nil => exact absurd rfl hsome
  | cons c text =>
    intro d hd
    cases hd
    have hc := hall c List.mem_cons_self
    rcases hsigns with rfl | rfl
    · have hne : c ≠ minus := by
        rintro rfl
        exact absurd hc (by decide)
      simpa using hne
    · have hplus : c ≠ plus := by
        rintro rfl
        exact absurd hc (by decide)
      have hminus : c ≠ minus := by
        rintro rfl
        exact absurd hc (by decide)
      simpa using ⟨hplus, hminus⟩

theorem digits_of_integer {text : JsString} (h : IntegerPart text) : Digits text := by
  cases h with
  | zero => exact ⟨List.cons_ne_nil _ _, List.forall_mem_singleton.mpr (by decide)⟩
  | digits hdigits _ => exact hdigits

theorem scanExponent_append {exponent rest : JsString} (h : ExponentPart exponent)
    (hstops : Stops isNumberPart rest) : scanExponent (exponent ++ rest) = (exponent, rest) := by
  cases h with
  | none =>
    cases rest with
    | nil => rfl
    | cons c rest =>
      have hc : isNumberPart c = false := hstops c rfl
      simp only [isNumberPart, Bool.or_eq_false_iff] at hc
      simp [scanExponent, hc.1.2, hc.2]
  | @digits e sign text he hsign hdigits =>
    have hletter : (decide (e = 0x65) || decide (e = 0x45)) = true := by simpa using he
    have hsigned : sign = [] ∨ ∃ c ∈ [plus, minus], sign = [c] := by
      rcases hsign with rfl | rfl | rfl
      · exact .inl rfl
      · exact .inr ⟨plus, by simp, rfl⟩
      · exact .inr ⟨minus, by simp, rfl⟩
    have hrest : Stops isDigit rest := by
      intro c hc
      have hpart := hstops c hc
      simp only [isNumberPart, Bool.or_eq_false_iff] at hpart
      exact hpart.1.1.1
    rw [List.cons_append, List.append_assoc, scanExponent, if_pos hletter,
      optionalSign_append hsigned (stops_of_digits hdigits rest (.inr rfl))]
    dsimp only
    rw [digits_append hdigits.all hrest]

theorem stops_exponent {exponent rest : JsString} (h : ExponentPart exponent)
    (hstops : Stops isNumberPart rest) : Stops (fun c => isDigit c || c = dot) (exponent ++ rest) := by
  intro c hc
  cases h with
  | none =>
    have hpart := hstops c hc
    simp only [isNumberPart, Bool.or_eq_false_iff] at hpart
    simpa using hpart.1.1
  | digits he _ _ =>
    cases hc
    rcases he with rfl | rfl
    · decide
    · decide

theorem scanFraction_append {fraction rest : JsString} (h : FractionPart fraction)
    (hstops : Stops (fun c => isDigit c || c = dot) rest) :
    scanFraction (fraction ++ rest) = (fraction, rest) := by
  cases h with
  | none =>
    cases rest with
    | nil => rfl
    | cons c rest =>
      have hc := hstops c rfl
      simp only [Bool.or_eq_false_iff, decide_eq_false_iff_not] at hc
      exact if_neg hc.2
  | digits hdigits =>
    have hrest : Stops isDigit rest := by
      intro c hc
      have hpart := hstops c hc
      simp only [Bool.or_eq_false_iff] at hpart
      exact hpart.1
    rw [List.cons_append, scanFraction, if_pos rfl, digits_append hdigits.all hrest]

theorem stops_fraction {fraction rest : JsString} (h : FractionPart fraction)
    (hstops : Stops (fun c => isDigit c || c = dot) rest) : Stops isDigit (fraction ++ rest) := by
  intro c hc
  cases h with
  | none =>
    have hpart := hstops c hc
    simp only [Bool.or_eq_false_iff] at hpart
    exact hpart.1
  | digits _ =>
    cases hc
    decide

theorem scanInteger_append {integer rest : JsString} (h : IntegerPart integer)
    (hstops : Stops isDigit rest) : scanInteger (integer ++ rest) = (integer, rest) := by
  cases h with
  | zero => rfl
  | digits hdigits hhead =>
    have hscan := digits_append hdigits.all hstops
    obtain ⟨hsome, hall⟩ := hdigits
    cases integer with
    | nil => exact absurd rfl hsome
    | cons c integer =>
      have hne : c ≠ zero := fun h => hhead (congrArg some h)
      rw [List.cons_append, scanInteger, if_neg hne]
      exact hscan

theorem scanNumber_append (h : Number text) (hstops : Stops isNumberPart rest) :
    scanNumber (text ++ rest) = (text, rest) := by
  obtain ⟨hsign, hinteger, hfraction, hexponent⟩ := h
  rename_i sign integer fraction exponent
  have hsigned : sign = [] ∨ ∃ c ∈ [minus], sign = [c] := by simpa using hsign
  have hexponentStops := stops_exponent hexponent hstops
  have hfractionStops := stops_fraction hfraction hexponentStops
  unfold scanNumber
  simp only [List.append_assoc]
  rw [optionalSign_append hsigned (stops_of_digits (digits_of_integer hinteger) _ (.inl rfl))]
  dsimp only
  rw [scanInteger_append hinteger hfractionStops]
  dsimp only
  rw [scanFraction_append hfraction hexponentStops]
  dsimp only
  rw [scanExponent_append hexponent hstops]

theorem scanNumber_eq (text : JsString) : (scanNumber text).1 ++ (scanNumber text).2 = text := by
  have hdigits (t : JsString) : (digits t).1 ++ (digits t).2 = t := List.takeWhile_append_dropWhile
  have hsign (signs t : JsString) : (optionalSign signs t).1 ++ (optionalSign signs t).2 = t := by
    cases t with
    | nil => rfl
    | cons c t =>
      rw [optionalSign]
      split_ifs
      · rfl
      · rfl
  have hinteger (t : JsString) : (scanInteger t).1 ++ (scanInteger t).2 = t := by
    cases t with
    | nil => rfl
    | cons c t =>
      rw [scanInteger]
      split_ifs
      · rfl
      · exact hdigits _
  have hfraction (t : JsString) : (scanFraction t).1 ++ (scanFraction t).2 = t := by
    cases t with
    | nil => rfl
    | cons c t =>
      rw [scanFraction]
      split_ifs
      · exact congrArg (c :: ·) (hdigits t)
      · rfl
  have hexponent (t : JsString) : (scanExponent t).1 ++ (scanExponent t).2 = t := by
    cases t with
    | nil => rfl
    | cons c t =>
      rw [scanExponent]
      split_ifs
      · change c :: ((optionalSign [plus, minus] t).1 ++ (digits (optionalSign [plus, minus] t).2).1 ++
          (digits (optionalSign [plus, minus] t).2).2) = c :: t
        rw [List.append_assoc, hdigits, hsign]
      · rfl
  unfold scanNumber
  simp only [List.append_assoc]
  rw [hexponent, hfraction, hinteger, hsign]

/-- What may follow a value. -/
def Delimited (text : JsString) : Prop :=
  ∀ c ∈ text.head?, isWhitespace c = true ∨ c = comma ∨ c = closeBracket ∨ c = closeBrace

theorem Delimited.stops {text : JsString} (h : Delimited text) : Stops isNumberPart text := by
  intro c hc
  rcases h c hc with hspace | rfl | rfl | rfl
  · simp only [isWhitespace, Bool.or_eq_true, decide_eq_true_eq] at hspace
    rcases hspace with ((rfl | rfl) | rfl) | rfl
    · decide
    · decide
    · decide
    · decide
  · decide
  · decide
  · decide

theorem delimited_of_ws (h : Ws text rest) (hrest : Delimited rest) :
    Delimited text := by
  cases h with
  | nil => exact hrest
  | cons hspace _ =>
    intro c hc
    cases hc
    exact .inl hspace

theorem delimited_cons (h : c = comma ∨ c = closeBracket ∨ c = closeBrace)
    (rest : JsString) : Delimited (c :: rest) := by
  intro d hd
  cases hd
  exact .inr h

theorem stops_cons {p : CodeUnit → Bool} (h : p c = false) (rest : JsString) :
    Stops p (c :: rest) := by
  intro d hd
  cases hd
  exact h

theorem number_head {text : JsString} (h : Number text) :
    ∃ c rest, text = c :: rest ∧ (decide (c = minus) || isDigit c) = true := by
  obtain ⟨hsign, hinteger, -, -⟩ := h
  rcases hsign with rfl | rfl
  · obtain ⟨hsome, hall⟩ := digits_of_integer hinteger
    rename_i integer _ _
    cases integer with
    | nil => exact absurd rfl hsome
    | cons c integer => exact ⟨c, _, rfl, by simp [hall c List.mem_cons_self]⟩
  · exact ⟨minus, _, rfl, by decide⟩

theorem number_head_cases (h : (decide (c = minus) || isDigit c) = true) :
    c ≠ openBrace ∧ c ≠ openBracket ∧ c ≠ quote ∧ isWhitespace c = false := by
  refine ⟨?_, ?_, ?_, ?_⟩
  · rintro rfl
    exact absurd h (by decide)
  · rintro rfl
    exact absurd h (by decide)
  · rintro rfl
    exact absurd h (by decide)
  · by_contra hspace
    simp only [isWhitespace, Bool.not_eq_false, Bool.or_eq_true, decide_eq_true_eq] at hspace
    rcases hspace with ((rfl | rfl) | rfl) | rfl
    · exact absurd h (by decide)
    · exact absurd h (by decide)
    · exact absurd h (by decide)
    · exact absurd h (by decide)

def isSpaceOrClose (c : CodeUnit) : Bool := isWhitespace c || c = closeBracket

theorem value_stops {tree : Tree} (h : Value tree text rest) :
    Stops isSpaceOrClose text := by
  cases h with
  | null => exact stops_cons (by decide) _
  | true => exact stops_cons (by decide) _
  | false => exact stops_cons (by decide) _
  | number hnumber =>
    obtain ⟨c, more, rfl, hc⟩ := number_head hnumber
    have hne : c ≠ closeBracket := by
      rintro rfl
      exact absurd hc (by decide)
    exact stops_cons (by simp [isSpaceOrClose, (number_head_cases hc).2.2.2, hne]) _
  | string _ => exact stops_cons (by decide) _
  | emptyArray _ => exact stops_cons (by decide) _
  | array _ => exact stops_cons (by decide) _
  | emptyObject _ => exact stops_cons (by decide) _
  | object _ => exact stops_cons (by decide) _

theorem skipWhitespace_value {text value rest : JsString} {tree : Tree} (hws : Ws text value)
    (h : Value tree value rest) : skipWhitespace text = value := by
  refine skipWhitespace_of_ws hws fun c hc => ?_
  have hstops := value_stops h c hc
  simp only [isSpaceOrClose, Bool.or_eq_false_iff] at hstops
  exact hstops.1

theorem strip_close_value {text value rest : JsString} {tree : Tree} (hws : Ws text value)
    (h : Value tree value rest) : strip [closeBracket] (skipWhitespace text) = none := by
  rw [skipWhitespace_value hws h]
  cases value with
  | nil => rfl
  | cons c value =>
    have hstops := value_stops h c rfl
    simp only [isSpaceOrClose, Bool.or_eq_false_iff, decide_eq_false_iff_not] at hstops
    rw [strip, if_neg (Ne.symm hstops.2)]

theorem parseKey_complete {key text rest : JsString} (h : Key key text rest) :
    parseKey text = .ok (key, rest) := by
  obtain ⟨hbefore, hchars, hafter⟩ := h
  rename_i chars colons
  have hquote := skipWhitespace_of_ws hbefore (stops_cons (by decide) _)
  have hcolon := skipWhitespace_of_ws hafter (stops_cons (by decide) _)
  unfold parseKey
  rw [hquote]
  change (parseString [] chars >>= _) = _
  rw [parseString_complete hchars]
  change (match strip [colon] (skipWhitespace colons) with | none => _ | some rest => _) = _
  rw [hcolon]
  rfl

theorem strip_single_of_ne {c d : CodeUnit} (h : c ≠ d) (rest : JsString) : strip [d] (c :: rest) = none := by
  rw [strip, if_neg (Ne.symm h)]

theorem strip_close_elements {elements : List Tree}
    (h : Elements elements text rest) : strip [closeBracket] (skipWhitespace text) = none := by
  cases h with
  | one hbefore hvalue _ => exact strip_close_value hbefore hvalue
  | more hbefore hvalue _ _ => exact strip_close_value hbefore hvalue

theorem strip_close_key {key text rest : JsString} (h : Key key text rest) :
    strip [closeBrace] (skipWhitespace text) = none := by
  obtain ⟨hbefore, -, -⟩ := h
  rw [skipWhitespace_of_ws hbefore (stops_cons (by decide) _)]
  exact strip_single_of_ne (by decide) _

theorem strip_close_members {members : List (JsString × Tree)}
    (h : Members members text rest) : strip [closeBrace] (skipWhitespace text) = none := by
  cases h with
  | one hkey _ _ _ => exact strip_close_key hkey
  | more hkey _ _ _ _ => exact strip_close_key hkey

section Unfold
variable {V O : Type} (make : Builder V O)

theorem parseValue_of_skip {fuel : Nat} {text : JsString} {rest : JsString}
    (h : skipWhitespace text = c :: rest) :
    parseValue make (fuel + 1) text =
      if c = openBrace then
        match strip [closeBrace] (skipWhitespace rest) with
        | some after => .ok (make.object make.empty, after)
        | none => parseMembers make fuel make.empty rest
      else if c = openBracket then
        match strip [closeBracket] (skipWhitespace rest) with
        | some after => .ok (make.array [], after)
        | none => parseElements make fuel [] rest
      else if c = quote then (parseString [] rest).map fun r => (make.string r.1, r.2)
      else if c = minus || isDigit c then (parseNumber (c :: rest)).map fun r => (make.number r.1, r.2)
      else parseLiteral make (c :: rest) := by
  rw [parseValue, h]

theorem parseMembers_of_key {fuel : Nat} {object : O} {key text space : JsString}
    (h : parseKey text = .ok (key, space)) :
    parseMembers make (fuel + 1) object text = parseValue make fuel space >>= fun r =>
      match make.member object key r.1 with
      | none => .error (.failed (JsString.ofString "duplicate object key \u0022" ++ key ++ [quote]) r.2)
      | some object =>
        match strip [comma] (skipWhitespace r.2) with
        | some next => parseMembers make fuel object next
        | none =>
          match strip [closeBrace] (skipWhitespace r.2) with
          | some rest => .ok (make.object object, rest)
          | none => fail "expected ',' or '\x7d' in object" (skipWhitespace r.2) := by
  rw [parseMembers, h]
  rfl

theorem parseElements_succ (fuel : Nat) (values : List V) (text : JsString) :
    parseElements make (fuel + 1) values text = parseValue make fuel text >>= fun r =>
      match strip [comma] (skipWhitespace r.2) with
      | some next => parseElements make fuel (values ++ [r.1]) next
      | none =>
        match strip [closeBracket] (skipWhitespace r.2) with
        | some rest => .ok (make.array (values ++ [r.1]), rest)
        | none => fail "expected ',' or ']' in array" (skipWhitespace r.2) := by
  rw [parseElements]

end Unfold

end Wardroom.Federation
