import Wardroom.Federation.StrictJson

/-! # The texts the strict parser reads

It reads the texts of JSON and no others, and makes of a text what its one parse
tree says.
-/

namespace Wardroom.Federation
open Wardroom.Library Wardroom.Library.JsonText

section Complete
variable {V O : Type} (make : Builder V O)

theorem toOption_bind {ε α β : Type} (x : Except ε α) (f : α → Except ε β) :
    (x >>= f).toOption = x.toOption.bind fun a => (f a).toOption := by
  cases x with
  | error e => rfl
  | ok a => rfl

mutual

theorem parseValue_complete {tree : Tree} {text value rest : JsString} {fuel : Nat}
    (h : Value tree value rest) (hws : Ws text value) (hrest : Delimited rest)
    (hfuel : 2 * text.length < fuel) :
    (parseValue make fuel text).toOption = (tree.fold make).map (·, rest) := by
  obtain ⟨fuel, rfl⟩ : ∃ n, fuel = n + 1 := Nat.exists_eq_succ_of_ne_zero (by omega)
  have hskip := skipWhitespace_value hws h
  have hlength := hws.length_le
  cases h with
  | null =>
    rw [parseValue_of_skip make hskip]
    rfl
  | true =>
    rw [parseValue_of_skip make hskip]
    rfl
  | false =>
    rw [parseValue_of_skip make hskip]
    rfl
  | @number numberText _ hnumber =>
    have hparse : parseNumber (numberText ++ rest) = .ok (numberText, rest) := by
      unfold parseNumber
      rw [scanNumber_append hnumber hrest.stops]
      exact if_pos ((rmatch_iff_number numberText).mpr hnumber)
    obtain ⟨c, more, hmore, hc⟩ := number_head hnumber
    obtain ⟨hbrace, hbracket, hquote, -⟩ := number_head_cases hc
    rw [hmore] at hskip
    rw [parseValue_of_skip make hskip, if_neg hbrace, if_neg hbracket, if_neg hquote, if_pos hc]
    change (Except.map _ (parseNumber (c :: more ++ rest))).toOption = _
    rw [← hmore, hparse]
    rfl
  | string hchars =>
    rw [parseValue_of_skip make hskip, if_neg (by decide), if_neg (by decide), if_pos rfl,
      parseString_complete hchars]
    rfl
  | emptyArray hinner =>
    rw [parseValue_of_skip make hskip, if_neg (by decide), if_pos rfl,
      skipWhitespace_of_ws hinner (stops_cons (by decide) _)]
    rfl
  | array helements =>
    simp only [List.length_cons] at hlength
    have hfirst : strip [closeBracket] (skipWhitespace _) = none := strip_close_elements helements
    rw [parseValue_of_skip make hskip, if_neg (by decide), if_pos rfl, hfirst]
    dsimp only
    rw [parseElements_complete helements (by omega)]
    rw [Tree.fold, Option.map_map]
    rfl
  | emptyObject hinner =>
    rw [parseValue_of_skip make hskip, if_pos rfl,
      skipWhitespace_of_ws hinner (stops_cons (by decide) _)]
    rfl
  | object hmembers =>
    simp only [List.length_cons] at hlength
    have hfirst : strip [closeBrace] (skipWhitespace _) = none := strip_close_members hmembers
    rw [parseValue_of_skip make hskip, if_pos rfl, hfirst]
    dsimp only
    rw [parseMembers_complete hmembers (by omega)]
    rw [Tree.fold, Option.map_map]
    rfl

theorem parseElements_complete {elements : List Tree} {text rest : JsString} {fuel : Nat}
    {values : List V} (h : Elements elements text (closeBracket :: rest))
    (hfuel : 2 * text.length + 1 < fuel) :
    (parseElements make fuel values text).toOption =
      (foldElements make elements).map fun more => (make.array (values ++ more), rest) := by
  obtain ⟨fuel, rfl⟩ : ∃ n, fuel = n + 1 := Nat.exists_eq_succ_of_ne_zero (by omega)
  cases h with
  | @one tree _ value after _ hbefore hvalue hafter =>
    have hdelimited := delimited_of_ws hafter (delimited_cons (.inr (.inl rfl)) rest)
    have hskip := skipWhitespace_of_ws hafter (stops_cons (by decide) _)
    rw [parseElements_succ, toOption_bind, parseValue_complete hvalue hbefore hdelimited (by omega),
      foldElements]
    cases tree.fold make with
    | none => rfl
    | some v =>
      simp only [Option.map_some, Option.bind_some]
      rw [hskip]
      rfl
  | @more tree elements _ value after next _ hbefore hvalue hafter hmore =>
    have hdelimited := delimited_of_ws hafter (delimited_cons (.inl rfl) next)
    have hskip := skipWhitespace_of_ws hafter (stops_cons (by decide) _)
    have hlengthBefore := hbefore.length_le
    have hlengthValue := hvalue.length_le
    have hlengthAfter := hafter.length_le
    simp only [List.length_cons] at hlengthAfter
    rw [parseElements_succ, toOption_bind, parseValue_complete hvalue hbefore hdelimited (by omega),
      foldElements]
    cases tree.fold make with
    | none => rfl
    | some v =>
      simp only [Option.map_some, Option.bind_some]
      rw [hskip]
      change (parseElements make fuel (values ++ [v]) next).toOption = _
      rw [parseElements_complete hmore (by omega)]
      cases foldElements make elements with
      | none => rfl
      | some more => simp

theorem parseMembers_complete {members : List (JsString × Tree)} {text rest : JsString} {fuel : Nat}
    {object : O} (h : Members members text (closeBrace :: rest)) (hfuel : 2 * text.length + 1 < fuel) :
    (parseMembers make fuel object text).toOption =
      (foldMembers make object members).map fun object => (make.object object, rest) := by
  obtain ⟨fuel, rfl⟩ : ∃ n, fuel = n + 1 := Nat.exists_eq_succ_of_ne_zero (by omega)
  cases h with
  | @one key tree _ space value after _ hkey hbefore hvalue hafter =>
    have hdelimited := delimited_of_ws hafter (delimited_cons (.inr (.inr rfl)) rest)
    have hskip := skipWhitespace_of_ws hafter (stops_cons (by decide) _)
    have hlengthKey := hkey.length_lt
    rw [parseMembers_of_key make (parseKey_complete hkey), toOption_bind,
      parseValue_complete hvalue hbefore hdelimited (by omega), foldMembers]
    cases tree.fold make with
    | none => rfl
    | some v =>
      simp only [Option.map_some, Option.bind_some, Option.bind_eq_bind]
      cases make.member object key v with
      | none => rfl
      | some object =>
        dsimp only
        rw [hskip]
        rfl
  | @more key tree members _ space value after next _ hkey hbefore hvalue hafter hmore =>
    have hdelimited := delimited_of_ws hafter (delimited_cons (.inl rfl) next)
    have hskip := skipWhitespace_of_ws hafter (stops_cons (by decide) _)
    have hlengthKey := hkey.length_lt
    have hlengthBefore := hbefore.length_le
    have hlengthValue := hvalue.length_le
    have hlengthAfter := hafter.length_le
    simp only [List.length_cons] at hlengthAfter
    rw [parseMembers_of_key make (parseKey_complete hkey), toOption_bind,
      parseValue_complete hvalue hbefore hdelimited (by omega), foldMembers]
    cases tree.fold make with
    | none => rfl
    | some v =>
      simp only [Option.map_some, Option.bind_some, Option.bind_eq_bind]
      cases make.member object key v with
      | none => rfl
      | some object =>
        dsimp only
        rw [hskip]
        change (parseMembers make fuel object next).toOption = _
        rw [parseMembers_complete hmore (by omega)]
        rfl

end

theorem parseText_complete {tree : Tree} {text : JsString} (h : JsonText tree text) :
    (parseText make text).toOption = tree.fold make := by
  obtain ⟨value, after, hbefore, hvalue, hafter⟩ := h
  have hdelimited : Delimited after := delimited_of_ws hafter fun c hc => (nomatch hc)
  have hskip : skipWhitespace after = [] := skipWhitespace_of_ws hafter fun c hc => (nomatch hc)
  unfold parseText
  rw [toOption_bind, parseValue_complete make hvalue hbefore hdelimited (Nat.lt_succ_self _)]
  cases tree.fold make with
  | none => rfl
  | some v =>
    simp only [Option.map_some, Option.bind_some]
    rw [hskip]
    rfl

end Complete

theorem bind_eq_ok {ε α β : Type} {x : Except ε α} {f : α → Except ε β} {b : β}
    (h : (x >>= f) = .ok b) : ∃ a, x = .ok a ∧ f a = .ok b := by
  cases x with
  | error e => cases h
  | ok a => exact ⟨a, rfl, h⟩

theorem map_eq_ok {ε α β : Type} {x : Except ε α} {f : α → β} {b : β} (h : x.map f = .ok b) :
    ∃ a, x = .ok a ∧ f a = b := by
  cases x with
  | error e => cases h
  | ok a =>
    cases h
    exact ⟨a, rfl, rfl⟩

theorem ws_of_strip {c : CodeUnit} {text rest : JsString}
    (h : strip [c] (skipWhitespace text) = some rest) : Ws text (c :: rest) := by
  have hws := ws_skipWhitespace text
  rw [strip_eq_some.mp h] at hws
  exact hws

theorem parseKey_sound {key text rest : JsString} (h : parseKey text = .ok (key, rest)) :
    Key key text rest := by
  unfold parseKey at h
  cases hquote : strip [quote] (skipWhitespace text) with
  | none =>
    rw [hquote] at h
    exact absurd h fail_ne_ok
  | some chars =>
    rw [hquote] at h
    obtain ⟨⟨name, after⟩, hstring, hrest⟩ := bind_eq_ok h
    obtain ⟨read, rfl, hchars⟩ := parseString_sound hstring
    cases hcolon : strip [colon] (skipWhitespace after) with
    | none =>
      dsimp only at hrest
      rw [hcolon] at hrest
      exact absurd hrest fail_ne_ok
    | some next =>
      dsimp only at hrest
      rw [hcolon] at hrest
      cases hrest
      exact .mk (ws_of_strip hquote) hchars (ws_of_strip hcolon)

theorem parseNumber_sound {numberText text rest : JsString} (h : parseNumber text = .ok (numberText, rest)) :
    Number numberText ∧ text = numberText ++ rest := by
  unfold parseNumber at h
  have hscan := scanNumber_eq text
  generalize scanNumber text = scanned at h hscan
  obtain ⟨read, after⟩ := scanned
  dsimp only at h
  split_ifs at h with hmatch
  · cases h
    exact ⟨(rmatch_iff_number _).mp hmatch, hscan.symm⟩
  · exact absurd h fail_ne_ok

section Sound
variable {V O : Type} (make : Builder V O)

theorem parseLiteral_sound {text rest : JsString} {v : V} (h : parseLiteral make text = .ok (v, rest)) :
    ∃ tree, Value tree text rest ∧ tree.fold make = some v := by
  unfold parseLiteral at h
  cases htrue : strip (JsString.ofString "true") text with
  | some after =>
    rw [htrue] at h
    cases h
    rw [strip_eq_some.mp htrue]
    exact ⟨.bool true, .true, rfl⟩
  | none =>
    rw [htrue] at h
    cases hfalse : strip (JsString.ofString "false") text with
    | some after =>
      rw [hfalse] at h
      cases h
      rw [strip_eq_some.mp hfalse]
      exact ⟨.bool false, .false, rfl⟩
    | none =>
      rw [hfalse] at h
      cases hnull : strip (JsString.ofString "null") text with
      | some after =>
        rw [hnull] at h
        cases h
        rw [strip_eq_some.mp hnull]
        exact ⟨.null, .null, rfl⟩
      | none =>
        rw [hnull] at h
        exact absurd h fail_ne_ok

/-- What each of the three loops has read, by the fuel it was given. -/
structure Sound (fuel : Nat) : Prop where
  value {text rest : JsString} {v : V} : parseValue make fuel text = .ok (v, rest) →
    ∃ tree start, Ws text start ∧ Value tree start rest ∧ tree.fold make = some v
  elements {text rest : JsString} {values : List V} {v : V} :
    parseElements make fuel values text = .ok (v, rest) →
      ∃ elements more, Elements elements text (closeBracket :: rest) ∧
        foldElements make elements = some more ∧ v = make.array (values ++ more)
  members {text rest : JsString} {object : O} {v : V} :
    parseMembers make fuel object text = .ok (v, rest) →
      ∃ members result, Members members text (closeBrace :: rest) ∧
        foldMembers make object members = some result ∧ v = make.object result

variable {make}

theorem Sound.value_succ {fuel : Nat} (ih : Sound make fuel) {text rest : JsString} {v : V}
    (h : parseValue make (fuel + 1) text = .ok (v, rest)) :
    ∃ tree start, Ws text start ∧ Value tree start rest ∧ tree.fold make = some v := by
  have hws := ws_skipWhitespace text
  cases hskip : skipWhitespace text with
  | nil =>
    rw [parseValue, hskip] at h
    exact absurd h fail_ne_ok
  | cons c inner =>
    rw [hskip] at hws
    rw [parseValue_of_skip make hskip] at h
    split_ifs at h with hbrace hbracket hquote hnumber
    · subst hbrace
      cases hclose : strip [closeBrace] (skipWhitespace inner) with
      | some after =>
        rw [hclose] at h
        cases h
        exact ⟨.object [], _, hws, .emptyObject (ws_of_strip hclose), rfl⟩
      | none =>
        rw [hclose] at h
        obtain ⟨members, result, hmembers, hfold, rfl⟩ := ih.members h
        refine ⟨.object members, _, hws, .object hmembers, ?_⟩
        rw [Tree.fold, hfold]
        rfl
    · subst hbracket
      cases hclose : strip [closeBracket] (skipWhitespace inner) with
      | some after =>
        rw [hclose] at h
        cases h
        exact ⟨.array [], _, hws, .emptyArray (ws_of_strip hclose), rfl⟩
      | none =>
        rw [hclose] at h
        obtain ⟨elements, more, helements, hfold, rfl⟩ := ih.elements h
        refine ⟨.array elements, _, hws, .array helements, ?_⟩
        rw [Tree.fold, hfold]
        rfl
    · subst hquote
      obtain ⟨⟨s, after⟩, hstring, heq⟩ := map_eq_ok h
      cases heq
      obtain ⟨chars, rfl, hchars⟩ := parseString_sound hstring
      exact ⟨.string _, _, hws, .string hchars, rfl⟩
    · obtain ⟨⟨numberText, after⟩, hparse, heq⟩ := map_eq_ok h
      cases heq
      obtain ⟨hnumberText, hsplit⟩ := parseNumber_sound hparse
      rw [hsplit] at hws
      exact ⟨.number numberText, _, hws, .number hnumberText, rfl⟩
    · obtain ⟨tree, hvalue, hfold⟩ := parseLiteral_sound make h
      exact ⟨tree, _, hws, hvalue, hfold⟩

theorem Sound.elements_succ {fuel : Nat} (ih : Sound make fuel) {text rest : JsString}
    {values : List V} {v : V} (h : parseElements make (fuel + 1) values text = .ok (v, rest)) :
    ∃ elements more, Elements elements text (closeBracket :: rest) ∧
      foldElements make elements = some more ∧ v = make.array (values ++ more) := by
  rw [parseElements_succ] at h
  obtain ⟨⟨value, after⟩, hparse, hnext⟩ := bind_eq_ok h
  obtain ⟨tree, start, hbefore, hvalue, hfold⟩ := ih.value hparse
  dsimp only at hnext
  cases hcomma : strip [comma] (skipWhitespace after) with
  | some next =>
    rw [hcomma] at hnext
    obtain ⟨elements, more, helements, hmore, rfl⟩ := ih.elements hnext
    refine ⟨tree :: elements, value :: more, .more hbefore hvalue (ws_of_strip hcomma) helements, ?_, ?_⟩
    · rw [foldElements, hfold, hmore]
      rfl
    · rw [List.append_assoc]
      rfl
  | none =>
    rw [hcomma] at hnext
    cases hclose : strip [closeBracket] (skipWhitespace after) with
    | some final =>
      rw [hclose] at hnext
      cases hnext
      refine ⟨[tree], [value], .one hbefore hvalue (ws_of_strip hclose), ?_, rfl⟩
      rw [foldElements, hfold]
      rfl
    | none =>
      rw [hclose] at hnext
      exact absurd hnext fail_ne_ok

theorem Sound.members_succ {fuel : Nat} (ih : Sound make fuel) {text rest : JsString} {object : O}
    {v : V} (h : parseMembers make (fuel + 1) object text = .ok (v, rest)) :
    ∃ members result, Members members text (closeBrace :: rest) ∧
      foldMembers make object members = some result ∧ v = make.object result := by
  have hkeyed : ∃ key space, parseKey text = .ok (key, space) := by
    rw [parseMembers] at h
    obtain ⟨⟨key, space⟩, hkey, -⟩ := bind_eq_ok h
    exact ⟨key, space, hkey⟩
  obtain ⟨key, space, hkey⟩ := hkeyed
  rw [parseMembers_of_key make hkey] at h
  obtain ⟨⟨value, after⟩, hparse, hnext⟩ := bind_eq_ok h
  obtain ⟨tree, start, hbefore, hvalue, hfold⟩ := ih.value hparse
  have hkeyText := parseKey_sound hkey
  dsimp only at hnext
  cases hmember : make.member object key value with
  | none =>
    rw [hmember] at hnext
    cases hnext
  | some object' =>
    rw [hmember] at hnext
    dsimp only at hnext
    have hfirst (members : List (JsString × Tree)) :
        foldMembers make object ((key, tree) :: members) = foldMembers make object' members := by
      rw [foldMembers, hfold]
      change (make.member object key value).bind _ = _
      rw [hmember]
      rfl
    cases hcomma : strip [comma] (skipWhitespace after) with
    | some next =>
      rw [hcomma] at hnext
      obtain ⟨members, result, hmembers, hmore, rfl⟩ := ih.members hnext
      exact ⟨(key, tree) :: members, result,
        .more hkeyText hbefore hvalue (ws_of_strip hcomma) hmembers, (hfirst members).trans hmore, rfl⟩
    | none =>
      rw [hcomma] at hnext
      cases hclose : strip [closeBrace] (skipWhitespace after) with
      | some final =>
        rw [hclose] at hnext
        cases hnext
        exact ⟨[(key, tree)], object', .one hkeyText hbefore hvalue (ws_of_strip hclose),
          (hfirst []).trans rfl, rfl⟩
      | none =>
        rw [hclose] at hnext
        exact absurd hnext fail_ne_ok

variable (make)

theorem sound (fuel : Nat) : Sound make fuel := by
  induction fuel with
  | zero =>
    constructor
    · intro text rest v h
      rw [parseValue] at h
      cases h
    · intro text rest values v h
      rw [parseElements] at h
      cases h
    · intro text rest object v h
      rw [parseMembers] at h
      cases h
  | succ fuel ih => exact ⟨ih.value_succ, ih.elements_succ, ih.members_succ⟩

theorem parseText_sound {text : JsString} {v : V} (h : parseText make text = .ok v) :
    ∃ tree, JsonText tree text ∧ tree.fold make = some v := by
  unfold parseText at h
  obtain ⟨⟨value, after⟩, hparse, hnext⟩ := bind_eq_ok h
  obtain ⟨tree, start, hbefore, hvalue, hfold⟩ := (sound make _).value hparse
  have hws := ws_skipWhitespace after
  dsimp only at hnext
  cases hskip : skipWhitespace after with
  | nil =>
    rw [hskip] at hnext hws
    cases hnext
    exact ⟨tree, ⟨start, after, hbefore, hvalue, hws⟩, hfold⟩
  | cons c rest =>
    rw [hskip] at hnext
    exact absurd hnext fail_ne_ok

end Sound

theorem jsonText_unique {a b : Tree} {text : JsString} (ha : JsonText a text) (hb : JsonText b text) :
    a = b := by
  have hparse := (parseText_complete treeBuilder ha).symm.trans (parseText_complete treeBuilder hb)
  rw [fold_treeBuilder, fold_treeBuilder] at hparse
  exact Option.some.inj hparse

end Wardroom.Federation
