import Mathlib

/-! # The LIKE operator of SQLite

A percent sign stands for any text and an underscore for any character, unless
the escape character comes before it. Two letters match when they are equal but
for their case, and only the letters of ASCII have a case here.
-/

namespace Wardroom.Library.Like

inductive Token where
  | any
  | one
  | char (c : Char)

def token (c : Char) : Token := if c = '%' then .any else if c = '_' then .one else .char c

/-- A pattern with the escape character `\`, which nothing is left to follow at the end. -/
def tokens : List Char → Option (List Token)
  | [] => some []
  | [c] => if c = '\\' then none else some [token c]
  | c :: d :: rest =>
    if c = '\\' then (tokens rest).map fun ts => .char d :: ts else (tokens (d :: rest)).map fun ts => token c :: ts

def tokensMatch : List Token → List Char → Bool
  | [], text => text.isEmpty
  | .any :: ts, text => text.tails.any (tokensMatch ts)
  | .one :: ts, text =>
    match text with
    | [] => false
    | _ :: text => tokensMatch ts text
  | .char c :: ts, text =>
    match text with
    | [] => false
    | d :: text => c.toLower = d.toLower && tokensMatch ts text

def like (pattern text : List Char) : Bool := (tokens pattern).any fun ts => tokensMatch ts text

/-- The function `lower` of SQLite. -/
def lower (text : List Char) : List Char := text.map Char.toLower

/-- The escape of a text makes every character of it literal. -/
def escape (text : List Char) : List Char :=
  text.flatMap fun c => if c = '\\' ∨ c = '%' ∨ c = '_' then ['\\', c] else [c]

/-- Whether the needle is a part of the text. -/
def includes (text needle : List Char) : Bool := text.tails.any fun suffix => needle.isPrefixOf suffix

theorem includes_iff {text needle : List Char} : includes text needle = true ↔ needle <:+: text := by
  rw [includes, List.any_eq_true, List.infix_iff_prefix_suffix]
  constructor
  · rintro ⟨suffix, hsuffix, hneedle⟩
    exact ⟨suffix, List.isPrefixOf_iff_prefix.mp hneedle, (List.mem_tails _ _).mp hsuffix⟩
  · rintro ⟨suffix, hneedle, hsuffix⟩
    exact ⟨suffix, (List.mem_tails _ _).mpr hsuffix, List.isPrefixOf_iff_prefix.mpr hneedle⟩

@[simp] theorem lower_lower (text : List Char) : lower (lower text) = lower text := by
  rw [lower, lower, List.map_map]
  exact List.map_congr_left fun c _ => Char.toLower_toLower_eq_toLower c

theorem tokens_cons {c : Char} (h : c ≠ '\\') (rest : List Char) :
    tokens (c :: rest) = (tokens rest).map fun ts => token c :: ts := by
  cases rest with
  | nil =>
    change (if c = '\\' then none else some [token c]) = some [token c]
    exact if_neg h
  | cons d rest => rw [tokens, if_neg h]

theorem tokens_escape (needle : List Char) :
    tokens (escape needle ++ ['%']) = some (needle.map .char ++ [.any]) := by
  induction needle with
  | nil => rfl
  | cons c needle ih =>
    rw [escape, List.flatMap_cons, List.append_assoc]
    split_ifs with hspecial
    · change tokens ('\\' :: c :: (escape needle ++ ['%'])) = _
      rw [tokens, if_pos rfl, ih]
      rfl
    · rw [not_or, not_or] at hspecial
      obtain ⟨hescape, hany, hone⟩ := hspecial
      change tokens (c :: (escape needle ++ ['%'])) = _
      rw [tokens_cons hescape, ih, token, if_neg hany, if_neg hone]
      rfl

theorem tokensMatch_prefix (needle text : List Char) :
    tokensMatch (needle.map .char ++ [.any]) text = true ↔ lower needle <+: lower text := by
  induction needle generalizing text with
  | nil =>
    simp only [List.map_nil, List.nil_append, tokensMatch, List.any_eq_true, List.isEmpty_iff, lower,
      List.nil_prefix, iff_true]
    exact ⟨[], (List.mem_tails _ _).mpr List.nil_suffix, rfl⟩
  | cons c needle ih =>
    cases text with
    | nil => simp [tokensMatch, lower]
    | cons d text =>
      rw [List.map_cons, List.cons_append, tokensMatch, Bool.and_eq_true, decide_eq_true_eq, ih]
      exact List.cons_prefix_cons.symm

theorem like_escape (needle text : List Char) :
    like ('%' :: (escape needle ++ ['%'])) text = true ↔ lower needle <:+: lower text := by
  rw [like, tokens_cons (by decide), tokens_escape, Option.map_some, Option.any_some, List.infix_iff_prefix_suffix]
  change text.tails.any _ = true ↔ _
  rw [List.any_eq_true]
  constructor
  · rintro ⟨suffix, hsuffix, hmatch⟩
    exact ⟨lower suffix, ( tokensMatch_prefix needle suffix).mp hmatch, ((List.mem_tails _ _).mp hsuffix).map _⟩
  · rintro ⟨suffix, hneedle, hsuffix⟩
    obtain ⟨rest, hrest, rfl⟩ := List.suffix_map_iff.mp hsuffix
    exact ⟨rest, (List.mem_tails _ _).mpr hrest, ( tokensMatch_prefix needle rest).mpr hneedle⟩

end Wardroom.Library.Like
