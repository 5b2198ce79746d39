import Mathlib.Data.List.Basic

/-! # Parsers that are fed a stream in chunks

A parser looks at the front of a buffer: it takes an item off it, asks for more,
or fails for good. What it has decided does not change when more comes. A loop
drains the buffer after each chunk, and the chunks do not matter: what comes out
is what comes out of the whole stream at once.
-/

namespace Wardroom.Library

inductive Parse (α ε : Type) where
  | item (a : α) (consumed : Nat)
  | incomplete
  | fatal (e : ε)
  deriving DecidableEq

structure IncrementalParser (β α ε : Type) where
  parse : List β → Parse α ε
  nil : parse [] = .incomplete
  consumes {buf : List β} {a : α} {n : Nat} : parse buf = .item a n → 0 < n ∧ n ≤ buf.length
  item_append {buf : List β} {a : α} {n : Nat} (more : List β) : parse buf = .item a n → parse (buf ++ more) = .item a n
  fatal_append {buf : List β} {e : ε} (more : List β) : parse buf = .fatal e → parse (buf ++ more) = .fatal e

namespace IncrementalParser
variable {β α ε : Type} (p : IncrementalParser β α ε)

/-- The items at the front of a buffer, the failure behind them, and what is left; the fuel is the number of items
at most. -/
def drain : Nat → List β → List α × Option ε × List β
  | 0, buf => ([], none, buf)
  | fuel + 1, buf =>
    match p.parse buf with
    | .incomplete => ([], none, buf)
    | .fatal e => ([], some e, buf)
    | .item a n => (a :: (drain fuel (buf.drop n)).1, (drain fuel (buf.drop n)).2)

/-- What comes of a buffer; each item takes something off it. -/
def items (buf : List β) : List α × Option ε × List β := p.drain buf.length buf

/-- What comes of a stream in chunks, up to the first failure. -/
def feed (buf : List β) : List (List β) → List α × Option ε × List β
  | [] => ([], none, buf)
  | chunk :: chunks =>
    match p.items (buf ++ chunk) with
    | (as, none, rest) => (as ++ (feed rest chunks).1, (feed rest chunks).2)
    | (as, some e, rest) => (as, some e, rest)

variable {p} {buf rest : List β} {a : α} {as : List α} {e : ε} {n fuel : Nat}

theorem drain_enough {fuel' : Nat} (h : buf.length ≤ fuel) (h' : buf.length ≤ fuel') :
    p.drain fuel buf = p.drain fuel' buf := by
  induction fuel generalizing fuel' buf with
  | zero =>
    obtain rfl := List.eq_nil_of_length_eq_zero (Nat.le_zero.mp h)
    cases fuel' with
    | zero => rfl
    | succ fuel' => simp [drain, p.nil]
  | succ fuel ih =>
    cases fuel' with
    | zero =>
      obtain rfl := List.eq_nil_of_length_eq_zero (Nat.le_zero.mp h')
      simp [drain, p.nil]
    | succ fuel' =>
      rw [drain, drain]
      cases hparse : p.parse buf with
      | incomplete => rfl
      | fatal e => rfl
      | item a n =>
        have hn := p.consumes hparse
        have hrest : p.drain fuel (buf.drop n) = p.drain fuel' (buf.drop n) := by
          apply ih <;> rw [List.length_drop] <;> omega
        dsimp only
        rw [hrest]

theorem items_incomplete (h : p.parse buf = .incomplete) : p.items buf = ([], none, buf) := by
  rw [items]
  cases buf.length with
  | zero => rfl
  | succ fuel => rw [drain, h]

theorem items_nil : p.items [] = ([], none, []) := rfl

theorem length_pos_of_ne_incomplete (h : p.parse buf ≠ .incomplete) : 0 < buf.length := by
  apply List.length_pos_iff.mpr
  intro hnil
  rw [hnil] at h
  exact h p.nil

theorem items_fatal (h : p.parse buf = .fatal e) : p.items buf = ([], some e, buf) := by
  have hpos := @length_pos_of_ne_incomplete _ _ _ p buf (by simp [h])
  rw [items, ← Nat.succ_pred_eq_of_pos hpos, Nat.succ_eq_add_one, drain, h]

theorem items_item (h : p.parse buf = .item a n) :
    p.items buf = (a :: (p.items (buf.drop n)).1, (p.items (buf.drop n)).2) := by
  have hpos := @length_pos_of_ne_incomplete _ _ _ p buf (by simp [h])
  have hn := p.consumes h
  have hrest : p.drain (buf.length - 1) (buf.drop n) = p.items (buf.drop n) := by
    apply drain_enough <;> rw [List.length_drop] <;> omega
  rw [items, show buf.length = buf.length - 1 + 1 by omega, drain, h]
  dsimp only
  rw [hrest]

theorem incomplete_of_items (h : p.items buf = (as, none, rest)) : p.parse rest = .incomplete := by
  induction hlength : buf.length using Nat.strongRecOn generalizing buf as with
  | _ k ih =>
    cases hparse : p.parse buf with
    | incomplete =>
      rw [items_incomplete hparse] at h
      cases h
      exact hparse
    | fatal e =>
      rw [items_fatal hparse] at h
      cases h
    | item a n =>
      have hn := p.consumes hparse
      rw [items_item hparse] at h
      obtain ⟨-, hrest⟩ := Prod.mk.inj h
      refine ih _ ?_ (Prod.ext rfl hrest) rfl
      rw [List.length_drop]
      omega

theorem items_append (more : List β) :
    match p.items buf with
    | (as, none, rest) =>
      p.items (buf ++ more) = (as ++ (p.items (rest ++ more)).1, (p.items (rest ++ more)).2)
    | (as, some e, rest) => p.items (buf ++ more) = (as, some e, rest ++ more) := by
  induction hlength : buf.length using Nat.strongRecOn generalizing buf with
  | _ k ih =>
    cases hparse : p.parse buf with
    | incomplete =>
      rw [items_incomplete hparse]
      rfl
    | fatal e =>
      rw [items_fatal hparse]
      exact items_fatal (p.fatal_append more hparse)
    | item a n =>
      have hn := p.consumes hparse
      have hsub := ih (buf.drop n).length (by rw [List.length_drop]; omega) rfl
      rw [items_item hparse, items_item (p.item_append more hparse), List.drop_append_of_le_length hn.2]
      rcases hitems : p.items (buf.drop n) with ⟨as, failed, rest⟩
      rw [hitems] at hsub
      cases failed with
      | none =>
        dsimp only at hsub ⊢
        rw [hsub]
        rfl
      | some e =>
        dsimp only at hsub ⊢
        rw [hsub]

theorem feed_eq (h : p.parse buf = .incomplete) (chunks : List (List β)) :
    (p.feed buf chunks).1 = (p.items (buf ++ chunks.flatten)).1 ∧
      (p.feed buf chunks).2.1 = (p.items (buf ++ chunks.flatten)).2.1 ∧
      ((p.feed buf chunks).2.1 = none → (p.feed buf chunks).2.2 = (p.items (buf ++ chunks.flatten)).2.2) := by
  induction chunks generalizing buf with
  | nil =>
    rw [List.flatten_nil, List.append_nil, items_incomplete h]
    exact ⟨rfl, rfl, fun _ => rfl⟩
  | cons chunk chunks ih =>
    have hwhole := @items_append _ _ _ p (buf ++ chunk) chunks.flatten
    rw [List.flatten_cons, ← List.append_assoc, feed]
    rcases hitems : p.items (buf ++ chunk) with ⟨as, failed, rest⟩
    rw [hitems] at hwhole
    cases failed with
    | none =>
      obtain ⟨has, hfailed, hrest⟩ := ih (incomplete_of_items hitems)
      dsimp only at hwhole ⊢
      rw [hwhole]
      exact ⟨congrArg (as ++ ·) has, hfailed, hrest⟩
    | some e =>
      dsimp only at hwhole ⊢
      rw [hwhole]
      exact ⟨rfl, rfl, fun hnone => (Option.some_ne_none e hnone).elim⟩

theorem feed_of_items (h : p.parse buf = .incomplete) {chunks : List (List β)}
    (hitems : p.items (buf ++ chunks.flatten) = (as, none, rest)) : p.feed buf chunks = (as, none, rest) := by
  obtain ⟨has, hfailed, hrest⟩ := feed_eq h chunks
  rw [hitems] at has hfailed hrest
  exact Prod.ext has (Prod.ext hfailed (hrest hfailed))

theorem items_encoded (enc : α → List β) (h : ∀ a ∈ as, ∀ more, p.parse (enc a ++ more) = .item a (enc a).length)
    (tail : List β) : p.items (as.flatMap enc ++ tail) = (as ++ (p.items tail).1, (p.items tail).2) := by
  induction as with
  | nil => rfl
  | cons a as ih =>
    have hfirst := h a List.mem_cons_self (as.flatMap enc ++ tail)
    have hrest := ih fun b hb => h b (List.mem_cons_of_mem _ hb)
    rw [List.flatMap_cons, List.append_assoc, items_item hfirst, List.drop_left, hrest]
    rfl

end IncrementalParser
end Wardroom.Library
