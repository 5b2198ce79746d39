import Mathlib.Data.List.Nodup

/-! # Tables with a primary key

The rows of a table are a list, in the order a scan meets them, and no two of
them share a key. An insertion of a present key is refused; an update may
change every column but the key.
-/

namespace Wardroom.Library

structure Table {ρ κ : Type} (key : ρ → κ) where
  rows : List ρ
  unique : (rows.map key).Nodup

namespace Table

variable {ρ κ : Type} {key : ρ → κ}

variable {t u : Table key}

@[ext] theorem ext (h : t.rows = u.rows) : t = u := by
  cases t
  cases u
  cases h
  rfl

def empty : Table key := ⟨[], List.nodup_nil⟩

def select (t : Table key) (p : ρ → Bool) : List ρ := t.rows.filter p

def has [DecidableEq κ] (t : Table key) (k : κ) : Bool := t.rows.any fun r => key r = k

def find? [DecidableEq κ] (t : Table key) (k : κ) : Option ρ := t.rows.find? fun r => key r = k

theorem has_iff [DecidableEq κ] (t : Table key) (k : κ) : t.has k ↔ k ∈ t.rows.map key := by
  simp [has, List.any_eq_true, List.mem_map]

/-- `INSERT`: none when the primary key is taken. -/
def insert? [DecidableEq κ] (t : Table key) (r : ρ) : Option (Table key) :=
  if h : t.has (key r) then none
  else some ⟨t.rows ++ [r], by
    rw [has_iff] at h
    rw [List.map_append, List.map_singleton, List.nodup_append]
    refine ⟨t.unique, List.nodup_singleton _, ?_⟩
    intro a ha b hb hab
    rw [List.mem_singleton] at hb
    exact h (hb ▸ hab ▸ ha)⟩

/-- `UPDATE … SET … WHERE p` for a change of non-key columns. -/
def update (t : Table key) (p : ρ → Bool) (f : ρ → ρ) (hf : ∀ r, key (f r) = key r) : Table key :=
  ⟨t.rows.map fun r => if p r then f r else r, by
    have hkey : (t.rows.map fun r => if p r then f r else r).map key = t.rows.map key := by
      rw [List.map_map]
      apply List.map_congr_left
      intro r _
      by_cases h : p r <;> simp [h, hf]
    exact hkey ▸ t.unique⟩

@[simp] theorem rows_empty : (empty : Table key).rows = [] := rfl

@[simp] theorem rows_update (t : Table key) (p : ρ → Bool) (f : ρ → ρ)
    (hf : ∀ r, key (f r) = key r) :
    (t.update p f hf).rows = t.rows.map fun r => if p r then f r else r := rfl

variable {p : ρ → Bool} {r : ρ}

theorem mem_select {t : Table key} :
    r ∈ t.select p ↔ r ∈ t.rows ∧ p r := List.mem_filter

theorem insert?_eq_some [DecidableEq κ] :
    t.insert? r = some u ↔ ¬ t.has (key r) ∧ u.rows = t.rows ++ [r] := by
  unfold insert?
  by_cases h : t.has (key r)
  · simp [h]
  · rw [dif_neg h]
    constructor
    · intro hu
      cases hu
      exact ⟨h, rfl⟩
    · rintro ⟨_, hu⟩
      exact congrArg some (Table.ext hu.symm)

theorem insert?_eq_none [DecidableEq κ] {t : Table key} :
    t.insert? r = none ↔ t.has (key r) = true := by
  unfold insert?
  by_cases h : t.has (key r) <;> simp [h]

theorem find?_some [DecidableEq κ] {t : Table key} {k : κ} (h : t.find? k = some r) :
    r ∈ t.rows ∧ key r = k := by
  refine ⟨List.mem_of_find?_eq_some h, ?_⟩
  simpa using List.find?_some h

theorem find?_none [DecidableEq κ] {t : Table key} {k : κ} :
    t.find? k = none ↔ ∀ r ∈ t.rows, key r ≠ k := by
  simp [find?, List.find?_eq_none]

theorem eq_of_key {t : Table key} {r r' : ρ} (hr : r ∈ t.rows) (hr' : r' ∈ t.rows)
    (h : key r = key r') : r = r' :=
  List.inj_on_of_nodup_map t.unique hr hr' h

theorem find?_of_mem [DecidableEq κ] {t : Table key} (h : r ∈ t.rows) :
    t.find? (key r) = some r := by
  cases hf : t.find? (key r) with
  | none => exact absurd rfl (find?_none.mp hf r h)
  | some r' =>
    obtain ⟨hmem, hkey⟩ := find?_some hf
    rw [eq_of_key hmem h hkey]

variable {f : ρ → ρ}

theorem find?_rewrite [DecidableEq κ]
    (hrows : u.rows = t.rows.map fun r => if p r then f r else r) (hf : ∀ r, key (f r) = key r)
    (k : κ) : u.find? k = (t.find? k).map fun r => if p r then f r else r := by
  unfold find?
  rw [hrows, List.find?_map]
  congr 2
  funext r
  by_cases h : p r <;> simp [h, hf]

theorem find?_insert [DecidableEq κ] (h : t.insert? r = some u) (k : κ) :
    u.find? k = if key r = k then some r else t.find? k := by
  obtain ⟨hnew, hrows⟩ := insert?_eq_some.mp h
  unfold find?
  rw [hrows, List.find?_append, List.find?_singleton]
  by_cases hk : key r = k
  · have hnone : t.rows.find? (fun r => key r = k) = none := by
      rw [has_iff, hk] at hnew
      exact find?_none.mpr fun r' hr' hkey => hnew (hkey ▸ List.mem_map_of_mem hr')
    simp [hk, hnone]
  · simp [hk]

/-- Insert a row unless its key is taken. -/
def put [DecidableEq κ] (t : Table key) (r : ρ) : Table key := (t.insert? r).getD t

theorem find?_put [DecidableEq κ] (t : Table key) (r : ρ) (k : κ) :
    (t.put r).find? k = (t.find? k).or (if key r = k then some r else none) := by
  unfold put
  cases h : t.insert? r with
  | none =>
    rw [Option.getD_none]
    cases hk : t.find? k with
    | some s => rfl
    | none =>
      have htaken : t.has (key r) = true := by
        by_contra hfree
        rw [insert?, dif_neg hfree] at h
        cases h
      rw [has_iff, List.mem_map] at htaken
      obtain ⟨s, hs, hkey⟩ := htaken
      have hne : key r ≠ k := fun heq => find?_none.mp hk s hs (hkey.trans heq)
      rw [if_neg hne, Option.or_none]
  | some u =>
    rw [Option.getD_some, find?_insert h]
    obtain ⟨hnew, _⟩ := insert?_eq_some.mp h
    by_cases hk : key r = k
    · have hnone : t.find? k = none := by
        rw [has_iff, hk] at hnew
        exact find?_none.mpr fun s hs hkey => hnew (hkey ▸ List.mem_map_of_mem hs)
      rw [if_pos hk, if_pos hk, hnone, Option.none_or]
    · rw [if_neg hk, if_neg hk, Option.or_none]

theorem rows_put [DecidableEq κ] (t : Table key) (r : ρ) :
    (t.put r).rows = t.rows ∨ (t.put r).rows = t.rows ++ [r] := by
  unfold put
  cases h : t.insert? r with
  | none => exact .inl rfl
  | some u => exact .inr (insert?_eq_some.mp h).2

/-- A table of the given rows; of rows with one key it takes the first. -/
def ofRows [DecidableEq κ] (rows : List ρ) : Table key := rows.foldl put empty

theorem find?_foldl_put [DecidableEq κ] (rows : List ρ) (t : Table key) (k : κ) :
    (rows.foldl put t).find? k = (t.find? k).or (rows.find? fun r => key r = k) := by
  induction rows generalizing t with
  | nil => simp
  | cons r rows ih =>
    rw [List.foldl_cons, ih, find?_put, List.find?_cons, Option.or_assoc]
    congr 1
    by_cases hk : key r = k
    · simp [hk]
    · simp [hk]

@[simp] theorem find?_ofRows [DecidableEq κ] (rows : List ρ) (k : κ) :
    (ofRows rows : Table key).find? k = rows.find? fun r => key r = k := by
  rw [ofRows, find?_foldl_put]
  rfl

theorem has_rewrite [DecidableEq κ]
    (hrows : u.rows = t.rows.map fun r => if p r then f r else r) (hf : ∀ r, key (f r) = key r)
    (k : κ) : u.has k = t.has k := by
  unfold has
  rw [hrows, List.any_map]
  congr 1
  funext r
  by_cases h : p r <;> simp [h, hf]

theorem has_insert [DecidableEq κ] {k : κ} (h : t.insert? r = some u)
    (hk : t.has k = true) : u.has k = true := by
  rw [has_iff] at hk ⊢
  rw [(insert?_eq_some.mp h).2, List.map_append]
  exact List.mem_append_left _ hk

theorem filter_rewrite_off {rows : List ρ} {p q : ρ → Bool} (h : ∀ r, p (f r) = false) :
    (rows.map fun r => if q r then f r else r).filter p = (rows.filter p).filter fun r => !q r := by
  induction rows with
  | nil => rfl
  | cons r rows ih =>
    rw [List.map_cons, List.filter_cons, List.filter_cons, ih]
    by_cases hq : q r = true
    · by_cases hp : p r = true <;> simp [hq, hp, h]
    · by_cases hp : p r = true <;> simp [hq, hp]

theorem countP_rewrite_le {g : ρ → ρ} (hrows : u.rows = t.rows.map g)
    {q q' : ρ → Bool} (h : ∀ r, q (g r) = true → q' r = true) :
    u.rows.countP q ≤ t.rows.countP q' := by
  rw [hrows, List.countP_map]
  exact List.countP_mono_left fun r _ => h r

theorem length_select (t : Table key) (p : ρ → Bool) : (t.select p).length = t.rows.countP p :=
  List.countP_eq_length_filter.symm

theorem countP_le_one {t : Table key}
    (h : ∀ a ∈ t.rows, ∀ b ∈ t.rows, p a = true → p b = true → key a = key b) : t.rows.countP p ≤ 1 := by
  rw [← length_select]
  have hnodup : (t.select p).Nodup := (List.Nodup.of_map key t.unique).filter p
  cases hrows : t.select p with
  | nil => exact Nat.zero_le 1
  | cons a rest =>
    cases rest with
    | nil => exact Nat.le_refl _
    | cons b rest =>
      have ha := mem_select.mp (hrows ▸ List.mem_cons_self : a ∈ t.select p)
      have hb := mem_select.mp (hrows ▸ List.mem_cons_of_mem a List.mem_cons_self : b ∈ t.select p)
      have hsame := eq_of_key ha.1 hb.1 (h a ha.1 b hb.1 ha.2 hb.2)
      rw [hrows, hsame] at hnodup
      exact absurd List.mem_cons_self (List.nodup_cons.mp hnodup).1

theorem countP_rewrite_le_succ [DecidableEq κ] {k : κ}
    (hrows : u.rows = t.rows.map fun r => if key r = k then f r else r) (q : ρ → Bool) :
    u.rows.countP q ≤ t.rows.countP q + 1 := by
  have hsplit (rows : List ρ) : (rows.map fun r => if key r = k then f r else r).countP q ≤
      rows.countP q + rows.countP fun r => decide (key r = k) := by
    induction rows with
    | nil => exact Nat.le_refl _
    | cons r rows ih =>
      by_cases hk : key r = k
      · simp only [List.map_cons, List.countP_cons, hk, decide_true, if_true]
        split_ifs <;> omega
      · simp only [List.map_cons, List.countP_cons, hk, decide_false, Bool.false_eq_true, if_false, Nat.add_zero]
        omega
  have hone : (t.rows.countP fun r => decide (key r = k)) ≤ 1 :=
    countP_le_one fun a _ b _ ha hb => (of_decide_eq_true ha).trans (of_decide_eq_true hb).symm
  rw [hrows]
  exact Nat.le_trans (hsplit t.rows) (Nat.add_le_add_left hone _)

theorem prefix_rewrite {rows : List ρ}
    (hrows : u.rows = t.rows.map fun r => if p r then f r else r) (h : rows <+: t.rows)
    (hp : ∀ r ∈ rows, p r = false) : rows <+: u.rows := by
  obtain ⟨rest, hrest⟩ := h
  have hsame : rows.map (fun r => if p r then f r else r) = rows := by
    refine (List.map_congr_left fun r hr => ?_).trans (List.map_id rows)
    simp [hp r hr]
  rw [hrows, ← hrest, List.map_append, hsame]
  exact List.prefix_append _ _

theorem prefix_insert [DecidableEq κ] {rows : List ρ}
    (h : rows <+: t.rows) (hinsert : t.insert? r = some u) : rows <+: u.rows := by
  rw [(insert?_eq_some.mp hinsert).2]
  exact h.trans (List.prefix_append _ _)

theorem countP_insert [DecidableEq κ] (h : t.insert? r = some u)
    (q : ρ → Bool) : u.rows.countP q = t.rows.countP q + if q r then 1 else 0 := by
  rw [(insert?_eq_some.mp h).2, List.countP_append, List.countP_singleton]

theorem find?_insert_of_some [DecidableEq κ] {r s : ρ} {k : κ}
    (h : t.insert? r = some u) (hs : t.find? k = some s) : u.find? k = some s := by
  rw [find?_insert h, if_neg, hs]
  intro hk
  obtain ⟨hmem, hkey⟩ := find?_some hs
  have hnew := (insert?_eq_some.mp h).1
  rw [has_iff, hk, ← hkey] at hnew
  exact hnew (List.mem_map_of_mem hmem)

/-- `DELETE … WHERE p`. -/
def delete (t : Table key) (p : ρ → Bool) : Table key :=
  ⟨t.rows.filter fun r => !p r, t.unique.sublist (List.filter_sublist.map key)⟩

@[simp] theorem rows_delete (t : Table key) (p : ρ → Bool) :
    (t.delete p).rows = t.rows.filter fun r => !p r := rfl

/-- Insert a row, or put it in the place of the row with its key. -/
def upsert [DecidableEq κ] (t : Table key) (r : ρ) : Table key :=
  match t.insert? r with
  | some u => u
  | none => t.update (fun s => key s = key r) (fun s => if key s = key r then r else s) fun s => by
      by_cases h : key s = key r <;> simp [h]

theorem find?_upsert [DecidableEq κ] (t : Table key) (r : ρ) (k : κ) :
    (t.upsert r).find? k = if key r = k then some r else t.find? k := by
  unfold upsert
  cases h : t.insert? r with
  | some u => exact find?_insert h k
  | none =>
    change (t.update _ _ _).find? k = _
    have htaken : t.has (key r) = true := by
      by_contra hfree
      rw [insert?, dif_neg hfree] at h
      cases h
    rw [find?_rewrite (rows_update _ _ _ _) (fun s => by by_cases h : key s = key r <;> simp [h])]
    by_cases hk : key r = k
    · rw [if_pos hk]
      cases hfound : t.find? k with
      | none =>
        rw [has_iff, hk, List.mem_map] at htaken
        obtain ⟨s, hs, hkey⟩ := htaken
        exact absurd hkey (find?_none.mp hfound s hs)
      | some s => simp [(find?_some hfound).2, hk]
    · rw [if_neg hk]
      cases hfound : t.find? k with
      | none => rfl
      | some s =>
        have hother : key s ≠ key r := fun hsame => hk (hsame.symm.trans (find?_some hfound).2)
        simp [hother]

end Table
end Wardroom.Library
