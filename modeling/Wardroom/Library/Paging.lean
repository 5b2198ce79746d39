import Mathlib.Data.List.Sort

/-! # Reading an ordered log by pages

The entries of a log have growing keys. A reader keeps a key and asks for
entries past it: the oldest ones, to go on from the last of them, or the newest
ones, to skip what is older.
-/

namespace Wardroom.Library.Paging

variable {α : Type} (key : α → Nat)

def Ordered (rows : List α) : Prop := rows.Pairwise fun a b => key a < key b

/-- The entries past a key. -/
def after (rows : List α) (n : Nat) : List α := rows.filter fun a => n < key a

/-- Where a reader is once it has read some entries. -/
def reached (read : List α) (n : Nat) : Nat := (read.getLast?.map key).getD n

structure Page (α : Type) where
  entries : List α
  cursor : Nat
  hasMore : Bool

/-- The oldest entries past a key, and whether there are more. -/
def forward (rows : List α) (limit n : Nat) : Page α where
  entries := (after key rows n).take limit
  cursor := reached key ((after key rows n).take limit) n
  hasMore := limit < (after key rows n).length

/-- Ask for pages until one says that there is no more; nothing when it did not within the fuel. -/
def walk {ε : Type} (ask : Nat → Except ε (Page α)) : Nat → Nat → Option (Except ε (List α))
  | 0, _ => none
  | fuel + 1, n =>
    match ask n with
    | .error e => some (.error e)
    | .ok page =>
      if page.hasMore then (walk ask fuel page.cursor).map fun rest => rest.map (page.entries ++ ·)
      else some (.ok page.entries)

/-- Each answer to a key that may be asked is the front of what is past the key; it says that there
is no more only when it is all of it, and otherwise gets on. -/
def Serves {ε : Type} (bound : Nat) (rows : List α) (ask : Nat → Except ε (Page α)) : Prop :=
  ∀ n < bound, ∃ taken more,
    ask n = .ok ⟨(after key rows n).take taken, reached key ((after key rows n).take taken) n, more⟩ ∧
      (more = true → 0 < taken ∧ after key rows n ≠ []) ∧ (more = false → (after key rows n).length ≤ taken)

/-- The newest entries, oldest first. -/
def newest (limit : Nat) (entries : List α) : List α := (entries.reverse.take limit).reverse

/-- The largest key, where there is an entry. -/
def latest (entries : List α) (n : Nat) : Nat := ((entries.map key).max?).getD n

variable {key}

theorem ordered_filter {rows : List α} (h : Ordered key rows) (p : α → Bool) : Ordered key (rows.filter p) :=
  List.Pairwise.filter p h

theorem after_append (rows extra : List α) (n : Nat) :
    after key (rows ++ extra) n = after key rows n ++ after key extra n := List.filter_append ..

theorem after_eq_nil {rows : List α} {n : Nat} (h : ∀ a ∈ rows, key a ≤ n) : after key rows n = [] := by
  rw [after, List.filter_eq_nil_iff]
  intro a ha
  simpa using h a ha

theorem after_eq_self {rows : List α} {n : Nat} (h : ∀ a ∈ rows, n < key a) : after key rows n = rows := by
  rw [after, List.filter_eq_self]
  intro a ha
  simpa using h a ha

theorem after_after (rows : List α) {m n : Nat} (h : m ≤ n) : after key (after key rows m) n = after key rows n := by
  rw [after, after, after, List.filter_filter]
  refine List.filter_congr fun a _ => ?_
  rw [Bool.eq_iff_iff]
  simp only [Bool.and_eq_true, decide_eq_true_eq]
  exact ⟨And.left, fun hlt => ⟨hlt, h.trans_lt hlt⟩⟩

theorem reached_cons (a : α) (read : List α) (n : Nat) : reached key (a :: read) n = reached key read (key a) := by
  rw [reached, List.getLast?_cons, Option.map_some, Option.getD_some, reached, Option.getD_map]

theorem le_reached {read : List α} {n : Nat} (h : ∀ a ∈ read, n < key a) : n ≤ reached key read n := by
  unfold reached
  cases hlast : read.getLast? with
  | none => exact le_rfl
  | some a => exact (h a (List.mem_of_getLast? hlast)).le

theorem reached_lt {read : List α} {n bound : Nat} (hn : n < bound) (h : ∀ a ∈ read, key a < bound) :
    reached key read n < bound := by
  unfold reached
  cases hlast : read.getLast? with
  | none => exact hn
  | some a => exact h a (List.mem_of_getLast? hlast)

theorem after_reached {front rest : List α} {n : Nat} (hordered : Ordered key (front ++ rest))
    (hafter : ∀ a ∈ front ++ rest, n < key a) : after key (front ++ rest) (reached key front n) = rest := by
  have hsplit := List.pairwise_append.mp hordered
  cases hlast : front.getLast? with
  | none =>
    obtain rfl := List.getLast?_eq_none_iff.mp hlast
    exact after_eq_self hafter
  | some last =>
    obtain ⟨before, rfl⟩ := List.getLast?_eq_some_iff.mp hlast
    have hreached : reached key (before ++ [last]) n = key last := by rw [reached, hlast]; rfl
    rw [hreached, after_append, after_eq_nil, List.nil_append]
    · exact after_eq_self fun a ha => hsplit.2.2 last (List.mem_append_right _ (List.mem_singleton_self last)) a ha
    · intro a ha
      rcases List.mem_append.mp ha with hbefore | hself
      · exact ((List.pairwise_append.mp hsplit.1).2.2 a hbefore last (List.mem_singleton_self last)).le
      · rw [List.mem_singleton.mp hself]

theorem after_taken {rows : List α} (h : Ordered key rows) (taken n : Nat) :
    after key rows (reached key ((after key rows n).take taken) n) = (after key rows n).drop taken := by
  have hpast : ∀ a ∈ after key rows n, n < key a := fun a ha => by simpa using (List.mem_filter.mp ha).2
  have hsplit := List.take_append_drop taken (after key rows n)
  have hle : n ≤ reached key ((after key rows n).take taken) n :=
    le_reached fun a ha => hpast a (List.mem_of_mem_take ha)
  have hreached := @after_reached _ key ((after key rows n).take taken) ((after key rows n).drop taken)
    n (hsplit.symm ▸ ordered_filter h _) (hsplit.symm ▸ hpast)
  rwa [hsplit, after_after rows hle] at hreached

/-- Asking on from the end of each page gives every entry past the first key once, in order. -/
theorem walk_of_serves {ε : Type} {bound : Nat} {rows : List α} (h : Ordered key rows)
    (hrows : ∀ a ∈ rows, key a < bound) {ask : Nat → Except ε (Page α)} (hask : Serves key bound rows ask)
    (fuel : Nat) {n : Nat} (hn : n < bound) (hfuel : (after key rows n).length < fuel) :
    walk ask fuel n = some (.ok (after key rows n)) := by
  induction fuel generalizing n with
  | zero => exact absurd hfuel (Nat.not_lt_zero _)
  | succ fuel ih =>
    obtain ⟨taken, more, hpage, hgoes, hends⟩ := hask n hn
    rw [walk, hpage]
    dsimp only
    cases more with
    | false =>
      rw [if_neg Bool.false_ne_true, List.take_of_length_le (hends rfl)]
    | true =>
      obtain ⟨htaken, hne⟩ := hgoes rfl
      have hnext := after_taken h taken n
      have hpos := List.length_pos_iff.mpr hne
      have hshorter : (after key rows (reached key ((after key rows n).take taken) n)).length < fuel := by
        rw [hnext, List.length_drop]
        omega
      have hreached : reached key ((after key rows n).take taken) n < bound :=
        reached_lt hn fun a ha => hrows a (List.mem_filter.mp (List.mem_of_mem_take ha)).1
      rw [if_pos rfl, ih hreached hshorter, hnext]
      exact congrArg (fun entries => some (Except.ok entries)) (List.take_append_drop taken _)

theorem serves_forward {ε : Type} {bound : Nat} (rows : List α) {limit : Nat} (hlimit : 0 < limit)
    {ask : Nat → Except ε (Page α)} (hask : ∀ n < bound, ask n = .ok (forward key rows limit n)) :
    Serves key bound rows ask := by
  intro n hn
  refine ⟨limit, decide (limit < (after key rows n).length), hask n hn, fun hmore => ⟨hlimit, ?_⟩, fun hmore => ?_⟩
  · exact List.length_pos_iff.mp (Nat.zero_lt_of_lt (of_decide_eq_true hmore))
  · exact Nat.not_lt.mp (of_decide_eq_false hmore)

theorem serves_full {ε : Type} {bound : Nat} (rows : List α) {limit : Nat} (hlimit : 0 < limit)
    {ask : Nat → Except ε (Page α)}
    (hask : ∀ n < bound, ask n = .ok ⟨(after key rows n).take limit, reached key ((after key rows n).take limit) n,
      ((after key rows n).take limit).length = limit⟩) : Serves key bound rows ask := by
  intro n hn
  refine ⟨limit, _, hask n hn, fun hmore => ⟨hlimit, ?_⟩, fun hmore => ?_⟩
  · have hfull := of_decide_eq_true hmore
    rw [List.length_take] at hfull
    exact List.length_pos_iff.mp (by omega)
  · have hshort := of_decide_eq_false hmore
    rw [List.length_take] at hshort
    omega

theorem walk_of_error {ε : Type} {ask : Nat → Except ε (Page α)} {n : Nat} (h : (ask n).toOption = none) (fuel : Nat)
    (found : List α) : walk ask fuel n ≠ some (.ok found) := by
  cases fuel with
  | zero => exact (Option.some_ne_none _).symm
  | succ fuel =>
    rw [walk]
    cases hask : ask n with
    | ok page =>
      rw [hask] at h
      cases h
    | error e =>
      intro hfound
      cases hfound

/-- Readers that agree below a bound read the same from below it, where the pages stay there. -/
theorem walk_congr {ε : Type} {bound : Nat} {ask ask' : Nat → Except ε (Page α)} (h : ∀ n < bound, ask n = ask' n)
    (hnext : ∀ n < bound, ∀ page, ask' n = .ok page → page.cursor < bound) (fuel : Nat) {n : Nat} (hn : n < bound) :
    walk ask fuel n = walk ask' fuel n := by
  induction fuel generalizing n with
  | zero => rfl
  | succ fuel ih =>
    rw [walk, walk, h n hn]
    cases hpage : ask' n with
    | error e => rfl
    | ok page => dsimp only; rw [ih (hnext n hn page hpage)]

def Page.map {β : Type} (f : α → β) (page : Page α) : Page β := ⟨page.entries.map f, page.cursor, page.hasMore⟩

theorem walk_map {ε β : Type} (f : α → β) (ask : Nat → Except ε (Page α)) (fuel n : Nat) :
    walk (fun n => (ask n).map (Page.map f)) fuel n = (walk ask fuel n).map fun found => found.map (List.map f) := by
  induction fuel generalizing n with
  | zero => rfl
  | succ fuel ih =>
    rw [walk, walk]
    cases ask n with
    | error e => rfl
    | ok page =>
      obtain ⟨entries, cursor, more⟩ := page
      cases more with
      | false => rfl
      | true =>
        change Option.map _ (walk (fun n => (ask n).map (Page.map f)) fuel cursor) = _
        rw [ih]
        change _ = Option.map _ (Option.map _ (walk ask fuel cursor))
        rw [Option.map_map, Option.map_map]
        congr 1
        funext found
        cases found with
        | error e => rfl
        | ok rest => exact congrArg Except.ok (List.map_append ..).symm

theorem newest_eq_drop (limit : Nat) (entries : List α) :
    newest limit entries = entries.drop (entries.length - limit) := by
  rw [newest, List.take_reverse, List.reverse_reverse]

theorem newest_split (limit : Nat) (entries : List α) :
    ∃ older, entries = older ++ newest limit entries ∧ (newest limit entries).length = min limit entries.length ∧
      (older ≠ [] ↔ limit < entries.length) := by
  refine ⟨entries.take (entries.length - limit), ?_, ?_, ?_⟩
  · rw [newest_eq_drop, List.take_append_drop]
  · rw [newest_eq_drop, List.length_drop]
    omega
  · rw [← List.length_pos_iff, List.length_take]
    omega

theorem newest_of_probe (limit : Nat) (entries : List α) :
    (limit < (entries.reverse.take (limit + 1)).length ↔ limit < entries.length) ∧
      (if limit < (entries.reverse.take (limit + 1)).length then (entries.reverse.take (limit + 1)).take limit
        else entries.reverse.take (limit + 1)).reverse = newest limit entries := by
  have hlength : (entries.reverse.take (limit + 1)).length = min (limit + 1) entries.length := by
    rw [List.length_take, List.length_reverse]
  refine ⟨by omega, ?_⟩
  split_ifs with hmore
  · rw [List.take_take, Nat.min_eq_left (Nat.le_succ limit), newest]
  · rw [newest, List.take_of_length_le, List.take_of_length_le] <;> rw [List.length_reverse] <;> omega

theorem le_latest {entries : List α} {a : α} (ha : a ∈ entries) (n : Nat) : key a ≤ latest key entries n := by
  unfold latest
  cases hmax : (entries.map key).max? with
  | none =>
    rw [List.max?_eq_none_iff, List.map_eq_nil_iff] at hmax
    exact absurd ha (hmax ▸ List.not_mem_nil)
  | some m => exact (List.max?_eq_some_iff.mp hmax).2 _ (List.mem_map_of_mem ha)

theorem latest_mem (entries : List α) (n : Nat) :
    latest key entries n = n ∨ ∃ a ∈ entries, key a = latest key entries n := by
  unfold latest
  cases hmax : (entries.map key).max? with
  | none => exact .inl rfl
  | some m =>
    obtain ⟨a, ha, hkey⟩ := List.mem_map.mp (List.max?_mem hmax)
    exact .inr ⟨a, ha, hkey⟩

theorem le_latest_after (rows : List α) (n : Nat) : n ≤ latest key (after key rows n) n := by
  rcases @latest_mem _ key (after key rows n) n with hnone | ⟨a, ha, hkey⟩
  · exact hnone.ge
  · have hpast : n < key a := by simpa [after] using (List.mem_filter.mp ha).2
    exact hkey ▸ hpast.le

theorem key_le_latest_after {rows : List α} {a : α} (ha : a ∈ rows) (n : Nat) :
    key a ≤ latest key (after key rows n) n := by
  by_cases hpast : n < key a
  · exact le_latest (List.mem_filter.mpr ⟨ha, by simpa using hpast⟩) n
  · exact (Nat.not_lt.mp hpast).trans (le_latest_after rows n)

end Wardroom.Library.Paging
