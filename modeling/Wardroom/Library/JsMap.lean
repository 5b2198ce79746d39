import Mathlib

/-! # Maps that keep the order of insertion

A key stands where it was first set, with the value that was set last.
-/

namespace Wardroom.Library.JsMap

variable {K V : Type} [DecidableEq K]

def set (entries : List (K × V)) (key : K) (value : V) : List (K × V) :=
  if key ∈ entries.map Prod.fst then entries.map fun e => if e.1 = key then (key, value) else e
  else entries ++ [(key, value)]

/-- `new Map(pairs)`. -/
def ofPairs (pairs : List (K × V)) : List (K × V) := pairs.foldl (fun entries pair => set entries pair.1 pair.2) []

variable {entries pairs pairs' : List (K × V)} {key : K} {value : V}

theorem keys_set : (set entries key value).map Prod.fst =
    if key ∈ entries.map Prod.fst then entries.map Prod.fst else entries.map Prod.fst ++ [key] := by
  unfold set
  split_ifs with h
  · rw [List.map_map]
    apply List.map_congr_left
    intro e _
    simp only [Function.comp_apply]
    split_ifs with he
    · exact he.symm
    · rfl
  · simp

theorem ofPairs_concat (pairs : List (K × V)) (pair : K × V) :
    ofPairs (pairs ++ [pair]) = set (ofPairs pairs) pair.1 pair.2 := by
  rw [ofPairs, List.foldl_append]
  rfl

theorem nodup_keys (pairs : List (K × V)) : ((ofPairs pairs).map Prod.fst).Nodup := by
  induction pairs using List.reverseRecOn with
  | nil => exact List.nodup_nil
  | append_singleton pairs pair ih =>
    rw [ofPairs_concat, keys_set]
    split_ifs with h
    · exact ih
    · exact List.nodup_append.mpr ⟨ih, List.nodup_singleton _, fun a ha b hb heq => h (by simp_all)⟩

theorem mem_keys : key ∈ (ofPairs pairs).map Prod.fst ↔ key ∈ pairs.map Prod.fst := by
  induction pairs using List.reverseRecOn generalizing key with
  | nil => rfl
  | append_singleton pairs pair ih =>
    rw [ofPairs_concat, keys_set]
    split_ifs with h
    · simp only [ih, List.map_append, List.map_cons, List.map_nil, List.mem_append, List.mem_singleton]
      rw [ih] at h
      grind
    · simp [List.mem_append, ih]

/-- Every key has one value. -/
def Functional (pairs : List (K × V)) : Prop := ∀ a ∈ pairs, ∀ b ∈ pairs, a.1 = b.1 → a = b

omit [DecidableEq K] in
theorem Functional.of_map {f : V → K} (hf : Function.Injective f) (values : List V) :
    Functional (values.map fun v => (f v, v)) := by
  rintro a ha b hb heq
  obtain ⟨v, -, rfl⟩ := List.mem_map.mp ha
  obtain ⟨w, -, rfl⟩ := List.mem_map.mp hb
  rw [hf heq]

theorem mem_ofPairs (h : Functional pairs) (entry : K × V) : entry ∈ ofPairs pairs ↔ entry ∈ pairs := by
  have hsub (pairs : List (K × V)) : ∀ e ∈ ofPairs pairs, e ∈ pairs := by
    induction pairs using List.reverseRecOn with
    | nil => exact fun e he => he
    | append_singleton pairs pair ih =>
      intro e he
      rw [ofPairs_concat] at he
      unfold set at he
      split_ifs at he
      · obtain ⟨e', he', rfl⟩ := List.mem_map.mp he
        split_ifs
        · simp
        · exact List.mem_append_left _ (ih e' he')
      · rcases List.mem_append.mp he with he | he
        · exact List.mem_append_left _ (ih e he)
        · simp_all
  refine ⟨hsub pairs entry, fun hmem => ?_⟩
  obtain ⟨e, he, heq⟩ := List.mem_map.mp (mem_keys.mpr (List.mem_map_of_mem hmem))
  rwa [← h e (hsub pairs e he) entry hmem heq]

theorem nodup_ofPairs (pairs : List (K × V)) : (ofPairs pairs).Nodup := (nodup_keys pairs).of_map _

theorem ofPairs_perm (h : Functional pairs) (hperm : pairs.Perm pairs') : (ofPairs pairs).Perm (ofPairs pairs') := by
  have h' : Functional pairs' := fun a ha b hb => h a (hperm.mem_iff.mpr ha) b (hperm.mem_iff.mpr hb)
  apply (List.perm_ext_iff_of_nodup (nodup_ofPairs _) (nodup_ofPairs _)).mpr
  intro entry
  rw [mem_ofPairs h, mem_ofPairs h', hperm.mem_iff]

end Wardroom.Library.JsMap
