import Mathlib
import Wardroom.Runtime.Host.Ring

/-! # The output ring with the offsets of the host

The host counts the bytes it has produced in a word of 64 bits, and a cursor is such a word.
Until that count overflows the ring answers as the ring over natural numbers does, and keeps
the end of the log of all that was ever produced.
-/

namespace Wardroom.Runtime.Host

structure WordRing where
  buf : List UInt8
  cap : Nat
  total : UInt64
  deriving DecidableEq

structure WordReplay where
  bytes : List UInt8
  start : UInt64
  gap : Bool
  invalid : Bool
  deriving DecidableEq

namespace WordRing

def newRing (capacity : Nat) : WordRing := ⟨[], capacity, 0⟩

def base (r : WordRing) : UInt64 := r.total - UInt64.ofNat r.buf.length

def append (r : WordRing) (data : List UInt8) : WordRing :=
  let total := r.total + UInt64.ofNat data.length
  if r.cap ≤ data.length then { r with total := total, buf := data.drop (data.length - r.cap) }
  else
    let buf := r.buf ++ data
    if r.cap < buf.length then { r with total := total, buf := buf.drop (buf.length - r.cap) }
    else { r with total := total, buf := buf }

/-- A cursor past the head is found out first. -/
def replayFrom (r : WordRing) (cursor : UInt64) : WordReplay :=
  if r.total < cursor then ⟨[], 0, false, true⟩
  else if r.base ≤ cursor then ⟨r.buf.drop (cursor - r.base).toNat, cursor, false, false⟩
  else ⟨r.buf, r.base, true, false⟩

/-- The ring after some appends. -/
def appended (capacity : Nat) (chunks : List (List UInt8)) : WordRing := chunks.foldl append (newRing capacity)

/-- The same bytes, and the count of bytes up to its overflow. -/
structure Refines (r : WordRing) (ring : Ring) : Prop where
  buf : r.buf = ring.buf
  cap : r.cap = ring.cap
  total : r.total = UInt64.ofNat ring.total

variable {r : WordRing} {ring : Ring} {produced : List UInt8}

theorem refines_newRing (capacity : Nat) : (newRing capacity).Refines ⟨capacity, [], 0⟩ := ⟨rfl, rfl, rfl⟩

theorem Refines.append (h : r.Refines ring) (data : List UInt8) : (r.append data).Refines (ring.append data) := by
  have htotal : r.total + UInt64.ofNat data.length = UInt64.ofNat (ring.total + data.length) := by
    rw [h.total, UInt64.ofNat_add]
  simp only [WordRing.append, Ring.append, htotal, h.buf, h.cap]
  by_cases hwhole : ring.cap ≤ data.length
  · rw [if_pos hwhole, if_pos hwhole]
    exact ⟨rfl, rfl, rfl⟩
  · rw [if_neg hwhole, if_neg hwhole]
    by_cases hover : ring.cap < (ring.buf ++ data).length
    · rw [if_pos hover, if_pos hover]
      exact ⟨rfl, rfl, rfl⟩
    · rw [if_neg hover, if_neg hover]
      exact ⟨rfl, rfl, rfl⟩

theorem refines_appended (capacity : Nat) (chunks : List (List UInt8)) :
    (appended capacity chunks).Refines (chunks.foldl Ring.append ⟨capacity, [], 0⟩) := by
  induction chunks using List.reverseRecOn with
  | nil => exact refines_newRing capacity
  | append_singleton chunks data ih =>
    rw [appended, List.foldl_append, List.foldl_append]
    exact ih.append data

theorem keeps_appended (capacity : Nat) (chunks : List (List UInt8)) :
    (chunks.foldl Ring.append ⟨capacity, [], 0⟩).Keeps chunks.flatten ∧
      (chunks.foldl Ring.append ⟨capacity, [], 0⟩).cap = capacity := by
  induction chunks using List.reverseRecOn with
  | nil => exact ⟨Ring.keeps_empty capacity, rfl⟩
  | append_singleton chunks data ih =>
    rw [List.foldl_append, List.flatten_append, List.flatten_singleton]
    exact ⟨ih.1.append data, (Ring.cap_append _ data).trans ih.2⟩

theorem Refines.toNat_total (h : r.Refines ring) (hsmall : ring.total < 2 ^ 64) : r.total.toNat = ring.total := by
  rw [h.total, UInt64.toNat_ofNat', Nat.mod_eq_of_lt hsmall]

theorem Refines.toNat_base (h : r.Refines ring) (hkeeps : ring.Keeps produced) (hsmall : produced.length < 2 ^ 64) :
    r.base.toNat = ring.base := by
  have htotal := h.toNat_total (hkeeps.total ▸ hsmall)
  have hkept := hkeeps.length_buf
  have hlength : (UInt64.ofNat r.buf.length).toNat = ring.buf.length := by
    rw [h.buf, UInt64.toNat_ofNat', Nat.mod_eq_of_lt (by omega)]
  have hle : UInt64.ofNat r.buf.length ≤ r.total := by
    rw [UInt64.le_iff_toNat_le, hlength, htotal, hkeeps.total]
    omega
  rw [base, UInt64.toNat_sub_of_le _ _ hle, hlength, htotal, Ring.base]

/-- Where the last bytes begin that a ring of the capacity retains. -/
def floor (capacity : Nat) (produced : List UInt8) : Nat := produced.length - min capacity produced.length

/-- The ring answers as an endless log of what was produced would, of which it retains the end. -/
structure Mirrors (r : WordRing) (capacity : Nat) (produced : List UInt8) : Prop where
  total : r.total.toNat = produced.length
  retained : r.buf = produced.drop (floor capacity produced)
  base : r.base.toNat = floor capacity produced
  invalid : ∀ cursor, (r.replayFrom cursor).invalid = true ↔ produced.length < cursor.toNat
  exact : ∀ cursor, floor capacity produced ≤ cursor.toNat → cursor.toNat ≤ produced.length →
    r.replayFrom cursor = ⟨produced.drop cursor.toNat, cursor, false, false⟩
  gap : ∀ cursor, cursor.toNat < floor capacity produced → r.replayFrom cursor = ⟨r.buf, r.base, true, false⟩
  head : ∀ cursor, (r.replayFrom cursor).invalid = false →
    (r.replayFrom cursor).start.toNat + (r.replayFrom cursor).bytes.length = r.total.toNat

theorem ring_mirrors_log (capacity : Nat) {chunks : List (List UInt8)} (hsmall : chunks.flatten.length < 2 ^ 64) :
    (appended capacity chunks).Mirrors capacity chunks.flatten := by
  have hrefines := refines_appended capacity chunks
  obtain ⟨hkeeps, hcap⟩ := keeps_appended capacity chunks
  generalize chunks.foldl Ring.append ⟨capacity, [], 0⟩ = ring at hrefines hkeeps hcap
  generalize appended capacity chunks = r at hrefines ⊢
  generalize chunks.flatten = produced at hkeeps hsmall ⊢
  have htotal : r.total.toNat = produced.length := (hrefines.toNat_total (hkeeps.total ▸ hsmall)).trans hkeeps.total
  have hfloor : produced.length - ring.cap = floor capacity produced := by
    rw [floor, hcap]
    omega
  have hbuf : r.buf = produced.drop (floor capacity produced) := by rw [hrefines.buf, hkeeps.buf, hfloor]
  have hbase : r.base.toNat = floor capacity produced := by
    rw [hrefines.toNat_base hkeeps hsmall, hkeeps.base, hfloor]
  have hpast (cursor : UInt64) : r.total < cursor ↔ produced.length < cursor.toNat := by
    rw [UInt64.lt_iff_toNat_lt, htotal]
  have hkept (cursor : UInt64) : r.base ≤ cursor ↔ floor capacity produced ≤ cursor.toNat := by
    rw [UInt64.le_iff_toNat_le, hbase]
  have hle : floor capacity produced ≤ produced.length := Nat.sub_le _ _
  have hexact (cursor : UInt64) (hlow : floor capacity produced ≤ cursor.toNat) (hhigh : cursor.toNat ≤ produced.length) :
      r.replayFrom cursor = ⟨produced.drop cursor.toNat, cursor, false, false⟩ := by
    have hsuffix : r.buf.drop (cursor - r.base).toNat = produced.drop cursor.toNat := by
      rw [UInt64.toNat_sub_of_le _ _ ((hkept cursor).mpr hlow), hbase, hbuf, List.drop_drop]
      congr 1
      omega
    rw [WordRing.replayFrom, if_neg ((hpast cursor).not.mpr (Nat.not_lt.mpr hhigh)), if_pos ((hkept cursor).mpr hlow), hsuffix]
  have hgap (cursor : UInt64) (hlow : cursor.toNat < floor capacity produced) :
      r.replayFrom cursor = ⟨r.buf, r.base, true, false⟩ := by
    rw [WordRing.replayFrom, if_neg ((hpast cursor).not.mpr (by omega)), if_neg ((hkept cursor).not.mpr (Nat.not_le.mpr hlow))]
  have hinvalid (cursor : UInt64) : (r.replayFrom cursor).invalid = true ↔ produced.length < cursor.toNat := by
    rw [← hpast, WordRing.replayFrom]
    split_ifs <;> simp_all
  refine ⟨htotal, hbuf, hbase, hinvalid, hexact, hgap, fun cursor hvalid => ?_⟩
  have hhigh : cursor.toNat ≤ produced.length := by
    apply Nat.not_lt.mp
    rw [← hinvalid, hvalid]
    exact Bool.false_ne_true
  rcases Nat.lt_or_ge cursor.toNat (floor capacity produced) with hlow | hlow
  · rw [hgap cursor hlow, htotal, hbase, hbuf, List.length_drop]
    omega
  · simp only [hexact cursor hlow hhigh, htotal, List.length_drop]
    omega

theorem ring_mirrors_log_small :
    (appended 4 [[1, 2, 3], [4, 5], [6, 7, 8, 9, 10]]).Mirrors 4 [1, 2, 3, 4, 5, 6, 7, 8, 9, 10] ∧
      (appended 4 [[1, 2, 3], [4, 5], [6, 7, 8, 9, 10]]).replayFrom 2 = ⟨[7, 8, 9, 10], 6, true, false⟩ :=
  ⟨@ring_mirrors_log 4 [[1, 2, 3], [4, 5], [6, 7, 8, 9, 10]] (by decide), by decide⟩

/-- From 2^64 bytes on the count is no longer that of the log. -/
theorem not_mirrors_of_large {capacity : Nat} {chunks : List (List UInt8)} (hlarge : 2 ^ 64 ≤ chunks.flatten.length) :
    ¬(appended capacity chunks).Mirrors capacity chunks.flatten := by
  intro h
  have hlt := (appended capacity chunks).total.toNat_lt
  rw [h.total] at hlt
  omega

/-- Three chunks, none of them longer than a slice can be. -/
theorem long_log_not_mirrored : ¬∀ (capacity : Nat) (chunks : List (List UInt8)),
    (appended capacity chunks).Mirrors capacity chunks.flatten := by
  intro h
  refine not_mirrors_of_large ?_
    (h 1 [List.replicate (2 ^ 63 - 1) 0, List.replicate (2 ^ 63 - 1) 0, [0, 0]])
  simp only [List.flatten_cons, List.flatten_nil, List.length_append, List.length_replicate, List.length_cons, List.length_nil]
  omega

end WordRing
end Wardroom.Runtime.Host
