import Mathlib

/-! # The output ring of a runtime host

The ring keeps the last bytes of the output, and a cursor counts the bytes ever
produced. A replay starts at the cursor asked for, or where the ring begins.
-/

namespace Wardroom.Runtime.Host

structure Ring where
  cap : Nat
  buf : List UInt8
  total : Nat
  deriving DecidableEq

structure Replay where
  bytes : List UInt8
  start : Nat
  gap : Bool
  deriving DecidableEq

namespace Ring

def base (r : Ring) : Nat := r.total - r.buf.length

def append (r : Ring) (data : List UInt8) : Ring :=
  if r.cap ≤ data.length then { r with total := r.total + data.length, buf := data.drop (data.length - r.cap) }
  else
    let buf := r.buf ++ data
    { r with
      total := r.total + data.length
      buf := if r.cap < buf.length then buf.drop (buf.length - r.cap) else buf }

/-- None is a cursor past the head. -/
def replayFrom (r : Ring) (cursor : Nat) : Option Replay :=
  if r.total < cursor then none
  else if r.base ≤ cursor then some ⟨r.buf.drop (cursor - r.base), cursor, false⟩
  else some ⟨r.buf, r.base, true⟩

/-- The ring keeps the end of what has been produced. -/
structure Keeps (r : Ring) (produced : List UInt8) : Prop where
  total : r.total = produced.length
  buf : r.buf = produced.drop (produced.length - r.cap)

theorem keeps_empty (cap : Nat) : Keeps ⟨cap, [], 0⟩ [] := ⟨rfl, by simp⟩

variable {r : Ring} {produced : List UInt8}

theorem Keeps.length_buf (h : r.Keeps produced) : r.buf.length = min produced.length r.cap := by
  rw [h.buf, List.length_drop]
  omega

theorem Keeps.base (h : r.Keeps produced) : r.base = produced.length - r.cap := by
  rw [Ring.base, h.total, h.length_buf]
  omega

@[simp] theorem cap_append (r : Ring) (data : List UInt8) : (r.append data).cap = r.cap := by
  unfold append
  split_ifs <;> rfl

theorem Keeps.append (h : r.Keeps produced) (data : List UInt8) : (r.append data).Keeps (produced ++ data) := by
  have hlength := h.length_buf
  unfold Ring.append
  split_ifs with hlarge
  · refine ⟨by simp [h.total], ?_⟩
    change data.drop (data.length - r.cap) = (produced ++ data).drop ((produced ++ data).length - r.cap)
    have hnone : produced.drop ((produced ++ data).length - r.cap) = [] :=
      List.drop_eq_nil_of_le (by rw [List.length_append]; omega)
    rw [List.drop_append, hnone, List.nil_append]
    congr 1
    rw [List.length_append]
    omega
  · refine ⟨by simp [h.total], ?_⟩
    change (if r.cap < (r.buf ++ data).length then (r.buf ++ data).drop ((r.buf ++ data).length - r.cap)
      else r.buf ++ data) = (produced ++ data).drop ((produced ++ data).length - r.cap)
    have hdrop : ∀ k, (r.buf ++ data).drop k = (produced ++ data).drop (produced.length - r.cap + k) := by
      intro k
      have hfront : (produced ++ data).drop (produced.length - r.cap) = r.buf ++ data := by
        rw [List.drop_append_of_le_length (Nat.sub_le ..), ← h.buf]
      rw [← List.drop_drop, hfront]
    by_cases hover : r.cap < (r.buf ++ data).length
    · rw [if_pos hover, hdrop]
      congr 1
      simp only [List.length_append] at hover ⊢
      omega
    · rw [if_neg hover]
      have hwhole := hdrop 0
      rw [List.drop_zero] at hwhole
      rw [hwhole]
      congr 1
      simp only [List.length_append] at hover ⊢
      omega

/-- A replay is all the output from where it starts. -/
theorem Keeps.replayFrom (h : r.Keeps produced) {cursor : Nat} {rp : Replay} (hrp : r.replayFrom cursor = some rp) :
    rp.bytes = produced.drop rp.start ∧ rp.start ≤ produced.length := by
  have hbase := h.base
  have htotal := h.total
  unfold Ring.replayFrom at hrp
  split_ifs at hrp with hpast hkept
  · cases hrp
    refine ⟨?_, htotal ▸ Nat.not_lt.mp hpast⟩
    change r.buf.drop (cursor - r.base) = produced.drop cursor
    rw [h.buf, List.drop_drop, hbase]
    congr 1
    omega
  · cases hrp
    refine ⟨?_, by change r.base ≤ _; omega⟩
    change r.buf = produced.drop r.base
    rw [h.buf, hbase]

end Ring
end Wardroom.Runtime.Host
