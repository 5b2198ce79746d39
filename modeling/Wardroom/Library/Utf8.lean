import Mathlib

/-! # Decoding UTF-8 with replacement

The decoder reads one byte after another. A byte that cannot continue the
sequence it has begun gives U+FFFD for what was read of it and is read again
as the first byte of the next one; a sequence that the input ends in the middle
of gives U+FFFD too. Text that is decoded in pieces is decoded to the end piece
by piece.
-/

namespace Wardroom.Library.Utf8

def replacement : Char := '\uFFFD'

/-- A sequence that has begun: the bits read, the bytes it still needs, and what the next of them may
be. The first byte rules out the code points that a shorter sequence encodes. -/
structure Partial where
  codePoint : Nat
  needed : Nat
  lower : UInt8
  upper : UInt8
  needs : 0 < needed
  continuation : 0x80 ≤ lower ∧ upper ≤ 0xBF
  shortest : 2 ≤ codePoint ∨ 2 ≤ needed ∧ (1 ≤ codePoint ∨ 0x90 ≤ lower)

namespace Partial

def Accepts (p : Partial) (byte : UInt8) : Prop := p.lower ≤ byte ∧ byte ≤ p.upper

instance (p : Partial) (byte : UInt8) : Decidable (p.Accepts byte) := inferInstanceAs (Decidable (_ ∧ _))

def bits (p : Partial) (byte : UInt8) : Nat := p.codePoint * 64 + (byte.toNat - 0x80)

theorem two_le_bits {p : Partial} {byte : UInt8} (hbyte : p.Accepts byte) :
    2 ≤ p.bits byte ∨ p.needed = 1 := by
  have hlower : p.lower.toNat ≤ byte.toNat := hbyte.1
  have hneeds := p.needs
  unfold bits
  rcases p.shortest with hpoint | ⟨-, hpoint | hpoint⟩
  · omega
  · omega
  · have : 0x90 ≤ p.lower.toNat := hpoint
    omega

theorem ascii_lt_bits {p : Partial} (byte : UInt8) (hlast : p.needed = 1) : 0x80 ≤ p.bits byte := by
  unfold bits
  rcases p.shortest with hpoint | ⟨hneeded, -⟩
  · omega
  · omega

def next (p : Partial) (byte : UInt8) (hbyte : p.Accepts byte) (hlast : p.needed ≠ 1) : Partial where
  codePoint := p.bits byte
  needed := p.needed - 1
  lower := 0x80
  upper := 0xBF
  needs := by have := p.needs; omega
  continuation := by decide
  shortest := .inl ((two_le_bits hbyte).resolve_right hlast)

end Partial

/-- The first byte of a sequence: a character, a sequence that has begun, or neither. -/
inductive First where
  | ascii (c : Char)
  | begins (p : Partial)
  | invalid

theorem first_shortest {byte : UInt8} (lead low : UInt8) (h : lead ≤ byte) (hlow : 0x90 ≤ low) :
    1 ≤ byte.toNat - lead.toNat ∨ 0x90 ≤ if byte = lead then low else 0x80 := by
  by_cases heq : byte = lead
  · rw [if_pos heq]
    exact .inr hlow
  · have hle : lead.toNat ≤ byte.toNat := h
    have hne : byte.toNat ≠ lead.toNat := fun hnat => heq (UInt8.toNat_inj.mp hnat)
    omega

def first (byte : UInt8) : First :=
  if byte < 0x80 then .ascii (Char.ofNat byte.toNat)
  else if h : 0xC2 ≤ byte ∧ byte ≤ 0xDF then
    .begins ⟨byte.toNat - 0xC0, 1, 0x80, 0xBF, by decide, by decide, .inl (by
      have : 0xC2 ≤ byte.toNat := h.1
      omega)⟩
  else if h : 0xE0 ≤ byte ∧ byte ≤ 0xEF then
    .begins ⟨byte.toNat - 0xE0, 2, if byte = 0xE0 then 0xA0 else 0x80,
      if byte = 0xED then 0x9F else 0xBF, by decide,
      ⟨by split <;> decide, by split <;> decide⟩,
      .inr ⟨by decide, first_shortest 0xE0 0xA0 h.1 (by decide)⟩⟩
  else if h : 0xF0 ≤ byte ∧ byte ≤ 0xF4 then
    .begins ⟨byte.toNat - 0xF0, 3, if byte = 0xF0 then 0x90 else 0x80,
      if byte = 0xF4 then 0x8F else 0xBF, by decide,
      ⟨by split <;> decide, by split <;> decide⟩,
      .inr ⟨by decide, first_shortest 0xF0 0x90 h.1 (by decide)⟩⟩
  else .invalid

/-- The characters that are complete after a byte between sequences, and the sequence it leaves. -/
def begin (byte : UInt8) : List Char × Option Partial :=
  match first byte with
  | .ascii c => ([c], none)
  | .begins p => ([], some p)
  | .invalid => ([replacement], none)

def feed : Option Partial → UInt8 → List Char × Option Partial
  | none, byte => begin byte
  | some p, byte =>
    if h : p.Accepts byte then
      if hlast : p.needed = 1 then ([Char.ofNat (p.bits byte)], none)
      else ([], some (p.next byte h hlast))
    else (replacement :: (begin byte).1, (begin byte).2)

/-- What the end of the input leaves of a sequence. -/
def flush : Option Partial → List Char
  | none => []
  | some _ => [replacement]

def decodeFrom (pending : Option Partial) : List UInt8 → List Char
  | [] => flush pending
  | byte :: bytes => (feed pending byte).1 ++ decodeFrom (feed pending byte).2 bytes

/-- `Buffer.toString` of a whole buffer. -/
def decode (bytes : List UInt8) : List Char := decodeFrom none bytes

/-- The characters complete after some bytes, and what they leave unfinished. -/
def run (pending : Option Partial) : List UInt8 → List Char × Option Partial
  | [] => ([], pending)
  | byte :: bytes =>
    ((feed pending byte).1 ++ (run (feed pending byte).2 bytes).1, (run (feed pending byte).2 bytes).2)

theorem decodeFrom_append (pending : Option Partial) (bytes more : List UInt8) :
    decodeFrom pending (bytes ++ more) = (run pending bytes).1 ++ decodeFrom (run pending bytes).2 more := by
  induction bytes generalizing pending with
  | nil => rfl
  | cons byte bytes ih =>
    rw [List.cons_append, decodeFrom, ih]
    simp [run]

theorem decode_eq_run (bytes : List UInt8) : decode bytes = (run none bytes).1 ++ flush (run none bytes).2 := by
  have happend := decodeFrom_append none bytes []
  rw [List.append_nil] at happend
  exact happend

/-- The next byte continues the sequence that has begun. -/
def Continues : Option Partial → List UInt8 → Prop
  | some p, byte :: _ => p.Accepts byte
  | _, _ => False

instance (pending : Option Partial) (bytes : List UInt8) : Decidable (Continues pending bytes) := by
  unfold Continues
  split
  · infer_instance
  · infer_instance

variable {bytes : List UInt8}

theorem decodeFrom_of_not_continues {pending : Option Partial}
    (h : ¬Continues pending bytes) : decodeFrom pending bytes = flush pending ++ decode bytes := by
  cases pending with
  | none => rfl
  | some p =>
    cases bytes with
    | nil => rfl
    | cons byte bytes =>
      have hrefused : ¬p.Accepts byte := h
      simp [decode, decodeFrom, feed, hrefused, flush]

theorem begin_of_accepts {p : Partial} {byte : UInt8} (h : p.Accepts byte) :
    begin byte = ([replacement], none) := by
  have hlower : 0x80 ≤ byte.toNat := Nat.le_trans p.continuation.1 h.1
  have hupper : byte.toNat ≤ 0xBF := Nat.le_trans h.2 p.continuation.2
  have hfirst : first byte = .invalid := by
    unfold first
    rw [if_neg (by simp [UInt8.lt_iff_toNat_lt]; omega),
      dif_neg (by simp [UInt8.le_iff_toNat_le]; omega),
      dif_neg (by simp [UInt8.le_iff_toNat_le]; omega),
      dif_neg (by simp [UInt8.le_iff_toNat_le]; omega)]
  rw [begin, hfirst]

theorem ofNat_eq_lineFeed (n : Nat) : Char.ofNat n = '\n' ↔ n = 10 := by
  constructor
  · intro heq
    have hval := congrArg Char.toNat heq
    unfold Char.ofNat at hval
    split at hval
    · exact hval
    · exact absurd hval (by decide)
  · rintro rfl
    rfl

theorem begin_count (byte : UInt8) :
    (begin byte).1.count '\n' = if byte = 0x0A then 1 else 0 := by
  unfold begin first
  by_cases hascii : byte < 0x80
  · rw [if_pos hascii]
    have hbyte : byte.toNat = 10 ↔ byte = 0x0A := UInt8.toNat_inj (b := 0x0A)
    simp only [List.count_singleton, beq_iff_eq, ofNat_eq_lineFeed, hbyte]
  · have hne : byte ≠ 0x0A := by
      rintro rfl
      exact hascii (by decide)
    rw [if_neg hascii, if_neg hne]
    split_ifs <;> simp [replacement]

theorem feed_count (pending : Option Partial) (byte : UInt8) :
    (feed pending byte).1.count '\n' = if byte = 0x0A then 1 else 0 := by
  cases pending with
  | none => exact begin_count byte
  | some p =>
    by_cases haccepts : p.Accepts byte
    · have hlower : 0x80 ≤ byte.toNat := Nat.le_trans p.continuation.1 haccepts.1
      have hne : byte ≠ 0x0A := by
        rintro rfl
        exact absurd hlower (by decide)
      rw [if_neg hne]
      by_cases hlast : p.needed = 1
      · have hlarge := Partial.ascii_lt_bits byte hlast
        have hchar : Char.ofNat (p.bits byte) ≠ '\n' := by
          rw [ne_eq, ofNat_eq_lineFeed]
          omega
        simp [feed, haccepts, hlast, hchar]
      · simp [feed, haccepts, hlast]
    · simp [feed, haccepts, begin_count, replacement]

theorem flush_count (pending : Option Partial) : (flush pending).count '\n' = 0 := by
  cases pending with
  | none => rfl
  | some p => rfl

theorem decodeFrom_count (pending : Option Partial) (bytes : List UInt8) :
    (decodeFrom pending bytes).count '\n' = bytes.count 0x0A := by
  induction bytes generalizing pending with
  | nil => exact flush_count pending
  | cons byte bytes ih =>
    rw [decodeFrom, List.count_append, feed_count, ih, List.count_cons]
    simp [Nat.add_comm]

theorem decode_count (bytes : List UInt8) : (decode bytes).count '\n' = bytes.count 0x0A :=
  decodeFrom_count none bytes

theorem run_count (pending : Option Partial) (bytes : List UInt8) :
    (run pending bytes).1.count '\n' = bytes.count 0x0A := by
  induction bytes generalizing pending with
  | nil => rfl
  | cons byte bytes ih =>
    rw [run, List.count_append, feed_count, ih, List.count_cons]
    simp [Nat.add_comm]

theorem first_ascii {byte : UInt8} (h : byte.toNat < 0x80) : first byte = .ascii (Char.ofNat byte.toNat) :=
  if_pos h

theorem first_two (byte : UInt8) (hlow : 0xC2 ≤ byte.toNat) (hhigh : byte.toNat ≤ 0xDF) :
    ∃ p, first byte = .begins p ∧ p.codePoint = byte.toNat - 0xC0 ∧ p.needed = 1 ∧
      p.lower = 0x80 ∧ p.upper = 0xBF := by
  unfold first
  rw [if_neg (by simp [UInt8.lt_iff_toNat_lt]; omega), dif_pos ⟨hlow, hhigh⟩]
  exact ⟨_, rfl, rfl, rfl, rfl, rfl⟩

theorem first_three (byte : UInt8) (hlow : 0xE0 ≤ byte.toNat) (hhigh : byte.toNat ≤ 0xEF) :
    ∃ p, first byte = .begins p ∧ p.codePoint = byte.toNat - 0xE0 ∧ p.needed = 2 ∧
      p.lower = (if byte = 0xE0 then 0xA0 else 0x80) ∧
      p.upper = if byte = 0xED then 0x9F else 0xBF := by
  unfold first
  rw [if_neg (by simp [UInt8.lt_iff_toNat_lt]; omega),
    dif_neg (by simp [UInt8.le_iff_toNat_le]; omega), dif_pos ⟨hlow, hhigh⟩]
  exact ⟨_, rfl, rfl, rfl, rfl, rfl⟩

theorem first_four (byte : UInt8) (hlow : 0xF0 ≤ byte.toNat) (hhigh : byte.toNat ≤ 0xF4) :
    ∃ p, first byte = .begins p ∧ p.codePoint = byte.toNat - 0xF0 ∧ p.needed = 3 ∧
      p.lower = (if byte = 0xF0 then 0x90 else 0x80) ∧
      p.upper = if byte = 0xF4 then 0x8F else 0xBF := by
  unfold first
  rw [if_neg (by simp [UInt8.lt_iff_toNat_lt]; omega),
    dif_neg (by simp [UInt8.le_iff_toNat_le]; omega),
    dif_neg (by simp [UInt8.le_iff_toNat_le]; omega), dif_pos ⟨hlow, hhigh⟩]
  exact ⟨_, rfl, rfl, rfl, rfl, rfl⟩

theorem run_ascii {byte : UInt8} {c : Char} (h : first byte = .ascii c) :
    run none (byte :: bytes) = (c :: (run none bytes).1, (run none bytes).2) := by
  simp [run, feed, begin, h]

theorem run_begins {byte : UInt8} {p : Partial} (h : first byte = .begins p) :
    run none (byte :: bytes) = run (some p) bytes := by
  simp [run, feed, begin, h]

theorem run_last {p : Partial} {byte : UInt8} (h : p.Accepts byte)
    (hlast : p.needed = 1) :
    run (some p) (byte :: bytes) =
      (Char.ofNat (p.bits byte) :: (run none bytes).1, (run none bytes).2) := by
  simp [run, feed, h, hlast]

theorem run_next {p : Partial} {byte : UInt8} (h : p.Accepts byte)
    (hlast : p.needed ≠ 1) : run (some p) (byte :: bytes) = run (some (p.next byte h hlast)) bytes := by
  simp [run, feed, h, hlast]

theorem toNat_byte {n : Nat} (h : n < 256) : (UInt8.ofNat n).toNat = n := by
  rw [UInt8.toNat_ofNat']
  exact Nat.mod_eq_of_lt h

/-- A continuation byte carries six bits. -/
def tail (n : Nat) : UInt8 := UInt8.ofNat (n % 0x40 + 0x80)

theorem toNat_tail (n : Nat) : (tail n).toNat = n % 0x40 + 0x80 := toNat_byte (by omega)

theorem accepts_tail {p : Partial} {n : Nat} (hlower : p.lower.toNat ≤ n % 0x40 + 0x80)
    (hupper : n % 0x40 + 0x80 ≤ p.upper.toNat) : p.Accepts (tail n) := by
  constructor
  · rw [UInt8.le_iff_toNat_le, toNat_tail]
    exact hlower
  · rw [UInt8.le_iff_toNat_le, toNat_tail]
    exact hupper

theorem bits_tail (p : Partial) (n : Nat) : p.bits (tail n) = p.codePoint * 64 + n % 64 := by
  have htail := toNat_tail n
  unfold Partial.bits
  omega

theorem accepts_tail_next {p : Partial} {byte : UInt8} (h : p.Accepts byte) (hlast : p.needed ≠ 1)
    (n : Nat) : (p.next byte h hlast).Accepts (tail n) := by
  refine accepts_tail ?_ ?_
  · change 0x80 ≤ _
    omega
  · change _ ≤ 0xBF
    omega

theorem run_two {n : Nat} (hlow : 0x7f < n) (hhigh : n ≤ 0x7ff) :
    run none [UInt8.ofNat (n / 64 % 0x20 + 0xc0), tail n] = ([Char.ofNat n], none) := by
  have hlead : (UInt8.ofNat (n / 64 % 0x20 + 0xc0)).toNat = n / 64 % 0x20 + 0xc0 := toNat_byte (by omega)
  generalize UInt8.ofNat (n / 64 % 0x20 + 0xc0) = lead at hlead ⊢
  obtain ⟨p, hp, hpoint, hneeded, hlower, hupper⟩ := first_two lead (by omega) (by omega)
  have haccepts : p.Accepts (tail n) := by
    refine accepts_tail ?_ ?_
    · rw [hlower]
      change 0x80 ≤ _
      omega
    · rw [hupper]
      change _ ≤ 0xBF
      omega
  have hbits : p.bits (tail n) = n := by
    rw [bits_tail]
    omega
  rw [run_begins hp, run_last haccepts hneeded, hbits]
  rfl

theorem run_three {n : Nat} (hlow : 0x7ff < n) (hhigh : n ≤ 0xffff)
    (hvalid : n < 0xD800 ∨ 0xDFFF < n) :
    run none [UInt8.ofNat (n / 4096 % 0x10 + 0xe0), tail (n / 64), tail n] = ([Char.ofNat n], none) := by
  have hlead : (UInt8.ofNat (n / 4096 % 0x10 + 0xe0)).toNat = n / 4096 % 0x10 + 0xe0 :=
    toNat_byte (by omega)
  generalize UInt8.ofNat (n / 4096 % 0x10 + 0xe0) = lead at hlead ⊢
  obtain ⟨p, hp, hpoint, hneeded, hlower, hupper⟩ := first_three lead (by omega) (by omega)
  have haccepts : p.Accepts (tail (n / 64)) := by
    refine accepts_tail ?_ ?_
    · rw [hlower]
      split_ifs with hshort
      · have : lead.toNat = 0xE0 := congrArg UInt8.toNat hshort
        change 0xA0 ≤ _
        omega
      · change 0x80 ≤ _
        omega
    · rw [hupper]
      split_ifs with hsurrogate
      · have : lead.toNat = 0xED := congrArg UInt8.toNat hsurrogate
        change _ ≤ 0x9F
        omega
      · change _ ≤ 0xBF
        omega
  have hmore : p.needed ≠ 1 := by omega
  have hlast : (p.next _ haccepts hmore).needed = 1 := by
    change p.needed - 1 = 1
    omega
  have hbits : (p.next _ haccepts hmore).bits (tail n) = n := by
    rw [bits_tail]
    change p.bits (tail (n / 64)) * 64 + n % 64 = n
    rw [bits_tail]
    omega
  rw [run_begins hp, run_next haccepts hmore, run_last (accepts_tail_next _ _ _) hlast, hbits]
  rfl

theorem run_four {n : Nat} (hlow : 0xffff < n) (hhigh : n < 0x110000) :
    run none [UInt8.ofNat (n / 262144 % 0x08 + 0xf0), tail (n / 4096), tail (n / 64), tail n] =
      ([Char.ofNat n], none) := by
  have hlead : (UInt8.ofNat (n / 262144 % 0x08 + 0xf0)).toNat = n / 262144 % 0x08 + 0xf0 :=
    toNat_byte (by omega)
  generalize UInt8.ofNat (n / 262144 % 0x08 + 0xf0) = lead at hlead ⊢
  obtain ⟨p, hp, hpoint, hneeded, hlower, hupper⟩ := first_four lead (by omega) (by omega)
  have haccepts : p.Accepts (tail (n / 4096)) := by
    refine accepts_tail ?_ ?_
    · rw [hlower]
      split_ifs with hshort
      · have : lead.toNat = 0xF0 := congrArg UInt8.toNat hshort
        change 0x90 ≤ _
        omega
      · change 0x80 ≤ _
        omega
    · rw [hupper]
      split_ifs with hlargest
      · have : lead.toNat = 0xF4 := congrArg UInt8.toNat hlargest
        change _ ≤ 0x8F
        omega
      · change _ ≤ 0xBF
        omega
  have hmore : p.needed ≠ 1 := by omega
  have hagain : (p.next _ haccepts hmore).needed ≠ 1 := by
    change p.needed - 1 ≠ 1
    omega
  have hmiddle := accepts_tail_next haccepts hmore (n / 64)
  have hlast : ((p.next _ haccepts hmore).next _ hmiddle hagain).needed = 1 := by
    change p.needed - 1 - 1 = 1
    omega
  have hbits : ((p.next _ haccepts hmore).next _ hmiddle hagain).bits (tail n) = n := by
    rw [bits_tail]
    change (p.next _ haccepts hmore).bits (tail (n / 64)) * 64 + n % 64 = n
    rw [bits_tail]
    change (p.bits (tail (n / 4096)) * 64 + n / 64 % 64) * 64 + n % 64 = n
    rw [bits_tail]
    omega
  rw [run_begins hp, run_next haccepts hmore, run_next hmiddle hagain,
    run_last (accepts_tail_next _ _ _) hlast, hbits]
  rfl

theorem run_encode (c : Char) : run none (String.utf8EncodeChar c) = ([c], none) := by
  have hvalid : c.val.toNat < 0xD800 ∨ 0xDFFF < c.val.toNat ∧ c.val.toNat < 0x110000 := c.valid
  have hchar : Char.ofNat c.val.toNat = c := Char.ofNat_toNat c
  unfold String.utf8EncodeChar
  dsimp only
  split_ifs with hone htwo hthree
  · have hbyte : (UInt8.ofNat c.val.toNat).toNat = c.val.toNat := toNat_byte (by omega)
    rw [run_ascii (first_ascii (by omega)), hbyte, hchar]
    rfl
  · have htext := run_two (n := c.val.toNat) (by omega) htwo
    rw [hchar] at htext
    exact htext
  · have htext := run_three (n := c.val.toNat) (by omega) hthree (by omega)
    rw [hchar] at htext
    exact htext
  · have htext := run_four (n := c.val.toNat) (by omega) (by omega)
    rw [hchar] at htext
    exact htext

def encode (text : List Char) : List UInt8 := text.flatMap String.utf8EncodeChar

theorem decode_encode_append (text : List Char) (bytes : List UInt8) :
    decode (encode text ++ bytes) = text ++ decode bytes := by
  induction text with
  | nil => rfl
  | cons c text ih =>
    unfold decode at ih ⊢
    rw [encode, List.flatMap_cons, List.append_assoc, decodeFrom_append, run_encode]
    exact congrArg (c :: ·) ih

end Wardroom.Library.Utf8
