import Wardroom.Library.Lines
import Wardroom.Library.Utf8

/-! # How a relay connection reads lines out of chunks

The reader decodes each chunk by itself, and hands on the lines that a chunk
completes only when what it leaves of the next line is within the limit of a
frame.
-/

namespace Wardroom.Federation
open Wardroom.Library Wardroom.Library.Lines

abbrev Line := List Char

def RELAY_MAX_FRAME_BYTES : Nat := 16384

/-- `RelayFrameReader.push`: the lines and what is kept of the next one, or nothing when that is too
long. -/
def push (buffer : List Char) (chunk : List UInt8) : Option (List Line × List Char) :=
  let text := buffer ++ Utf8.decode chunk
  if RELAY_MAX_FRAME_BYTES < size (lines text).2 then none else some (lines text)

/-- The lines that got past the size limit of `parseRelayFrame`, and whether the connection is
closed. -/
structure Intake where
  handled : List Line
  destroyed : Bool
  deriving DecidableEq

section Connection
variable (closes : List Line → Bool)

/-- A line that is too long is refused; `closes` tells whether the connection closes on the last of
the lines it has handled. -/
def onLine (s : Intake) (line : Line) : Intake :=
  if s.destroyed then s
  else if RELAY_MAX_FRAME_BYTES < size line then { s with destroyed := true }
  else ⟨s.handled ++ [line], closes (s.handled ++ [line])⟩

structure Receiver where
  buffer : List Char
  intake : Intake

def onData (r : Receiver) (chunk : List UInt8) : Receiver :=
  if r.intake.destroyed then r
  else match push r.buffer chunk with
    | none => { r with intake := { r.intake with destroyed := true } }
    | some (complete, rest) => ⟨rest, complete.foldl (onLine closes) r.intake⟩

def receive (chunks : List (List UInt8)) : Intake :=
  (chunks.foldl (onData closes) ⟨[], ⟨[], false⟩⟩).intake

/-- What the lines of a text come to, one after another, and then the rest of it. -/
def takeIn (s : Intake) (start text : List Char) : Intake :=
  let read := (linesFrom start text).1.foldl (onLine closes) s
  if RELAY_MAX_FRAME_BYTES < size (linesFrom start text).2 then { read with destroyed := true } else read

/-- What a byte string comes to however it is cut: every line up to the first that is too long, or on
which the connection closes. -/
def expected (bytes : List UInt8) : Intake := takeIn closes ⟨[], false⟩ [] (Utf8.decode bytes)

end Connection

/-- The byte string of a sender. -/
def wire (sent : List Line) : List UInt8 := sent.flatMap fun line => Utf8.encode line ++ [0x0A]

/-- Every line of a byte string has its line feed. -/
def Terminated (bytes : List UInt8) : Prop := bytes = [] ∨ bytes.getLast? = some 0x0A

/-- No chunk ends inside a character of the first `k` lines. -/
def Whole : Nat → List (List UInt8) → Prop
  | _, [] => True
  | k, chunk :: chunks =>
    (chunk.count 0x0A < k → ¬Utf8.Continues (Utf8.run none chunk).2 chunks.flatten) ∧
      Whole (k - chunk.count 0x0A) chunks

/-- No chunk that completes one of the first `k` lines brings too much of the line after. -/
def Unburst : Nat → List (List UInt8) → Prop
  | _, [] => True
  | k, chunk :: chunks =>
    (0 < k → 0x0A ∈ chunk → size (lines (Utf8.decode chunk)).2 ≤ RELAY_MAX_FRAME_BYTES) ∧
      Unburst (k - chunk.count 0x0A) chunks

instance decidableWhole : ∀ k chunks, Decidable (Whole k chunks)
  | _, [] => isTrue trivial
  | k, chunk :: chunks =>
    have := decidableWhole (k - chunk.count 0x0A) chunks
    inferInstanceAs (Decidable (_ ∧ _))

instance decidableUnburst : ∀ k chunks, Decidable (Unburst k chunks)
  | _, [] => isTrue trivial
  | k, chunk :: chunks =>
    have := decidableUnburst (k - chunk.count 0x0A) chunks
    inferInstanceAs (Decidable (_ ∧ _))

section Connection
variable {closes : List Line → Bool}

variable {s : Intake}

theorem onLine_destroyed (h : s.destroyed = true) (line : Line) : onLine closes s line = s :=
  if_pos h

theorem foldl_destroyed (h : s.destroyed = true) (ls : List Line) :
    ls.foldl (onLine closes) s = s := by
  induction ls with
  | nil => rfl
  | cons line ls ih => rw [List.foldl_cons, onLine_destroyed h, ih]

variable (closes) in
theorem foldl_handled (s : Intake) (ls : List Line) :
    ∃ k ≤ ls.length, (ls.foldl (onLine closes) s).handled = s.handled ++ ls.take k ∧
      ((ls.foldl (onLine closes) s).destroyed = false → k = ls.length) := by
  induction ls generalizing s with
  | nil => exact ⟨0, Nat.le_refl _, (List.append_nil _).symm, fun _ => rfl⟩
  | cons line ls ih =>
    rw [List.foldl_cons]
    by_cases hopen : s.destroyed = true
    · rw [onLine_destroyed hopen, foldl_destroyed hopen]
      exact ⟨0, Nat.zero_le _, by simp, fun h => by rw [hopen] at h; cases h⟩
    · by_cases hlong : RELAY_MAX_FRAME_BYTES < size line
      · have hline : onLine closes s line = { s with destroyed := true } := by
          rw [onLine, if_neg hopen, if_pos hlong]
        rw [hline, foldl_destroyed rfl]
        exact ⟨0, Nat.zero_le _, by simp, fun h => (nomatch h)⟩
      · have hline : onLine closes s line = ⟨s.handled ++ [line], closes (s.handled ++ [line])⟩ := by
          rw [onLine, if_neg hopen, if_neg hlong]
        obtain ⟨k, hk, hhandled, hall⟩ := ih (onLine closes s line)
        refine ⟨k + 1, Nat.succ_le_succ hk, ?_, fun h => congrArg (· + 1) (hall h)⟩
        rw [hhandled, hline]
        simp

theorem takeIn_append (s : Intake) (start a b : List Char) :
    takeIn closes s start (a ++ b) =
      takeIn closes ((linesFrom start a).1.foldl (onLine closes) s) (linesFrom start a).2 b := by
  unfold takeIn
  rw [linesFrom_append, List.foldl_append]

theorem takeIn_destroyed (h : s.destroyed = true) (start text : List Char) :
    takeIn closes s start text = s := by
  unfold takeIn
  rw [foldl_destroyed h]
  dsimp only
  rw [← h, ite_self]

theorem takeIn_handled (s : Intake) (start text : List Char) :
    (takeIn closes s start text).handled = ((linesFrom start text).1.foldl (onLine closes) s).handled := by
  unfold takeIn
  dsimp only
  split_ifs
  · rfl
  · rfl

variable (closes) in
theorem takeIn_extends (s : Intake) (start text : List Char) :
    ∃ k ≤ text.count '\n', (takeIn closes s start text).handled =
      s.handled ++ (linesFrom start text).1.take k := by
  obtain ⟨k, hk, hhandled, -⟩ := foldl_handled closes s (linesFrom start text).1
  rw [length_lines] at hk
  exact ⟨k, hk, (takeIn_handled s start text).trans hhandled⟩

theorem takeIn_of_long {start : List Char} (hopen : s.destroyed = false)
    (hlong : RELAY_MAX_FRAME_BYTES < size start) (text : List Char) :
    takeIn closes s start text = ⟨s.handled, true⟩ := by
  unfold takeIn
  cases hlines : (linesFrom start text).1 with
  | nil =>
    have hrest : (linesFrom start text).2 = start ++ text := by
      have hjoin := linesFrom_join start text
      rw [hlines] at hjoin
      exact hjoin
    have hsize : RELAY_MAX_FRAME_BYTES < size (linesFrom start text).2 := by
      rw [hrest, size_append]
      omega
    dsimp only [List.foldl_nil]
    rw [if_pos hsize]
  | cons line more =>
    obtain ⟨added, hline⟩ := first_extends hlines
    have hsize : RELAY_MAX_FRAME_BYTES < size line := by
      rw [hline, size_append]
      omega
    have hrefused : onLine closes s line = ⟨s.handled, true⟩ := by
      rw [onLine, if_neg (by simp [hopen]), if_pos hsize]
    rw [List.foldl_cons, hrefused, foldl_destroyed rfl]
    dsimp only
    rw [ite_self]

/-- The text the reader sees. -/
def pieces (chunks : List (List UInt8)) : List Char := (chunks.map Utf8.decode).flatten

theorem pieces_cons (chunk : List UInt8) (chunks : List (List UInt8)) :
    pieces (chunk :: chunks) = Utf8.decode chunk ++ pieces chunks := rfl

theorem lineFeed_mem {chunk : List UInt8} : '\n' ∈ Utf8.decode chunk ↔ 0x0A ∈ chunk := by
  rw [← List.count_pos_iff, Utf8.decode_count, List.count_pos_iff]

theorem unburst_zero (chunks : List (List UInt8)) : Unburst 0 chunks := by
  induction chunks with
  | nil => trivial
  | cons chunk chunks ih =>
    refine ⟨fun h => absurd h (Nat.lt_irrefl 0), ?_⟩
    rw [Nat.zero_sub]
    exact ih

theorem foldl_onData_destroyed {r : Receiver} (h : r.intake.destroyed = true)
    (chunks : List (List UInt8)) : chunks.foldl (onData closes) r = r := by
  induction chunks with
  | nil => rfl
  | cons chunk chunks ih =>
    have hdata : onData closes r chunk = r := if_pos h
    rw [List.foldl_cons, hdata, ih]

/-- What the reader keeps is part of one line, and within the limit. -/
structure Kept (buffer : List Char) : Prop where
  oneLine : '\n' ∉ buffer
  within : size buffer ≤ RELAY_MAX_FRAME_BYTES

theorem onData_eq {r : Receiver} (hkept : Kept r.buffer) (hopen : r.intake.destroyed = false)
    (chunk : List UInt8) :
    onData closes r chunk =
      if RELAY_MAX_FRAME_BYTES < size (linesFrom r.buffer (Utf8.decode chunk)).2 then
        { r with intake := ⟨r.intake.handled, true⟩ }
      else ⟨(linesFrom r.buffer (Utf8.decode chunk)).2,
        (linesFrom r.buffer (Utf8.decode chunk)).1.foldl (onLine closes) r.intake⟩ := by
  unfold onData
  rw [if_neg (by simp [hopen])]
  split_ifs with hlong
  · have hpush : push r.buffer chunk = none := by
      rw [← lines_append hkept.oneLine] at hlong
      exact if_pos hlong
    rw [hpush]
  · have hpush : push r.buffer chunk = some (linesFrom r.buffer (Utf8.decode chunk)) := by
      rw [← lines_append hkept.oneLine] at hlong ⊢
      exact if_neg hlong
    rw [hpush]

variable (closes) in
theorem handled_length_le (s : Intake) (ls : List Line) :
    (ls.foldl (onLine closes) s).handled.length ≤ s.handled.length + ls.length := by
  obtain ⟨k, hk, hhandled, -⟩ := foldl_handled closes s ls
  rw [hhandled, List.length_append, List.length_take]
  omega

theorem lost_of_notMem {buffer text : List Char} (hopen : s.destroyed = false)
    (hlong : RELAY_MAX_FRAME_BYTES < size (linesFrom buffer text).2) (after : List Char)
    (h : 0 < (takeIn closes s buffer (text ++ after)).handled.length - s.handled.length → '\n' ∉ text) :
    ⟨s.handled, true⟩ = takeIn closes s buffer (text ++ after) := by
  rw [takeIn_append] at h ⊢
  by_cases hmem : '\n' ∈ text
  · cases hlines : (linesFrom buffer text).1 with
    | nil =>
      have hnone := length_lines buffer text
      rw [hlines] at hnone
      exact absurd hmem (List.count_eq_zero.mp hnone.symm)
    | cons line more =>
      rw [hlines, List.foldl_cons] at h
      rw [List.foldl_cons]
      by_cases hline : RELAY_MAX_FRAME_BYTES < size line
      · have hrefused : onLine closes s line = ⟨s.handled, true⟩ := by
          rw [onLine, if_neg (by simp [hopen]), if_pos hline]
        rw [hrefused, foldl_destroyed rfl, takeIn_destroyed rfl]
      · have htaken : onLine closes s line = ⟨s.handled ++ [line], closes (s.handled ++ [line])⟩ := by
          rw [onLine, if_neg (by simp [hopen]), if_neg hline]
        obtain ⟨j, -, hmore, -⟩ := foldl_handled closes (onLine closes s line) more
        obtain ⟨k, -, hafter⟩ := takeIn_extends closes
          (more.foldl (onLine closes) (onLine closes s line)) (linesFrom buffer text).2 after
        refine absurd hmem (h ?_)
        rw [hafter, hmore, htaken]
        simp only [List.length_append, List.length_singleton]
        omega
  · have hread := linesFrom_of_notMem buffer hmem
    rw [hread] at hlong ⊢
    rw [List.foldl_nil, takeIn_of_long hopen hlong]

/-- Reading chunks comes to what their text comes to exactly when no chunk completes a line that is to
be handled and brings too much of the one after. -/
theorem receive_iff_unburst (r : Receiver) (hkept : Kept r.buffer) (hopen : r.intake.destroyed = false)
    (chunks : List (List UInt8)) :
    (chunks.foldl (onData closes) r).intake = takeIn closes r.intake r.buffer (pieces chunks) ↔
      Unburst ((takeIn closes r.intake r.buffer (pieces chunks)).handled.length -
        r.intake.handled.length) chunks := by
  induction chunks generalizing r with
  | nil =>
    have hnone : takeIn closes r.intake r.buffer (pieces []) = r.intake := by
      unfold takeIn
      exact if_neg (Nat.not_lt.mpr hkept.within)
    rw [hnone]
    exact iff_of_true rfl trivial
  | cons chunk chunks ih =>
    rw [List.foldl_cons, onData_eq hkept hopen, pieces_cons]
    by_cases hlong : RELAY_MAX_FRAME_BYTES < size (linesFrom r.buffer (Utf8.decode chunk)).2
    · rw [if_pos hlong, foldl_onData_destroyed rfl]
      constructor
      · intro hlost
        rw [← hlost, Nat.sub_self]
        exact unburst_zero (chunk :: chunks)
      · intro hunburst
        refine lost_of_notMem hopen hlong _ fun hpos hmem => ?_
        have hrest := hunburst.1 hpos (lineFeed_mem.mp hmem)
        rw [← rest_eq hmem r.buffer] at hrest
        omega
    · rw [if_neg hlong, takeIn_append]
      have hfirst : ∀ k, 0 < k → 0x0A ∈ chunk →
          size (lines (Utf8.decode chunk)).2 ≤ RELAY_MAX_FRAME_BYTES := by
        intro k _ hmem
        rw [← rest_eq (lineFeed_mem.mpr hmem) r.buffer]
        exact Nat.not_lt.mp hlong
      have hcount : (linesFrom r.buffer (Utf8.decode chunk)).1.length = chunk.count 0x0A := by
        rw [length_lines, Utf8.decode_count]
      have hle := handled_length_le closes r.intake (linesFrom r.buffer (Utf8.decode chunk)).1
      cases hread : ((linesFrom r.buffer (Utf8.decode chunk)).1.foldl (onLine closes) r.intake).destroyed with
      | true =>
        rw [foldl_onData_destroyed hread, takeIn_destroyed hread]
        refine iff_of_true rfl ⟨hfirst _, ?_⟩
        have hzero : ((linesFrom r.buffer (Utf8.decode chunk)).1.foldl (onLine closes)
            r.intake).handled.length - r.intake.handled.length - chunk.count 0x0A = 0 := by
          omega
        rw [hzero]
        exact unburst_zero chunks
      | false =>
        obtain ⟨k, -, hhandled, hall⟩ := foldl_handled closes r.intake
          (linesFrom r.buffer (Utf8.decode chunk)).1
        have hk := hall hread
        rw [hk, List.take_length] at hhandled
        have hkept' : Kept (linesFrom r.buffer (Utf8.decode chunk)).2 :=
          ⟨rest_notMem hkept.oneLine _, Nat.not_lt.mp hlong⟩
        rw [ih ⟨_, _⟩ hkept' hread]
        dsimp only
        have hsub (n : Nat) : n - ((linesFrom r.buffer (Utf8.decode chunk)).1.foldl (onLine closes)
            r.intake).handled.length = n - r.intake.handled.length - chunk.count 0x0A := by
          rw [hhandled, List.length_append, hcount, Nat.sub_sub]
        rw [hsub]
        exact ⟨fun h => ⟨hfirst _, h⟩, fun h => h.2⟩

end Connection

theorem size_flush (p : Utf8.Partial) : size (Utf8.flush (some p)) = 3 := rfl

theorem upto_flush {k : Nat} (hk : 0 < k) (pending : Option Utf8.Partial) (text : List Char) :
    upto k (Utf8.flush pending ++ text) = Utf8.flush pending ++ upto k text := by
  rw [upto_append, Utf8.flush_count, if_pos hk, Nat.sub_zero]

/-- A byte that continues a sequence gives U+FFFD when it is read by itself. -/
theorem decode_of_accepts {p : Utf8.Partial} {byte : UInt8} (h : p.Accepts byte) (bytes : List UInt8) :
    Utf8.decode (byte :: bytes) = Utf8.replacement :: Utf8.decode bytes := by
  unfold Utf8.decode
  rw [Utf8.decodeFrom, Utf8.feed, Utf8.begin_of_accepts h]
  rfl

theorem size_upto_continues {k : Nat} (hk : 0 < k) (pending : Option Utf8.Partial) (bytes : List UInt8)
    (h : Utf8.Continues pending bytes) :
    size (upto k (Utf8.decodeFrom pending bytes)) <
      size (Utf8.flush pending) + size (upto k (Utf8.decode bytes)) := by
  induction bytes generalizing pending with
  | nil =>
    cases pending with
    | none => exact absurd h id
    | some p => exact absurd h id
  | cons byte bytes ih =>
    cases pending with
    | none => exact absurd h id
    | some p =>
      have haccepts : p.Accepts byte := h
      obtain ⟨k, rfl⟩ : ∃ j, k = j + 1 := Nat.exists_eq_succ_of_ne_zero (Nat.ne_of_gt hk)
      have hfresh : size (upto (k + 1) (Utf8.decode (byte :: bytes))) =
          3 + size (upto (k + 1) (Utf8.decode bytes)) := by
        rw [decode_of_accepts haccepts, upto, if_neg (by decide), size_cons]
        rfl
      rw [hfresh, size_flush, Utf8.decodeFrom]
      by_cases hlast : p.needed = 1
      · have hfeed : Utf8.feed (some p) byte = ([Char.ofNat (p.bits byte)], none) := by
          simp [Utf8.feed, haccepts, hlast]
        have hchar : Char.ofNat (p.bits byte) ≠ '\n' := by
          have hlarge := Utf8.Partial.ascii_lt_bits byte hlast
          rw [ne_eq, Utf8.ofNat_eq_lineFeed]
          omega
        have hfour := Char.utf8Size_le_four (Char.ofNat (p.bits byte))
        rw [hfeed, List.singleton_append, upto, if_neg hchar, size_cons]
        change _ + size (upto (k + 1) (Utf8.decode bytes)) < _
        omega
      · have hfeed : Utf8.feed (some p) byte = ([], some (p.next byte haccepts hlast)) := by
          simp [Utf8.feed, haccepts, hlast]
        rw [hfeed, List.nil_append]
        dsimp only
        by_cases hmore : Utf8.Continues (some (p.next byte haccepts hlast)) bytes
        · have hrest := ih _ hmore
          rw [size_flush] at hrest
          omega
        · rw [Utf8.decodeFrom_of_not_continues hmore, upto_flush hk, size_append, size_flush]
          omega

theorem size_upto_cut {k : Nat} (hk : 0 < k) (pending : Option Utf8.Partial) (bytes : List UInt8) :
    size (upto k (Utf8.decodeFrom pending bytes)) ≤
      size (Utf8.flush pending) + size (upto k (Utf8.decode bytes)) := by
  by_cases h : Utf8.Continues pending bytes
  · exact Nat.le_of_lt (size_upto_continues hk pending bytes h)
  · have hsize : size (upto k (Utf8.decodeFrom pending bytes)) =
        size (Utf8.flush pending) + size (upto k (Utf8.decode bytes)) := by
      rw [Utf8.decodeFrom_of_not_continues h, upto_flush hk, size_append]
    exact Nat.le_of_eq hsize

theorem decode_flatten_cons (chunk : List UInt8) (chunks : List (List UInt8)) :
    Utf8.decode (chunk :: chunks).flatten =
      (Utf8.run none chunk).1 ++ Utf8.decodeFrom (Utf8.run none chunk).2 chunks.flatten := by
  rw [List.flatten_cons, Utf8.decode, Utf8.decodeFrom_append]

theorem pieces_cons_run (chunk : List UInt8) (chunks : List (List UInt8)) :
    pieces (chunk :: chunks) =
      (Utf8.run none chunk).1 ++ (Utf8.flush (Utf8.run none chunk).2 ++ pieces chunks) := by
  rw [pieces_cons, Utf8.decode_eq_run, List.append_assoc]

/-- The text the reader sees is never shorter than the text that was cut. -/
theorem size_upto_pieces (k : Nat) (chunks : List (List UInt8)) :
    size (upto k (Utf8.decode chunks.flatten)) ≤ size (upto k (pieces chunks)) := by
  induction chunks generalizing k with
  | nil => exact Nat.le_refl _
  | cons chunk chunks ih =>
    rw [decode_flatten_cons, pieces_cons_run, upto_append, upto_append, Utf8.run_count]
    split_ifs with hmore
    · have hk : 0 < k - chunk.count 0x0A := Nat.sub_pos_of_lt hmore
      have hcut := size_upto_cut hk (Utf8.run none chunk).2 chunks.flatten
      have hrest := ih (k - chunk.count 0x0A)
      rw [size_append, size_append, upto_flush hk, size_append]
      omega
    · exact Nat.le_refl _

theorem upto_pieces_iff (k : Nat) (chunks : List (List UInt8)) :
    upto k (Utf8.decode chunks.flatten) = upto k (pieces chunks) ↔ Whole k chunks := by
  induction chunks generalizing k with
  | nil => exact iff_of_true rfl trivial
  | cons chunk chunks ih =>
    rw [decode_flatten_cons, pieces_cons_run, upto_append, upto_append, Utf8.run_count, Whole,
      ← ih (k - chunk.count 0x0A)]
    split_ifs with hmore
    · have hk : 0 < k - chunk.count 0x0A := Nat.sub_pos_of_lt hmore
      rw [List.append_cancel_left_eq, upto_flush hk]
      by_cases hinside : Utf8.Continues (Utf8.run none chunk).2 chunks.flatten
      · refine iff_of_false (fun heq => ?_) fun h => h.1 hmore hinside
        have hcut := size_upto_continues hk _ _ hinside
        have hrest := size_upto_pieces (k - chunk.count 0x0A) chunks
        rw [heq, size_append] at hcut
        omega
      · rw [Utf8.decodeFrom_of_not_continues hinside, upto_flush hk, List.append_cancel_left_eq]
        exact ⟨fun h => ⟨fun _ => hinside, h⟩, fun h => h.2⟩
    · have hzero : k - chunk.count 0x0A = 0 := Nat.sub_eq_zero_of_le (Nat.not_lt.mp hmore)
      rw [hzero, upto_zero, upto_zero]
      exact iff_of_true rfl ⟨fun h => absurd h hmore, rfl⟩

theorem rest_append_lineFeed (start text : List Char) : (linesFrom start (text ++ ['\n'])).2 = [] := by
  rw [linesFrom_append]
  rfl

theorem decodeFrom_lineFeed (pending : Option Utf8.Partial) :
    Utf8.decodeFrom pending [0x0A] = Utf8.flush pending ++ ['\n'] := by
  have hfresh : Utf8.decode [0x0A] = ['\n'] := by decide
  rw [← hfresh]
  refine Utf8.decodeFrom_of_not_continues fun h => ?_
  cases pending with
  | none => exact h
  | some p =>
    have hlower : 0x80 ≤ (0x0A : UInt8) := Nat.le_trans p.continuation.1 h.1
    exact absurd hlower (by decide)

theorem Terminated.rest {bytes : List UInt8} (h : Terminated bytes) (start : List Char) :
    bytes = [] ∨ (linesFrom start (Utf8.decode bytes)).2 = [] := by
  rcases h with hnone | hlast
  · exact .inl hnone
  · obtain ⟨before, rfl⟩ := List.getLast?_eq_some_iff.mp hlast
    right
    rw [Utf8.decode, Utf8.decodeFrom_append, decodeFrom_lineFeed, ← List.append_assoc]
    exact rest_append_lineFeed start _

theorem Terminated.rest_decode {bytes : List UInt8} (h : Terminated bytes) :
    (lines (Utf8.decode bytes)).2 = [] := by
  rcases h.rest [] with rfl | hrest
  · rfl
  · exact hrest

variable {chunks : List (List UInt8)}

theorem Terminated.tail {chunk : List UInt8}
    (h : Terminated (chunk :: chunks).flatten) : Terminated chunks.flatten := by
  by_cases hnone : chunks.flatten = []
  · exact .inl hnone
  · rcases h with hall | hlast
    · exact .inl (List.append_eq_nil_iff.mp hall).2
    · right
      rw [List.flatten_cons, List.getLast?_append] at hlast
      cases hend : chunks.flatten.getLast? with
      | none => exact absurd (List.getLast?_eq_none_iff.mp hend) hnone
      | some byte =>
        rw [hend] at hlast
        exact hlast

theorem Terminated.pieces (h : Terminated chunks.flatten) :
    chunks.flatten = [] ∧ pieces chunks = [] ∨ ∀ start, (linesFrom start (pieces chunks)).2 = [] := by
  induction chunks with
  | nil => exact .inl ⟨rfl, rfl⟩
  | cons chunk chunks ih =>
    rcases ih h.tail with ⟨hnone, hpieces⟩ | hrest
    · rw [List.flatten_cons, hnone, List.append_nil] at h ⊢
      rw [pieces_cons, hpieces, List.append_nil]
      by_cases hchunk : chunk = []
      · subst hchunk
        exact .inl ⟨rfl, rfl⟩
      · exact .inr fun start => (h.rest start).resolve_left hchunk
    · right
      intro start
      rw [pieces_cons, linesFrom_append]
      exact hrest _

theorem Terminated.rest_pieces (h : Terminated chunks.flatten) :
    (lines (Federation.pieces chunks)).2 = [] := by
  rcases h.pieces with ⟨-, hnone⟩ | hrest
  · rw [hnone]
    rfl
  · exact hrest []

section Agreement
variable {closes : List Line → Bool}

variable (closes) in
/-- The lines that are left and the rest of a text. -/
def finish (s : Intake) (others : List Line) (rest : List Char) : Intake :=
  let read := others.foldl (onLine closes) s
  if RELAY_MAX_FRAME_BYTES < size rest then { read with destroyed := true } else read

theorem takeIn_split {text : List Char} {first others : List Line} (h : (lines text).1 = first ++ others) :
    takeIn closes ⟨[], false⟩ [] text =
      finish closes (first.foldl (onLine closes) ⟨[], false⟩) others (lines text).2 := by
  unfold takeIn finish
  rw [← List.foldl_append, ← h]
  rfl

theorem finish_destroyed {s : Intake} (h : s.destroyed = true) (others : List Line) (rest : List Char) :
    finish closes s others rest = s := by
  unfold finish
  rw [foldl_destroyed h]
  dsimp only
  rw [← h, ite_self]

theorem finish_long {s : Intake} {line : Line} (hopen : s.destroyed = false)
    (hlong : RELAY_MAX_FRAME_BYTES < size line) (others : List Line) (rest : List Char) :
    finish closes s (line :: others) rest = ⟨s.handled, true⟩ := by
  have hrefused : onLine closes s line = ⟨s.handled, true⟩ := by
    rw [onLine, if_neg (by simp [hopen]), if_pos hlong]
  unfold finish
  rw [List.foldl_cons, hrefused, foldl_destroyed rfl]
  dsimp only
  rw [ite_self]

variable (closes) in
theorem finish_short {s : Intake} {line : Line} (hopen : s.destroyed = false)
    (hshort : ¬RELAY_MAX_FRAME_BYTES < size line) (others : List Line) (rest : List Char) :
    s.handled.length < (finish closes s (line :: others) rest).handled.length := by
  have htaken : onLine closes s line = ⟨s.handled ++ [line], closes (s.handled ++ [line])⟩ := by
    rw [onLine, if_neg (by simp [hopen]), if_neg hshort]
  obtain ⟨j, -, hmore, -⟩ := foldl_handled closes (onLine closes s line) others
  have hhandled : (finish closes s (line :: others) rest).handled =
      ((line :: others).foldl (onLine closes) s).handled := by
    unfold finish
    dsimp only
    split_ifs
    · rfl
    · rfl
  rw [hhandled, List.foldl_cons, hmore, htaken]
  simp only [List.length_append, List.length_singleton]
  omega

/-- Texts with as many lines come to the same when the lines that are handled agree, and what stops
the one stops the other: a line that is too long is no shorter in the other, and one without a last
line has none in the other. -/
theorem takeIn_eq {sent seen : List Char} (hcount : sent.count '\n' = seen.count '\n') {k : Nat}
    (hk : k = (takeIn closes ⟨[], false⟩ [] sent).handled.length)
    (hfirst : upto k sent = upto k seen)
    (hnext : size (upto (k + 1) sent) ≤ size (upto (k + 1) seen))
    (hend : (lines sent).2 = [] ∧ (lines seen).2 = [] ∨
      (takeIn closes ⟨[], false⟩ [] sent).destroyed = true) :
    takeIn closes ⟨[], false⟩ [] seen = takeIn closes ⟨[], false⟩ [] sent := by
  have hlength : (lines sent).1.length = (lines seen).1.length := by
    rw [lines, lines, length_lines, length_lines, hcount]
  have hle : k ≤ (lines sent).1.length := by
    obtain ⟨j, hj, hhandled⟩ := takeIn_extends closes ⟨[], false⟩ [] sent
    rw [hk, hhandled, lines, length_lines]
    simp only [List.length_append, List.length_take, List.length_nil]
    omega
  have htake := (take_eq_iff hle (hlength ▸ hle)).mpr hfirst
  have hsent := (List.take_append_drop k (lines sent).1).symm
  have hseen := (List.take_append_drop k (lines seen).1).symm
  rw [← htake] at hseen
  rw [takeIn_split hsent] at hk hend ⊢
  rw [takeIn_split hseen]
  have hdrop : ((lines sent).1.drop k).length = ((lines seen).1.drop k).length := by
    rw [List.length_drop, List.length_drop, hlength]
  cases hfold : (((lines sent).1.take k).foldl (onLine closes) ⟨[], false⟩).destroyed with
  | true => rw [finish_destroyed hfold, finish_destroyed hfold]
  | false =>
    obtain ⟨j, hj, hhandled, hall⟩ := foldl_handled closes ⟨[], false⟩ ((lines sent).1.take k)
    rw [hall hfold, List.take_length, List.nil_append] at hhandled
    cases hothers : (lines sent).1.drop k with
    | cons line more =>
      rw [hothers] at hk hsent hdrop
      have hlong : RELAY_MAX_FRAME_BYTES < size line := by
        by_contra hshort
        have hmore := finish_short closes hfold hshort more (lines sent).2
        rw [← hk, hhandled, List.length_take_of_le hle] at hmore
        exact absurd hmore (Nat.lt_irrefl _)
      cases hothers' : (lines seen).1.drop k with
      | nil =>
        rw [hothers'] at hdrop
        cases hdrop
      | cons line' more' =>
        rw [hothers', htake] at hseen
        have hlong' : RELAY_MAX_FRAME_BYTES < size line' := by
          rw [upto_succ hsent hle, upto_succ hseen (hlength ▸ hle), hfirst] at hnext
          simp only [size_append] at hnext
          omega
        rw [finish_long hfold hlong, finish_long hfold hlong']
    | nil =>
      rw [hothers] at hdrop hsent hend
      have hothers' : (lines seen).1.drop k = [] := List.eq_nil_of_length_eq_zero hdrop.symm
      rw [hothers']
      rcases hend with ⟨hsentRest, hseenRest⟩ | hdestroyed
      · rw [hsentRest, hseenRest]
      · have hk' : k = (lines sent).1.length :=
          Nat.le_antisymm hle (List.drop_eq_nil_iff.mp hothers)
        have hlong : RELAY_MAX_FRAME_BYTES < size (lines sent).2 := by
          by_contra hshort
          have hopen : (finish closes (((lines sent).1.take k).foldl (onLine closes) ⟨[], false⟩) []
              (lines sent).2).destroyed = false := by
            unfold finish
            rw [if_neg hshort]
            exact hfold
          rw [hopen] at hdestroyed
          cases hdestroyed
        have hlong' : RELAY_MAX_FRAME_BYTES < size (lines seen).2 := by
          have hnextSent := upto_length sent
          have hnextSeen := upto_length seen
          rw [← hk'] at hnextSent
          rw [← hlength, ← hk'] at hnextSeen
          rw [hnextSent, hnextSeen, hfirst, size_append, size_append] at hnext
          omega
        unfold finish
        dsimp only
        rw [if_pos hlong, if_pos hlong']

end Agreement

section Reader
variable (closes : List Line → Bool)

theorem receive_handled (r : Receiver) (hkept : Kept r.buffer) (chunks : List (List UInt8)) :
    ∃ k ≤ (pieces chunks).count '\n', (chunks.foldl (onData closes) r).intake.handled =
      r.intake.handled ++ (linesFrom r.buffer (pieces chunks)).1.take k := by
  induction chunks generalizing r with
  | nil => exact ⟨0, Nat.zero_le _, (List.append_nil _).symm⟩
  | cons chunk chunks ih =>
    rw [List.foldl_cons, pieces_cons, linesFrom_append, List.count_append]
    by_cases hopen : r.intake.destroyed = true
    · have hdata : onData closes r chunk = r := if_pos hopen
      rw [hdata, foldl_onData_destroyed hopen]
      exact ⟨0, Nat.zero_le _, by simp⟩
    · rw [onData_eq hkept (by simpa using hopen)]
      split_ifs with hlong
      · rw [foldl_onData_destroyed rfl]
        exact ⟨0, Nat.zero_le _, by simp⟩
      · obtain ⟨j, hj, hread, hall⟩ := foldl_handled closes r.intake
          (linesFrom r.buffer (Utf8.decode chunk)).1
        have hcount := length_lines r.buffer (Utf8.decode chunk)
        have hkept' : Kept (linesFrom r.buffer (Utf8.decode chunk)).2 :=
          ⟨rest_notMem hkept.oneLine _, Nat.not_lt.mp hlong⟩
        cases hdestroyed : ((linesFrom r.buffer (Utf8.decode chunk)).1.foldl (onLine closes)
            r.intake).destroyed with
        | true =>
          rw [foldl_onData_destroyed hdestroyed]
          refine ⟨j, by omega, ?_⟩
          rw [hread, List.take_append_of_le_length hj]
        | false =>
          obtain ⟨k, hk, hrest⟩ := ih ⟨_, _⟩ hkept'
          refine ⟨j + k, by omega, ?_⟩
          rw [hrest, hread, hall hdestroyed, List.take_length, List.append_assoc,
            List.take_length_add_append]

theorem pieces_count (chunks : List (List UInt8)) :
    (Utf8.decode chunks.flatten).count '\n' = (pieces chunks).count '\n' := by
  induction chunks with
  | nil => rfl
  | cons chunk chunks ih =>
    rw [pieces_cons, List.count_append, Utf8.decode_count, Utf8.decode_count, ← ih, Utf8.decode_count,
      List.flatten_cons, List.count_append]

theorem expected_handled (bytes : List UInt8) :
    ∃ k ≤ (lines (Utf8.decode bytes)).1.length,
      (expected closes bytes).handled = (lines (Utf8.decode bytes)).1.take k := by
  obtain ⟨k, hk, hhandled⟩ := takeIn_extends closes ⟨[], false⟩ [] (Utf8.decode bytes)
  rw [← length_lines []] at hk
  exact ⟨k, hk, hhandled⟩

theorem whole_of_receive
    (h : receive closes chunks = expected closes chunks.flatten) :
    Whole (expected closes chunks.flatten).handled.length chunks := by
  obtain ⟨k, hk, hsent⟩ := expected_handled closes chunks.flatten
  obtain ⟨j, hj, hseen⟩ := receive_handled closes ⟨[], ⟨[], false⟩⟩ ⟨List.not_mem_nil, Nat.zero_le _⟩ chunks
  rw [← length_lines []] at hj
  change (receive closes chunks).handled = (lines (pieces chunks)).1.take j at hseen
  have hlength : (expected closes chunks.flatten).handled.length = k := by
    rw [hsent, List.length_take_of_le hk]
  have hjk : j = k := by
    rw [← hlength, ← h, hseen]
    exact (List.length_take_of_le hj).symm
  subst hjk
  rw [hlength, ← upto_pieces_iff, ← take_eq_iff hk hj, ← hsent, ← hseen, h]

/-- When no cut is inside a character of the lines that are handled, the reader's text comes to what
was sent. -/
theorem takeIn_pieces
    (h : Terminated chunks.flatten ∨ (expected closes chunks.flatten).destroyed = true)
    (hwhole : Whole (expected closes chunks.flatten).handled.length chunks) :
    takeIn closes ⟨[], false⟩ [] (pieces chunks) = expected closes chunks.flatten := by
  refine takeIn_eq (pieces_count chunks) rfl ((upto_pieces_iff _ chunks).mpr hwhole)
    (size_upto_pieces _ chunks) ?_
  rcases h with hterminated | hdestroyed
  · exact .inl ⟨hterminated.rest_decode, hterminated.rest_pieces⟩
  · exact .inr hdestroyed

theorem receive_iff_pieces (chunks : List (List UInt8)) :
    receive closes chunks = takeIn closes ⟨[], false⟩ [] (pieces chunks) ↔
      Unburst (takeIn closes ⟨[], false⟩ [] (pieces chunks)).handled.length chunks :=
  receive_iff_unburst ⟨[], ⟨[], false⟩⟩ ⟨List.not_mem_nil, Nat.zero_le _⟩ rfl chunks

theorem decode_lineFeed (bytes : List UInt8) : Utf8.decode (0x0A :: bytes) = '\n' :: Utf8.decode bytes := by
  have hfeed : Utf8.feed none 0x0A = (['\n'], none) := rfl
  unfold Utf8.decode
  rw [Utf8.decodeFrom, hfeed]
  rfl

theorem decode_wire (sent : List Line) : Utf8.decode (wire sent) = sent.flatMap (· ++ ['\n']) := by
  induction sent with
  | nil => rfl
  | cons line sent ih =>
    unfold wire at ih ⊢
    rw [List.flatMap_cons, List.append_assoc, Utf8.decode_encode_append, List.singleton_append,
      decode_lineFeed, ih, List.flatMap_cons, List.append_assoc]
    rfl

theorem expected_wire {sent : List Line} (h : ∀ line ∈ sent, '\n' ∉ line) :
    expected closes (wire sent) = sent.foldl (onLine closes) ⟨[], false⟩ := by
  unfold expected takeIn
  rw [decode_wire]
  have hlines := lines_of_join h []
  rw [List.append_nil] at hlines
  rw [hlines]
  simp [lines, linesFrom]

theorem receive_eq_iff (chunks : List (List UInt8))
    (h : Terminated chunks.flatten ∨ (expected closes chunks.flatten).destroyed = true) :
    receive closes chunks = expected closes chunks.flatten ↔
      Whole (expected closes chunks.flatten).handled.length chunks ∧
        Unburst (expected closes chunks.flatten).handled.length chunks := by
  constructor
  · intro heq
    have hwhole := whole_of_receive closes heq
    have hpieces := takeIn_pieces closes h hwhole
    refine ⟨hwhole, ?_⟩
    rw [← hpieces]
    exact (receive_iff_pieces closes chunks).mp (heq.trans hpieces.symm)
  · rintro ⟨hwhole, hunburst⟩
    have hpieces := takeIn_pieces closes h hwhole
    rw [← hpieces] at hunburst
    exact ((receive_iff_pieces closes chunks).mpr hunburst).trans hpieces

theorem receive_one {bytes : List UInt8} (h : Terminated bytes) :
    receive closes [bytes] = expected closes bytes := by
  have hflatten : [bytes].flatten = bytes := List.append_nil bytes
  have hiff := receive_eq_iff closes [bytes] (.inl (hflatten.symm ▸ h))
  rw [hflatten] at hiff
  refine hiff.mpr ⟨⟨fun _ hinside => ?_, trivial⟩, ⟨fun _ _ => ?_, trivial⟩⟩
  · cases hpending : (Utf8.run none bytes).2 with
    | none =>
      rw [hpending] at hinside
      exact hinside
    | some p =>
      rw [hpending] at hinside
      exact hinside
  · rw [h.rest_decode]
    exact Nat.zero_le _

/-- A byte string whose lines are all terminated, or that closes the connection, comes to the same in
chunks exactly when no cut is inside a character of a line that is handled and no chunk that
completes one brings too much of the next. It comes to the sender's lines one after another, as it
does in one chunk. -/
theorem framing_iff_cutWell (chunks : List (List UInt8))
    (h : Terminated chunks.flatten ∨ (expected closes chunks.flatten).destroyed = true) :
    (receive closes chunks = expected closes chunks.flatten ↔
      Whole (expected closes chunks.flatten).handled.length chunks ∧
        Unburst (expected closes chunks.flatten).handled.length chunks) ∧
      (Terminated chunks.flatten → receive closes [chunks.flatten] = expected closes chunks.flatten) ∧
      ∀ sent : List Line, (∀ line ∈ sent, '\n' ∉ line) →
        expected closes (wire sent) = sent.foldl (onLine closes) ⟨[], false⟩ :=
  ⟨receive_eq_iff closes chunks h, receive_one closes, fun _ hsent => expected_wire closes hsent⟩

end Reader

/-- A line of one letter that is two bytes long, whole and cut between lines. -/
theorem framing_iff_cutWell_whole :
    receive (fun _ => false) [[0xC3, 0xA9, 0x0A], [0x61, 0x0A]] =
        expected (fun _ => false) [0xC3, 0xA9, 0x0A, 0x61, 0x0A] :=
  (framing_iff_cutWell (fun _ => false) [[0xC3, 0xA9, 0x0A], [0x61, 0x0A]] (.inl (.inr rfl))).1.mpr
    ⟨by decide +kernel, by decide +kernel⟩

/-- The same line cut inside its letter. -/
theorem cut_inside_letter :
    [[0xC3], [0xA9, 0x0A]].flatten = wire [['é']] ∧
      receive (fun _ => false) [wire [['é']]] = ⟨[['é']], false⟩ ∧
      receive (fun _ => false) [[0xC3], [0xA9, 0x0A]] = ⟨[['\uFFFD', '\uFFFD']], false⟩ := by
  decide +kernel

end Wardroom.Federation
