import Wardroom.Federation.RelayFields
import Wardroom.Library.Utf16

/-! # Results of channel commands

The home writes a result as JSON, cuts its bytes and sends each piece in a frame
of its own. The other side puts the pieces together and reads them as JSON.
-/

namespace Wardroom.Federation
open Wardroom.Library Wardroom.Library.JsonText

def RESULT_CHUNK_BYTES : Nat := 4096
def MAX_RESULT_BYTES : Nat := 131072

/-- A `channelResult` frame; the payload is what its base64 text stands for. -/
structure ChannelResult where
  requestId : JsString
  ok : Bool
  chunkIndex : Nat
  final : Bool
  payload : List UInt8

/-- `Math.max(1, Math.ceil(bytes.length / RESULT_CHUNK_BYTES))`. -/
def chunkCount (bytes : List UInt8) : Nat :=
  max 1 ((bytes.length + (RESULT_CHUNK_BYTES - 1)) / RESULT_CHUNK_BYTES)

def chunkAt (bytes : List UInt8) (chunkIndex : Nat) : List UInt8 :=
  (bytes.drop (chunkIndex * RESULT_CHUNK_BYTES)).take RESULT_CHUNK_BYTES

def resultFrame (requestId : JsString) (ok : Bool) (bytes : List UInt8) (chunkIndex : Nat) : ChannelResult :=
  ⟨requestId, ok, chunkIndex, chunkIndex = chunkCount bytes - 1, chunkAt bytes chunkIndex⟩

def sendChannelResult (requestId : JsString) (ok : Bool) (value : Tree) : Except JsString (List ChannelResult) :=
  let bytes := JsString.toUtf8 value.write
  if MAX_RESULT_BYTES < bytes.length then
    .error (text "channel result exceeds " ++ decimal MAX_RESULT_BYTES ++ text " bytes")
  else .ok ((List.range (chunkCount bytes)).map (resultFrame requestId ok bytes))

structure AssembledChannelResult where
  ok : Bool
  value : Tree

structure PendingResult where
  ok : Bool
  nextChunk : Nat
  bytes : Nat
  chunks : List (List UInt8)

/-- The results of which a part has come. -/
abbrev ChannelResultAssembler := JsString → Option PendingResult

namespace ChannelResultAssembler

def delete (a : ChannelResultAssembler) (requestId : JsString) : ChannelResultAssembler :=
  Function.update a requestId none

def assembled (ok : Bool) (chunks : List (List UInt8)) : Except JsString (Option AssembledChannelResult) :=
  match parseText treeBuilder (JsString.ofUtf8 chunks.flatten) with
  | .ok value => .ok (some ⟨ok, value⟩)
  | .error _ => .error (text "Unexpected token in JSON")

/-- What a frame adds to the part that has come. -/
def extend (a : ChannelResultAssembler) (state : PendingResult) (frame : ChannelResult) :
    Except JsString (Option AssembledChannelResult) × ChannelResultAssembler :=
  let bytes := state.bytes + frame.payload.length
  let chunks := state.chunks ++ [frame.payload]
  if state.ok = frame.ok ∧ frame.chunkIndex = state.nextChunk then
    if MAX_RESULT_BYTES < bytes then
      (.error (text "channel result exceeds reassembly bound"), a.delete frame.requestId)
    else if frame.final = true then (assembled state.ok chunks, a.delete frame.requestId)
    else (.ok none, Function.update a frame.requestId (some ⟨state.ok, state.nextChunk + 1, bytes, chunks⟩))
  else (.error (text "invalid channel result chunk sequence"), a.delete frame.requestId)

def accept (a : ChannelResultAssembler) (frame : ChannelResult) :
    Except JsString (Option AssembledChannelResult) × ChannelResultAssembler :=
  a.extend ((a frame.requestId).getD ⟨frame.ok, 0, 0, []⟩) frame

/-- The frames are accepted until one of them completes a result or is refused. -/
def acceptAll (a : ChannelResultAssembler) : List ChannelResult →
    Except JsString (Option AssembledChannelResult) × ChannelResultAssembler
  | [] => (.ok none, a)
  | frame :: frames =>
    match a.accept frame with
    | (.ok none, a) => a.acceptAll frames
    | outcome => outcome

/-- The frames of a connection are accepted one by one, whatever becomes of each. -/
def after (a : ChannelResultAssembler) (frames : List ChannelResult) : ChannelResultAssembler :=
  frames.foldl (fun a frame => (a.accept frame).2) a

def outcomes (a : ChannelResultAssembler) :
    List ChannelResult → List (JsString × Except JsString (Option AssembledChannelResult))
  | [] => []
  | frame :: frames => (frame.requestId, (a.accept frame).1) :: outcomes (a.accept frame).2 frames

section Chunks
variable {bytes : List UInt8} {i : Nat}

theorem take_append_chunkAt (bytes : List UInt8) (i : Nat) :
    bytes.take (i * RESULT_CHUNK_BYTES) ++ chunkAt bytes i = bytes.take ((i + 1) * RESULT_CHUNK_BYTES) := by
  rw [chunkAt, Nat.add_mul, Nat.one_mul, List.take_add]

theorem length_le_chunks (bytes : List UInt8) : bytes.length ≤ chunkCount bytes * RESULT_CHUNK_BYTES := by
  unfold chunkCount RESULT_CHUNK_BYTES
  omega

/-- What has come of a result before its i-th chunk. -/
structure Received (bytes : List UInt8) (ok : Bool) (i : Nat) (state : PendingResult) : Prop where
  ok : state.ok = ok
  nextChunk : state.nextChunk = i
  count : state.bytes = (bytes.take (i * RESULT_CHUNK_BYTES)).length
  chunks : state.chunks.flatten = bytes.take (i * RESULT_CHUNK_BYTES)

variable {state : PendingResult} {ok : Bool}

theorem Received.next (h : Received bytes ok i state) :
    Received bytes ok (i + 1)
      ⟨state.ok, state.nextChunk + 1, state.bytes + (chunkAt bytes i).length, state.chunks ++ [chunkAt bytes i]⟩ where
  ok := h.ok
  nextChunk := congrArg (· + 1) h.nextChunk
  count := by rw [← take_append_chunkAt, List.length_append, ← h.count]
  chunks := by rw [← take_append_chunkAt, List.flatten_concat, h.chunks]

theorem Received.start (ok : Bool) : Received bytes ok 0 ⟨ok, 0, 0, []⟩ where
  ok := rfl
  nextChunk := rfl
  count := by simp
  chunks := by simp

variable {a : ChannelResultAssembler}

theorem extend_of_fits {frame : ChannelResult}
    (hok : state.ok = frame.ok) (hindex : frame.chunkIndex = state.nextChunk)
    (hfits : state.bytes + frame.payload.length ≤ MAX_RESULT_BYTES) :
    a.extend state frame =
      if frame.final = true then (assembled state.ok (state.chunks ++ [frame.payload]), a.delete frame.requestId)
      else (.ok none, Function.update a frame.requestId
        (some ⟨state.ok, state.nextChunk + 1, state.bytes + frame.payload.length, state.chunks ++ [frame.payload]⟩)) :=
  (if_pos ⟨hok, hindex⟩).trans (if_neg (Nat.not_lt.mpr hfits))

theorem extend_next (requestId : JsString) (a : ChannelResultAssembler)
    (h : Received bytes ok i state) (hmax : bytes.length ≤ MAX_RESULT_BYTES) :
    ∃ state', Received bytes ok (i + 1) state' ∧
      a.extend state (resultFrame requestId ok bytes i) =
        if i = chunkCount bytes - 1 then (assembled ok state'.chunks, a.delete requestId)
        else (.ok none, Function.update a requestId (some state')) := by
  have hbound := h.next.count
  rw [List.length_take] at hbound
  have hfits : state.bytes + (chunkAt bytes i).length ≤ MAX_RESULT_BYTES := by
    dsimp only at hbound
    omega
  refine ⟨_, h.next, ?_⟩
  have hextend := @extend_of_fits state a (resultFrame requestId ok bytes i) h.ok h.nextChunk.symm hfits
  rw [hextend]
  by_cases hlast : i = chunkCount bytes - 1
  · have hfinal : (resultFrame requestId ok bytes i).final = true := decide_eq_true hlast
    rw [if_pos hfinal, if_pos hlast, h.ok]
    rfl
  · have hfinal : ¬(resultFrame requestId ok bytes i).final = true := by simp [resultFrame, hlast]
    rw [if_neg hfinal, if_neg hlast]
    rfl

theorem assembled_of_received
    (h : Received bytes ok (chunkCount bytes) state) : assembled ok state.chunks = assembled ok [bytes] := by
  have hall : state.chunks.flatten = [bytes].flatten := by
    rw [h.chunks, List.take_of_length_le (length_le_chunks bytes), List.flatten_singleton]
  rw [assembled, hall]
  rfl

variable {requestId : JsString}

theorem outcomes_frames (hmax : bytes.length ≤ MAX_RESULT_BYTES)
    {value : AssembledChannelResult} (hvalue : assembled ok [bytes] = .ok (some value)) (n : Nat) :
    ∀ (i : Nat) (a : ChannelResultAssembler), i + (n + 1) = chunkCount bytes →
      Received bytes ok i ((a requestId).getD ⟨ok, 0, 0, []⟩) →
      a.outcomes ((List.range' i (n + 1)).map (resultFrame requestId ok bytes)) =
          List.replicate n (requestId, .ok none) ++ [(requestId, .ok (some value))] ∧
        a.after ((List.range' i (n + 1)).map (resultFrame requestId ok bytes)) = a.delete requestId := by
  induction n with
  | zero =>
    intro i a hcount hreceived
    obtain ⟨state, hnext, hextend⟩ := extend_next requestId a hreceived hmax
    have hlast : i = chunkCount bytes - 1 := by omega
    have hall : i + 1 = chunkCount bytes := by omega
    rw [if_pos hlast, assembled_of_received (hall ▸ hnext), hvalue] at hextend
    have haccept : a.accept (resultFrame requestId ok bytes i) = _ := hextend
    rw [List.range'_one, List.map_singleton, outcomes, after, List.foldl_cons, haccept]
    exact ⟨rfl, rfl⟩
  | succ n ih =>
    intro i a hcount hreceived
    obtain ⟨state, hnext, hextend⟩ := extend_next requestId a hreceived hmax
    rw [if_neg (by omega)] at hextend
    obtain ⟨hrest, hafter⟩ := ih (i + 1) (Function.update a requestId (some state)) (by omega)
      (by rw [Function.update_self]; exact hnext)
    have haccept : a.accept (resultFrame requestId ok bytes i) = _ := hextend
    rw [List.range'_succ, List.map_cons, outcomes, after, List.foldl_cons, haccept, hrest]
    refine ⟨rfl, hafter.trans ?_⟩
    rw [delete, delete, Function.update_idem]

theorem parseText_sent {value : Tree} (h : value.Writable) :
    parseText treeBuilder (JsString.ofUtf8 (JsString.toUtf8 value.write)) = .ok value := by
  have hparse := parseText_complete treeBuilder (jsonText_write h)
  rw [fold_treeBuilder] at hparse
  rw [JsString.ofUtf8_toUtf8 (isPaired_write value h)]
  cases hread : parseText treeBuilder value.write with
  | error failure =>
    rw [hread] at hparse
    cases hparse
  | ok read =>
    rw [hread] at hparse
    obtain rfl := Option.some.inj hparse
    rfl

/-- Of what is sent for one request, each frame but the last comes to nothing, and the last one to the value. -/
theorem outcomes_sent {value : Tree} {frames : List ChannelResult}
    (ha : a requestId = none) (hvalue : value.Writable)
    (h : sendChannelResult requestId ok value = .ok frames) :
    ∃ n, a.outcomes frames = List.replicate n (requestId, .ok none) ++ [(requestId, .ok (some ⟨ok, value⟩))] ∧
      a.after frames = a := by
  unfold sendChannelResult at h
  dsimp only at h
  split_ifs at h with hmax
  obtain rfl := Except.ok.inj h
  have hassembled : assembled ok [JsString.toUtf8 value.write] = .ok (some ⟨ok, value⟩) := by
    rw [assembled, List.flatten_singleton, parseText_sent hvalue]
  have hone : 1 ≤ chunkCount (JsString.toUtf8 value.write) := Nat.le_max_left 1 _
  obtain ⟨n, hn⟩ := Nat.exists_eq_add_of_le' hone
  obtain ⟨houtcomes, hafter⟩ := outcomes_frames (by omega) hassembled n 0 a (by omega) (by rw [ha]; exact .start ok)
  rw [hn, List.range_eq_range']
  exact ⟨n, houtcomes, by rw [hafter, delete, ← ha, Function.update_eq_self]⟩

theorem acceptAll_of_outcomes {value : AssembledChannelResult} (n : Nat) :
    ∀ (a : ChannelResultAssembler) (frames : List ChannelResult),
      a.outcomes frames = List.replicate n (requestId, .ok none) ++ [(requestId, .ok (some value))] →
      a.acceptAll frames = (.ok (some value), a.after frames) := by
  induction n with
  | zero =>
    rintro a (_ | ⟨frame, _ | ⟨next, frames⟩⟩) h
    · cases h
    · have hlast : (a.accept frame).1 = .ok (some value) := congrArg Prod.snd (List.cons.inj h).1
      rw [acceptAll, show a.accept frame = (.ok (some value), (a.accept frame).2) from Prod.ext hlast rfl]
      rfl
    · cases (List.cons.inj h).2
  | succ n ih =>
    rintro a (_ | ⟨frame, frames⟩) h
    · cases h
    · obtain ⟨hfirst, hrest⟩ := List.cons.inj h
      have hnone : (a.accept frame).1 = .ok none := congrArg Prod.snd hfirst
      rw [acceptAll, show a.accept frame = (.ok none, (a.accept frame).2) from Prod.ext hnone rfl]
      exact ih _ frames hrest

theorem acceptAll_sent {value : Tree} {frames : List ChannelResult}
    (ha : a requestId = none) (hvalue : value.Writable)
    (h : sendChannelResult requestId ok value = .ok frames) :
    a.acceptAll frames = (.ok (some ⟨ok, value⟩), a) := by
  obtain ⟨n, houtcomes, hafter⟩ := outcomes_sent ha hvalue h
  rw [acceptAll_of_outcomes n a frames houtcomes, hafter]

end Chunks

end ChannelResultAssembler
end Wardroom.Federation
