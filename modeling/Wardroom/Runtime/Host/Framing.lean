import Mathlib
import Wardroom.Library.Incremental
import Wardroom.Runtime.Host.Codec
import Wardroom.Runtime.Host.Server

/-! # The two sides of the frame format

The daemon encodes and decodes frames in TypeScript, the runtime host in Go. The
host also looks at the payload of the types that it reads, and ends a
connection whose payloads it cannot use.
-/

namespace Wardroom.Runtime.Host
open Wardroom.Library

/-- Other numbers than integers are no types either. -/
def frame (type : Int) (payload : List UInt8) : Except String (List UInt8) :=
  if type < 0 ∨ 255 < type then .error "invalid host frame type"
  else if HOST_FRAME_LIMIT < payload.length + 1 then .error "host frame exceeds limit"
  else .ok (writeUInt32BE (payload.length + 1) ++ type.toNat.toUInt8 :: payload)

/-- What the client writes; the length is not looked at. -/
def frameFor (type : UInt8) (payload : List UInt8) : List UInt8 :=
  writeUInt32BE (payload.length + 1) ++ type :: payload

/-- The frames of a stream that comes in chunks, up to the first chunk that is refused. -/
def pushAll (buffer : List UInt8) : List (List UInt8) → Except String (List HostFrame) × List UInt8
  | [] => (.ok [], buffer)
  | chunk :: chunks =>
    match push buffer chunk with
    | (.ok frames, buffer) => ((pushAll buffer chunks).1.map (frames ++ ·), (pushAll buffer chunks).2)
    | (.error e, buffer) => (.error e, buffer)

namespace Proto

def THello : UInt8 := 0x01
def THelloAck : UInt8 := 0x02
def TOutput : UInt8 := 0x03
def TInput : UInt8 := 0x04
def TResize : UInt8 := 0x05
def TExit : UInt8 := 0x06
def TError : UInt8 := 0x07
def TPing : UInt8 := 0x08
def TPong : UInt8 := 0x09
def TWipe : UInt8 := 0x0A
def TWipeAck : UInt8 := 0x0B
def TDeliverMessage : UInt8 := 0x0C
def TDeliverAck : UInt8 := 0x0D
def TSignal : UInt8 := 0x0E
def TTerminate : UInt8 := 0x0F
def TTerminateAck : UInt8 := 0x10
def TEnroll : UInt8 := 0x20
def TFdProbe : UInt8 := 0x21
def TFdProbeUnsupported : UInt8 := 0x22
def TReady : UInt8 := 0x23

/-- A hello with the fields that only the parser looks at. -/
structure WireHello extends HelloEnvelope where
  version : Nat
  nonce : String

def validAction (a : String) : Bool :=
  a ∈ ["observe", "controller", "input", "resize", "signal", "terminate", "deliverMessage"]

/-- The actions are known, and none is named twice. -/
def validActions (seen : List String) : List String → Bool
  | [] => true
  | a :: actions => !(a ∈ seen || !validAction a) && validActions (a :: seen) actions

def WireHello.valid (h : WireHello) : Bool :=
  h.version = Version && h.issuer ≠ "" && h.audience ≠ "" && h.sessionId ≠ "" && h.runtimeId ≠ "" &&
    h.homeAuthorityId ≠ "" && h.generation ≠ 0 && 0 < h.expiry && h.nonce ≠ "" && h.id ≠ "" && h.actions ≠ [] &&
    h.actions.length ≤ 8 && validActions [] h.actions

/-- The code of a payload that the host cannot use; `decodeStrict` reads a hello. -/
def validate (decodeStrict : List UInt8 → Option WireHello) (ftype : UInt8) (payload : List UInt8) : Option Nat :=
  let bad (ok : Bool) : Option Nat := if ok then none else some EBadFrame
  if ftype = THello then bad (payload ≠ [] && (decodeStrict payload).any WireHello.valid)
  else if ftype = TResize then
    let cols := readUIntBE 2 payload
    let rows := readUIntBE 2 (payload.drop 2)
    bad (payload.length = 4 && 1 ≤ cols && cols ≤ 1000 && 1 ≤ rows && rows ≤ 1000)
  else if ftype = TInput ∨ ftype = TDeliverMessage then none
  else if ftype = TSignal then bad (payload.length = 1)
  else if ftype = TTerminate then bad (payload.length = 0)
  else if ftype = TPing ∨ ftype = TWipe then bad (payload.length = 0)
  else if ftype ∈ [THelloAck, TOutput, TExit, TError, TPong, TWipeAck, TDeliverAck, TTerminateAck, TEnroll, TFdProbe,
    TFdProbeUnsupported, TReady] then none
  else some EBadFrame

/-- One frame from the front of a buffer. -/
def parseFrame (decodeStrict : List UInt8 → Option WireHello) (buf : List UInt8) : Parse HostFrame Nat :=
  if buf.length < 4 then .incomplete
  else
    let length := readUIntBE 4 buf
    if MaxFrame < length then .fatal EOversize
    else if length < 1 then .fatal EBadFrame
    else if buf.length < 4 + length then .incomplete
    else
      let ftype := buf.getD 4 0
      let payload := (buf.take (4 + length)).drop 5
      match validate decodeStrict ftype payload with
      | some code => .fatal code
      | none => .item ⟨ftype, payload⟩ (4 + length)

/-- The encoder does not look at the length. -/
def frame (ftype : UInt8) (payload : List UInt8) : List UInt8 :=
  writeUInt32BE (payload.length + 1) ++ [ftype] ++ payload

end Proto

/-- One round of the decoder's loop. -/
def decodeFrame (buffer : List UInt8) : Parse HostFrame String :=
  let length := readUIntBE 4 buffer
  if buffer.length < 4 then .incomplete
  else if length < 1 ∨ HOST_FRAME_LIMIT < length then .fatal "invalid host frame length"
  else if buffer.length < length + 4 then .incomplete
  else .item ⟨buffer.getD 4 0, (buffer.take (length + 4)).drop 5⟩ (length + 4)

section Decoder
variable {buffer : List UInt8} {f : HostFrame} {n : Nat} {e : String}

theorem decodeFrame_item (h : decodeFrame buffer = .item f n) :
    4 ≤ buffer.length ∧ n = readUIntBE 4 buffer + 4 ∧ n ≤ buffer.length ∧
      ¬ (readUIntBE 4 buffer < 1 ∨ HOST_FRAME_LIMIT < readUIntBE 4 buffer) ∧
      f = ⟨buffer.getD 4 0, (buffer.take n).drop 5⟩ := by
  rw [decodeFrame] at h
  split_ifs at h with hshort hbad hpartial
  injection h with hf hn
  subst hn
  exact ⟨Nat.le_of_not_lt hshort, rfl, Nat.le_of_not_lt hpartial, hbad, hf.symm⟩

theorem decodeFrame_fatal (h : decodeFrame buffer = .fatal e) :
    4 ≤ buffer.length ∧ (readUIntBE 4 buffer < 1 ∨ HOST_FRAME_LIMIT < readUIntBE 4 buffer) ∧
      e = "invalid host frame length" := by
  rw [decodeFrame] at h
  split_ifs at h with hshort hbad hpartial
  injection h with he
  exact ⟨Nat.le_of_not_lt hshort, hbad, he.symm⟩

theorem decodeFrame_append (h : decodeFrame buffer = .item f n) (more : List UInt8) :
    decodeFrame (buffer ++ more) = .item f n := by
  obtain ⟨hheader, rfl, hwhole, hgood, rfl⟩ := decodeFrame_item h
  have hlength : (buffer ++ more).length = buffer.length + more.length := List.length_append
  have hgetD : (buffer ++ more).getD 4 0 = buffer.getD 4 0 :=
    List.getD_append _ _ _ _ (by omega)
  rw [decodeFrame, readUIntBE_append hheader]
  rw [if_neg (by omega), if_neg hgood, if_neg (by omega), hgetD, List.take_append_of_le_length hwhole]

theorem decodeFrame_fatal_append (h : decodeFrame buffer = .fatal e) (more : List UInt8) :
    decodeFrame (buffer ++ more) = .fatal e := by
  obtain ⟨hheader, hbad, rfl⟩ := decodeFrame_fatal h
  have hlength : (buffer ++ more).length = buffer.length + more.length := List.length_append
  rw [decodeFrame, readUIntBE_append hheader]
  rw [if_neg (by omega), if_pos hbad]

end Decoder

def HostFrameDecoder : IncrementalParser UInt8 HostFrame String where
  parse := decodeFrame
  nil := rfl
  consumes h := by
    obtain ⟨-, rfl, hwhole, -, -⟩ := decodeFrame_item h
    omega
  item_append more h := decodeFrame_append h more
  fatal_append more h := decodeFrame_fatal_append h more

theorem parseFrame_eq (decodeStrict : List UInt8 → Option Proto.WireHello) (buf : List UInt8) :
    Proto.parseFrame decodeStrict buf = match decodeFrame buf with
      | .incomplete => .incomplete
      | .fatal _ => .fatal (if MaxFrame < readUIntBE 4 buf then EOversize else EBadFrame)
      | .item f n => match Proto.validate decodeStrict f.type f.payload with
        | some code => .fatal code
        | none => .item f n := by
  rw [Proto.parseFrame, decodeFrame]
  dsimp only
  have hlimit : HOST_FRAME_LIMIT = MaxFrame := rfl
  by_cases hshort : buf.length < 4
  · rw [if_pos hshort, if_pos hshort]
  rw [if_neg hshort, if_neg hshort]
  by_cases hover : MaxFrame < readUIntBE 4 buf
  · rw [if_pos hover, if_pos (.inr hover)]
    simp [hover]
  rw [if_neg hover]
  by_cases hempty : readUIntBE 4 buf < 1
  · rw [if_pos hempty, if_pos (.inl hempty)]
    simp [hover]
  have hgood : ¬ (readUIntBE 4 buf < 1 ∨ HOST_FRAME_LIMIT < readUIntBE 4 buf) := by omega
  rw [if_neg hempty, if_neg hgood, Nat.add_comm 4]
  by_cases hpartial : buf.length < readUIntBE 4 buf + 4
  · rw [if_pos hpartial, if_pos hpartial]
  · rw [if_neg hpartial, if_neg hpartial]

namespace Proto
variable {decodeStrict : List UInt8 → Option WireHello} {buf : List UInt8} {f : HostFrame} {n code : Nat}

theorem parseFrame_item (h : parseFrame decodeStrict buf = .item f n) :
    decodeFrame buf = .item f n ∧ validate decodeStrict f.type f.payload = none := by
  rw [parseFrame_eq] at h
  cases hdecode : decodeFrame buf with
  | incomplete => simp [hdecode] at h
  | fatal e => simp [hdecode] at h
  | item g k =>
    rw [hdecode] at h
    dsimp only at h
    cases hvalid : validate decodeStrict g.type g.payload with
    | some code => simp [hvalid] at h
    | none =>
      rw [hvalid] at h
      cases h
      exact ⟨rfl, hvalid⟩

/-- What `serve` does with the bytes of a connection. -/
def parser (decodeStrict : List UInt8 → Option WireHello) : IncrementalParser UInt8 HostFrame Nat where
  parse := parseFrame decodeStrict
  nil := rfl
  consumes h := HostFrameDecoder.consumes (parseFrame_item h).1
  item_append {buf f n} more h := by
    obtain ⟨hdecode, hvalid⟩ := parseFrame_item h
    rw [parseFrame_eq, decodeFrame_append hdecode more]
    dsimp only
    rw [hvalid]
  fatal_append {buf code} more h := by
    rw [parseFrame_eq] at h ⊢
    cases hdecode : decodeFrame buf with
    | incomplete => simp [hdecode] at h
    | fatal e =>
      rw [hdecode] at h
      rw [decodeFrame_fatal_append hdecode, readUIntBE_append (decodeFrame_fatal hdecode).1]
      exact h
    | item g k =>
      rw [hdecode] at h
      rw [decodeFrame_append hdecode]
      exact h

/-- The frames that go to `handle` as long as it keeps the connection, the code with which the connection ends, and
what is left of the buffer. -/
def serve (decodeStrict : List UInt8 → Option WireHello) (chunks : List (List UInt8)) :
    List HostFrame × Option Nat × List UInt8 :=
  (parser decodeStrict).feed [] chunks

end Proto

/-- The decoder drops the frames of a chunk in which it throws. -/
def decoded : List HostFrame × Option String × List UInt8 → Except String (List HostFrame) × List UInt8
  | (frames, none, rest) => (.ok frames, rest)
  | (_, some e, rest) => (.error e, rest)

theorem takeFrames_eq (fuel : Nat) (buffer : List UInt8) :
    takeFrames fuel buffer = decoded (HostFrameDecoder.drain fuel buffer) := by
  induction fuel generalizing buffer with
  | zero => rfl
  | succ fuel ih =>
    rw [takeFrames, IncrementalParser.drain, show HostFrameDecoder.parse buffer = decodeFrame buffer from rfl,
      decodeFrame]
    dsimp only
    split_ifs
    · rfl
    · rfl
    · rfl
    · dsimp only
      rw [ih]
      rcases HostFrameDecoder.drain fuel (buffer.drop (readUIntBE 4 buffer + 4)) with ⟨frames, failed, rest⟩
      cases failed with
      | none => rfl
      | some e => rfl

theorem push_eq (buffer chunk : List UInt8) : push buffer chunk = decoded (HostFrameDecoder.items (buffer ++ chunk)) :=
  takeFrames_eq _ _

theorem pushAll_eq (buffer : List UInt8) (chunks : List (List UInt8)) :
    pushAll buffer chunks = decoded (HostFrameDecoder.feed buffer chunks) := by
  induction chunks generalizing buffer with
  | nil => rfl
  | cons chunk chunks ih =>
    rw [pushAll, IncrementalParser.feed, push_eq]
    rcases HostFrameDecoder.items (buffer ++ chunk) with ⟨frames, failed, rest⟩
    cases failed with
    | none =>
      simp only [decoded]
      rw [ih]
      rcases HostFrameDecoder.feed rest chunks with ⟨frames', failed', rest'⟩
      cases failed' with
      | none => rfl
      | some e => rfl
    | some e => rfl

def BadLength (header : List UInt8) : Prop := readUIntBE 4 header < 1 ∨ HOST_FRAME_LIMIT < readUIntBE 4 header

section Streams
variable {decodeStrict : List UInt8 → Option Proto.WireHello} {frames : List HostFrame} {f : HostFrame}

theorem decodeFrame_bytes (h : f.Fits) (more : List UInt8) :
    decodeFrame (f.bytes ++ more) = .item f f.bytes.length := by
  have hlength : (f.bytes ++ more).length = f.payload.length + 5 + more.length := by
    rw [List.length_append, f.length_bytes]
  obtain ⟨htype, hpayload⟩ := f.parts_bytes more
  have hfits : f.payload.length + 1 ≤ HOST_FRAME_LIMIT := h
  rw [decodeFrame, HostFrame.readUIntBE_bytes h, if_neg (by omega), if_neg (by omega), if_neg (by omega), htype,
    hpayload, f.length_bytes]

theorem parseFrame_bytes (h : f.Fits) (more : List UInt8) :
    Proto.parseFrame decodeStrict (f.bytes ++ more) = match Proto.validate decodeStrict f.type f.payload with
      | some code => .fatal code
      | none => .item f f.bytes.length := by
  rw [parseFrame_eq, decodeFrame_bytes h]

theorem decodeFrame_bad {tail : List UInt8} (hheader : 4 ≤ tail.length) (hbad : BadLength tail) :
    decodeFrame tail = .fatal "invalid host frame length" := by
  rw [BadLength] at hbad
  rw [decodeFrame, if_neg (by omega), if_pos hbad]

end Streams

/-- What the two sides make of each other's frames. -/
structure FramingAgrees (decodeStrict : List UInt8 → Option Proto.WireHello) : Prop where
  /-- Within the limit the three encoders write the same bytes. -/
  encoders (type : UInt8) (payload : List UInt8) : payload.length + 1 ≤ HOST_FRAME_LIMIT →
    frame type.toNat payload = .ok (Proto.frame type payload) ∧ frameFor type payload = Proto.frame type payload
  /-- Past it the daemon's encoder throws. -/
  limit (type : UInt8) (payload : List UInt8) : HOST_FRAME_LIMIT < payload.length + 1 →
    frame type.toNat payload = .error "host frame exceeds limit"
  /-- The host takes a frame of the daemon as it is, unless it cannot use its payload. -/
  parsed (type : UInt8) (payload bytes more : List UInt8) : frame type.toNat payload = .ok bytes →
    Proto.parseFrame decodeStrict (bytes ++ more) = match Proto.validate decodeStrict type payload with
      | some code => .fatal code
      | none => .item ⟨type, payload⟩ bytes.length
  /-- So it does with a stream of frames, in any chunks. -/
  served (frames : List HostFrame) (chunks : List (List UInt8)) :
    (∀ f ∈ frames, f.Fits ∧ Proto.validate decodeStrict f.type f.payload = none) →
    chunks.flatten = frames.flatMap (fun f => frameFor f.type f.payload) →
      Proto.serve decodeStrict chunks = (frames, none, [])
  /-- The daemon takes the host's frames, whatever they carry, in any chunks. -/
  received (frames : List HostFrame) (chunks : List (List UInt8)) : (∀ f ∈ frames, f.Fits) →
    chunks.flatten = frames.flatMap (fun f => Proto.frame f.type f.payload) → pushAll [] chunks = (.ok frames, [])
  /-- The four bytes of a bad length are refused behind any frames, whatever comes after them. -/
  refused (frames : List HostFrame) (chunks : List (List UInt8)) (header : List UInt8) : (∀ f ∈ frames, f.Fits) →
    4 ≤ header.length → BadLength header →
    chunks.flatten = frames.flatMap (fun f => Proto.frame f.type f.payload) ++ header →
      (pushAll [] chunks).1 = .error "invalid host frame length" ∧
        ((∀ f ∈ frames, Proto.validate decodeStrict f.type f.payload = none) →
          (Proto.serve decodeStrict chunks).1 = frames ∧
            (Proto.serve decodeStrict chunks).2.1 =
              some (if MaxFrame < readUIntBE 4 header then EOversize else EBadFrame))

theorem frame_eq (f : HostFrame) : Proto.frame f.type f.payload = f.bytes := by
  simp [Proto.frame, HostFrame.bytes]

theorem frames_eq (frames : List HostFrame) :
    (frames.flatMap fun f => Proto.frame f.type f.payload) = frames.flatMap HostFrame.bytes :=
  List.flatMap_congr fun f _ => frame_eq f

theorem frame_toNat (type : UInt8) (payload : List UInt8) :
    frame type.toNat payload = if HOST_FRAME_LIMIT < payload.length + 1 then .error "host frame exceeds limit"
      else .ok (HostFrame.bytes ⟨type, payload⟩) := by
  have hbyte := type.toNat_lt
  rw [frame, if_neg (by omega)]
  simp [HostFrame.bytes]

/-- Frames are taken as they were written, on both sides. -/
theorem framing_agrees (decodeStrict : List UInt8 → Option Proto.WireHello) : FramingAgrees decodeStrict where
  encoders type payload hfits := by
    rw [frame_toNat, if_neg (Nat.not_lt.mpr hfits), ← frame_eq]
    exact ⟨rfl, by simp [frameFor, Proto.frame]⟩
  limit type payload hover := by
    rw [frame_toNat, if_pos hover]
  parsed type payload bytes more hframe := by
    rw [frame_toNat] at hframe
    split_ifs at hframe with hover
    cases hframe
    exact parseFrame_bytes (Nat.le_of_not_lt hover) more
  served frames chunks hvalid hchunks := by
    apply IncrementalParser.feed_of_items (Proto.parser decodeStrict).nil
    have hitems := (Proto.parser decodeStrict).items_encoded HostFrame.bytes
      (fun f hf more => (parseFrame_bytes (hvalid f hf).1 more).trans (by rw [(hvalid f hf).2])) []
    rw [List.append_nil, IncrementalParser.items_nil, List.append_nil] at hitems
    rw [List.nil_append, hchunks]
    exact hitems
  received frames chunks hfit hchunks := by
    have hitems := HostFrameDecoder.items_encoded HostFrame.bytes (fun f hf => decodeFrame_bytes (hfit f hf)) []
    rw [List.append_nil, IncrementalParser.items_nil, List.append_nil] at hitems
    rw [frames_eq] at hchunks
    rw [pushAll_eq, IncrementalParser.feed_of_items HostFrameDecoder.nil (hchunks ▸ hitems)]
    rfl
  refused frames chunks header hfit hlength hbad hchunks := by
    have hfatal := decodeFrame_bad hlength hbad
    rw [frames_eq] at hchunks
    refine ⟨?_, fun hvalid => ?_⟩
    · have hitems := HostFrameDecoder.items_encoded HostFrame.bytes (fun f hf => decodeFrame_bytes (hfit f hf)) header
      rw [@IncrementalParser.items_fatal _ _ _ HostFrameDecoder _ _ hfatal] at hitems
      obtain ⟨-, hfailed, -⟩ := IncrementalParser.feed_eq HostFrameDecoder.nil chunks
      rw [List.nil_append, hchunks, hitems] at hfailed
      rw [pushAll_eq]
      rcases hfeed : HostFrameDecoder.feed [] chunks with ⟨taken, failed, rest⟩
      rw [hfeed] at hfailed
      cases hfailed
      rfl
    · have hitems := (Proto.parser decodeStrict).items_encoded HostFrame.bytes
        (fun f hf more => (parseFrame_bytes (hfit f hf) more).trans (by rw [hvalid f hf])) header
      have hcode : Proto.parseFrame decodeStrict header =
          .fatal (if MaxFrame < readUIntBE 4 header then EOversize else EBadFrame) := by
        rw [parseFrame_eq, hfatal]
      rw [@IncrementalParser.items_fatal _ _ _ (Proto.parser decodeStrict) _ _ hcode, List.append_nil] at hitems
      obtain ⟨htaken, hfailed, -⟩ := IncrementalParser.feed_eq (Proto.parser decodeStrict).nil chunks
      rw [List.nil_append, hchunks, hitems] at htaken hfailed
      exact ⟨htaken, hfailed⟩

/-- The host ends the connection for a resize that says nothing. -/
theorem resize_refused : ¬ ∀ (decodeStrict : List UInt8 → Option Proto.WireHello) (type : UInt8)
    (payload bytes : List UInt8), frame type.toNat payload = .ok bytes →
      Proto.parseFrame decodeStrict bytes = .item ⟨type, payload⟩ bytes.length := by
  intro h
  have hframe : frame Proto.TResize.toNat [] = .ok [0, 0, 0, 1, 5] := by decide
  have hparse := h (fun _ => none) Proto.TResize [] [0, 0, 0, 1, 5] hframe
  have hcode : Proto.parseFrame (fun _ => none) [0, 0, 0, 1, 5] = .fatal EBadFrame := by decide
  rw [hcode] at hparse
  cases hparse

end Wardroom.Runtime.Host
