import Mathlib
import Wardroom.Library.Json

/-! # Frames between the daemon and a runtime host

A frame is its length, its type and its payload. The decoder keeps what is left
of a frame until the rest of it comes, so that the chunks in which a stream of
frames arrives do not matter.
-/

namespace Wardroom.Runtime.Host
open Wardroom.Library

def HOST_FRAME_LIMIT : Nat := 1048576

namespace HostType

def hello : UInt8 := 0x01
def helloAck : UInt8 := 0x02
def output : UInt8 := 0x03
def exit : UInt8 := 0x06
def error : UInt8 := 0x07
def ping : UInt8 := 0x08
def pong : UInt8 := 0x09
def deliverMessage : UInt8 := 0x0C
def deliverAck : UInt8 := 0x0D
def terminate : UInt8 := 0x0F
def terminateAck : UInt8 := 0x10

end HostType

structure HostFrame where
  type : UInt8
  payload : List UInt8
  deriving DecidableEq

def writeUInt32BE (n : Nat) : List UInt8 :=
  [(n / 2 ^ 24).toUInt8, (n / 2 ^ 16).toUInt8, (n / 2 ^ 8).toUInt8, n.toUInt8]

/-- The number that so many bytes are, the most significant first. -/
def readUIntBE (width : Nat) (bytes : List UInt8) : Nat :=
  (bytes.take width).foldl (fun n b => 256 * n + b.toNat) 0

@[simp] theorem length_writeUInt32BE (n : Nat) : (writeUInt32BE n).length = 4 := rfl

theorem readUIntBE_writeUInt32BE {n : Nat} (h : n < 2 ^ 32) (rest : List UInt8) :
    readUIntBE 4 (writeUInt32BE n ++ rest) = n := by
  simp [readUIntBE, writeUInt32BE]
  omega

/-- The bytes of a frame on the wire. -/
def HostFrame.bytes (f : HostFrame) : List UInt8 :=
  writeUInt32BE (f.payload.length + 1) ++ f.type :: f.payload

/-- The loop of `push`; each frame takes five bytes or more of the buffer. -/
def takeFrames : Nat → List UInt8 → Except String (List HostFrame) × List UInt8
  | 0, buffer => (.ok [], buffer)
  | fuel + 1, buffer =>
    let length := readUIntBE 4 buffer
    if buffer.length < 4 then (.ok [], buffer)
    else if length < 1 ∨ HOST_FRAME_LIMIT < length then (.error "invalid host frame length", buffer)
    else if buffer.length < length + 4 then (.ok [], buffer)
    else
      let rest := takeFrames fuel (buffer.drop (length + 4))
      (rest.1.map fun frames => ⟨buffer.getD 4 0, (buffer.take (length + 4)).drop 5⟩ :: frames, rest.2)

/-- The frames that a chunk completes, and what is left. -/
def push (buffer chunk : List UInt8) : Except String (List HostFrame) × List UInt8 :=
  takeFrames (buffer ++ chunk).length (buffer ++ chunk)

/-- What the encoder lets through. -/
def HostFrame.Fits (f : HostFrame) : Prop := f.payload.length + 1 ≤ HOST_FRAME_LIMIT

instance (f : HostFrame) : Decidable f.Fits := inferInstanceAs (Decidable (_ ≤ _))

def wire (frames : List HostFrame) : List UInt8 := frames.flatMap HostFrame.bytes

@[simp] theorem wire_nil : wire [] = [] := rfl

@[simp] theorem wire_cons (f : HostFrame) (frames : List HostFrame) : wire (f :: frames) = f.bytes ++ wire frames := rfl

theorem wire_append (frames frames' : List HostFrame) : wire (frames ++ frames') = wire frames ++ wire frames' :=
  List.flatMap_append

@[simp] theorem HostFrame.length_bytes (f : HostFrame) : f.bytes.length = f.payload.length + 5 := by
  simp only [HostFrame.bytes, List.length_append, length_writeUInt32BE, List.length_cons]
  omega

theorem HostFrame.readUIntBE_bytes {f : HostFrame} (h : f.Fits) (rest : List UInt8) :
    readUIntBE 4 (f.bytes ++ rest) = f.payload.length + 1 := by
  have hsmall : f.payload.length + 1 < 2 ^ 32 := by
    unfold Fits HOST_FRAME_LIMIT at h
    omega
  rw [HostFrame.bytes, List.append_assoc, readUIntBE_writeUInt32BE hsmall]

theorem readUIntBE_append {buffer : List UInt8} (h : 4 ≤ buffer.length) (rest : List UInt8) :
    readUIntBE 4 (buffer ++ rest) = readUIntBE 4 buffer := by
  rw [readUIntBE, List.take_append_of_le_length h, readUIntBE]

theorem HostFrame.parts_bytes (f : HostFrame) (rest : List UInt8) :
    (f.bytes ++ rest).getD 4 0 = f.type ∧ ((f.bytes ++ rest).take (f.payload.length + 5)).drop 5 = f.payload := by
  refine ⟨by simp [HostFrame.bytes, writeUInt32BE], ?_⟩
  rw [← f.length_bytes, List.take_left]
  simp [HostFrame.bytes, writeUInt32BE]

theorem takeFrames_wire {frames : List HostFrame} (hfit : ∀ f ∈ frames, f.Fits) :
    ∀ (fuel : Nat) (buffer rest : List UInt8), buffer.length ≤ fuel → buffer ++ rest = wire frames →
      ∃ k buffer', takeFrames fuel buffer = (.ok (frames.take k), buffer') ∧
        buffer' ++ rest = wire (frames.drop k) := by
  induction frames with
  | nil =>
    intro fuel buffer rest _ hwire
    obtain ⟨rfl, rfl⟩ := List.append_eq_nil_iff.mp hwire
    exact ⟨0, [], by cases fuel <;> rfl, rfl⟩
  | cons f frames ih =>
    intro fuel buffer rest hfuel hwire
    have hf : f.Fits := hfit f (List.mem_cons_self ..)
    rw [wire_cons] at hwire
    cases fuel with
    | zero => exact ⟨0, buffer, rfl, by simpa using hwire⟩
    | succ fuel =>
      by_cases hshort : buffer.length < 4
      · exact ⟨0, buffer, by simp [takeFrames, hshort], by simpa using hwire⟩
      have hlength : readUIntBE 4 buffer = f.payload.length + 1 := by
        rw [← readUIntBE_append (by omega) rest, hwire, HostFrame.readUIntBE_bytes hf]
      have hvalid : ¬(readUIntBE 4 buffer < 1 ∨ HOST_FRAME_LIMIT < readUIntBE 4 buffer) := by
        unfold HostFrame.Fits at hf
        omega
      by_cases hpartial : buffer.length < readUIntBE 4 buffer + 4
      · refine ⟨0, buffer, ?_, by simpa using hwire⟩
        rw [takeFrames]
        dsimp only
        rw [if_neg hshort, if_neg hvalid, if_pos hpartial]
        rfl
      have hprefix : f.bytes <+: buffer := by
        refine List.prefix_of_prefix_length_le (List.prefix_append _ _) (hwire ▸ List.prefix_append _ _) ?_
        rw [f.length_bytes]
        omega
      obtain ⟨buffer₁, rfl⟩ := hprefix
      have hrest : buffer₁ ++ rest = wire frames := by
        rw [List.append_assoc] at hwire
        exact List.append_cancel_left hwire
      have hfuel₁ : buffer₁.length ≤ fuel := by
        rw [List.length_append, f.length_bytes] at hfuel
        omega
      obtain ⟨k, buffer', htake, hafter⟩ :=
        ih (fun g hg => hfit g (List.mem_cons_of_mem _ hg)) fuel buffer₁ rest hfuel₁ hrest
      refine ⟨k + 1, buffer', ?_, hafter⟩
      have hdrop : (f.bytes ++ buffer₁).drop (f.payload.length + 1 + 4) = buffer₁ := by
        rw [show f.payload.length + 1 + 4 = f.bytes.length by rw [f.length_bytes], List.drop_left]
      obtain ⟨htype, hpayload⟩ := f.parts_bytes buffer₁
      rw [takeFrames]
      dsimp only
      rw [if_neg hshort, if_neg hvalid, if_neg hpartial, hlength, hdrop, htake, htype, hpayload]
      rfl

theorem push_wire {frames : List HostFrame} (hfit : ∀ f ∈ frames, f.Fits) {buffer chunk rest : List UInt8}
    (h : buffer ++ (chunk ++ rest) = wire frames) :
    ∃ k buffer', push buffer chunk = (.ok (frames.take k), buffer') ∧ buffer' ++ rest = wire (frames.drop k) :=
  takeFrames_wire hfit _ _ rest le_rfl (by rw [List.append_assoc, h])

structure HostHelloAck where
  version : Nat
  generation : Nat
  replayFrom : Nat
  head : Nat
  gap : Bool

structure HostOutput where
  cursor : Nat
  bytes : List UInt8
  deriving DecidableEq

structure HostError where
  code : Nat
  message : List UInt8
  deriving DecidableEq

inductive DeliveryOutcome where
  | written
  | duplicate
  | uncertain
  deriving DecidableEq

def DeliveryOutcome.name : DeliveryOutcome → String
  | .written => "written"
  | .duplicate => "duplicate"
  | .uncertain => "uncertain"

/-- The numbers are kept as their texts. -/
structure HostDeliveryAck where
  id : String
  generation : String
  outcome : DeliveryOutcome
  bytesWritten : String

def decodeHelloAck (payload : List UInt8) : Except String HostHelloAck :=
  if payload.length ≠ 23 then .error "invalid host HELLO_ACK"
  else .ok ⟨readUIntBE 2 payload, readUIntBE 4 (payload.drop 2), readUIntBE 8 (payload.drop 6),
    readUIntBE 8 (payload.drop 14), payload.getD 22 0 = 1⟩

def decodeOutput (payload : List UInt8) : Except String HostOutput :=
  if payload.length < 8 then .error "invalid host output"
  else .ok ⟨readUIntBE 8 payload, payload.drop 8⟩

/-- A signed number of 32 bits. -/
def decodeExit (payload : List UInt8) : Except String Int :=
  if payload.length ≠ 4 then .error "invalid host exit"
  else .ok (if readUIntBE 4 payload < 2 ^ 31 then readUIntBE 4 payload else (readUIntBE 4 payload : Int) - 2 ^ 32)

def decodeError (payload : List UInt8) : Except String HostError :=
  if payload.length < 2 then .error "invalid host error" else .ok ⟨readUIntBE 2 payload, payload.drop 2⟩

/-- The checks on what `JSON.parse` makes of the payload, if it does not throw. -/
def decodeDeliveryAck (parse : List UInt8 → Option Json) (payload : List UInt8) : Except String HostDeliveryAck :=
  match parse payload with
  | none => .error "Unexpected token"
  | some value =>
    match value.member "id", value.member "generation", value.member "outcome", value.member "bytesWritten" with
    | some (.str id), some (.num generation), some (.str outcome), some (.num bytesWritten) =>
      match [DeliveryOutcome.written, .duplicate, .uncertain].find? fun o => o.name = outcome with
      | some outcome => .ok ⟨id, generation, outcome, bytesWritten⟩
      | none => .error "invalid delivery outcome"
    | _, _, _, _ => .error "invalid delivery acknowledgement"

end Wardroom.Runtime.Host
