import Wardroom.Library.JsString
import Wardroom.Library.Trace
import Mathlib

/-! # The outgoing queue of a relay connection

A line is written at once while nothing waits, and otherwise waits for a drain
of the transport. A write that answers `false` has still taken the line: the
answer asks the writer to wait before the next one.
-/

namespace Wardroom.Federation
open Wardroom.Library

/-- The sending side of a connection, with the lines its transport has taken. -/
structure Outbox where
  maxQueuedFrames : Nat
  maxQueuedBytes : Nat
  outgoingQueue : List JsString
  queuedBytes : Nat
  destroyed : Bool
  accepted : List JsString

namespace Outbox

def fits (o : Outbox) (line : JsString) : Bool :=
  o.outgoingQueue.length + 1 ≤ o.maxQueuedFrames && o.queuedBytes + line.length ≤ o.maxQueuedBytes

/-- A queue that is full disconnects the slow peer. -/
def enqueue (o : Outbox) (line : JsString) : Outbox :=
  if o.fits line then
    { o with outgoingQueue := o.outgoingQueue ++ [line], queuedBytes := o.queuedBytes + line.length }
  else { o with destroyed := true }

/-- `duplex.write`: the transport takes the line whatever it answers, until it is destroyed. -/
def write (o : Outbox) (line : JsString) : Outbox :=
  if o.destroyed then o else { o with accepted := o.accepted ++ [line] }

/-- `ok` is the answer of the transport if it is written to. -/
def writeFrame (o : Outbox) (line : JsString) (ok : Bool) : Outbox :=
  if o.destroyed then o
  else if o.outgoingQueue ≠ [] then o.enqueue line
  else if ok then o.write line
  else (o.write line).enqueue line

/-- Write the waiting lines until the transport asks to wait again. -/
def flush (o : Outbox) : List JsString → List Bool → Outbox
  | [], _ => { o with outgoingQueue := [] }
  | next :: rest, oks =>
    let o := { o.write next with outgoingQueue := rest, queuedBytes := o.queuedBytes - next.length }
    if oks.headD true then flush o rest oks.tail else o

def flushQueue (o : Outbox) (oks : List Bool) : Outbox := o.flush o.outgoingQueue oks

end Outbox

/-- What happens to the sending side: a frame is sent, the transport drains, the connection fails. -/
inductive SendEvent where
  | send (line : JsString) (ok : Bool)
  | drain (oks : List Bool)
  | fail

/-- The sending side with the lines it was given while it was open. -/
structure Sending where
  outbox : Outbox
  sent : List JsString

def sendStep (s : Sending) : SendEvent → Sending
  | .send line ok =>
    ⟨s.outbox.writeFrame line ok, if s.outbox.destroyed then s.sent else s.sent ++ [line]⟩
  | .drain oks => { s with outbox := s.outbox.flushQueue oks }
  | .fail => { s with outbox := { s.outbox with destroyed := true } }

def sendStart (maxQueuedFrames maxQueuedBytes : Nat) : Sending :=
  ⟨⟨maxQueuedFrames, maxQueuedBytes, [], 0, false, []⟩, []⟩

/-- While the connection is open, each line sent has been taken once or waits once, in order, and
the count is that of the lines that wait. -/
structure OnceEach (s : Sending) : Prop where
  lines : s.outbox.destroyed = false → s.outbox.accepted ++ s.outbox.outgoingQueue = s.sent
  bytes : s.outbox.queuedBytes = (s.outbox.outgoingQueue.map List.length).sum
  bounded : s.outbox.queuedBytes ≤ s.outbox.maxQueuedBytes

/-- A line that is written at once is answered with `true`, or is longer than the queue may hold. -/
def WrittenAtOnce (s : Sending) : SendEvent → Prop
  | .send line ok => s.outbox.destroyed = false → s.outbox.outgoingQueue = [] →
      ok = true ∨ s.outbox.fits line = false
  | _ => True

/-- Nothing waits. -/
structure Idle (s : Sending) : Prop where
  queue : s.outbox.outgoingQueue = []
  bytes : s.outbox.queuedBytes = 0
  lines : s.outbox.destroyed = false → s.outbox.accepted = s.sent

theorem Idle.onceEach {s : Sending} (h : Idle s) : OnceEach s where
  lines hopen := by rw [h.queue, List.append_nil, h.lines hopen]
  bytes := by rw [h.bytes, h.queue]; rfl
  bounded := by rw [h.bytes]; exact Nat.zero_le _

theorem sendStep_idle {s : Sending} (h : Idle s) (event : SendEvent) (hevent : WrittenAtOnce s event) :
    Idle (sendStep s event) := by
  obtain ⟨⟨maxFrames, maxBytes, queue, bytes, destroyed, accepted⟩, sent⟩ := s
  obtain ⟨hqueue, hbytes, hlines⟩ := h
  change queue = [] at hqueue
  change bytes = 0 at hbytes
  subst hqueue hbytes
  cases event with
  | send line ok =>
    cases destroyed with
    | true => exact ⟨rfl, rfl, fun hopen => (nomatch hopen)⟩
    | false =>
      obtain rfl : accepted = sent := hlines rfl
      cases ok with
      | true => exact ⟨rfl, rfl, fun _ => rfl⟩
      | false =>
        rcases hevent rfl rfl with htrue | hfull
        · cases htrue
        · have hfailed : (Outbox.enqueue ⟨maxFrames, maxBytes, [], 0, false, accepted ++ [line]⟩ line) =
              ⟨maxFrames, maxBytes, [], 0, true, accepted ++ [line]⟩ :=
            if_neg (Bool.eq_false_iff.mp hfull)
          change Idle ⟨Outbox.enqueue ⟨maxFrames, maxBytes, [], 0, false, accepted ++ [line]⟩ line, _⟩
          rw [hfailed]
          exact ⟨rfl, rfl, fun hopen => (nomatch hopen)⟩
  | drain oks => exact ⟨rfl, rfl, hlines⟩
  | fail => exact ⟨rfl, rfl, fun hopen => (nomatch hopen)⟩

theorem writtenAtOnce_of_onceEach {s : Sending} (h : Idle s) {event : SendEvent}
    (hnext : OnceEach (sendStep s event)) : WrittenAtOnce s event := by
  obtain ⟨⟨maxFrames, maxBytes, queue, bytes, destroyed, accepted⟩, sent⟩ := s
  obtain ⟨hqueue, hbytes, hlines⟩ := h
  change queue = [] at hqueue
  change bytes = 0 at hbytes
  subst hqueue hbytes
  cases event with
  | send line ok =>
    intro hopen _
    change destroyed = false at hopen
    subst hopen
    obtain rfl : accepted = sent := hlines rfl
    cases ok with
    | true => exact .inl rfl
    | false =>
      right
      by_contra hfits
      let taken : Outbox := ⟨maxFrames, maxBytes, [], 0, false, accepted ++ [line]⟩
      have hroom : Outbox.fits ⟨maxFrames, maxBytes, [], 0, false, accepted⟩ line = true := by
        simpa using hfits
      have hwaits : taken.enqueue line =
          ⟨maxFrames, maxBytes, [line], 0 + line.length, false, accepted ++ [line]⟩ := if_pos hroom
      have htwice : (taken.enqueue line).destroyed = false →
          (taken.enqueue line).accepted ++ (taken.enqueue line).outgoingQueue = accepted ++ [line] :=
        hnext.lines
      rw [hwaits] at htwice
      replace htwice := htwice rfl
      simp at htwice
  | drain oks => trivial
  | fail => trivial

/-- Every line is sent once exactly in the runs in which the transport never asks to wait when it is
written to directly. -/
theorem onceEach_iff_writtenAtOnce (maxQueuedFrames maxQueuedBytes : Nat) (events : List SendEvent) :
    Trace.Meets sendStep WrittenAtOnce (sendStart maxQueuedFrames maxQueuedBytes) events ↔
      Trace.Meets sendStep (fun s event => OnceEach (sendStep s event))
        (sendStart maxQueuedFrames maxQueuedBytes) events := by
  have hidle : Idle (sendStart maxQueuedFrames maxQueuedBytes) := ⟨rfl, rfl, fun _ => rfl⟩
  generalize sendStart maxQueuedFrames maxQueuedBytes = s at hidle ⊢
  induction events generalizing s with
  | nil => exact Iff.rfl
  | cons event events ih =>
    constructor
    · rintro ⟨honce, hrest⟩
      have hnext := sendStep_idle hidle event honce
      exact ⟨hnext.onceEach, (ih _ hnext).mp hrest⟩
    · rintro ⟨hnext, hrest⟩
      have honce := writtenAtOnce_of_onceEach hidle hnext
      exact ⟨honce, (ih _ (sendStep_idle hidle event honce)).mpr hrest⟩

/-- The transport asks to wait after the first of two frames; the first is sent twice. -/
theorem onceEach_fails :
    (Trace.run sendStep (sendStart 256 1048576)
        [.send [1] false, .send [2] true, .drain [true, true]]).outbox.accepted = [[1], [1], [2]] ∧
      ¬Trace.Meets sendStep (fun s event => OnceEach (sendStep s event)) (sendStart 256 1048576)
        [.send [1] false, .send [2] true, .drain [true, true]] := by
  refine ⟨by decide, fun h => ?_⟩
  have htwice := h.1.lines rfl
  exact absurd htwice (by decide)

end Wardroom.Federation
