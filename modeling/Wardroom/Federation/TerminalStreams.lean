import Mathlib
import Wardroom.Federation.RelayConnection
import Wardroom.Library.Table
import Wardroom.Library.Trace

/-! # Terminal streams

The handler of one relay connection attaches its streams to the runtimes of this
machine. What happens while it waits for a runtime may take the stream from it.
-/

namespace Wardroom.Federation
open Wardroom.Library

structure TerminalOpen where
  streamId : String
  homeAuthorityId : String
  sessionId : String
  deriving DecidableEq

structure TerminalCapability where
  capabilityId : String
  runtimeId : String
  generation : Int
  channelId : String
  actions : List String
  expiresAt : Int
  deriving DecidableEq

/-- What the runtime service knows of the runtime of a session. -/
structure SessionRuntime where
  runtimeId : String
  generation : Int
  homeAuthorityId : String
  channelId : Option String
  deriving DecidableEq

/-- The fields of a `terminalInput` or `terminalResize` that are checked. -/
structure TerminalBinding where
  streamId : String
  homeAuthorityId : String
  capabilityId : String
  runtimeId : String
  sessionId : String
  generation : Int
  deriving DecidableEq

/-- A frame of the peer. A `terminalOpen` comes with what its capability is verified to, with what the runtime
service resolves, and with its error when the capability has been used. -/
inductive TerminalFrame where
  | terminalOpen (frame : TerminalOpen) (verified : Except String TerminalCapability)
      (resolved : Except String SessionRuntime) (consumed : Except String Unit)
  | terminalInput (frame : TerminalBinding)
  | terminalResize (frame : TerminalBinding)
  | terminalDetach (streamId homeAuthorityId : String)
  | other (streamId : String)

structure StreamState where
  frame : TerminalOpen
  capability : TerminalCapability
  runtimeId : String
  generation : Int
  session : Nat
  deriving DecidableEq

def StreamState.streamId (state : StreamState) : String := state.frame.streamId

inductive AttachStatus where
  | awaited
  | refused
  | attached
  | detached
  deriving DecidableEq

/-- A call of `attachInteractive`. The stream is closed when the peer detaches it, or with the connection. -/
structure RuntimeAttach where
  state : StreamState
  status : AttachStatus
  closed : Bool
  deriving DecidableEq

structure ForwardedInput where
  session : Nat
  afterClose : Bool
  deriving DecidableEq

/-- The handler with the connection it serves. The calls of `attachInteractive` are numbered by their sessions, and
`thrown` are the errors that have not reached the connection. -/
structure TerminalHandler where
  homeAuthorityId : String
  relay : RelayConnectionState
  peerAuthorityId : Option String
  streams : Table StreamState.streamId
  attaches : List RuntimeAttach
  thrown : List String
  inputs : List ForwardedInput

inductive TerminalEvent where
  /-- `handleTerminal`, as far as its first `await`. -/
  | frame (now : Int) (frame : TerminalFrame)
  /-- `attachInteractive` has returned. The frames that follow may overflow the queue of the connection. -/
  | attached (session : Nat) (writes : List Bool)
  | refused (session : Nat) (message : String)
  /-- `onClose`. -/
  | hostClosed (session : Nat)
  /-- What a session reports is sent, or the answer to an input or a resize. -/
  | reported (overflow : Bool)
  | failed (message : String)
  /-- A thrown error reaches the connection. -/
  | rejected
  | drain
  | close

namespace TerminalHandler

/-- `createTerminalRuntimeHandler`, on a connection that is established. -/
def create (homeAuthorityId : String) (peerAuthorityId : Option String) : TerminalHandler :=
  ⟨homeAuthorityId, .connected, peerAuthorityId, .empty, [], [], []⟩

def detach (s : TerminalHandler) (streamId : String) : TerminalHandler :=
  match s.streams.find? streamId with
  | none => s
  | some state => { s with
      streams := s.streams.delete fun st => st.streamId = streamId
      attaches := s.attaches.modify state.session fun a => { a with status := .detached } }

def connectionClosed (s : TerminalHandler) : TerminalHandler :=
  (s.streams.rows.map StreamState.streamId).foldl detach s

def closeStreams (s : TerminalHandler) (p : String → Bool) : TerminalHandler :=
  { s with attaches := s.attaches.map fun a => if p a.state.streamId then { a with closed := true } else a }

/-- A connection ends once. -/
def fail (s : TerminalHandler) : TerminalHandler :=
  if s.relay = .closed then s else ({ s with relay := .closed }.closeStreams fun _ => true).connectionClosed

def throws (s : TerminalHandler) (message : String) : TerminalHandler := { s with thrown := s.thrown ++ [message] }

/-- A full queue ends the connection. -/
def sendTerminal (s : TerminalHandler) (overflow : Bool) : Except String TerminalHandler :=
  if s.relay ≠ .connected ∧ s.relay ≠ .draining then .error "connection is not available"
  else .ok (if overflow then s.fail else s)

def sendAll (s : TerminalHandler) : List Bool → TerminalHandler
  | [] => s
  | overflow :: rest =>
    match s.sendTerminal overflow with
    | .error message => s.throws message
    | .ok s => sendAll s rest

/-- `if (c) throw new Error(message)`. -/
def refuseIf (c : Prop) [Decidable c] (message : String) : Except String Unit := if c then .error message else .ok ()

def assertCommon (s : TerminalHandler) (homeAuthorityId : String) : Except String Unit := do
  refuseIf (homeAuthorityId ≠ s.homeAuthorityId) "wrong terminal home authority"
  refuseIf (s.relay ≠ .connected) "terminal relay is not connected"

def assertCapability (s : TerminalHandler) (frame : TerminalBinding) (state : StreamState) (action : String)
    (now : Int) : Except String Unit := do
  s.assertCommon frame.homeAuthorityId
  refuseIf (frame.capabilityId ≠ state.capability.capabilityId) "terminal capability mismatch"
  refuseIf (frame.runtimeId ≠ state.runtimeId ∨ frame.sessionId ≠ state.frame.sessionId ∨
    frame.generation ≠ state.generation) "stale terminal stream binding"
  refuseIf (action ∉ state.capability.actions) "terminal capability action mismatch"
  refuseIf (state.capability.expiresAt ≤ now) "terminal capability expired"

def terminalOpen (s : TerminalHandler) (frame : TerminalOpen) (verified : Except String TerminalCapability)
    (resolved : Except String SessionRuntime) (consumed : Except String Unit) : Except String TerminalHandler := do
  s.assertCommon frame.homeAuthorityId
  refuseIf (s.peerAuthorityId.all (· = "")) "terminal relay peer is not authenticated"
  let capability ← verified
  refuseIf (s.streams.has frame.streamId) "duplicate terminal stream"
  let runtime ← resolved
  refuseIf (runtime.runtimeId ≠ capability.runtimeId ∨ runtime.generation ≠ capability.generation)
    "stale terminal capability binding"
  refuseIf (runtime.channelId ≠ some capability.channelId) "terminal capability channel binding mismatch"
  refuseIf (runtime.homeAuthorityId ≠ frame.homeAuthorityId) "session runtime is homed by another authority"
  consumed
  return { s with attaches := s.attaches ++
    [⟨⟨frame, capability, runtime.runtimeId, runtime.generation, s.attaches.length⟩, .awaited, false⟩] }

/-- `streams.get`, on the one connection of this handler. -/
def stream (s : TerminalHandler) (streamId : String) : Except String StreamState :=
  match s.streams.find? streamId with
  | none => .error "unknown terminal stream"
  | some state => .ok state

def terminalInput (s : TerminalHandler) (frame : TerminalBinding) (now : Int) : Except String TerminalHandler := do
  let state ← s.stream frame.streamId
  s.assertCapability frame state "input" now
  let afterClose := s.attaches[state.session]?.any RuntimeAttach.closed
  return { s with inputs := s.inputs ++ [⟨state.session, afterClose⟩] }

def terminalResize (s : TerminalHandler) (frame : TerminalBinding) (now : Int) : Except String TerminalHandler := do
  let state ← s.stream frame.streamId
  s.assertCapability frame state "resize" now
  return s

/-- The answer to a detach is sent with `reported`. -/
def terminalDetach (s : TerminalHandler) (streamId homeAuthorityId : String) : Except String TerminalHandler := do
  let _ ← s.stream streamId
  s.assertCommon homeAuthorityId
  return (s.closeStreams fun id => id = streamId).detach streamId

def handleTerminal (s : TerminalHandler) (now : Int) : TerminalFrame → Except String TerminalHandler
  | .terminalOpen frame verified resolved consumed => s.terminalOpen frame verified resolved consumed
  | .terminalInput frame => s.terminalInput frame now
  | .terminalResize frame => s.terminalResize frame now
  | .terminalDetach streamId homeAuthorityId => s.terminalDetach streamId homeAuthorityId
  | .other streamId => (s.stream streamId).map fun _ => s

def setAttach (s : TerminalHandler) (session : Nat) (status : AttachStatus) : TerminalHandler :=
  { s with attaches := s.attaches.modify session fun a => { a with status := status } }

/-- The stream is entered, whoever has it now. -/
def attached (s : TerminalHandler) (session : Nat) (a : RuntimeAttach) (writes : List Bool) : TerminalHandler :=
  sendAll { s.setAttach session .attached with streams := s.streams.upsert a.state } writes

/-- The call of `attachInteractive` that is still awaited. -/
def awaited (s : TerminalHandler) (session : Nat) : Option RuntimeAttach :=
  s.attaches[session]?.filter fun a => a.status = .awaited

def step (s : TerminalHandler) : TerminalEvent → TerminalHandler
  | .frame now frame =>
    match s.handleTerminal now frame with
    | .error message => s.throws message
    | .ok s => s
  | .attached session writes =>
    match s.awaited session with
    | none => s
    | some a => s.attached session a writes
  | .refused session message =>
    match s.awaited session with
    | none => s
    | some _ => (s.setAttach session .refused).throws message
  | .hostClosed session =>
    match s.attaches[session]? with
    | none => s
    | some a => { s with streams := s.streams.delete fun st => st.streamId = a.state.streamId }
  | .reported overflow => s.sendAll [overflow]
  | .failed message => s.throws message
  | .rejected =>
    match s.thrown with
    | [] => s
    | _ :: rest => { s with thrown := rest }.fail
  | .drain => if s.relay = .connected then { s with relay := .draining } else s
  | .close => s.fail

/-- Nothing leaks. -/
structure Contained (s : TerminalHandler) : Prop where
  detached : s.relay = .closed → ∀ a ∈ s.attaches, a.status ≠ .attached
  single : ∀ (i j : Nat) (a b : RuntimeAttach), s.attaches[i]? = some a → s.attaches[j]? = some b →
    a.status = .attached → b.status = .attached → a.state.streamId = b.state.streamId → i = j
  inputs : ∀ input ∈ s.inputs, input.afterClose = false

/-- A runtime answers while its stream is wanted and free, and a host closes its side of a session when nothing is
entered under the stream of the session any more. -/
def Unraced (s : TerminalHandler) : TerminalEvent → Prop
  | .attached session _ => ∀ a ∈ s.awaited session, a.closed = false ∧ s.streams.find? a.state.streamId = none
  | .hostClosed session => ∀ a ∈ s.attaches[session]?, s.streams.find? a.state.streamId = none
  | _ => True

instance (s : TerminalHandler) : ∀ event, Decidable (Unraced s event)
  | .attached session _ =>
    inferInstanceAs (Decidable (∀ a ∈ s.awaited session, a.closed = false ∧ s.streams.find? a.state.streamId = none))
  | .hostClosed session =>
    inferInstanceAs (Decidable (∀ a ∈ s.attaches[session]?, s.streams.find? a.state.streamId = none))
  | .frame _ _ | .refused _ _ | .reported _ | .failed _ | .rejected | .drain | .close => isTrue trivial

/-- The attached sessions are those that are entered. -/
structure Entered (s : TerminalHandler) : Prop where
  entry : ∀ st ∈ s.streams.rows, ∃ a, s.attaches[st.session]? = some a ∧ a.state = st ∧ a.status = .attached
  live : ∀ a ∈ s.attaches, a.status = .attached → a.state ∈ s.streams.rows
  index : ∀ (k : Nat) a, s.attaches[k]? = some a → a.state.session = k

structure Kept (s : TerminalHandler) : Prop where
  entered : Entered s
  wanted : ∀ a ∈ s.attaches, a.status = .attached → a.closed = false
  ended : s.relay = .closed → s.streams.rows = [] ∧ ∀ a ∈ s.attaches, a.closed = true
  inputs : ∀ input ∈ s.inputs, input.afterClose = false

variable {s : TerminalHandler} {streamId : String}

theorem Kept.contained (h : Kept s) : Contained s where
  detached hclosed a ha hattached := by
    have hmem := h.entered.live a ha hattached
    rw [(h.ended hclosed).1] at hmem
    cases hmem
  single i j a b ha hb hlive hlive' hsame := by
    have hstate := Table.eq_of_key (h.entered.live a (List.mem_of_getElem? ha) hlive)
      (h.entered.live b (List.mem_of_getElem? hb) hlive') hsame
    rw [← h.entered.index i a ha, ← h.entered.index j b hb, hstate]
  inputs := h.inputs

theorem rows_detach (s : TerminalHandler) (streamId : String) :
    (s.detach streamId).streams.rows = s.streams.rows.filter fun st => !decide (st.streamId = streamId) := by
  unfold detach
  cases hfind : s.streams.find? streamId with
  | none =>
    symm
    apply List.filter_eq_self.mpr
    intro st hst
    simpa using Table.find?_none.mp hfind st hst
  | some state => rfl

variable {a : RuntimeAttach} {session : Nat}

theorem mem_modify_status {attaches : List RuntimeAttach} {status : AttachStatus} {k : Nat}
    (h : (attaches.modify session fun a => { a with status := status })[k]? = some a) :
    ∃ b, attaches[k]? = some b ∧ b.state = a.state ∧ b.closed = a.closed ∧
      a.status = if session = k then status else b.status := by
  rw [List.getElem?_modify, Option.map_eq_map, Option.map_eq_some_iff] at h
  obtain ⟨b, hb, rfl⟩ := h
  refine ⟨b, hb, ?_⟩
  split_ifs <;> simp

theorem getElem?_modify_other {attaches : List RuntimeAttach} {session k : Nat} {status : AttachStatus}
    (hk : session ≠ k) : (attaches.modify session fun a => { a with status := status })[k]? = attaches[k]? := by
  simp [hk]

theorem Entered.detach (h : Entered s) (streamId : String) : Entered (s.detach streamId) := by
  cases hfind : s.streams.find? streamId with
  | none =>
    rw [TerminalHandler.detach, hfind]
    exact h
  | some state =>
    obtain ⟨hstate, hkey⟩ := Table.find?_some hfind
    have hrows := rows_detach s streamId
    have hattaches : (s.detach streamId).attaches =
        s.attaches.modify state.session fun a => { a with status := .detached } := by
      rw [TerminalHandler.detach, hfind]
    obtain ⟨own, hown, hownState, -⟩ := h.entry state hstate
    constructor
    · intro st hst
      rw [hrows, List.mem_filter] at hst
      obtain ⟨a, ha, rfl, hlive⟩ := h.entry st hst.1
      have hother : state.session ≠ a.state.session := by
        intro hsame
        rw [← hsame, hown, Option.some.injEq] at ha
        rw [← ha, hownState, hkey] at hst
        simp at hst
      refine ⟨a, ?_, rfl, hlive⟩
      rw [hattaches, getElem?_modify_other hother, ha]
    · intro a ha hlive
      rw [hattaches] at ha
      obtain ⟨k, hk⟩ := List.mem_iff_getElem?.mp ha
      obtain ⟨b, hb, hsame, -, hstatus⟩ := mem_modify_status hk
      split_ifs at hstatus with hsession
      · rw [hstatus] at hlive
        cases hlive
      · have hmem := h.live b (List.mem_of_getElem? hb) (hstatus.symm.trans hlive)
        rw [hrows, List.mem_filter, ← hsame]
        refine ⟨hmem, ?_⟩
        rw [Bool.not_eq_true', decide_eq_false_iff_not]
        intro hid
        have heq := Table.eq_of_key hmem hstate (hid.trans hkey.symm)
        exact hsession ((congrArg StreamState.session heq).symm.trans (h.index k b hb))
    · intro k a ha
      rw [hattaches] at ha
      obtain ⟨b, hb, hsame, -⟩ := mem_modify_status ha
      rw [← hsame]
      exact h.index k b hb

theorem mem_detach (h : a ∈ (s.detach streamId).attaches) :
    ∃ b ∈ s.attaches, b.state = a.state ∧ b.closed = a.closed ∧ (a.status = .attached → b.status = .attached) := by
  unfold detach at h
  cases hfind : s.streams.find? streamId with
  | none =>
    rw [hfind] at h
    exact ⟨a, h, rfl, rfl, id⟩
  | some state =>
    rw [hfind] at h
    obtain ⟨k, hk⟩ := List.mem_iff_getElem?.mp h
    obtain ⟨b, hb, hstate, hclosed, hstatus⟩ := mem_modify_status hk
    refine ⟨b, List.mem_of_getElem? hb, hstate, hclosed, ?_⟩
    rw [hstatus]
    split_ifs <;> simp

theorem closed_detach (h : ∀ a ∈ s.attaches, a.closed = true) (streamId : String) :
    ∀ a ∈ (s.detach streamId).attaches, a.closed = true := by
  intro a ha
  obtain ⟨b, hb, -, hclosed, -⟩ := mem_detach ha
  rw [← hclosed]
  exact h b hb

@[simp] theorem inputs_detach (s : TerminalHandler) (streamId : String) : (s.detach streamId).inputs = s.inputs := by
  unfold detach
  cases s.streams.find? streamId <;> rfl

@[simp] theorem relay_detach (s : TerminalHandler) (streamId : String) : (s.detach streamId).relay = s.relay := by
  unfold detach
  cases s.streams.find? streamId <;> rfl

/-- What the closing of some streams leaves. -/
structure Cleared (s s' : TerminalHandler) (ids : List String) : Prop where
  entered : Entered s'
  closed : ∀ a ∈ s'.attaches, a.closed = true
  rows : ∀ st ∈ s'.streams.rows, st ∈ s.streams.rows ∧ st.streamId ∉ ids
  inputs : s'.inputs = s.inputs

theorem cleared_foldl (h : Entered s) (hclosed : ∀ a ∈ s.attaches, a.closed = true) (ids : List String) :
    Cleared s (ids.foldl TerminalHandler.detach s) ids := by
  induction ids generalizing s with
  | nil => exact ⟨h, hclosed, fun st hst => ⟨hst, List.not_mem_nil⟩, rfl⟩
  | cons id ids ih =>
    obtain ⟨hentered, hall, hrows, hinputs⟩ := ih (h.detach id) (closed_detach hclosed id)
    refine ⟨hentered, hall, ?_, by rw [List.foldl_cons, hinputs, inputs_detach]⟩
    intro st hst
    obtain ⟨hmem, hid⟩ := hrows st hst
    rw [rows_detach, List.mem_filter] at hmem
    refine ⟨hmem.1, ?_⟩
    rw [List.mem_cons, not_or]
    exact ⟨by simpa using hmem.2, hid⟩

theorem Entered.closeStreams (h : Entered s) (p : String → Bool) : Entered (s.closeStreams p) := by
  have hget : ∀ (k : Nat) a, (s.closeStreams p).attaches[k]? = some a →
      ∃ b, s.attaches[k]? = some b ∧ b.state = a.state ∧ b.status = a.status := by
    intro k a ha
    rw [TerminalHandler.closeStreams, List.getElem?_map, Option.map_eq_some_iff] at ha
    obtain ⟨b, hb, rfl⟩ := ha
    refine ⟨b, hb, ?_⟩
    split_ifs <;> simp
  constructor
  · intro st hst
    obtain ⟨a, ha, rfl, hlive⟩ := h.entry st hst
    refine ⟨_, by rw [TerminalHandler.closeStreams, List.getElem?_map, ha]; rfl, ?_⟩
    dsimp only
    split_ifs <;> simp [hlive]
  · intro a ha hlive
    obtain ⟨k, hk⟩ := List.mem_iff_getElem?.mp ha
    obtain ⟨b, hb, hstate, hstatus⟩ := hget k a hk
    rw [← hstate]
    exact h.live b (List.mem_of_getElem? hb) (hstatus.trans hlive)
  · intro k a ha
    obtain ⟨b, hb, hstate, -⟩ := hget k a ha
    rw [← hstate]
    exact h.index k b hb

/-- When the connection ends everything is detached. -/
theorem Kept.fail (h : Kept s) : Kept s.fail := by
  unfold TerminalHandler.fail
  split_ifs with hrelay
  · exact h
  · set t := ({ s with relay := .closed } : TerminalHandler).closeStreams fun _ => true with ht
    have hclosed : ∀ a ∈ t.attaches, a.closed = true := by
      intro a ha
      rw [ht, TerminalHandler.closeStreams, List.mem_map] at ha
      obtain ⟨b, -, rfl⟩ := ha
      rfl
    have hentered : Entered t := Entered.closeStreams (s := { s with relay := .closed }) ⟨h.entered.entry, h.entered.live,
      h.entered.index⟩ _
    obtain ⟨hdone, hall, hrows, hinputs⟩ := cleared_foldl hentered hclosed (t.streams.rows.map StreamState.streamId)
    have hempty : t.connectionClosed.streams.rows = [] := by
      apply List.eq_nil_iff_forall_not_mem.mpr
      intro st hst
      obtain ⟨hmem, hid⟩ := hrows st hst
      exact hid (List.mem_map_of_mem hmem)
    refine ⟨hdone, ?_, fun _ => ⟨hempty, hall⟩, ?_⟩
    · intro a ha hlive
      have hmem := hdone.live a ha hlive
      rw [TerminalHandler.connectionClosed] at hempty
      rw [hempty] at hmem
      cases hmem
    · rw [TerminalHandler.connectionClosed, hinputs]
      exact h.inputs

theorem Kept.throws (h : Kept s) (message : String) : Kept (s.throws message) :=
  ⟨⟨h.entered.entry, h.entered.live, h.entered.index⟩, h.wanted, h.ended, h.inputs⟩

theorem Kept.sendAll (h : Kept s) (writes : List Bool) : Kept (s.sendAll writes) := by
  induction writes generalizing s with
  | nil => exact h
  | cons overflow rest ih =>
    rw [TerminalHandler.sendAll, TerminalHandler.sendTerminal]
    split_ifs with hrelay hfull
    · exact h.throws _
    · exact ih h.fail
    · exact ih h

/-- The call of `attachInteractive` is made. -/
theorem Kept.opened (h : Kept s) (hrelay : s.relay = .connected) {state : StreamState}
    (hsession : state.session = s.attaches.length) :
    Kept { s with attaches := s.attaches ++ [⟨state, .awaited, false⟩] } := by
  refine ⟨⟨?_, ?_, ?_⟩, ?_, ?_, h.inputs⟩
  · intro st hst
    obtain ⟨a, ha, hstate, hlive⟩ := h.entered.entry st hst
    refine ⟨a, ?_, hstate, hlive⟩
    rw [List.getElem?_append_left (List.getElem?_eq_some_iff.mp ha).1, ha]
  · intro a ha hlive
    rcases List.mem_append.mp ha with ha | ha
    · exact h.entered.live a ha hlive
    · rw [List.mem_singleton] at ha
      rw [ha] at hlive
      cases hlive
  · intro k a ha
    rw [List.getElem?_append] at ha
    split_ifs at ha with hk
    · exact h.entered.index k a ha
    · obtain ⟨hlt, rfl⟩ := List.getElem?_eq_some_iff.mp ha
      rw [List.getElem_singleton]
      rw [List.length_singleton] at hlt
      dsimp only
      omega
  · intro a ha hlive
    rcases List.mem_append.mp ha with ha | ha
    · exact h.wanted a ha hlive
    · rw [List.mem_singleton] at ha
      rw [ha]
  · intro hclosed
    dsimp only at hclosed
    rw [hrelay] at hclosed
    cases hclosed

theorem refuseIf_ok {c : Prop} [Decidable c] {message : String} {u : Unit} (h : refuseIf c message = .ok u) : ¬c := by
  intro hc
  rw [refuseIf, if_pos hc] at h
  cases h

theorem assertCommon_ok {homeAuthorityId : String} {u : Unit} (h : s.assertCommon homeAuthorityId = .ok u) :
    s.relay = .connected := by
  obtain ⟨_, _, h⟩ := bind_eq_ok h
  simpa using refuseIf_ok h

variable {s' : TerminalHandler}

theorem terminalOpen_ok {frame : TerminalOpen} {verified : Except String TerminalCapability}
    {resolved : Except String SessionRuntime} {consumed : Except String Unit}
    (h : s.terminalOpen frame verified resolved consumed = .ok s') :
    s.relay = .connected ∧ ∃ state : StreamState, state.session = s.attaches.length ∧
      s' = { s with attaches := s.attaches ++ [⟨state, .awaited, false⟩] } := by
  obtain ⟨_, hcommon, h⟩ := bind_eq_ok h
  obtain ⟨_, _, h⟩ := bind_eq_ok h
  obtain ⟨capability, _, h⟩ := bind_eq_ok h
  obtain ⟨_, _, h⟩ := bind_eq_ok h
  obtain ⟨runtime, _, h⟩ := bind_eq_ok h
  obtain ⟨_, _, h⟩ := bind_eq_ok h
  obtain ⟨_, _, h⟩ := bind_eq_ok h
  obtain ⟨_, _, h⟩ := bind_eq_ok h
  obtain ⟨_, _, h⟩ := bind_eq_ok h
  exact ⟨assertCommon_ok hcommon, _, rfl, (Except.ok.inj h).symm⟩

theorem stream_ok {state : StreamState} (h : s.stream streamId = .ok state) :
    state ∈ s.streams.rows ∧ state.streamId = streamId := by
  unfold stream at h
  cases hfind : s.streams.find? streamId with
  | none =>
    rw [hfind] at h
    cases h
  | some found =>
    rw [hfind] at h
    cases h
    exact Table.find?_some hfind

theorem Kept.terminalInput (h : Kept s) {frame : TerminalBinding} {now : Int}
    (hok : s.terminalInput frame now = .ok s') : Kept s' := by
  obtain ⟨state, hstream, hok⟩ := bind_eq_ok hok
  obtain ⟨_, _, hok⟩ := bind_eq_ok hok
  obtain rfl := Except.ok.inj hok
  refine ⟨⟨h.entered.entry, h.entered.live, h.entered.index⟩, h.wanted, h.ended, ?_⟩
  intro input hinput
  rcases List.mem_append.mp hinput with hinput | hinput
  · exact h.inputs input hinput
  · obtain ⟨a, ha, -, hlive⟩ := h.entered.entry state (stream_ok hstream).1
    rw [List.mem_singleton] at hinput
    rw [hinput, ha]
    exact h.wanted a (List.mem_of_getElem? ha) hlive

/-- A stream is detached as it is closed. -/
theorem Kept.detach (h : Kept s) (hrelay : s.relay = .connected) (streamId : String) :
    Kept ((s.closeStreams fun id => id = streamId).detach streamId) := by
  have hentered := (h.entered.closeStreams fun id => id = streamId).detach streamId
  refine ⟨hentered, ?_, ?_, ?_⟩
  · intro a ha hlive
    have hmem := hentered.live a ha hlive
    rw [rows_detach, List.mem_filter] at hmem
    have hother : a.state.streamId ≠ streamId := by simpa using hmem.2
    obtain ⟨b, hb, hstate, hclosed, hattached⟩ := mem_detach ha
    obtain ⟨c, hc, rfl⟩ := List.mem_map.mp hb
    rw [← hclosed]
    split_ifs at hstate hattached ⊢ with hid
    · rw [decide_eq_true_eq] at hid
      exact absurd ((congrArg StreamState.streamId hstate).symm.trans hid) hother
    · exact h.wanted c hc (hattached hlive)
  · intro hclosed
    rw [relay_detach] at hclosed
    exact absurd (hrelay.symm.trans hclosed) (by simp)
  · rw [inputs_detach]
    exact h.inputs

theorem Kept.handleTerminal (h : Kept s) {now : Int} {frame : TerminalFrame}
    (hok : s.handleTerminal now frame = .ok s') : Kept s' := by
  cases frame with
  | terminalOpen frame verified resolved consumed =>
    obtain ⟨hrelay, state, hsession, rfl⟩ := terminalOpen_ok hok
    exact h.opened hrelay hsession
  | terminalInput frame => exact h.terminalInput hok
  | terminalResize frame =>
    obtain ⟨_, _, hok⟩ := bind_eq_ok hok
    obtain ⟨_, _, hok⟩ := bind_eq_ok hok
    obtain rfl := Except.ok.inj hok
    exact h
  | terminalDetach streamId homeAuthorityId =>
    obtain ⟨_, _, hok⟩ := bind_eq_ok hok
    obtain ⟨_, hcommon, hok⟩ := bind_eq_ok hok
    obtain rfl := Except.ok.inj hok
    exact h.detach (assertCommon_ok hcommon) streamId
  | other streamId =>
    obtain ⟨_, _, rfl⟩ := map_eq_ok hok
    exact h

theorem awaited_some (h : s.awaited session = some a) :
    s.attaches[session]? = some a ∧ a.status = .awaited := by
  simpa [awaited] using h

/-- A session that is not attached is given another status than that. -/
theorem Kept.refused (h : Kept s) (ha : s.awaited session = some a) :
    Kept (s.setAttach session .refused) := by
  obtain ⟨hget, hawaited⟩ := awaited_some ha
  have hback : ∀ b ∈ (s.setAttach session .refused).attaches, ∃ c ∈ s.attaches, c.state = b.state ∧
      c.closed = b.closed ∧ (b.status = .attached → c.status = .attached) := by
    intro b hb
    obtain ⟨k, hk⟩ := List.mem_iff_getElem?.mp hb
    obtain ⟨c, hc, hstate, hclosed, hstatus⟩ := mem_modify_status hk
    refine ⟨c, List.mem_of_getElem? hc, hstate, hclosed, ?_⟩
    rw [hstatus]
    split_ifs <;> simp
  refine ⟨⟨?_, ?_, ?_⟩, ?_, ?_, h.inputs⟩
  · intro st hst
    obtain ⟨b, hb, hstate, hlive⟩ := h.entered.entry st hst
    refine ⟨b, ?_, hstate, hlive⟩
    rw [setAttach, getElem?_modify_other, hb]
    rintro rfl
    rw [hget, Option.some.injEq] at hb
    rw [hb, hlive] at hawaited
    cases hawaited
  · intro b hb hlive
    obtain ⟨c, hc, hstate, -, hattached⟩ := hback b hb
    rw [← hstate]
    exact h.entered.live c hc (hattached hlive)
  · intro k b hb
    obtain ⟨c, hc, hstate, -⟩ := mem_modify_status hb
    rw [← hstate]
    exact h.entered.index k c hc
  · intro b hb hlive
    obtain ⟨c, hc, -, hclosed, hattached⟩ := hback b hb
    rw [← hclosed]
    exact h.wanted c hc (hattached hlive)
  · intro hclosed
    refine ⟨(h.ended hclosed).1, fun b hb => ?_⟩
    obtain ⟨c, hc, -, hsame, -⟩ := hback b hb
    rw [← hsame]
    exact (h.ended hclosed).2 c hc

theorem Kept.entering (h : Kept s) (ha : s.awaited session = some a)
    (hwanted : a.closed = false) (hfree : s.streams.find? a.state.streamId = none) :
    Kept { s.setAttach session .attached with streams := s.streams.upsert a.state } := by
  obtain ⟨hget, hawaited⟩ := awaited_some ha
  have hrows : (s.streams.upsert a.state).rows = s.streams.rows ++ [a.state] := by
    unfold Table.upsert
    cases hinsert : s.streams.insert? a.state with
    | none =>
      have hhas := Table.insert?_eq_none.mp hinsert
      obtain ⟨st, hst, hsame⟩ := List.mem_map.mp ((Table.has_iff _ _).mp hhas)
      exact absurd hsame (Table.find?_none.mp hfree st hst)
    | some streams => exact (Table.insert?_eq_some.mp hinsert).2
  have hself : (s.setAttach session .attached).attaches[session]? = some { a with status := .attached } := by
    rw [setAttach, List.getElem?_modify, hget]
    simp
  refine ⟨⟨?_, ?_, ?_⟩, ?_, ?_, h.inputs⟩
  · intro st hst
    rw [hrows, List.mem_append, List.mem_singleton] at hst
    rcases hst with hst | rfl
    · obtain ⟨b, hb, hstate, hlive⟩ := h.entered.entry st hst
      refine ⟨b, ?_, hstate, hlive⟩
      rw [setAttach, getElem?_modify_other, hb]
      rintro rfl
      rw [hget, Option.some.injEq] at hb
      rw [hb, hlive] at hawaited
      cases hawaited
    · rw [h.entered.index session a hget]
      exact ⟨_, hself, rfl, rfl⟩
  · intro b hb hlive
    obtain ⟨k, hk⟩ := List.mem_iff_getElem?.mp hb
    obtain ⟨c, hc, hstate, -, hstatus⟩ := mem_modify_status hk
    rw [hrows, List.mem_append, List.mem_singleton, ← hstate]
    split_ifs at hstatus with hsame
    · right
      rw [← hsame, hget, Option.some.injEq] at hc
      rw [hc]
    · left
      exact h.entered.live c (List.mem_of_getElem? hc) (hstatus.symm.trans hlive)
  · intro k b hb
    obtain ⟨c, hc, hstate, -⟩ := mem_modify_status hb
    rw [← hstate]
    exact h.entered.index k c hc
  · intro b hb hlive
    obtain ⟨k, hk⟩ := List.mem_iff_getElem?.mp hb
    obtain ⟨c, hc, -, hclosed, hstatus⟩ := mem_modify_status hk
    rw [← hclosed]
    split_ifs at hstatus with hsame
    · rw [← hsame, hget, Option.some.injEq] at hc
      rw [← hc]
      exact hwanted
    · exact h.wanted c (List.mem_of_getElem? hc) (hstatus.symm.trans hlive)
  · intro hclosed
    have hgone := (h.ended hclosed).2 a (List.mem_of_getElem? hget)
    rw [hwanted] at hgone
    cases hgone

theorem Kept.hostClosed (h : Kept s) {streamId : String} (hfree : s.streams.find? streamId = none) :
    Kept { s with streams := s.streams.delete fun st => st.streamId = streamId } := by
  have hrows : (s.streams.delete fun st => st.streamId = streamId).rows = s.streams.rows := by
    rw [Table.rows_delete, List.filter_eq_self]
    intro st hst
    simpa using Table.find?_none.mp hfree st hst
  refine ⟨⟨?_, ?_, h.entered.index⟩, h.wanted, ?_, h.inputs⟩
  · intro st hst
    rw [hrows] at hst
    exact h.entered.entry st hst
  · intro a ha hlive
    rw [hrows]
    exact h.entered.live a ha hlive
  · intro hclosed
    rw [hrows]
    exact h.ended hclosed

theorem Kept.step (h : Kept s) (event : TerminalEvent) (hguard : Unraced s event) : Kept (s.step event) := by
  cases event with
  | frame now frame =>
    rw [TerminalHandler.step]
    cases hok : s.handleTerminal now frame with
    | error message => exact h.throws message
    | ok s' => exact h.handleTerminal hok
  | attached session writes =>
    rw [TerminalHandler.step]
    cases ha : s.awaited session with
    | none => exact h
    | some a =>
      obtain ⟨hwanted, hfree⟩ := hguard a ha
      exact (h.entering ha hwanted hfree).sendAll writes
  | refused session message =>
    rw [TerminalHandler.step]
    cases ha : s.awaited session with
    | none => exact h
    | some a => exact (h.refused ha).throws message
  | hostClosed session =>
    rw [TerminalHandler.step]
    cases ha : s.attaches[session]? with
    | none => exact h
    | some a => exact h.hostClosed (hguard a ha)
  | reported overflow => exact h.sendAll [overflow]
  | failed message => exact h.throws message
  | rejected =>
    rw [TerminalHandler.step]
    cases s.thrown with
    | nil => exact h
    | cons message rest =>
      apply Kept.fail
      exact ⟨⟨h.entered.entry, h.entered.live, h.entered.index⟩, h.wanted, h.ended, h.inputs⟩
  | drain =>
    rw [TerminalHandler.step]
    split_ifs
    · exact ⟨⟨h.entered.entry, h.entered.live, h.entered.index⟩, h.wanted, (by simp), h.inputs⟩
    · exact h
  | close => exact h.fail

theorem kept_create (homeAuthorityId : String) (peerAuthorityId : Option String) :
    Kept (create homeAuthorityId peerAuthorityId) := by
  refine ⟨⟨?_, ?_, ?_⟩, ?_, ?_, ?_⟩ <;> simp [create]

/-- However the calls, the answers of the runtimes and the end of the connection come. -/
theorem streams_contained (homeAuthorityId : String) (peerAuthorityId : Option String) (events : List TerminalEvent)
    (h : Trace.Meets step Unraced (create homeAuthorityId peerAuthorityId) events) :
    Contained (Trace.run step (create homeAuthorityId peerAuthorityId) events) :=
  (Trace.invariant_run (I := Kept) (fun _ event hkept hguard => hkept.step event hguard)
    (kept_create homeAuthorityId peerAuthorityId) h).contained

def opening : TerminalFrame :=
  .terminalOpen ⟨"s", "home", "alice"⟩ (.ok ⟨"c", "r", 1, "bridge", ["input"], 9⟩) (.ok ⟨"r", 1, "home", some "bridge"⟩)
    (.ok ())

/-- A stream that is opened, typed into, closed and opened again. -/
theorem streams_contained_reopened :
    Contained (Trace.run step (create "home" (some "peer"))
      [.frame 1 opening, .attached 0 [false, false], .frame 2 (.terminalInput ⟨"s", "home", "c", "r", "alice", 1⟩),
        .reported false, .frame 3 (.terminalDetach "s" "home"), .hostClosed 0, .frame 4 opening, .attached 1 [false],
        .close]) :=
  streams_contained "home" (some "peer") _ (by decide)

/-- A connection that ends while a runtime is being attached, and a stream that is opened twice meanwhile. -/
theorem attachment_leaks :
    ¬Contained (Trace.run step (create "home" (some "peer")) [.frame 1 opening, .close, .attached 0 [false]]) ∧
      ¬Contained (Trace.run step (create "home" (some "peer"))
        [.frame 1 opening, .frame 2 opening, .attached 0 [false], .attached 1 [false]]) := by
  constructor
  · intro h
    exact absurd rfl (h.detached (by decide) _ (List.mem_of_getElem? (i := 0) rfl))
  · intro h
    exact absurd (h.single 0 1 _ _ rfl rfl rfl rfl rfl) (by decide)

end TerminalHandler
end Wardroom.Federation
