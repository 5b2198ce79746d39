import Wardroom.Federation.RelayConnection
import Wardroom.Library.Lists
import Wardroom.Library.Trace
import Mathlib.Tactic

/-! # The reconnect loop of a relay initiator

The loop dials, waits for the end of the connection and dials again after a
delay. Everything it does, and everything it is told, is kept in a log. The
delay itself is left open: an armed timer may fire at any time.
-/

namespace Wardroom.Federation
open Wardroom.Library

/-- What the loop reads of the status of a connection. -/
structure RelayConnectionStatus where
  state : RelayConnectionState
  disconnectReason : Option RelayDisconnectReason
  deriving DecidableEq

def NON_RETRYABLE_REASONS : List RelayDisconnectReason :=
  [.gracefulClose, .peerDrained, .peerClosed, .handshakeRejected, .wrongDestination, .wrongPeer, .wrongConnection,
    .wrongDirection, .keyMismatch, .peerNotActive, .peerTrustMismatch, .peerTrustRevoked, .invalidSignature,
    .protocolDowngrade, .malformedHandshake, .sequenceViolation, .unknownField, .oversizeFrame]

def isRetryableDisconnectReason : Option RelayDisconnectReason → Bool
  | none => true
  | some reason => !NON_RETRYABLE_REASONS.contains reason

inductive LoopCall where
  | stop
  /-- `input.connect`. -/
  | connect
  /-- `connection.start()`. -/
  | begin (connection : Nat)
  /-- `onStatusChange` of a connection. -/
  | status (connection : Nat) (status : RelayConnectionStatus)
  | attempt (attempt : Nat)
  | giveUp (status : RelayConnectionStatus)
  deriving DecidableEq

/-- The loop with the connections it has dialled and the timers that have not fired. -/
structure RelayReconnectLoop where
  stopped : Bool := false
  attempt : Nat := 0
  current : Option Nat := none
  timer : Option Nat := none
  stopRequested : Bool := false
  connections : List RelayConnectionStatus := []
  armed : List Nat := []
  timers : Nat := 0
  log : List LoopCall := []
  deriving DecidableEq

/-- What the owner does in one of its callbacks: nothing, or `stop()`, with the reason for which a connection
that this closes is lost. -/
abbrev Callback := Option RelayDisconnectReason

/-- A call of `input.connect`: the callback is what the owner does inside it. -/
structure Connecting where
  callback : Callback := none
  returns : Bool := true
  deriving DecidableEq

namespace RelayReconnectLoop

/-- The constructor. -/
def init : RelayReconnectLoop := {}

def record (s : RelayReconnectLoop) (call : LoopCall) : RelayReconnectLoop := { s with log := s.log ++ [call] }

def finalize (s : RelayReconnectLoop) (status : Option RelayConnectionStatus) : RelayReconnectLoop :=
  if s.stopped then s else { s with stopped := true, log := s.log ++ (status.map .giveUp).toList }

/-- `setTimeout(() => this.dial(), delayMs)`. -/
def arm (s : RelayReconnectLoop) : RelayReconnectLoop :=
  { s with timer := some s.timers, armed := s.armed ++ [s.timers], timers := s.timers + 1 }

/-- `onAttempt` is what the owner does in its callback. -/
def onClosed (s : RelayReconnectLoop) (status : RelayConnectionStatus)
    (onAttempt : RelayReconnectLoop → RelayReconnectLoop) : RelayReconnectLoop :=
  if s.stopped then s
  else if s.stopRequested || !isRetryableDisconnectReason status.disconnectReason then s.finalize (some status)
  else (onAttempt (({ s with attempt := s.attempt + 1 } : RelayReconnectLoop).record (.attempt (s.attempt + 1)))).arm

/-- The status of a connection is set, and told to the loop. -/
def onStatusChange (s : RelayReconnectLoop) (connection : Nat) (status : RelayConnectionStatus)
    (onStatus onAttempt : RelayReconnectLoop → RelayReconnectLoop) : RelayReconnectLoop :=
  let s := ({ s with connections := s.connections.set connection status } : RelayReconnectLoop)
  let s := onStatus (s.record (.status connection status))
  let s := if status.state = .connected then { s with attempt := 0 } else s
  if status.state = .closed then s.onClosed status onAttempt else s

def currentStatus (s : RelayReconnectLoop) : Option (Nat × RelayConnectionStatus) :=
  s.current.bind fun connection => s.connections[connection]?.map (connection, ·)

/-- The closed connection is lost for the given reason. Its owner's callbacks can only stop the loop once more,
which does nothing. -/
def stop (reason : RelayDisconnectReason) (s : RelayReconnectLoop) : RelayReconnectLoop :=
  if s.stopRequested then s
  else
    let s := ({ s with
      stopRequested := true
      armed := s.armed.filter fun t => some t ≠ s.timer
      timer := none } : RelayReconnectLoop).record .stop
    match s.currentStatus with
    | some (connection, status) =>
      if status.state ≠ .closed then s.onStatusChange connection ⟨.closed, some reason⟩ id id
      else s.finalize (some status)
    | none => s.finalize none

def run (callback : Callback) (s : RelayReconnectLoop) : RelayReconnectLoop :=
  match callback with
  | none => s
  | some reason => s.stop reason

/-- The new connection is in its handshake; what it reports while it starts comes next. -/
def dial (s : RelayReconnectLoop) (connecting : Connecting) : RelayReconnectLoop :=
  if s.stopped || s.stopRequested then s
  else
    let s := (s.record .connect).run connecting.callback
    if connecting.returns then
      ({ s with
        current := some s.connections.length
        connections := s.connections ++ [⟨.handshaking, none⟩] } : RelayReconnectLoop).record
          (.begin s.connections.length)
    else s

/-- A connection that is closed stays so, and has only its end to report. -/
def reported (s : RelayReconnectLoop) (connection : Nat) (status : RelayConnectionStatus) :
    Option RelayConnectionStatus :=
  s.connections[connection]?.map fun known => if known.state = .closed then known else status

end RelayReconnectLoop

inductive LoopEvent where
  | start (connecting : Connecting)
  | stop (reason : RelayDisconnectReason)
  | fires (timer : Nat) (connecting : Connecting)
  | reports (connection : Nat) (status : RelayConnectionStatus) (onStatus onAttempt : Callback)
  deriving DecidableEq

namespace RelayReconnectLoop

def step (s : RelayReconnectLoop) : LoopEvent → RelayReconnectLoop
  | .start connecting => s.dial connecting
  | .stop reason => s.stop reason
  | .fires timer connecting =>
    if timer ∈ s.armed then ({ s with armed := s.armed.erase timer } : RelayReconnectLoop).dial connecting else s
  | .reports connection status onStatus onAttempt =>
    match s.reported connection status with
    | some status => s.onStatusChange connection status (run onStatus) (run onAttempt)
    | none => s

def live (s : RelayReconnectLoop) : List RelayConnectionStatus := s.connections.filter fun c => c.state ≠ .closed

/-- The loop was stopped, or a connection was lost for a reason that no further dial can mend. -/
def Over (log : List LoopCall) : Prop :=
  .stop ∈ log ∨ ∃ connection status, .status connection status ∈ log ∧ status.state = .closed ∧
    isRetryableDisconnectReason status.disconnectReason = false

def gaveUp (call : LoopCall) : Bool :=
  match call with
  | .giveUp _ => true
  | _ => false

def dials (call : LoopCall) : Bool :=
  match call with
  | .connect | .begin _ => true
  | _ => false

/-- Nothing is dialled once the loop has been asked to stop. -/
def NoDialAfterStop (log : List LoopCall) : Prop :=
  ∀ before after, log = before ++ .stop :: after → ∀ call ∈ after, dials call = false

/-- What a run that ends cleanly has done so far. -/
structure EndsCleanly (s : RelayReconnectLoop) : Prop where
  noDial : NoDialAfterStop s.log
  gaveUp_over : Over s.log → s.log.countP gaveUp = 1
  gaveUp_running : ¬ Over s.log → s.log.countP gaveUp = 0
  oneLive : s.live.length ≤ 1

/-- The loop is started once and stopped only once a connection has been dialled, not inside a call of
`connect`, and no connection that the loop would dial again after reports its end twice. -/
def Orderly (s : RelayReconnectLoop) : LoopEvent → Prop
  | .start connecting => s.stopped = true ∨ s.connections = [] ∧ connecting.callback = none
  | .stop _ => s.current.isSome = true
  | .fires _ connecting => s.stopped = true ∨ connecting.callback = none
  | .reports connection _ _ _ =>
    s.stopped = true ∨ ∀ known, s.connections[connection]? = some known → known.state ≠ .closed

section Log
variable {log : List LoopCall} {call : LoopCall}

theorem Over.append (h : Over log) (calls : List LoopCall) : Over (log ++ calls) := by
  rcases h with hstop | ⟨connection, status, hmem, hend⟩
  · exact .inl (List.mem_append_left _ hstop)
  · exact .inr ⟨connection, status, List.mem_append_left _ hmem, hend⟩

theorem over_concat (hstop : call ≠ .stop)
    (hstatus : ∀ connection status, call = .status connection status →
      status.state ≠ .closed ∨ isRetryableDisconnectReason status.disconnectReason = true) :
    Over (log ++ [call]) ↔ Over log := by
  constructor
  · intro h
    rcases h with hmem | ⟨connection, status, hmem, hclosed, hreason⟩
    · rcases List.mem_append.mp hmem with hmem | hmem
      · exact .inl hmem
      · exact absurd (List.mem_singleton.mp hmem).symm hstop
    · rcases List.mem_append.mp hmem with hmem | hmem
      · exact .inr ⟨connection, status, hmem, hclosed, hreason⟩
      · rcases hstatus connection status (List.mem_singleton.mp hmem).symm with hopen | hretry
        · exact absurd hclosed hopen
        · rw [hretry] at hreason
          cases hreason
  · exact fun h => h.append _

theorem noDialAfterStop_nil : NoDialAfterStop [] := by
  intro before after h
  simp at h

theorem NoDialAfterStop.concat (h : NoDialAfterStop log) (hcall : dials call = false ∨ .stop ∉ log) :
    NoDialAfterStop (log ++ [call]) := by
  intro before after hlog other hother
  rcases List.eq_nil_or_concat after with rfl | ⟨after, last, rfl⟩
  · exact (List.not_mem_nil hother).elim
  · rw [List.concat_eq_append, ← List.cons_append, ← List.append_assoc] at hlog
    obtain ⟨hlog, hlast⟩ := List.append_inj' hlog rfl
    rw [List.concat_eq_append] at hother
    rcases List.mem_append.mp hother with hother | hother
    · exact h before after hlog other hother
    · rw [List.mem_singleton.mp hother, ← List.singleton_inj.mp hlast]
      rcases hcall with hcall | hcall
      · exact hcall
      · rw [hlog] at hcall
        exact absurd (List.mem_append_right _ List.mem_cons_self) hcall

end Log

/-- What holds of the loop even while it deals with the end of a connection. -/
structure Steady (s : RelayReconnectLoop) : Prop where
  requested : s.stopRequested = true → s.stopped = true
  stop_mem : .stop ∈ s.log ↔ s.stopRequested = true
  noDial : NoDialAfterStop s.log
  gaveUp : s.log.countP gaveUp = if s.stopped then 1 else 0
  stopped_over : s.stopped = true → Over s.log
  current : ∀ connection, s.current = some connection → connection < s.connections.length
  dialled : s.connections ≠ [] → s.current.isSome = true
  live : ∀ (connection : Nat) status, s.connections[connection]? = some status → status.state ≠ .closed →
    s.current = some connection
  ended : s.stopped = true → ∀ c ∈ s.connections, c.state = .closed
  waiting : s.stopped = false → s.armed ≠ [] → s.armed.length = 1 ∧ ∀ c ∈ s.connections, c.state = .closed
  idle : s.connections = [] → s.armed = []

/-- Between two steps the loop has ended whenever it is over. -/
structure Kept (s : RelayReconnectLoop) : Prop extends Steady s where
  finished : Over s.log → s.stopped = true

section Steps
variable {s : RelayReconnectLoop} {call : LoopCall}

theorem Steady.record (h : Steady s) (hstop : call ≠ .stop) (hgave : RelayReconnectLoop.gaveUp call = false)
    (hcall : dials call = false ∨ s.stopRequested = false) : Steady (s.record call) where
  requested := h.requested
  stop_mem := by
    refine Iff.trans ?_ h.stop_mem
    simp [RelayReconnectLoop.record, hstop.symm]
  noDial := h.noDial.concat (hcall.imp_right fun hrunning hmem => by simp [h.stop_mem.mp hmem] at hrunning)
  gaveUp := by
    rw [RelayReconnectLoop.record, List.countP_append, h.gaveUp]
    simp [hgave]
  stopped_over := fun hstopped => (h.stopped_over hstopped).append _
  current := h.current
  dialled := h.dialled
  live := h.live
  ended := h.ended
  waiting := h.waiting
  idle := h.idle

variable {connection : Nat}

/-- The status of the one live connection changes. -/
theorem Steady.set (h : Steady s) {known : RelayConnectionStatus}
    (hknown : s.connections[connection]? = some known) (hopen : known.state ≠ .closed)
    (status : RelayConnectionStatus) :
    Steady { s with connections := s.connections.set connection status } where
  requested := h.requested
  stop_mem := h.stop_mem
  noDial := h.noDial
  gaveUp := h.gaveUp
  stopped_over := h.stopped_over
  current i hi := by simpa using h.current i hi
  dialled hne := h.dialled (by simpa using hne)
  live i c hc hlive := by
    by_cases hi : i = connection
    · rw [hi]
      exact h.live connection known hknown hopen
    · rw [List.getElem?_set_ne (Ne.symm hi)] at hc
      exact h.live i c hc hlive
  ended hstopped := by
    exact absurd (h.ended hstopped known (List.mem_of_getElem? hknown)) hopen
  waiting hrunning harmed :=
    absurd ((h.waiting hrunning harmed).2 known (List.mem_of_getElem? hknown)) hopen
  idle hnil := h.idle (by simpa using hnil)

theorem Steady.closed_set (h : Steady s) {known status : RelayConnectionStatus}
    (hknown : s.connections[connection]? = some known) (hopen : known.state ≠ .closed)
    (hclosed : status.state = .closed) : ∀ c ∈ s.connections.set connection status, c.state = .closed := by
  intro c hc
  obtain ⟨i, hi⟩ := List.mem_iff_getElem?.mp hc
  by_contra hlive
  by_cases hsame : i = connection
  · rw [hsame, List.getElem?_set_self (List.getElem?_eq_some_iff.mp hknown).1] at hi
    cases hi
    exact hlive hclosed
  · rw [List.getElem?_set_ne (Ne.symm hsame)] at hi
    have hcurrent := h.live i c hi hlive
    rw [h.live connection known hknown hopen] at hcurrent
    exact hsame (Option.some.inj hcurrent).symm

theorem finalize_stopped (s : RelayReconnectLoop) (status : Option RelayConnectionStatus) :
    (s.finalize status).stopped = true := by
  rw [RelayReconnectLoop.finalize]
  split_ifs with hstopped
  · exact hstopped
  · rfl

theorem kept_finalize (status : RelayConnectionStatus) (hstop : .stop ∈ s.log ↔ s.stopRequested = true)
    (hdial : NoDialAfterStop s.log) (hgave : s.log.countP RelayReconnectLoop.gaveUp = if s.stopped then 1 else 0)
    (hover : Over s.log) (hcurrent : ∀ connection, s.current = some connection → connection < s.connections.length)
    (hdialled : s.connections ≠ [] → s.current.isSome = true) (hclosed : ∀ c ∈ s.connections, c.state = .closed)
    (hidle : s.connections = [] → s.armed = []) : Kept (s.finalize (some status)) := by
  have hlive (connection : Nat) (c : RelayConnectionStatus) (hc : s.connections[connection]? = some c)
      (hopen : c.state ≠ .closed) : s.current = some connection :=
    absurd (hclosed c (List.mem_of_getElem? hc)) hopen
  rw [RelayReconnectLoop.finalize]
  split_ifs with hstopped
  · rw [if_pos hstopped] at hgave
    exact ⟨⟨fun _ => hstopped, hstop, hdial, by rw [hgave, if_pos hstopped], fun _ => hover, hcurrent, hdialled, hlive,
      fun _ => hclosed, fun hrunning => by simp [hstopped] at hrunning, hidle⟩, fun _ => hstopped⟩
  · rw [if_neg hstopped] at hgave
    refine ⟨⟨fun _ => rfl, ?_, hdial.concat (.inl rfl), ?_, fun _ => hover.append _, hcurrent, hdialled, hlive,
      fun _ => hclosed, fun hrunning => (by cases hrunning), hidle⟩, fun _ => rfl⟩
    · refine Iff.trans ?_ hstop
      simp
    · rw [List.countP_append, hgave]
      rfl

theorem Steady.finalize (h : Steady s) (status : RelayConnectionStatus) (hover : Over s.log)
    (hclosed : ∀ c ∈ s.connections, c.state = .closed) : Kept (s.finalize (some status)) :=
  kept_finalize status h.stop_mem h.noDial h.gaveUp hover h.current h.dialled hclosed h.idle

theorem Steady.known (h : Steady s) (hdialled : s.current.isSome = true) :
    ∃ connection known, s.currentStatus = some (connection, known) := by
  obtain ⟨connection, hconnection⟩ := Option.isSome_iff_exists.mp hdialled
  have hlt := h.current connection hconnection
  exact ⟨connection, s.connections[connection], by simp [currentStatus, hconnection, hlt]⟩

theorem currentStatus_spec {known : RelayConnectionStatus}
    (h : s.currentStatus = some (connection, known)) :
    s.current = some connection ∧ s.connections[connection]? = some known := by
  obtain ⟨i, hi, hknown⟩ := Option.bind_eq_some_iff.mp h
  obtain ⟨status, hstatus, hpair⟩ := Option.map_eq_some_iff.mp hknown
  cases hpair
  exact ⟨hi, hstatus⟩

theorem stop_live {known : RelayConnectionStatus} (hrunning : s.stopRequested = false)
    (hcurrent : s.currentStatus = some (connection, known)) (hopen : known.state ≠ .closed)
    (reason : RelayDisconnectReason) :
    s.stop reason = RelayReconnectLoop.finalize
      { s with
        stopRequested := true
        armed := s.armed.filter fun t => some t ≠ s.timer
        timer := none
        connections := s.connections.set connection ⟨.closed, some reason⟩
        log := s.log ++ [.stop] ++ [.status connection ⟨.closed, some reason⟩] }
      (some ⟨.closed, some reason⟩) := by
  have hstatus : RelayReconnectLoop.currentStatus
      (RelayReconnectLoop.record { s with
        stopRequested := true, armed := s.armed.filter fun t => some t ≠ s.timer, timer := none } .stop) =
      some (connection, known) := hcurrent
  rw [RelayReconnectLoop.stop, if_neg (by simp [hrunning])]
  dsimp only
  rw [hstatus]
  dsimp only
  rw [if_pos hopen, onStatusChange, if_pos rfl, onClosed]
  simp only [reduceCtorEq, if_false, id, RelayReconnectLoop.record, Bool.true_or, if_true]
  split_ifs with hstopped
  · rw [RelayReconnectLoop.finalize, if_pos hstopped]
  · rfl

theorem stop_closed {known : RelayConnectionStatus} (hrunning : s.stopRequested = false)
    (hcurrent : s.currentStatus = some (connection, known)) (hclosed : known.state = .closed)
    (reason : RelayDisconnectReason) :
    s.stop reason = RelayReconnectLoop.finalize
      { s with
        stopRequested := true
        armed := s.armed.filter fun t => some t ≠ s.timer
        timer := none
        log := s.log ++ [.stop] }
      (some known) := by
  have hstatus : RelayReconnectLoop.currentStatus
      (RelayReconnectLoop.record { s with
        stopRequested := true, armed := s.armed.filter fun t => some t ≠ s.timer, timer := none } .stop) =
      some (connection, known) := hcurrent
  rw [RelayReconnectLoop.stop, if_neg (by simp [hrunning])]
  dsimp only
  rw [hstatus]
  dsimp only
  rw [if_neg (not_not_intro hclosed)]
  rfl

/-- The loop ends when it is stopped, once a connection has been dialled. -/
theorem Steady.stop (h : Steady s) (hdialled : s.current.isSome = true) (reason : RelayDisconnectReason) :
    Kept (s.stop reason) ∧ (s.stop reason).stopped = true := by
  by_cases hrequested : s.stopRequested = true
  · rw [RelayReconnectLoop.stop, if_pos hrequested]
    exact ⟨⟨h, fun _ => h.requested hrequested⟩, h.requested hrequested⟩
  · rw [Bool.not_eq_true] at hrequested
    obtain ⟨connection, known, hcurrent⟩ := h.known hdialled
    obtain ⟨hconnection, hknown⟩ := currentStatus_spec hcurrent
    have hnostop : .stop ∉ s.log := fun hmem => by simp [h.stop_mem.mp hmem] at hrequested
    have hstops := @NoDialAfterStop.concat _ .stop h.noDial (.inr hnostop)
    have hidle : s.connections = [] → s.armed.filter (fun t => some t ≠ s.timer) = [] := fun hnil => by
      rw [h.idle hnil, List.filter_nil]
    by_cases hopen : known.state = .closed
    · rw [stop_closed hrequested hcurrent hopen]
      refine ⟨kept_finalize known ?_ hstops ?_ (.inl ?_) h.current h.dialled ?_ hidle, finalize_stopped _ _⟩
      · simp
      · simp [h.gaveUp, RelayReconnectLoop.gaveUp]
      · simp
      · intro c hc
        by_contra hlive
        obtain ⟨i, hi⟩ := List.mem_iff_getElem?.mp hc
        have hsame := h.live i c hi hlive
        rw [hconnection] at hsame
        cases hsame
        rw [hknown] at hi
        cases hi
        exact hlive hopen
    · rw [stop_live hrequested hcurrent hopen]
      refine ⟨kept_finalize _ ?_ (hstops.concat (.inl rfl)) ?_ (.inl ?_) ?_ ?_ ?_ ?_, finalize_stopped _ _⟩
      · simp
      · simp [h.gaveUp, RelayReconnectLoop.gaveUp]
      · simp
      · exact fun i hi => (List.length_set ..).symm ▸ h.current i hi
      · exact fun _ => hdialled
      · exact h.closed_set hknown hopen rfl
      · exact fun hnil => hidle (by simpa using hnil)

@[simp] theorem finalize_current (s : RelayReconnectLoop) (status : Option RelayConnectionStatus) :
    (s.finalize status).current = s.current := by
  rw [RelayReconnectLoop.finalize]
  split_ifs <;> rfl

theorem stop_current (h : Steady s) (hdialled : s.current.isSome = true) (reason : RelayDisconnectReason) :
    (s.stop reason).current = s.current := by
  by_cases hrequested : s.stopRequested = true
  · rw [RelayReconnectLoop.stop, if_pos hrequested]
  · obtain ⟨connection, known, hcurrent⟩ := h.known hdialled
    rw [Bool.not_eq_true] at hrequested
    by_cases hclosed : known.state = .closed
    · rw [stop_closed hrequested hcurrent hclosed, finalize_current]
    · rw [stop_live hrequested hcurrent hclosed, finalize_current]

theorem Steady.run (h : Steady s) (hdialled : s.current.isSome = true) (callback : Callback) :
    Steady (s.run callback) ∧ (s.run callback).current = s.current ∧
      (s.run callback = s ∨ (s.run callback).stopped = true) := by
  cases callback with
  | none => exact ⟨h, rfl, .inl rfl⟩
  | some reason =>
    exact ⟨(h.stop hdialled reason).1.toSteady, stop_current h hdialled reason, .inr (h.stop hdialled reason).2⟩

/-- A timer is armed once every connection is closed. -/
theorem Steady.arm (h : Steady s) (harmed : s.stopped = false → s.armed = [] ∧ ∀ c ∈ s.connections, c.state = .closed)
    (hdialled : s.current.isSome = true) : Steady s.arm where
  requested := h.requested
  stop_mem := h.stop_mem
  noDial := h.noDial
  gaveUp := h.gaveUp
  stopped_over := h.stopped_over
  current := h.current
  dialled := h.dialled
  live := h.live
  ended := h.ended
  waiting hrunning _ := by
    obtain ⟨hnone, hclosed⟩ := harmed hrunning
    refine ⟨?_, hclosed⟩
    simp [RelayReconnectLoop.arm, hnone]
  idle hnil := by
    obtain ⟨connection, hconnection⟩ := Option.isSome_iff_exists.mp hdialled
    have hlt := h.current connection hconnection
    rw [show s.connections = [] from hnil] at hlt
    exact absurd hlt (Nat.not_lt_zero _)

/-- The end of a connection is told once: either the loop is over, or one timer is armed. -/
theorem Steady.onClosed (h : Steady s) {status : RelayConnectionStatus}
    (hstatus : status.state = .closed ∧ ∃ connection, .status connection status ∈ s.log)
    (harmed : s.stopped = false → s.armed = []) (hclosed : ∀ c ∈ s.connections, c.state = .closed)
    (hdialled : s.current.isSome = true)
    (hover : isRetryableDisconnectReason status.disconnectReason = true → Over s.log → s.stopped = true)
    (onAttempt : Callback) : Kept (s.onClosed status (RelayReconnectLoop.run onAttempt)) := by
  rw [RelayReconnectLoop.onClosed]
  split_ifs with hstopped hend
  · exact ⟨h, fun _ => hstopped⟩
  · refine h.finalize status ?_ hclosed
    rcases Bool.or_eq_true_iff.mp hend with hrequested | hreason
    · exact absurd (h.requested hrequested) hstopped
    · obtain ⟨hstate, connection, hmem⟩ := hstatus
      exact .inr ⟨connection, status, hmem, hstate, by simpa using hreason⟩
  · have hretry : isRetryableDisconnectReason status.disconnectReason = true := by
      rw [Bool.or_eq_true, not_or] at hend
      simpa using hend.2
    have hcounted : Steady { s with attempt := s.attempt + 1 } := { h with }
    have hasked := @Steady.record _ (.attempt (s.attempt + 1)) hcounted (by simp) rfl (.inl rfl)
    obtain ⟨hsteady, hcurrent, hran⟩ := hasked.run hdialled onAttempt
    refine ⟨hsteady.arm (fun hrunning => ?_) (by rw [hcurrent]; exact hdialled), fun hover' => ?_⟩
    · rcases hran with hran | hran
      · rw [hran]
        exact ⟨harmed (Bool.not_eq_true _ ▸ hstopped), hclosed⟩
      · rw [hran] at hrunning
        cases hrunning
    · rcases hran with hran | hran
      · rw [RelayReconnectLoop.arm, hran] at hover'
        have hlog : Over s.log := (over_concat (by simp) (by simp)).mp hover'
        exact absurd (hover hretry hlog) hstopped
      · exact hran

/-- A new connection is the only one that is live. -/
theorem Steady.connect (h : Steady s) (hrunning : s.stopped = false) (harmed : s.armed = [])
    (hclosed : ∀ c ∈ s.connections, c.state = .closed) :
    Steady { s with
      current := some s.connections.length
      connections := s.connections ++ [⟨.handshaking, none⟩] } where
  requested := h.requested
  stop_mem := h.stop_mem
  noDial := h.noDial
  gaveUp := h.gaveUp
  stopped_over := h.stopped_over
  current connection hconnection := by
    cases hconnection
    simp
  dialled _ := rfl
  live connection status hstatus hopen := by
    rcases Nat.lt_or_ge connection s.connections.length with hlt | hge
    · rw [List.getElem?_append_left hlt] at hstatus
      exact absurd (hclosed status (List.mem_of_getElem? hstatus)) hopen
    · obtain ⟨hlt, -⟩ := List.getElem?_eq_some_iff.mp hstatus
      rw [List.length_append, List.length_singleton] at hlt
      exact congrArg some (Nat.le_antisymm hge (Nat.le_of_lt_succ hlt))
  ended hstopped := by simp [hrunning] at hstopped
  waiting _ hne := absurd harmed hne
  idle hnil := by simp at hnil

/-- A connection is dialled when none is live and no timer is armed. -/
theorem Kept.dial (h : Kept s) {connecting : Connecting} (hcalm : s.stopped = true ∨ connecting.callback = none)
    (hidle : s.stopped = false → s.armed = [] ∧ ∀ c ∈ s.connections, c.state = .closed) :
    Kept (s.dial connecting) := by
  rw [RelayReconnectLoop.dial]
  split_ifs with hended hreturns
  · exact h
  all_goals
    rw [Bool.or_eq_true, not_or, Bool.not_eq_true, Bool.not_eq_true] at hended
    obtain ⟨hrunning, hunasked⟩ := hended
    rw [hcalm.resolve_left (by simp [hrunning])]
    have hcalled := @Steady.record _ .connect h.toSteady (by simp) rfl (.inr hunasked)
    have hover : ¬ Over (s.record .connect).log := fun hover => by
      simp [h.finished ((over_concat (by simp) (by simp)).mp hover)] at hrunning
  · obtain ⟨harmed, hclosed⟩ := hidle hrunning
    refine ⟨(hcalled.connect hrunning harmed hclosed).record (by simp) rfl (.inr hunasked), fun hover' => ?_⟩
    exact absurd ((over_concat (by simp) (by simp)).mp hover') hover
  · exact ⟨hcalled, fun hover' => absurd hover' hover⟩

/-- What a report leaves of the loop before its end is dealt with. -/
theorem Kept.told (h : Kept s) {known status : RelayConnectionStatus}
    (hknown : s.connections[connection]? = some known) (hstatus : known.state = .closed → status = known)
    (onStatus : Callback) :
    let told := ({ s with connections := s.connections.set connection status } : RelayReconnectLoop).record
      (.status connection status)
    Steady (told.run onStatus) ∧ (told.run onStatus).current.isSome = true ∧
      (told.run onStatus = told ∨ (told.run onStatus).stopped = true) := by
  intro told
  have hset : Steady { s with connections := s.connections.set connection status } := by
    by_cases hclosed : known.state = .closed
    · obtain ⟨hlt, hget⟩ := List.getElem?_eq_some_iff.mp hknown
      rw [hstatus hclosed, ← hget, List.set_getElem_self]
      exact h.toSteady
    · exact h.set hknown hclosed status
  have htold : Steady told := hset.record (by simp) rfl (.inl rfl)
  have hdialled : told.current.isSome = true := h.dialled (List.ne_nil_of_mem (List.mem_of_getElem? hknown))
  obtain ⟨hsteady, hcurrent, hran⟩ := htold.run hdialled onStatus
  exact ⟨hsteady, hcurrent ▸ hdialled, hran⟩

/-- A connection reports its status; its end is told once while the loop runs. -/
theorem Kept.reports (h : Kept s) {known status : RelayConnectionStatus}
    (hknown : s.connections[connection]? = some known) (hstatus : known.state = .closed → status = known)
    (hopen : s.stopped = true ∨ known.state ≠ .closed) (onStatus onAttempt : Callback) :
    Kept (s.onStatusChange connection status (RelayReconnectLoop.run onStatus) (RelayReconnectLoop.run onAttempt)) := by
  obtain ⟨hsteady, hdialled, hran⟩ := h.told hknown hstatus onStatus
  rw [onStatusChange]
  generalize htold : ({ s with connections := s.connections.set connection status } : RelayReconnectLoop).record
    (.status connection status) = told at hsteady hdialled hran
  have hstopped : told.stopped = s.stopped := by rw [← htold]; rfl
  have hlog : told.log = s.log ++ [.status connection status] := by rw [← htold]; rfl
  have hfinished (hend : status.state ≠ .closed ∨ isRetryableDisconnectReason status.disconnectReason = true)
      (hover : Over told.log) : told.stopped = true := by
    rw [hlog] at hover
    rw [hstopped]
    refine h.finished ((over_concat (by simp) fun i other hother => ?_).mp hover)
    cases hother
    exact hend
  by_cases hclosed : status.state = .closed
  · rw [if_pos hclosed, if_neg (by simp [hclosed])]
    by_cases hended : (told.run onStatus).stopped = true
    · rw [RelayReconnectLoop.onClosed, if_pos hended]
      exact ⟨hsteady, fun _ => hended⟩
    · have hsame := hran.resolve_right hended
      rw [hsame] at hsteady hdialled hended ⊢
      have hlive : known.state ≠ .closed := hopen.resolve_left (by rwa [← hstopped])
      refine hsteady.onClosed ⟨hclosed, connection, by simp [hlog]⟩ (fun hrunning => ?_) ?_ hdialled
        (fun hretry => hfinished (.inr hretry)) onAttempt
      · by_contra harmed
        rw [← htold] at hrunning harmed
        exact hlive ((h.waiting hrunning harmed).2 known (List.mem_of_getElem? hknown))
      · rw [← htold]
        exact h.closed_set hknown hlive hclosed
  · rw [if_neg hclosed]
    have hover : Over (told.run onStatus).log → (told.run onStatus).stopped = true := fun hover => by
      rcases hran with hran | hran
      · rw [hran] at hover ⊢
        exact hfinished (.inl hclosed) hover
      · exact hran
    split_ifs
    · exact ⟨{ hsteady with }, hover⟩
    · exact ⟨hsteady, hover⟩

theorem kept_step (h : Kept s) {e : LoopEvent} (horderly : s.Orderly e) : Kept (s.step e) := by
  cases e with
  | start connecting =>
    rcases horderly with hstopped | ⟨hnil, hcallback⟩
    · exact h.dial (.inl hstopped) fun hrunning => by simp [hstopped] at hrunning
    · exact h.dial (.inr hcallback) fun _ => ⟨h.idle hnil, by simp [hnil]⟩
  | stop reason => exact (h.stop horderly reason).1
  | fires timer connecting =>
    rw [step]
    split_ifs with hmem
    · have hkept : Kept { s with armed := s.armed.erase timer } := { h with
        waiting := fun hrunning hne => by
          obtain ⟨hone, hclosed⟩ := h.waiting hrunning (List.ne_nil_of_mem hmem)
          refine absurd (List.eq_nil_of_length_eq_zero ?_) hne
          rw [List.length_erase_of_mem hmem, hone]
        idle := fun hnil => by simp [h.idle hnil] }
      refine hkept.dial horderly fun hrunning => ?_
      obtain ⟨hone, hclosed⟩ := h.waiting hrunning (List.ne_nil_of_mem hmem)
      refine ⟨List.eq_nil_of_length_eq_zero ?_, hclosed⟩
      rw [List.length_erase_of_mem hmem, hone]
    · exact h
  | reports connection status onStatus onAttempt =>
    rw [step]
    cases hreported : s.reported connection status with
    | none => exact h
    | some told =>
      obtain ⟨known, hknown, htold⟩ := Option.map_eq_some_iff.mp hreported
      refine h.reports hknown (fun hclosed => ?_) (horderly.imp_right fun hopen => hopen known hknown) onStatus onAttempt
      rw [← htold, if_pos hclosed]

end Steps

theorem kept_init : Kept init := by
  have hover : ¬ Over init.log := by simp [Over, init]
  exact ⟨⟨by simp [init], by simp [init], noDialAfterStop_nil, rfl, by simp [init], by simp [init], by simp [init],
    by simp [init], by simp [init], by simp [init], by simp [init]⟩, fun h => absurd h hover⟩

theorem Steady.oneLive {s : RelayReconnectLoop} (h : Steady s) : s.live.length ≤ 1 := by
  apply length_filter_le_one
  intro i j a b ha hb hopen hopen'
  have hi := h.live i a ha (by simpa using hopen)
  rw [h.live j b hb (by simpa using hopen')] at hi
  exact (Option.some.inj hi).symm

theorem Kept.endsCleanly {s : RelayReconnectLoop} (h : Kept s) : EndsCleanly s where
  noDial := h.noDial
  gaveUp_over hover := by rw [h.gaveUp, if_pos (h.finished hover)]
  gaveUp_running hrunning := by
    rw [h.gaveUp, if_neg fun hstopped => hrunning (h.stopped_over hstopped)]
  oneLive := h.oneLive

/-- A loop whose owner keeps to the order, and whose connections report their end once, ends cleanly. -/
theorem ends_cleanly (events : List LoopEvent) (h : Trace.Meets step Orderly init events) :
    EndsCleanly (Trace.run step init events) :=
  Kept.endsCleanly (@Trace.invariant_run _ _ step Orderly Kept
    (fun _ _ hkept horderly => kept_step hkept horderly) init events kept_init h)

def lost (reason : RelayDisconnectReason) : RelayConnectionStatus := ⟨.closed, some reason⟩

/-- A connection is lost, the loop dials again and is then stopped. -/
def redial : List LoopEvent :=
  [.start {}, .reports 0 ⟨.connected, none⟩ none none, .reports 0 (lost .childExited) none none, .fires 0 {},
    .reports 1 ⟨.connected, none⟩ none none, .stop .gracefulClose, .fires 1 {}]

theorem ends_cleanly_redial : EndsCleanly (Trace.run step init redial) :=
  ends_cleanly redial (by simp [redial, Orderly, step, Trace.Meets, init]; decide)

/-- A connection whose queue overflows in a heartbeat reports its end twice. -/
def overflow : List LoopEvent :=
  [.start {}, .reports 0 ⟨.connected, none⟩ none none, .reports 0 (lost .queueOverflow) none none,
    .reports 0 (lost .queueOverflow) none none, .fires 0 {}, .fires 1 {}]

/-- A loop that is stopped before it has dialled never gives up, and one connection too many is dialled after an
end that is told twice. -/
theorem ends_unclean :
    ¬ EndsCleanly (Trace.run step init [.stop .gracefulClose, .start {}]) ∧
      ¬ EndsCleanly (Trace.run step init overflow) := by
  constructor
  · intro h
    have hcount := h.gaveUp_over (.inl (by decide))
    exact absurd hcount (by decide)
  · intro h
    exact absurd h.oneLive (by decide)

end RelayReconnectLoop

end Wardroom.Federation
