import Wardroom.Library.Interleaved
import Wardroom.Runtime.Host.Deliveries

/-! # Deliveries as blocks

A delivery is written frame by frame, and the handlers of other connections
write to the same terminal in between. While they keep still its bytes are one
block.
-/

namespace Wardroom.Runtime.Host
open Wardroom.Library Wardroom.Library.Interleaved

/-- The bytes of the terminal's input, each with the execution that has written it. -/
def ptyStream (pty : List PtyWrite) : List (Option Nat × UInt8) :=
  pty.flatMap fun w => w.bytes.map (w.execution, ·)

/-- What has been written of a delivery is the beginning of its frames, and one block. -/
def InBlocks (s : RuntimeHost) : Prop :=
  ∀ k tx, s.executions[k]? = some tx →
    written s.pty k <+: tx.frames.flatten ∧ OneBlock (some k) (ptyStream s.pty) (written s.pty k)

/-- The delivery that a handler is writing, and how many frames it has written. -/
def Phase.writes : Phase → Option (Nat × Delivery × Nat)
  | .executing k tx frame _ => some (k, tx, frame)
  | _ => none

/-- The handler lets an input frame through to the terminal. -/
def InputAdmitted (s : RuntimeHost) (i : Nat) (now : Int) : Prop :=
  ∃ c ∈ s.conns[i]?, c.serving = true ∧ c.handler = .idle ∧ ∃ client ∈ c.client, now < client.expiresAt ∧
    "input" ∈ client.actions ∧ s.controller = some i ∧ s.exited = none

/-- Nobody but this execution is between the first byte of a delivery and its last. -/
def Alone (s : RuntimeHost) (execution : Option Nat) : Prop :=
  ∀ c ∈ s.conns, ∀ k tx frame, c.handler.writes = some (k, tx, frame) → execution ≠ some k →
    (tx.frames.take frame).flatten = [] ∨ (tx.frames.drop frame).flatten = []

/-- Whoever writes a byte writes it while no other delivery is being written. -/
def Unmixed (s : RuntimeHost) : RuntimeHost.HostEvent → Prop
  | .request i now _ (.input bytes) => bytes ≠ [] → InputAdmitted s i now → Alone s none
  | .advance i _ _ => ∀ c ∈ s.conns[i]?, ∀ k tx frame, c.handler.writes = some (k, tx, frame) →
    tx.frames.getD frame [] ≠ [] → Alone s (some k)
  | _ => True

section Decidable
variable (s : RuntimeHost)

instance (i : Nat) (now : Int) : Decidable (InputAdmitted s i now) :=
  match hc : s.conns[i]? with
  | none => isFalse fun ⟨c, h, _⟩ => by rw [hc] at h; cases h
  | some c =>
    match hclient : c.client with
    | none => isFalse fun ⟨d, hd, _, _, _, h, _⟩ => by rw [hc] at hd; cases hd; rw [hclient] at h; cases h
    | some client =>
      decidable_of_iff (c.serving = true ∧ c.handler = .idle ∧ now < client.expiresAt ∧ "input" ∈ client.actions ∧
          s.controller = some i ∧ s.exited = none)
        ⟨fun ⟨hserving, hidle, h⟩ => ⟨c, hc, hserving, hidle, client, hclient, h⟩, fun ⟨d, hd, hserving, hidle, e, he, h⟩ => by
          rw [hc] at hd
          cases hd
          rw [hclient] at he
          cases he
          exact ⟨hserving, hidle, h⟩⟩

instance (execution : Option Nat) : Decidable (Alone s execution) :=
  decidable_of_iff (∀ c ∈ s.conns, ∀ w ∈ c.handler.writes, execution ≠ some w.1 →
      (w.2.1.frames.take w.2.2).flatten = [] ∨ (w.2.1.frames.drop w.2.2).flatten = [])
    ⟨fun h c hc k tx frame hw => h c hc (k, tx, frame) hw, fun h c hc w hw => h c hc w.1 w.2.1 w.2.2 hw⟩

instance : ∀ e, Decidable (Unmixed s e)
  | .request i now _ (.input bytes) => inferInstanceAs (Decidable (bytes ≠ [] → InputAdmitted s i now → Alone s none))
  | .advance i _ _ =>
    decidable_of_iff (∀ c ∈ s.conns[i]?, ∀ w ∈ c.handler.writes, w.2.1.frames.getD w.2.2 [] ≠ [] → Alone s (some w.1))
      ⟨fun h c hc k tx frame hw => h c hc (k, tx, frame) hw, fun h c hc w hw => h c hc w.1 w.2.1 w.2.2 hw⟩
  | .request _ _ _ (.hello _) | .request _ _ _ (.resize _ _) | .request _ _ _ (.signal _) |
    .request _ _ _ .terminate | .request _ _ _ (.deliverMessage _) | .request _ _ _ .ping |
    .request _ _ _ .wipe | .request _ _ _ .other | .accept | .hangUp _ | .malformed .. |
    .produce _ | .exit _ | .take _ | .write .. | .settle _ => isTrue trivial

end Decidable

/-- Neither the terminal nor a delivery that is being written changes, but handlers may give one up. -/
structure Quiet (s s' : RuntimeHost) : Prop where
  executions : s'.executions = s.executions
  pty : s'.pty = s.pty
  handlers : ∀ (i : Nat) (d : Conn), s'.conns[i]? = some d → d.handler.writes = none ∨
    ∃ c, s.conns[i]? = some c ∧ d.handler.writes = c.handler.writes

/-- The handler of one connection goes on with its delivery, or gives it up. -/
structure Wrote (s s' : RuntimeHost) (i : Nat) (execution : Option Nat) (bytes : List UInt8)
    (writes : Option (Nat × Delivery × Nat)) : Prop where
  executions : s'.executions = s.executions
  pty : s'.pty = s.pty ++ [⟨execution, bytes⟩]
  handlers : ∀ (j : Nat) (d : Conn), s'.conns[j]? = some d → j = i ∧ d.handler.writes = writes ∨
    j ≠ i ∧ s.conns[j]? = some d

inductive TerminalStep (s s' : RuntimeHost) : RuntimeHost.HostEvent → Prop where
  | quiet {e} : Quiet s s' → TerminalStep s s' e
  | input {i now fails bytes} : InputAdmitted s i now → s' = { s with pty := s.pty ++ [⟨none, bytes⟩] } →
      TerminalStep s s' (.request i now fails (.input bytes))
  | begin {i now failure tx} : s'.executions = s.executions ++ [tx] → s'.pty = s.pty →
      (∀ (j : Nat) (d : Conn), s'.conns[j]? = some d → j = i ∧ d.handler.writes = some (s.executions.length, tx, 0) ∨
        j ≠ i ∧ s.conns[j]? = some d) → TerminalStep s s' (.advance i now failure)
  | write {i now failure} {c : Conn} {k tx frame bytes} : s.conns[i]? = some c →
      c.handler.writes = some (k, tx, frame) → tx.frames[frame]? = some bytes →
      Wrote s s' i (some k) bytes (some (k, tx, frame + 1)) → TerminalStep s s' (.advance i now failure)
  | fail {i now failure n} {c : Conn} {k tx frame bytes} : s.conns[i]? = some c →
      c.handler.writes = some (k, tx, frame) → tx.frames[frame]? = some bytes →
      Wrote s s' i (some k) (bytes.take n) none → TerminalStep s s' (.advance i now failure)

namespace Quiet
variable {s s' s'' : RuntimeHost} {i : Nat} {c c' : Conn}

theorem of_handlers (hexecutions : s'.executions = s.executions) (hpty : s'.pty = s.pty)
    (hhandlers : s'.conns.map Conn.handler = s.conns.map Conn.handler) : Quiet s s' := by
  refine ⟨hexecutions, hpty, fun i d hd => .inr ?_⟩
  have hmap := congrArg (·[i]?) hhandlers
  simp only [List.getElem?_map, hd, Option.map_some] at hmap
  cases hc : s.conns[i]? with
  | none =>
    rw [hc] at hmap
    cases hmap
  | some c =>
    rw [hc] at hmap
    exact ⟨c, rfl, congrArg Phase.writes (Option.some.inj hmap)⟩

theorem refl (s : RuntimeHost) : Quiet s s := of_handlers rfl rfl rfl

theorem trans (h : Quiet s s') (h' : Quiet s' s'') : Quiet s s'' := by
  refine ⟨h'.executions.trans h.executions, h'.pty.trans h.pty, fun i e he => ?_⟩
  rcases h'.handlers i e he with hnone | ⟨d, hd, hsame⟩
  · exact .inl hnone
  · rw [hsame]
    exact h.handlers i d hd

theorem setConn (h : Quiet s s') (hwrites : c'.handler.writes = none) : Quiet s (s'.setConn i c') := by
  refine h.trans ⟨rfl, rfl, fun j d hd => ?_⟩
  rcases getElem?_conns_set hd with ⟨rfl, rfl⟩ | ⟨-, hd⟩
  · exact .inl hwrites
  · exact .inr ⟨d, hd, rfl⟩

theorem setConn_same (h : Quiet s s') (hc : s'.conns[i]? = some c) (hsame : c'.handler = c.handler) :
    Quiet s (s'.setConn i c') := by
  refine h.trans ⟨rfl, rfl, fun j d hd => ?_⟩
  rcases getElem?_conns_set hd with ⟨rfl, rfl⟩ | ⟨-, hd⟩
  · exact .inr ⟨c, hc, by rw [hsame]⟩
  · exact .inr ⟨d, hd, rfl⟩

theorem reject (h : Quiet s s') (code : Nat) (message : String) : Quiet s (s'.reject i c code message) := h.setConn rfl

theorem reply (h : Quiet s s') (message : HostMessage) : Quiet s (s'.reply i c message) := h.setConn rfl

theorem finish (h : Quiet s s') : Quiet s (s'.finish i c) :=
  (h.trans (@of_handlers s' (s'.releaseControl i) rfl rfl rfl)).setConn rfl

theorem greeting_writes (s : RuntimeHost) (cursor : Nat) : (s.greeting cursor).writes = none := by
  unfold RuntimeHost.greeting
  split <;> rfl

theorem claim (s : RuntimeHost) (h : HelloEnvelope) : Quiet s (s.claim i c h) := by
  unfold RuntimeHost.claim
  split_ifs
  · exact (refl s).reject _ _
  · exact (refl s).reject _ _
  · exact ((refl s).setConn (greeting_writes s h.cursor)).trans (of_handlers rfl rfl rfl)
  · exact (refl s).setConn (greeting_writes s h.cursor)

theorem answer (s : RuntimeHost) (messages : List HostMessage) (close : Bool) (failure : Option Nat) :
    Quiet s (s.answer i c messages close failure) := by
  cases messages with
  | nil =>
    simp only [RuntimeHost.answer]
    split_ifs
    · exact (refl s).finish
    · exact (refl s).setConn rfl
  | cons m rest =>
    have hrecorded : Quiet s (s.recordAck m) := by
      cases m <;> exact of_handlers rfl rfl rfl
    unfold RuntimeHost.answer
    dsimp only
    split_ifs <;> exact hrecorded.setConn rfl

theorem enqueueAll (s : RuntimeHost) (messages : List HostMessage) : Quiet s (messages.foldl RuntimeHost.enqueueAll s) := by
  induction messages generalizing s with
  | nil => exact refl s
  | cons m messages ih =>
    rw [List.foldl_cons]
    have henqueued : Quiet s (s.enqueueAll m) := by
      refine of_handlers rfl rfl ?_
      change (s.conns.map (RuntimeHost.Conn.enqueue m)).map Conn.handler = _
      rw [List.map_map]
      apply List.map_congr_left
      intro c _
      unfold Function.comp RuntimeHost.Conn.enqueue
      split
      · rfl
      · split_ifs <;> rfl
    exact henqueued.trans (ih _)

end Quiet

section Steps
variable {s : RuntimeHost} {i : Nat} {c : Conn}

theorem advance_terminal (hc : s.conns[i]? = some c) (now : Int) (failure : Option Nat) :
    TerminalStep s (s.advance i c now failure) (.advance i now failure) := by
  have hset (c' : Conn) (j : Nat) (d : Conn) (hd : (s.conns.set i c')[j]? = some d) :
      j = i ∧ d.handler.writes = c'.handler.writes ∨ j ≠ i ∧ s.conns[j]? = some d := by
    rcases getElem?_conns_set hd with ⟨rfl, rfl⟩ | h
    · exact .inl ⟨rfl, rfl⟩
    · exact .inr h
  have hrefl := Quiet.refl s
  unfold RuntimeHost.advance
  split
  case h_1 => exact .quiet hrefl
  case h_2 h hhandler =>
    unfold RuntimeHost.verifyHello
    split_ifs
    · exact .quiet (hrefl.reject _ _)
    · exact .quiet (hrefl.setConn rfl)
  case h_3 h renewing hhandler =>
    unfold RuntimeHost.lookUpHello
    split_ifs
    · exact .quiet (hrefl.reject _ _)
    · exact .quiet (hrefl.setConn rfl)
  case h_4 h renewing busy hhandler =>
    have hrecorded : Quiet s { s with seenHello := s.seenHello ++ [h.id] } := Quiet.of_handlers rfl rfl rfl
    unfold RuntimeHost.recordHello
    split_ifs
    · exact .quiet (hrefl.reject _ _)
    · exact .quiet (hrecorded.setConn rfl)
  case h_5 h renewing busy hhandler =>
    cases renewing with
    | some controller =>
      simp only [RuntimeHost.proceedHello]
      split_ifs
      · exact .quiet (hrefl.reject _ _)
      · exact .quiet (hrefl.reject _ _)
      · exact .quiet (hrefl.setConn rfl)
    | none =>
      simp only [RuntimeHost.proceedHello]
      split_ifs
      · exact .quiet (hrefl.reject _ _)
      · exact .quiet (hrefl.reject _ _)
      · exact .quiet (hrefl.reject _ _)
      · exact .quiet (hrefl.setConn rfl)
  case h_6 h hhandler => exact .quiet (Quiet.claim s h)
  case h_7 tx hhandler =>
    unfold RuntimeHost.checkDelivery
    split_ifs
    · exact .quiet (hrefl.reject _ _)
    split
    · exact .quiet (hrefl.reject _ _)
    · exact .quiet (hrefl.setConn rfl)
  case h_8 tx hhandler =>
    unfold RuntimeHost.countDelivery
    split
    · exact .quiet (hrefl.setConn rfl)
    split_ifs
    · exact .quiet (hrefl.reject _ _)
    · exact .quiet (hrefl.setConn rfl)
  case h_9 tx hhandler =>
    unfold RuntimeHost.reserve
    split
    · exact .quiet (hrefl.setConn rfl)
    · exact .begin rfl rfl fun j d hd => hset _ j d hd
  case h_10 k tx frame bytesWritten hhandler =>
    have hwrites : c.handler.writes = some (k, tx, frame) := by rw [hhandler]; rfl
    unfold RuntimeHost.execute
    split
    case h_1 =>
      have hsettled : Quiet s (s.setDelivery ⟨tx.id, false, true, false, bytesWritten, s.enrollment.generation⟩) :=
        Quiet.of_handlers rfl rfl rfl
      exact .quiet (hsettled.setConn rfl)
    case h_2 bytes hframe =>
      split_ifs
      · exact .quiet (hrefl.reject _ _)
      cases failure with
      | none => exact .write hc hwrites hframe ⟨rfl, rfl, fun j d hd => hset _ j d hd⟩
      | some n => exact .fail hc hwrites hframe ⟨rfl, rfl, fun j d hd => hset _ j d hd⟩
  case h_11 k tx bytesWritten hhandler =>
    have hsettled : Quiet s (s.setDelivery ⟨tx.id, false, false, true, bytesWritten, s.enrollment.generation⟩) :=
      Quiet.of_handlers rfl rfl rfl
    exact .quiet (hsettled.setConn rfl)
  case h_12 messages close hhandler => exact .quiet (Quiet.answer s messages close failure)

theorem handle_terminal (hc : s.conns[i]? = some c) (hserving : c.serving = true) (hidle : c.handler = .idle)
    (now : Int) (fails : Bool) (frame : ClientFrame) :
    TerminalStep s (s.handle i c now fails frame) (.request i now fails frame) := by
  have hrefl := Quiet.refl s
  unfold RuntimeHost.handle
  split
  · exact .quiet (hrefl.setConn rfl)
  cases hclient : c.client with
  | none => exact .quiet (hrefl.reject _ _)
  | some client =>
    dsimp only
    split_ifs with hexpired
    · exact .quiet (hrefl.reject _ _)
    cases frame with
    | hello h => exact .quiet (hrefl.setConn rfl)
    | input bytes =>
      by_cases haction : "input" ∈ client.actions
      · by_cases hcontroller : s.controller = some i
        · cases hexited : s.exited with
          | none =>
            refine .input ⟨c, hc, hserving, hidle, client, hclient, by omega, haction, hcontroller, hexited⟩ ?_
            simp [RuntimeHost.handleFrame, haction, hcontroller, hexited]
          | some code =>
            have hrejected : s.handleFrame i c client fails (.input bytes) = s.reject i c EExited "child exited" := by
              simp [RuntimeHost.handleFrame, haction, hcontroller, hexited]
            rw [hrejected]
            exact .quiet (hrefl.reject _ _)
        · rw [RuntimeHost.handleFrame, if_neg (not_not.mpr haction), if_pos hcontroller]
          exact .quiet (hrefl.reject _ _)
      · rw [RuntimeHost.handleFrame, if_pos haction]
        exact .quiet (hrefl.reject _ _)
    | resize columns rows =>
      rw [RuntimeHost.handleFrame]
      split_ifs <;> first | exact .quiet (hrefl.reject _ _) | exact .quiet hrefl
    | signal payload =>
      rw [RuntimeHost.handleFrame]
      split_ifs <;> first | exact .quiet (hrefl.reject _ _) | exact .quiet hrefl
    | terminate =>
      have hterminated : Quiet s { s with terminated := true } := Quiet.of_handlers rfl rfl rfl
      rw [RuntimeHost.handleFrame]
      split_ifs <;> first | exact .quiet (hrefl.reject _ _) | exact .quiet (hterminated.reply _)
    | deliverMessage tx =>
      rw [RuntimeHost.handleFrame]
      split_ifs <;> first | exact .quiet (hrefl.reject _ _) | exact .quiet (hrefl.setConn rfl)
    | ping => exact .quiet (hrefl.reply _)
    | wipe =>
      have hwiped : Quiet s { s with secret := [], wiped := true } := Quiet.of_handlers rfl rfl rfl
      exact .quiet (hwiped.reply _)
    | other => exact .quiet (hrefl.reject _ _)

theorem step_terminal (s : RuntimeHost) (e : RuntimeHost.HostEvent) : TerminalStep s (s.step e) e := by
  have hrefl := Quiet.refl s
  have onConn {e : RuntimeHost.HostEvent} {i : Nat} {f : Conn → RuntimeHost}
      (hf : ∀ c, s.conns[i]? = some c → TerminalStep s (f c) e) : TerminalStep s (s.onConn i f) e := by
    unfold RuntimeHost.onConn
    cases hc : s.conns[i]? with
    | none => exact .quiet hrefl
    | some c => exact hf c hc
  cases e with
  | accept =>
    refine .quiet ⟨rfl, rfl, fun j d hd => ?_⟩
    change (s.conns ++ [⟨true, true, none, .idle, .idle, []⟩])[j]? = some d at hd
    rw [List.getElem?_append] at hd
    split_ifs at hd
    · exact .inr ⟨d, hd, rfl⟩
    · rw [List.mem_singleton.mp (List.mem_of_getElem? hd)]
      exact .inl rfl
  | request i now fails frame =>
    refine onConn fun c hc => ?_
    split_ifs with hready
    · simp only [Bool.and_eq_true, decide_eq_true_eq] at hready
      exact handle_terminal hc hready.1 hready.2 now fails frame
    · exact .quiet hrefl
  | advance i now failure => exact onConn fun c hc => advance_terminal hc now failure
  | hangUp i =>
    refine onConn fun c hc => ?_
    split_ifs
    · exact .quiet hrefl.finish
    · exact .quiet hrefl
  | malformed i code =>
    refine onConn fun c hc => ?_
    split_ifs
    · exact .quiet (hrefl.reject _ _)
    · exact .quiet hrefl
  | produce data =>
    have hproduced : Quiet s { s with ring := s.ring.append data, produced := s.produced ++ data } :=
      Quiet.of_handlers rfl rfl rfl
    rw [RuntimeHost.step]
    split_ifs
    · exact .quiet hrefl
    · exact .quiet (hproduced.trans (Quiet.enqueueAll _ _))
  | exit code =>
    have hexited : Quiet s { s with exited := some code } := Quiet.of_handlers rfl rfl rfl
    rw [RuntimeHost.step]
    split_ifs
    · exact .quiet hrefl
    · exact .quiet (hexited.trans (Quiet.enqueueAll _ [.exit code]))
  | take i =>
    refine onConn fun c hc => ?_
    unfold RuntimeHost.take
    split
    · split_ifs
      · exact .quiet hrefl
      · exact .quiet (hrefl.setConn_same hc rfl)
    · exact .quiet hrefl
  | write i failure =>
    refine onConn fun c hc => ?_
    unfold RuntimeHost.writeChunk
    split
    · cases failure with
      | none =>
        dsimp only
        split_ifs <;> exact .quiet (hrefl.setConn_same hc rfl)
      | some k => exact .quiet (hrefl.setConn_same hc rfl)
    · exact .quiet hrefl
  | settle i =>
    have hreleased : Quiet s (s.releaseControl i) := Quiet.of_handlers rfl rfl rfl
    refine onConn fun c hc => ?_
    unfold RuntimeHost.settleChunk
    split
    · exact .quiet (hrefl.setConn_same hc rfl)
    · dsimp only
      split_ifs
      · exact .quiet (hreleased.setConn_same hc rfl)
      · exact .quiet (hrefl.setConn_same hc rfl)
    · exact .quiet hrefl

end Steps

theorem ptyStream_append (pty : List PtyWrite) (execution : Option Nat) (bytes : List UInt8) :
    ptyStream (pty ++ [⟨execution, bytes⟩]) = ptyStream pty ++ bytes.map (execution, ·) := by
  simp [ptyStream]

variable {pty : List PtyWrite}

theorem absent_ptyStream {k : Nat} (h : ∀ w ∈ pty, w.execution ≠ some k) :
    Absent (some k) (ptyStream pty) := by
  intro x hx
  obtain ⟨w, hw, hmem⟩ := List.mem_flatMap.mp hx
  exact absent_map (h w hw) w.bytes x hmem

/-- The first frames are written, and the next byte goes on where they end. -/
structure InPlace (pty : List PtyWrite) (k : Nat) (tx : Delivery) (frame : Nat) : Prop where
  first : written pty k = (tx.frames.take frame).flatten
  ready : (tx.frames.drop frame).flatten ≠ [] → OpenBlock (some k) (ptyStream pty) (written pty k)

variable {tx : Delivery}

theorem InPlace.other {k frame : Nat} (h : InPlace pty k tx frame)
    {execution : Option Nat} {bytes : List UInt8} (hne : execution ≠ some k)
    (halone : bytes ≠ [] → (tx.frames.take frame).flatten = [] ∨ (tx.frames.drop frame).flatten = []) :
    InPlace (pty ++ [⟨execution, bytes⟩]) k tx frame := by
  refine ⟨(written_append_other hne).trans h.first, fun hrest => ?_⟩
  have hopen := h.ready hrest
  rw [written_append_other hne, ptyStream_append]
  by_cases hbytes : bytes = []
  · simpa [hbytes] using hopen
  · have hnothing : written pty k = [] :=
      h.first.trans ((halone hbytes).resolve_right hrest)
    rw [hnothing] at hopen ⊢
    exact (hopen.absent.append (absent_map hne bytes)).openBlock

section Frames
variable {frames : List (List UInt8)} {frame : Nat} {bytes : List UInt8}

theorem flatten_take_succ (h : frames[frame]? = some bytes) :
    (frames.take (frame + 1)).flatten = (frames.take frame).flatten ++ bytes := by
  rw [List.take_add_one, h]
  simp

theorem flatten_drop (h : frames[frame]? = some bytes) :
    (frames.drop frame).flatten = bytes ++ (frames.drop (frame + 1)).flatten := by
  obtain ⟨hlt, rfl⟩ := List.getElem?_eq_some_iff.mp h
  rw [List.drop_eq_getElem_cons hlt, List.flatten_cons]

theorem flatten_take_isPrefix (frames : List (List UInt8)) (n : Nat) : (frames.take n).flatten <+: frames.flatten := by
  refine ⟨(frames.drop n).flatten, ?_⟩
  rw [← List.flatten_append, List.take_append_drop]

end Frames

/-- Its handler writes the next of its frames, or the beginning of it. -/
theorem InPlace.append {k frame : Nat} (h : InPlace pty k tx frame)
    {bytes piece : List UInt8} (hframe : tx.frames[frame]? = some bytes) (hpiece : piece <+: bytes)
    (hblock : OneBlock (some k) (ptyStream pty) (written pty k)) :
    written (pty ++ [⟨some k, piece⟩]) k <+: tx.frames.flatten ∧
      OneBlock (some k) (ptyStream (pty ++ [⟨some k, piece⟩])) (written (pty ++ [⟨some k, piece⟩]) k) := by
  rw [written_append_same, ptyStream_append]
  constructor
  · rw [h.first]
    apply List.IsPrefix.trans _ (flatten_take_isPrefix tx.frames (frame + 1))
    rw [flatten_take_succ hframe, List.prefix_append_right_inj]
    exact hpiece
  · by_cases hempty : piece = []
    · simpa [hempty] using hblock
    · have hrest : (tx.frames.drop frame).flatten ≠ [] := by
        rw [flatten_drop hframe]
        intro hnil
        rw [(List.append_eq_nil_iff.mp hnil).1, List.prefix_nil] at hpiece
        exact hempty hpiece
      exact ((h.ready hrest).append piece).oneBlock

theorem InPlace.next {k frame : Nat} (h : InPlace pty k tx frame)
    {bytes : List UInt8} (hframe : tx.frames[frame]? = some bytes) :
    InPlace (pty ++ [⟨some k, bytes⟩]) k tx (frame + 1) := by
  refine ⟨?_, fun hrest => ?_⟩
  · rw [written_append_same, h.first, flatten_take_succ hframe]
  · have hmore : (tx.frames.drop frame).flatten ≠ [] := by
      rw [flatten_drop hframe]
      exact fun hnil => hrest (List.append_eq_nil_iff.mp hnil).2
    rw [written_append_same, ptyStream_append]
    exact (h.ready hmore).append bytes

/-- The deliveries that are being written can go on, and no two handlers write one. -/
structure BlocksKept (s : RuntimeHost) : Prop where
  blocks : InBlocks s
  begun : ∀ w ∈ s.pty, ∀ k ∈ w.execution, k < s.executions.length
  handlers : ∀ (i : Nat) (c : Conn), s.conns[i]? = some c → ∀ k tx frame, c.handler.writes = some (k, tx, frame) →
    s.executions[k]? = some tx ∧ InPlace s.pty k tx frame
  exclusive : ∀ (i j : Nat) (c d : Conn), s.conns[i]? = some c → s.conns[j]? = some d → ∀ k tx frame tx' frame',
    c.handler.writes = some (k, tx, frame) → d.handler.writes = some (k, tx', frame') → i = j

namespace BlocksKept
variable {s s' : RuntimeHost} {i : Nat} {c : Conn}

theorem initial (enrollment : HostEnrollment) (ringBytes : Nat) (secret : List UInt8) :
    BlocksKept (RuntimeHost.initial enrollment ringBytes secret) where
  blocks _ _ hk := nomatch hk
  begun _ hm := (List.not_mem_nil hm).elim
  handlers _ _ hc := nomatch hc
  exclusive _ _ _ _ hc := nomatch hc

theorem quiet (h : BlocksKept s) (hq : Quiet s s') : BlocksKept s' := by
  have hold {j : Nat} {d : Conn} (hd : s'.conns[j]? = some d) {k frame : Nat} {tx : Delivery}
      (hwrites : d.handler.writes = some (k, tx, frame)) :
      ∃ c, s.conns[j]? = some c ∧ c.handler.writes = some (k, tx, frame) := by
    rcases hq.handlers j d hd with hnone | ⟨c, hc, hsame⟩
    · rw [hnone] at hwrites
      cases hwrites
    · exact ⟨c, hc, hsame ▸ hwrites⟩
  refine ⟨?_, ?_, fun j d hd k tx frame hwrites => ?_, fun i j c d hc hd k tx frame tx' frame' hcw hdw => ?_⟩
  · unfold InBlocks
    rw [hq.executions, hq.pty]
    exact h.blocks
  · rw [hq.executions, hq.pty]
    exact h.begun
  · obtain ⟨c, hc, hcw⟩ := hold hd hwrites
    rw [hq.executions, hq.pty]
    exact h.handlers j c hc k tx frame hcw
  · obtain ⟨c', hc', hcw'⟩ := hold hc hcw
    obtain ⟨d', hd', hdw'⟩ := hold hd hdw
    exact h.exclusive i j c' d' hc' hd' k tx frame tx' frame' hcw' hdw'

theorem blocks_append (h : BlocksKept s) {execution : Option Nat} {bytes : List UInt8} {k : Nat}
    (hk : s.executions[k]? = some tx) (hne : execution ≠ some k) :
    written (s.pty ++ [⟨execution, bytes⟩]) k <+: tx.frames.flatten ∧
      OneBlock (some k) (ptyStream (s.pty ++ [⟨execution, bytes⟩])) (written (s.pty ++ [⟨execution, bytes⟩]) k) := by
  obtain ⟨hfront, hblock⟩ := h.blocks k tx hk
  rw [written_append_other hne, ptyStream_append]
  exact ⟨hfront, hblock.append (absent_map hne bytes)⟩

theorem input (h : BlocksKept s) {bytes : List UInt8} (halone : bytes ≠ [] → Alone s none) :
    BlocksKept { s with pty := s.pty ++ [⟨none, bytes⟩] } := by
  refine ⟨fun k tx hk => ?_, fun w hw k hk => ?_, fun j d hd k tx frame hwrites => ?_, h.exclusive⟩
  · apply h.blocks_append hk
    simp
  · rcases List.mem_append.mp hw with hold | hnew
    · exact h.begun w hold k hk
    · rw [List.mem_singleton.mp hnew] at hk
      cases hk
  · obtain ⟨hk, hplace⟩ := h.handlers j d hd k tx frame hwrites
    refine ⟨hk, hplace.other (by simp) fun hbytes => ?_⟩
    exact halone hbytes d (List.mem_of_getElem? hd) k tx frame hwrites (by simp)

theorem begin (h : BlocksKept s) (hexecutions : s'.executions = s.executions ++ [tx])
    (hpty : s'.pty = s.pty) (hhandlers : ∀ (j : Nat) (d : Conn), s'.conns[j]? = some d →
      j = i ∧ d.handler.writes = some (s.executions.length, tx, 0) ∨ j ≠ i ∧ s.conns[j]? = some d) :
    BlocksKept s' := by
  have hfresh : ∀ w ∈ s.pty, w.execution ≠ some s.executions.length := fun w hw hk =>
    absurd (h.begun w hw _ hk) (Nat.lt_irrefl _)
  have hempty : written s.pty s.executions.length = [] := written_eq_nil hfresh
  have hopen : OpenBlock (some s.executions.length) (ptyStream s.pty) [] := (absent_ptyStream hfresh).openBlock
  have hnew {k : Nat} {tx' : Delivery} (hk : s'.executions[k]? = some tx') :
      s.executions[k]? = some tx' ∨ k = s.executions.length ∧ tx' = tx := by
    rw [hexecutions, List.getElem?_append] at hk
    split_ifs at hk with hlt
    · exact .inl hk
    · have hlast := (List.getElem?_eq_some_iff.mp hk).1
      rw [List.length_singleton] at hlast
      have hkeq : k = s.executions.length := by omega
      subst hkeq
      simp at hk
      exact .inr ⟨rfl, hk.symm⟩
  have hlt {j : Nat} {d : Conn} (hd : s.conns[j]? = some d) {k frame : Nat} {tx' : Delivery}
      (hwrites : d.handler.writes = some (k, tx', frame)) : k < s.executions.length :=
    (List.getElem?_eq_some_iff.mp (h.handlers j d hd k tx' frame hwrites).1).1
  refine ⟨fun k tx' hk => ?_, fun w hw k hk => ?_, fun j d hd k tx' frame hwrites => ?_,
    fun j l d e hd he k tx₁ frame₁ tx₂ frame₂ hdw hew => ?_⟩
  · rw [hpty]
    rcases hnew hk with hold | ⟨rfl, rfl⟩
    · exact h.blocks k tx' hold
    · rw [hempty]
      exact ⟨List.nil_prefix, hopen.oneBlock⟩
  · rw [hpty] at hw
    rw [hexecutions, List.length_append]
    exact Nat.lt_add_right _ (h.begun w hw k hk)
  · rcases hhandlers j d hd with ⟨rfl, hown⟩ | ⟨-, hd⟩
    · rw [hown] at hwrites
      cases hwrites
      rw [hexecutions, hpty]
      refine ⟨List.getElem?_concat_length, ?_, fun _ => ?_⟩
      · simpa using hempty
      · rwa [hempty]
    · obtain ⟨hk, hplace⟩ := h.handlers j d hd k tx' frame hwrites
      rw [hexecutions, hpty, List.getElem?_append_left (hlt hd hwrites)]
      exact ⟨hk, hplace⟩
  · rcases hhandlers j d hd with ⟨rfl, hd'⟩ | ⟨-, hd'⟩ <;> rcases hhandlers l e he with ⟨rfl, he'⟩ | ⟨-, he'⟩
    · rfl
    · rw [hd'] at hdw
      cases hdw
      exact absurd (hlt he' hew) (Nat.lt_irrefl _)
    · rw [he'] at hew
      cases hew
      exact absurd (hlt hd' hdw) (Nat.lt_irrefl _)
    · exact h.exclusive j l d e hd' he' k tx₁ frame₁ tx₂ frame₂ hdw hew

/-- An execution writes a piece of its next frame, and goes on if that was all of it. -/
theorem wrote (h : BlocksKept s) (hc : s.conns[i]? = some c) {k frame : Nat}
    (hwrites : c.handler.writes = some (k, tx, frame)) {bytes piece : List UInt8}
    (hframe : tx.frames[frame]? = some bytes) (hpiece : piece <+: bytes) (halone : bytes ≠ [] → Alone s (some k))
    {writes : Option (Nat × Delivery × Nat)} (hw : Wrote s s' i (some k) piece writes)
    (hnext : writes = none ∨ writes = some (k, tx, frame + 1) ∧ piece = bytes) : BlocksKept s' := by
  obtain ⟨hk, hplace⟩ := h.handlers i c hc k tx frame hwrites
  have hfull (hpieces : piece ≠ []) : bytes ≠ [] := by
    rintro rfl
    exact hpieces (List.prefix_nil.mp hpiece)
  have hown {j : Nat} {d : Conn} (hd : s'.conns[j]? = some d) {k' frame' : Nat} {tx' : Delivery}
      (hdw : d.handler.writes = some (k', tx', frame')) :
      j = i ∧ (k', tx', frame') = (k, tx, frame + 1) ∧ piece = bytes ∨ j ≠ i ∧ s.conns[j]? = some d := by
    rcases hw.handlers j d hd with ⟨hji, hsame⟩ | hother
    · rcases hnext with hnone | ⟨hsome, hall⟩
      · rw [hsame, hnone] at hdw
        cases hdw
      · rw [hsame, hsome] at hdw
        exact .inl ⟨hji, (Option.some.inj hdw).symm, hall⟩
    · exact .inr hother
  refine ⟨fun k' tx' hk' => ?_, fun w hmem k' hk' => ?_, fun j d hd k' tx' frame' hdw => ?_,
    fun j l d e hd he k' tx₁ frame₁ tx₂ frame₂ hdw hew => ?_⟩
  · rw [hw.executions] at hk'
    rw [hw.pty]
    by_cases hkk : k' = k
    · subst hkk
      rw [hk] at hk'
      cases hk'
      exact hplace.append hframe hpiece (h.blocks k' tx hk).2
    · exact h.blocks_append hk' fun heq => hkk (Option.some.inj heq).symm
  · rw [hw.pty] at hmem
    rw [hw.executions]
    rcases List.mem_append.mp hmem with hold | hnew
    · exact h.begun w hold k' hk'
    · rw [List.mem_singleton.mp hnew] at hk'
      cases hk'
      exact (List.getElem?_eq_some_iff.mp hk).1
  · rw [hw.executions, hw.pty]
    rcases hown hd hdw with ⟨rfl, heq, rfl⟩ | ⟨hji, hd⟩
    · cases heq
      exact ⟨hk, hplace.next hframe⟩
    · obtain ⟨hk', hplace'⟩ := h.handlers j d hd k' tx' frame' hdw
      have hne : some k ≠ some k' := by
        intro heq
        cases heq
        exact hji (h.exclusive j i d c hd hc k tx' frame' tx frame hdw hwrites)
      exact ⟨hk', hplace'.other hne fun hpieces =>
        halone (hfull hpieces) d (List.mem_of_getElem? hd) k' tx' frame' hdw hne⟩
  · rcases hown hd hdw with ⟨rfl, hd', -⟩ | ⟨hji, hd'⟩ <;> rcases hown he hew with ⟨rfl, he', -⟩ | ⟨hli, he'⟩
    · rfl
    · cases hd'
      exact h.exclusive j l c e hc he' k tx frame tx₂ frame₂ hwrites hew
    · cases he'
      exact h.exclusive j l d c hd' hc k tx₁ frame₁ tx frame hdw hwrites
    · exact h.exclusive j l d e hd' he' k' tx₁ frame₁ tx₂ frame₂ hdw hew

theorem step (h : BlocksKept s) (e : RuntimeHost.HostEvent) (hunmixed : Unmixed s e) :
    BlocksKept (s.step e) := by
  have halone {i : Nat} {now : Int} {failure : Option Nat} {c : Conn} {k frame : Nat} {tx : Delivery}
      {bytes : List UInt8} (hu : Unmixed s (.advance i now failure)) (hc : s.conns[i]? = some c)
      (hwrites : c.handler.writes = some (k, tx, frame)) (hframe : tx.frames[frame]? = some bytes)
      (hbytes : bytes ≠ []) : Alone s (some k) := by
    refine hu c hc k tx frame hwrites ?_
    rwa [List.getD_eq_getElem?_getD, hframe]
  cases step_terminal s e with
  | quiet hq => exact h.quiet hq
  | input hadmitted heq =>
    rw [heq]
    exact h.input fun hbytes => hunmixed hbytes hadmitted
  | begin hexecutions hpty hhandlers => exact h.begin hexecutions hpty hhandlers
  | write hc hwrites hframe hw =>
    exact h.wrote hc hwrites hframe List.prefix_rfl (halone hunmixed hc hwrites hframe) hw (.inr ⟨rfl, rfl⟩)
  | fail hc hwrites hframe hw =>
    exact h.wrote hc hwrites hframe (List.take_prefix _ _) (halone hunmixed hc hwrites hframe) hw (.inl rfl)

end BlocksKept

/-- While nobody writes to the terminal in the middle of another's delivery, every delivery is one block of its input. -/
theorem deliveries_in_blocks (enrollment : HostEnrollment) (ringBytes : Nat) (secret : List UInt8)
    {events : List RuntimeHost.HostEvent}
    (h : Trace.Meets RuntimeHost.step Unmixed (.initial enrollment ringBytes secret) events) :
    InBlocks (Trace.run RuntimeHost.step (.initial enrollment ringBytes secret) events) :=
  BlocksKept.blocks (Trace.invariant_run (I := BlocksKept) (fun _ e hs hu => hs.step e hu)
    (.initial enrollment ringBytes secret) h)

namespace Sample

/-- A message, and the Enter after it. -/
def submission (i : Nat) (id : String) (text : UInt8) : RuntimeHost.HostEvent :=
  .request i 0 false (.deliverMessage (some ⟨id, [[text], [13]], [0, 75]⟩))

def steps (i n : Nat) : List RuntimeHost.HostEvent := List.replicate n (.advance i 0 none)

/-- Two messages one after the other, and the same while the first one waits for its Enter. -/
def inTurn : List RuntimeHost.HostEvent :=
  attach 0 "a" ++ attach 1 "b" ++ submission 0 "d" 104 :: steps 0 6 ++ submission 1 "e" 105 :: steps 1 6

def interleaved : List RuntimeHost.HostEvent :=
  attach 0 "a" ++ attach 1 "b" ++ submission 0 "d" 104 :: steps 0 4 ++ submission 1 "e" 105 :: steps 1 4 ++ steps 0 1 ++
    steps 1 1

end Sample

theorem deliveries_in_blocks_in_turn :
    Trace.Meets RuntimeHost.step Unmixed (.initial ⟨"session", "runtime", "authority", 1⟩ 4 [7]) Sample.inTurn ∧
      InBlocks (Trace.run RuntimeHost.step (.initial ⟨"session", "runtime", "authority", 1⟩ 4 [7]) Sample.inTurn) := by
  have hturn : Trace.Meets RuntimeHost.step Unmixed (.initial ⟨"session", "runtime", "authority", 1⟩ 4 [7])
      Sample.inTurn := by
    decide +kernel
  exact ⟨hturn, deliveries_in_blocks ⟨"session", "runtime", "authority", 1⟩ 4 [7] hturn⟩

/-- Two messages come out as one line, and an empty one. -/
theorem deliveries_interleaved : ¬ ∀ enrollment ringBytes secret events,
    InBlocks (Trace.run RuntimeHost.step (.initial enrollment ringBytes secret) events) := by
  intro h
  have hblocks := h ⟨"session", "runtime", "authority", 1⟩ 4 [7] Sample.interleaved
  have hexecution : (Trace.run RuntimeHost.step (.initial ⟨"session", "runtime", "authority", 1⟩ 4 [7])
      Sample.interleaved).executions[0]? = some ⟨"d", [[104], [13]], [0, 75]⟩ := by
    decide +kernel
  have hstream : ptyStream (Trace.run RuntimeHost.step (.initial ⟨"session", "runtime", "authority", 1⟩ 4 [7])
      Sample.interleaved).pty = [(some 0, 104), (some 1, 105), (some 0, 13), (some 1, 13)] := by
    decide +kernel
  obtain ⟨n, hplaces⟩ := (hblocks 0 _ hexecution).2.interval
  rw [hstream] at hplaces
  have hbody := (hplaces 0 _ rfl).mp rfl
  have henter := (hplaces 2 _ rfl).mp rfl
  have hother : (some 1 : Option Nat) = some 0 := (hplaces 1 _ rfl).mpr (by omega)
  cases hother

end Wardroom.Runtime.Host
