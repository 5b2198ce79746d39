import Wardroom.Federation.RelayLocalServer

/-! # What a relay connection has agreed on before it handles a frame

Whatever bytes arrive and whatever the application does, a connection agrees on
one handshake at most, with a peer whose pinned key has signed it, and the frames
that it handles afterwards are numbered from one on, under the agreed connection
and in the direction of that peer.
-/

namespace Wardroom.Federation
open Wardroom.Library
open Prog (frame_bind frame_pure frame_ite frame_read frame_modify frame_fail frame_ofExcept frame_tryCatch)

variable {ν ω α : Type}

def Notice.agreement : Notice ν ω → Option (RelayHandshakeAccept ν)
  | .agreed accept => some accept
  | _ => none

def Notice.handling : Notice ν ω → Option (Option JsString × RelayHeader)
  | .handled peer received _ => some (peer, received)
  | _ => none

/-- What an initiator has checked of an accept that answers its offer. -/
structure Verified (s : Surroundings ν ω) (pending : PendingInit ν) (accept : RelayHandshakeAccept ν)
    (dir : JsString) (w : ω) : Prop where
  connection : accept.connectionId = pending.connectionId
  echoes : RelayConnection.echoesOffer s pending accept
  dialed : accept.responderAuthorityId = pending.responderAuthorityId
  unexpired : s.now w < RelayConnection.dateOf s accept.expiresAt
  signed : ∃ der trust, RelayConnection.canonicalPublicKeyDerFromSpkiBase64 s accept.responderPublicKeySpkiB64 = .ok der ∧
    RelayConnection.keyMatches (s.fingerprintForDer der) accept.responderFingerprint accept.responderAuthorityId ∧
    s.readActivePeerTrust accept.responderAuthorityId dir w = .ok (some trust) ∧
    RelayConnection.trustMatchesPresented trust (s.fingerprintForDer der) ∧
    s.verifyEnrollmentTranscript der (canonicalRelayAcceptTranscript s.toPlatform accept) accept.signature = true

/-- What a responder has checked of the init that its accept answers. -/
structure Vouched (s : Surroundings ν ω) (init : RelayHandshakeInit ν) (accept : RelayHandshakeAccept ν)
    (dir : JsString) (trust : PeerTrustRecord ν) (w : ω) : Prop where
  connection : accept.connectionId = init.connectionId
  initiator : accept.initiatorAuthorityId = init.initiatorAuthorityId
  checked : Checked s init dir accept.responderAuthorityId trust w
  pinned : RelayConnection.trustMatchesPresented trust init.initiatorFingerprint

/-- The handshake was authenticated with a key that this machine has pinned for the peer: the initiator's offer,
which it has signed, was answered by the accept received; or the responder has signed the accept for an init received. -/
def Authentic (s : Surroundings ν ω) (received : RelayWireFrame ν → ω → Prop) (localStateDir : JsString) (role : Role)
    (accept : RelayHandshakeAccept ν) (before : List (Notice ν ω)) : Prop :=
  match role with
  | .initiator => ∃ der init w, .signed (.init der init) ∈ before ∧ received (.accept accept) w ∧
      Verified s (RelayConnection.pendingOf init) accept localStateDir w
  | .responder => ∃ der init dir trust w, .signed (.accept der accept init dir w) ∈ before ∧ received (.init init) w ∧
      Vouched s init accept dir trust w

theorem Authentic.append {s : Surroundings ν ω} {received : RelayWireFrame ν → ω → Prop} {localStateDir : JsString}
    {role : Role} {accept : RelayHandshakeAccept ν} {before : List (Notice ν ω)}
    (h : Authentic s received localStateDir role accept before) (ns : List (Notice ν ω)) :
    Authentic s received localStateDir role accept (before ++ ns) := by
  cases role with
  | initiator =>
    obtain ⟨der, init, w, hsigned, hverified⟩ := h
    exact ⟨der, init, w, List.mem_append_left _ hsigned, hverified⟩
  | responder =>
    obtain ⟨der, init, dir, trust, w, hsigned, hvouched⟩ := h
    exact ⟨der, init, dir, trust, w, List.mem_append_left _ hsigned, hvouched⟩

/-- The authenticated peer. -/
def RelayHandshakeAccept.peer (accept : RelayHandshakeAccept ν) : Role → JsString
  | .initiator => accept.responderAuthorityId
  | .responder => accept.initiatorAuthorityId

theorem Calm.untold {v v' : View} {ns : List (Notice ν ω)} (h : Calm v ns v') :
    ns.filterMap Notice.agreement = [] ∧ ns.filterMap Notice.handling = [] ∧
      (v'.stage = v.stage ∨ v'.stage = .closed) := by
  induction h with
  | nil v => exact ⟨rfl, rfl, .inl rfl⟩
  | cons htold _ ih =>
    cases htold with
    | status state peer => exact ih
    | closed stage peer => exact ⟨ih.1, ih.2.1, .inr (ih.2.2.elim id id)⟩

namespace RelayConnection

/-- The handshake that is under way, and how far the peer's frames have been taken. -/
def fixed (c : RelayConnection ν ω) : JsString × Option JsString × Nat × Option (PendingInit ν) :=
  (c.localStateDir, c.connectionId, c.incomingSeq, c.pendingInit)

abbrev Fixes (x : Relay ν ω α) : Prop := Prog.Frame fixed x

theorem fixes_fail (reason : RelayDisconnectReason) (message : JsString) :
    Fixes (fail reason message : Relay ν ω Unit) := by
  intro c
  change (c.closing reason message).fixed = c.fixed
  unfold closing
  split_ifs
  · rfl
  · rfl

variable (s : Surroundings ν ω)

theorem fixes_enqueue (line : JsString) : Fixes (enqueue line : Relay ν ω Unit) := by
  refine frame_bind frame_read fun c => ?_
  exact frame_ite (frame_modify fun _ => rfl) (fixes_fail _ _)

theorem fixes_writeFrame (line : JsString) : Fixes (writeFrame s line) := by
  have hwrite : Fixes (writeLine s line) := fun _ => rfl
  refine frame_bind frame_read fun c => ?_
  refine frame_ite (frame_pure ()) (frame_ite (fixes_enqueue line) ?_)
  exact frame_bind hwrite fun ok => frame_ite (frame_pure ()) (fixes_enqueue line)

theorem fixes_sendSequencedFrame (factory : RelayHeader → JsValue ν) : Fixes (sendSequencedFrame s factory) := by
  refine frame_bind frame_read fun c => ?_
  refine frame_bind (frame_ofExcept _) fun line => ?_
  exact frame_bind (frame_modify fun _ => rfl) fun _ => fixes_writeFrame s line

theorem fixes_close (reason : RelayDisconnectReason) (message : JsString) : Fixes (close s reason message) := by
  refine frame_bind frame_read fun c => ?_
  refine frame_ite (frame_pure ()) (frame_bind ?_ fun _ => fixes_fail reason message)
  refine frame_bind frame_read fun c => frame_ite ?_ (frame_pure ())
  exact frame_tryCatch (fixes_sendSequencedFrame s _) fun _ => frame_pure ()

theorem fixes_revalidatePeerTrustOrClose : Fixes (revalidatePeerTrustOrClose s) := by
  refine frame_bind frame_read fun c => ?_
  cases c.peerAuthorityId with
  | none => exact frame_pure ()
  | some peer =>
    refine frame_bind (frame_ofExcept _) fun trust => ?_
    exact frame_ite (fixes_close s _ _) (frame_pure ())

theorem fixes_emitStatus : Fixes (Prog.modify emitStatus : Relay ν ω Unit) := frame_modify fun _ => rfl

theorem fixes_sendHeartbeat : Fixes (sendHeartbeat s) := by
  refine frame_bind frame_read fun c => frame_ite (frame_pure ()) ?_
  refine frame_bind (fixes_sendSequencedFrame s _) fun _ => ?_
  refine frame_bind (frame_modify fun _ => rfl) fun _ => ?_
  exact frame_bind (fixes_revalidatePeerTrustOrClose s) fun _ => fixes_emitStatus

theorem fixes_drain : Fixes (drain s) := by
  refine frame_bind frame_read fun c => frame_ite (frame_pure ()) ?_
  refine frame_bind (frame_modify fun _ => rfl) fun _ => ?_
  exact frame_bind (fixes_sendSequencedFrame s _) fun _ => fixes_emitStatus

theorem fixes_request (frame : RelayApplicationFrame ν) :
    Fixes (do
      assertCanSendApplicationRequest
      sendApplication s frame) := by
  refine frame_bind ?_ fun _ => fixes_sendSequencedFrame s _
  refine frame_bind frame_read fun c => frame_ite (frame_fail _) ?_
  exact frame_ite (frame_fail _) (frame_pure ())

theorem fixes_sendOpaque (frame : List (JsString × JsValue ν)) : Fixes (sendOpaque s frame) :=
  frame_bind frame_read fun _ => frame_ite (frame_fail _) (fixes_sendSequencedFrame s _)

theorem fixes_perform (operation : Operation ν) : Fixes (perform s operation) := by
  cases operation with
  | sendTerminal frame => exact fixes_sendOpaque s frame
  | sendChannel frame => exact fixes_sendOpaque s frame
  | sendInventory frame => exact fixes_sendOpaque s frame
  | sendEcho payload => exact fixes_request s _
  | requestStatus => exact fixes_request s _
  | sendHeartbeat => exact fixes_sendHeartbeat s
  | drain => exact fixes_drain s
  | close reason message => exact fixes_close s reason message

theorem fixes_handle (handling : Handling ν) : Fixes (handle s handling) := by
  induction handling with
  | done => exact frame_pure ()
  | throws message => exact frame_fail message
  | call operation next ih =>
    intro c
    exact (ih _ _).trans (fixes_perform s operation c)

theorem fixes_handleWith (handler : Option (JsValue ν → ω → Handling ν)) (unavailable : Option String)
    (frame : JsValue ν) : Fixes (handleWith s handler unavailable frame) := by
  refine frame_bind frame_read fun c => ?_
  cases handler with
  | some handler => exact frame_tryCatch (fixes_handle s _) fun _ => fixes_fail _ _
  | none =>
    cases unavailable with
    | some message => exact fixes_fail _ _
    | none => exact frame_pure ()

theorem fixes_dispatch (frame : RelayApplicationFrame ν) : Fixes (dispatch s frame) := by
  refine frame_bind frame_read fun c => ?_
  cases frame with
  | echoRequest payload => exact frame_ite (fixes_fail _ _) (fixes_sendSequencedFrame s _)
  | echoResponse payload => exact frame_pure ()
  | statusRequest => exact frame_ite (fixes_fail _ _) (fixes_sendSequencedFrame s _)
  | statusResponse status => exact frame_pure ()
  | heartbeat =>
    refine frame_bind (frame_modify fun _ => rfl) fun _ => ?_
    exact frame_bind (fixes_revalidatePeerTrustOrClose s) fun _ => fixes_emitStatus
  | drain => exact fixes_close s _ _
  | close reason => exact fixes_fail _ _
  | protocolError code message => exact fixes_fail _ _
  | terminal kind frame => exact fixes_handleWith s _ _ _
  | channelCommand frame => exact fixes_handleWith s _ _ _
  | channelResult frame => exact fixes_handleWith s _ _ _
  | inventoryCommand frame => exact fixes_handleWith s _ _ _
  | inventoryResult frame => exact fixes_handleWith s _ _ _

variable {s} {received : RelayWireFrame ν → ω → Prop} {role : Role} {c c' : RelayConnection ν ω} {accept : RelayHandshakeAccept ν} {init : RelayHandshakeInit ν}
  {dir : JsString} {keys : MachineSigningKeys} {der : List UInt8} {w : ω}

/-- Nothing has been agreed on, and nothing handled. -/
structure Before (role : Role) (c : RelayConnection ν ω) : Prop where
  role_eq : c.role = role
  shut : c.Shut
  stage : c.state.stage ≠ .live
  agreements : c.notices.filterMap Notice.agreement = []
  handlings : c.notices.filterMap Notice.handling = []
  seq : c.incomingSeq = 0
  pending : role = .initiator → ∀ p, c.pendingInit = some p →
    c.connectionId = some p.connectionId ∧ c.peerAuthorityId = some p.responderAuthorityId ∧
      ∃ der init, .signed (.init der init) ∈ c.notices ∧ p = pendingOf init

/-- The peer's frames up to a number, in the order of their numbers. -/
def inSequence (role : Role) (accept : RelayHandshakeAccept ν) (n : Nat) : List (Option JsString × RelayHeader) :=
  (List.range n).map fun k => (some (accept.peer role), ⟨accept.connectionId, peerDirection role, k + 1⟩)

/-- The accept was agreed on, and then the peer's frames up to a number were handled in sequence. -/
def Agreed (s : Surroundings ν ω) (received : RelayWireFrame ν → ω → Prop) (localStateDir : JsString) (role : Role)
    (accept : RelayHandshakeAccept ν) (n : Nat) (notices : List (Notice ν ω)) : Prop :=
  ∃ before later, notices = before ++ .agreed accept :: later ∧
    Authentic s received localStateDir role accept before ∧ before.filterMap Notice.agreement = [] ∧ before.filterMap Notice.handling = [] ∧
    later.filterMap Notice.agreement = [] ∧ later.filterMap Notice.handling = inSequence role accept n

structure After (s : Surroundings ν ω) (received : RelayWireFrame ν → ω → Prop) (role : Role) (c : RelayConnection ν ω)
    (accept : RelayHandshakeAccept ν) : Prop where
  role_eq : c.role = role
  shut : c.Shut
  past : c.view.stage ≠ .handshaking
  connection : c.connectionId = some accept.connectionId
  peer : c.peerAuthorityId = some (accept.peer role)
  notices : Agreed s received c.localStateDir role accept c.incomingSeq c.notices

variable (s received) in
def Inv (role : Role) (c : RelayConnection ν ω) : Prop := c.Before role ∨ ∃ accept, c.After s received role accept

theorem fixed_eq (h : c'.fixed = c.fixed) :
    c'.localStateDir = c.localStateDir ∧ c'.connectionId = c.connectionId ∧ c'.incomingSeq = c.incomingSeq ∧
      c'.pendingInit = c.pendingInit := by
  simpa only [fixed, Prod.mk.injEq] using h

theorem Before.quiet (h : c.Before role) (hled : c.Settles c') (hfixed : c'.fixed = c.fixed) : c'.Before role := by
  obtain ⟨ns, hns, hcalm⟩ := hled.notices
  obtain ⟨hagreement, hhandling, hstage⟩ := hcalm.untold
  obtain ⟨-, hconnection, hseq, hpending⟩ := fixed_eq hfixed
  constructor
  case role_eq => exact hled.role.trans h.role_eq
  case shut => exact hled.shut h.shut
  case stage =>
    intro hlive
    rcases hstage with hsame | hclosed
    · exact h.stage (hsame.symm.trans hlive)
    · have hcontra := hclosed.symm.trans hlive
      cases hcontra
  case agreements => rw [hns, List.filterMap_append, h.agreements, hagreement, List.append_nil]
  case handlings => rw [hns, List.filterMap_append, h.handlings, hhandling, List.append_nil]
  case seq => exact hseq.trans h.seq
  case pending =>
    intro hrole p hp
    obtain ⟨hid, hpeer, der, init, hsigned, hinit⟩ := h.pending hrole p (hpending ▸ hp)
    exact ⟨hconnection.trans hid, hcalm.peer.trans hpeer, der, init, hns ▸ List.mem_append_left _ hsigned, hinit⟩

theorem After.quiet (h : c.After s received role accept) (hled : c.Settles c')
    (hfixed : c'.fixed = c.fixed) : c'.After s received role accept := by
  obtain ⟨ns, hns, hcalm⟩ := hled.notices
  obtain ⟨hagreement, hhandling, hstage⟩ := hcalm.untold
  obtain ⟨hdir, hconnection, hseq, -⟩ := fixed_eq hfixed
  obtain ⟨before, later, hnotices, hauthentic, hagreed, hhandled, hlater, hsequence⟩ := h.notices
  constructor
  case role_eq => exact hled.role.trans h.role_eq
  case shut => exact hled.shut h.shut
  case past => exact hcalm.past h.past
  case connection => exact hconnection.trans h.connection
  case peer => exact (show c'.peerAuthorityId = c.peerAuthorityId from hcalm.peer).trans h.peer
  case notices =>
    refine ⟨before, later ++ ns, ?_, hdir ▸ hauthentic, hagreed, hhandled, ?_, ?_⟩
    · rw [hns, hnotices, List.append_assoc]
      rfl
    · rw [List.filterMap_append, hlater, hagreement, List.append_nil]
    · rw [List.filterMap_append, hsequence, hhandling, List.append_nil, hseq]

theorem Inv.quiet (h : Inv s received role c) (hled : c.Settles c') (hfixed : c'.fixed = c.fixed) : Inv s received role c' := by
  rcases h with hbefore | ⟨accept, hafter⟩
  · exact .inl (hbefore.quiet hled hfixed)
  · exact .inr ⟨accept, hafter.quiet hled hfixed⟩

theorem Inv.run (h : Inv s received role c) {x : Relay ν ω α} (hled : Prog.Leads Settles x) (hfixed : Fixes x) :
    Inv s received role (x c).2 := h.quiet (hled c) (hfixed c)

theorem Inv.wp (h : Inv s received role c) {x : Relay ν ω α} (hled : Prog.Leads Settles x) (hfixed : Fixes x) :
    Prog.wp x (fun _ => Inv s received role) (fun _ => Inv s received role) c :=
  Prog.wp_mono (Prog.wp_and (hled.wp c) (hfixed.wp c)) (fun _ _ hend => h.quiet hend.1 hend.2)
    fun _ _ hend => h.quiet hend.1 hend.2

variable (s) (received)

theorem settles_reject (connectionId : JsString) (code : String) (message : JsString) :
    Prog.Leads Settles (rejectHandshake s connectionId code message) := by
  refine Prog.leads_bind (Prog.leads_ofExcept _) fun line => ?_
  exact Prog.leads_bind (writeFrame_settles s line) fun _ => fail_settles _ _

theorem fixes_reject (connectionId : JsString) (code : String) (message : JsString) :
    Fixes (rejectHandshake s connectionId code message) := by
  refine frame_bind (frame_ofExcept _) fun line => ?_
  exact frame_bind (fixes_writeFrame s line) fun _ => fixes_fail _ _

/-- However the program ends, the connection is one that has agreed properly, or not yet. -/
def Leaves (role : Role) (x : Relay ν ω Unit) (c : RelayConnection ν ω) : Prop :=
  Prog.wp x (fun _ => Inv s received role) (fun _ => Inv s received role) c

variable {s} {received}

theorem leaves_reject (h : c.Before role) (connectionId : JsString) (code : String) (message : JsString) :
    Leaves s received role (rejectHandshake s connectionId code message) c :=
  Inv.wp (.inl h) (settles_reject s connectionId code message) (fixes_reject s connectionId code message)

theorem leaves_fail (h : Inv s received role c) (reason : RelayDisconnectReason) (message : JsString) :
    Leaves s received role (fail reason message) c :=
  h.wp (fail_settles reason message) (fixes_fail reason message)

theorem leaves_read {x : RelayConnection ν ω → Relay ν ω Unit} (h : Leaves s received role (x c) c) :
    Leaves s received role (Prog.read >>= x) c := by
  unfold Leaves
  rwa [Prog.wp_bind, Prog.wp_read]

theorem leaves_modify {f : RelayConnection ν ω → RelayConnection ν ω} {x : Unit → Relay ν ω Unit}
    (h : Leaves s received role (x ()) (f c)) : Leaves s received role (Prog.modify f >>= x) c := by
  unfold Leaves
  rwa [Prog.wp_bind, Prog.wp_modify]

theorem leaves_ofExcept {β : Type} {outcome : Except JsString β} {x : β → Relay ν ω Unit} (h : Inv s received role c)
    (hx : ∀ b, outcome = .ok b → Leaves s received role (x b) c) : Leaves s received role (Prog.ofExcept outcome >>= x) c := by
  unfold Leaves
  simp only [Prog.wp_bind, Prog.wp_ofExcept]
  exact ⟨hx, fun _ _ => h⟩

theorem accept_of_signed {trust : PeerTrustRecord ν} (h : signedAccept s init keys trust w = .ok (der, accept)) :
    accept.connectionId = init.connectionId ∧ accept.initiatorAuthorityId = init.initiatorAuthorityId ∧
      accept.responderAuthorityId = keys.authorityId := by
  unfold signedAccept at h
  obtain ⟨der', _, h⟩ := ok_of_bind h
  cases h
  exact ⟨rfl, rfl, rfl⟩

/-- The connection as it is once the accept has been agreed on. -/
theorem After.become (h : c.Before role) (hauthentic : Authentic s received c.localStateDir role accept c.notices)
    (hconnection : c.connectionId = some accept.connectionId) (hpeer : c.peerAuthorityId = some (accept.peer role)) :
    (becomeConnected s accept c).2.After s received role accept where
  role_eq := h.role_eq
  shut hclosed := nomatch hclosed
  past hhand := nomatch hhand
  connection := hconnection
  peer := hpeer
  notices := by
    refine ⟨c.notices, [.status .connected c.peerAuthorityId], ?_, hauthentic, h.agreements, h.handlings, rfl, ?_⟩
    · change (c.notices ++ [.agreed accept]) ++ [.status .connected c.peerAuthorityId] = _
      rw [List.append_assoc]
      rfl
    · change [] = inSequence role accept c.incomingSeq
      rw [h.seq]
      rfl

theorem leaves_acceptHandshake (h : c.Before .responder) (hreceived : received (.init init) c.world)
    (hconnection : c.connectionId = some init.connectionId)
    {trust : PeerTrustRecord ν} (hchecked : Checked s init dir keys.authorityId trust c.world)
    (hpinned : trustMatchesPresented trust init.initiatorFingerprint) :
    Leaves s received .responder (acceptHandshake s init dir keys trust) c := by
  refine leaves_read (leaves_ofExcept (.inl h) fun signed hsigned => ?_)
  obtain ⟨der, accept⟩ := signed
  obtain ⟨hsame, hinitiator, hresponder⟩ := accept_of_signed hsigned
  have hauthentic (dir' : JsString) : Authentic s received dir' .responder accept
      (c.answering init dir der accept).notices :=
    ⟨der, init, dir, trust, c.world, List.mem_append_right _ (List.mem_singleton_self _), hreceived,
      hsame, hinitiator, hresponder ▸ hchecked, hpinned⟩
  refine leaves_modify ?_
  have hanswering : (c.answering init dir der accept).Before .responder := by
    refine ⟨h.role_eq, h.shut, h.stage, ?_, ?_, h.seq, fun hrole => nomatch hrole⟩
    · change (c.notices ++ [_]).filterMap Notice.agreement = []
      rw [List.filterMap_append, h.agreements]
      rfl
    · change (c.notices ++ [_]).filterMap Notice.handling = []
      rw [List.filterMap_append, h.handlings]
      rfl
  refine leaves_ofExcept (.inl hanswering) fun line _ => ?_
  unfold Leaves
  rw [Prog.wp_bind]
  refine Prog.wp_mono (Prog.wp_and ((writeFrame_settles s line).wp _) ((fixes_writeFrame s line).wp _))
    (fun _ c₂ hend => ?_) fun _ c₂ hend => .inl (hanswering.quiet hend.1 hend.2)
  obtain ⟨ns, hns, hcalm⟩ := hend.1.notices
  obtain ⟨-, hid, -⟩ := fixed_eq hend.2
  refine .inr ⟨accept, After.become (hanswering.quiet hend.1 hend.2) (hns ▸ (hauthentic _).append ns) ?_ ?_⟩
  · rw [hid, hsame]
    exact hconnection
  · rw [show c₂.peerAuthorityId = (c.answering init dir der accept).peerAuthorityId from hcalm.peer]
    exact congrArg some hinitiator.symm

theorem leaves_onTrustedInit (h : c.Before .responder) (hreceived : received (.init init) c.world)
    (hconnection : c.connectionId = some init.connectionId)
    {trust : Option (PeerTrustRecord ν)} (haddressed : init.responderAuthorityId = keys.authorityId)
    (hder : canonicalPublicKeyDerFromSpkiBase64 s init.initiatorPublicKeySpkiB64 = .ok der)
    (hmatches : keyMatches (s.fingerprintForDer der) init.initiatorFingerprint init.initiatorAuthorityId)
    (htrust : s.readActivePeerTrust init.initiatorAuthorityId dir c.world = .ok trust) :
    Leaves s received .responder (onTrustedInit s init dir keys der trust) c := by
  cases trust with
  | none => exact leaves_reject h _ _ _
  | some trust =>
    refine leaves_read ?_
    split_ifs with hpinned hexpired hearly hsigned
    · exact leaves_reject h _ _ _
    · exact leaves_reject h _ _ _
    · exact leaves_reject h _ _ _
    · refine leaves_acceptHandshake h hreceived hconnection ⟨haddressed, ⟨der, hder, hmatches, Bool.of_not_eq_false hsigned⟩,
        htrust, Int.not_le.mp hexpired, Int.not_lt.mp hearly⟩ ?_
      rw [← hmatches.1]
      exact hpinned
    · exact leaves_reject h _ _ _

theorem leaves_onAddressedInit (h : c.Before .responder) (hreceived : received (.init init) c.world)
    (hconnection : c.connectionId = some init.connectionId) (dir : JsString) (keys : MachineSigningKeys) :
    Leaves s received .responder (onAddressedInit s init dir keys) c := by
  unfold onAddressedInit
  split_ifs with haddressed hreflected
  · exact leaves_reject h _ _ _
  · exact leaves_reject h _ _ _
  · cases hder : canonicalPublicKeyDerFromSpkiBase64 s init.initiatorPublicKeySpkiB64 with
    | error message => exact leaves_reject h _ _ _
    | ok der =>
      dsimp only
      split_ifs with hmatches
      · refine leaves_read (leaves_ofExcept (.inl h) fun trust htrust => ?_)
        exact leaves_onTrustedInit h hreceived hconnection (not_not.mp haddressed) hder hmatches htrust
      · exact leaves_reject h _ _ _

theorem Before.alike (h : c.Before .responder) (hsame : Alike c c') (hseq : c'.incomingSeq = c.incomingSeq) :
    c'.Before .responder where
  role_eq := hsame.role.trans h.role_eq
  shut := hsame.settles.shut h.shut
  stage := by
    rw [hsame.state]
    exact h.stage
  agreements := by
    rw [hsame.notices]
    exact h.agreements
  handlings := by
    rw [hsame.notices]
    exact h.handlings
  seq := hseq.trans h.seq
  pending hrole := nomatch hrole

theorem leaves_modify_alike (h : c.Before .responder) {f : RelayConnection ν ω → RelayConnection ν ω}
    {x : Unit → Relay ν ω Unit} (hf : Alike c (f c) ∧ (f c).incomingSeq = c.incomingSeq)
    (hx : ∀ c₁, c₁.Before .responder → c₁ = f c → Leaves s received .responder (x ()) c₁) :
    Leaves s received .responder (Prog.modify f >>= x) c :=
  leaves_modify (hx (f c) (h.alike hf.1 hf.2) rfl)

theorem leaves_onHandshakeInit (h : c.Before .responder) (hreceived : received (.init init) c.world) :
    Leaves s received .responder (onHandshakeInit s init) c := by
  refine leaves_modify_alike h ⟨⟨rfl, rfl, rfl, rfl, rfl⟩, rfl⟩ fun c₁ h₁ hc₁ => leaves_read ?_
  cases s.resolveRoomsStateDir (init.stateDir.or (some c₁.localStateDir)) c₁.world with
  | error message => exact leaves_reject h₁ _ _ _
  | ok dir =>
    refine leaves_modify_alike h₁ ⟨⟨rfl, rfl, rfl, rfl, rfl⟩, rfl⟩ fun c₂ h₂ hc₂ => ?_
    cases s.loadMachineSigningKeys dir c₁.world with
    | error message => exact leaves_reject h₂ _ _ _
    | ok keys =>
      refine leaves_modify_alike h₂ ⟨⟨rfl, rfl, rfl, rfl, rfl⟩, rfl⟩ fun c₃ h₃ hc₃ => ?_
      have hconnection : c₃.connectionId = some init.connectionId := by rw [hc₃, hc₂, hc₁]
      have hworld : c₃.world = c.world := by rw [hc₃, hc₂, hc₁]
      exact leaves_onAddressedInit h₃ (hworld ▸ hreceived) hconnection dir keys

theorem leaves_onTrustedAccept (h : c.Before .initiator) (hreceived : received (.accept accept) c.world) {pending : PendingInit ν}
    (hpending : c.pendingInit = some pending) (hsame : accept.connectionId = pending.connectionId)
    (hechoes : echoesOffer s pending accept) (hdialed : accept.responderAuthorityId = pending.responderAuthorityId)
    (hunexpired : s.now c.world < dateOf s accept.expiresAt) {trust : Option (PeerTrustRecord ν)}
    (htrust : s.readActivePeerTrust accept.responderAuthorityId c.localStateDir c.world = .ok trust) :
    Leaves s received .initiator (onTrustedAccept s accept trust) c := by
  cases trust with
  | none => exact leaves_fail (.inl h) _ _
  | some trust =>
    unfold onTrustedAccept
    cases hder : canonicalPublicKeyDerFromSpkiBase64 s accept.responderPublicKeySpkiB64 with
    | error message => exact leaves_fail (.inl h) _ _
    | ok der =>
      dsimp only
      split_ifs with hmatches hpinned hsigned
      · exact leaves_fail (.inl h) _ _
      · have hverified : Verified s pending accept c.localStateDir c.world :=
          ⟨hsame, hechoes, hdialed, hunexpired, der, trust, hder, hmatches, htrust, hpinned,
            Bool.of_not_eq_false hsigned⟩
        obtain ⟨hconnection, hpeer, der', init, hoffered, rfl⟩ := h.pending rfl pending hpending
        refine .inr ⟨accept, After.become h ⟨der', init, c.world, hoffered, hreceived, hverified⟩ ?_ ?_⟩
        · rw [hconnection, hsame]
        · rw [hpeer, ← hdialed]
          rfl
      · exact leaves_fail (.inl h) _ _
      · exact leaves_fail (.inl h) _ _

theorem leaves_onHandshakeAccept (h : c.Before .initiator) (hreceived : received (.accept accept) c.world) :
    Leaves s received .initiator (onHandshakeAccept s accept) c := by
  refine leaves_read ?_
  cases hpending : c.pendingInit with
  | none => exact leaves_fail (.inl h) _ _
  | some pending =>
    dsimp only
    split_ifs with hsame hechoes hdialed hexpired
    · exact leaves_fail (.inl h) _ _
    · exact leaves_fail (.inl h) _ _
    · exact leaves_fail (.inl h) _ _
    · refine leaves_ofExcept (.inl h) fun trust htrust => ?_
      exact leaves_onTrustedAccept h hreceived hpending (not_not.mp hsame) hechoes (not_not.mp hdialed)
        (Int.not_le.mp hexpired) htrust
    · exact leaves_fail (.inl h) _ _

theorem leaves_onHandshakeFrame (h : c.Before role) {frame : RelayWireFrame ν} (hreceived : received frame c.world) :
    Leaves s received role (onHandshakeFrame s frame) c := by
  refine leaves_read ?_
  obtain rfl := h.role_eq
  cases hrole : c.role with
  | responder =>
    rw [hrole] at h
    cases frame with
    | init init => exact leaves_onHandshakeInit h hreceived
    | accept accept => exact leaves_reject h _ _ _
    | reject reject => exact leaves_reject h _ _ _
    | application header frame => exact leaves_reject h _ _ _
  | initiator =>
    rw [hrole] at h
    cases frame with
    | init init => exact leaves_fail (.inl h) _ _
    | accept accept => exact leaves_onHandshakeAccept h hreceived
    | reject reject => exact leaves_fail (.inl h) _ _
    | application header frame => exact leaves_fail (.inl h) _ _

theorem inSequence_succ (role : Role) (accept : RelayHandshakeAccept ν) (n : Nat) :
    inSequence role accept (n + 1) =
      inSequence role accept n ++ [(some (accept.peer role), ⟨accept.connectionId, peerDirection role, n + 1⟩)] := by
  rw [inSequence, List.range_succ, List.map_append]
  rfl

/-- The next frame of the peer is taken. -/
theorem After.taking (h : c.After s received role accept) {header : RelayHeader}
    (hconnection : some header.connectionId = c.connectionId) (hdirection : header.direction = peerDirection c.role)
    (hseq : header.seq = c.incomingSeq + 1) (frame : RelayApplicationFrame ν) :
    (c.taking header frame).After s received role accept where
  role_eq := h.role_eq
  shut := h.shut
  past := h.past
  connection := h.connection
  peer := h.peer
  notices := by
    obtain ⟨before, later, hnotices, hauthentic, hagreed, hhandled, hlater, hsequence⟩ := h.notices
    have hheader : header = ⟨accept.connectionId, peerDirection role, c.incomingSeq + 1⟩ := by
      have hid : header.connectionId = accept.connectionId := Option.some.inj (hconnection.trans h.connection)
      rw [← hid, ← h.role_eq, ← hdirection, ← hseq]
    refine ⟨before, later ++ [.handled c.peerAuthorityId header frame], ?_, hauthentic, hagreed, hhandled, ?_, ?_⟩
    · change c.notices ++ [_] = _
      rw [hnotices, List.append_assoc]
      rfl
    · rw [List.filterMap_append, hlater]
      rfl
    · change _ = inSequence role accept header.seq
      rw [List.filterMap_append, hsequence, hseq, inSequence_succ, hheader, h.peer]
      rfl

theorem leaves_onApplicationFrame (h : c.After s received role accept) (header : RelayHeader)
    (frame : RelayApplicationFrame ν) : Leaves s received role (onApplicationFrame s header frame) c := by
  refine leaves_read ?_
  split_ifs with hconnection hdirection hseq
  · exact leaves_fail (.inr ⟨accept, h⟩) _ _
  · exact leaves_fail (.inr ⟨accept, h⟩) _ _
  · exact leaves_fail (.inr ⟨accept, h⟩) _ _
  · refine leaves_modify ?_
    have htaken := h.taking (not_not.mp hconnection) (not_not.mp hdirection) (not_not.mp hseq) frame
    exact Inv.wp (.inr ⟨accept, htaken⟩) (dispatch_settles s frame) (fixes_dispatch s frame)

/-- A connection that takes lines is in the handshake, or has agreed on one. -/
theorem Inv.open (h : Inv s received role c) (hopen : c.outbox.destroyed = false) :
    c.state = .handshaking ∧ c.Before role ∨ c.state ≠ .handshaking ∧ ∃ accept, c.After s received role accept := by
  rcases h with hbefore | ⟨accept, hafter⟩
  · left
    refine ⟨?_, hbefore⟩
    by_contra hstate
    exact hbefore.stage (stage_live hbefore.shut hopen hstate)
  · refine .inr ⟨fun hstate => hafter.past ?_, accept, hafter⟩
    rw [view, hstate]
    rfl

theorem leaves_handleMalformed (h : Inv s received role c) (message : JsString) : Leaves s received role (handleMalformed s message) c := by
  refine leaves_read ?_
  split_ifs with hhandshake
  · exact h.wp (settles_reject s _ _ _) (fixes_reject s _ _ _)
  · exact leaves_fail h _ _

theorem leaves_onLine (h : Inv s received role c) (hopen : c.outbox.destroyed = false) {line : JsString}
    (hreceived : ∀ frame, parseRelayFrame s.toPlatform (s.now c.world) line = .ok frame → received frame c.world) :
    Leaves s received role (onLine s line) c := by
  refine leaves_read ?_
  cases hparse : parseRelayFrame s.toPlatform (s.now c.world) line with
  | error message => exact leaves_handleMalformed h message
  | ok frame =>
    refine leaves_modify ?_
    have hlater : Inv s received role { c with lastAnyReceivedAtMs := s.now c.world } :=
      h.quiet (Alike.settles ⟨rfl, rfl, rfl, rfl, rfl⟩) rfl
    rcases hlater.open hopen with ⟨hstate, hbefore⟩ | ⟨hstate, accept, hafter⟩
    · rw [if_pos hstate]
      exact leaves_onHandshakeFrame hbefore (hreceived frame hparse)
    · rw [if_neg hstate]
      cases frame with
      | init init => exact leaves_fail (.inr ⟨accept, hafter⟩) _ _
      | accept frame => exact leaves_fail (.inr ⟨accept, hafter⟩) _ _
      | reject reject => exact leaves_fail (.inr ⟨accept, hafter⟩) _ _
      | application header frame => exact leaves_onApplicationFrame hafter header frame

theorem leaves_onLines (h : Inv s received role c) {lines : List Line} (hreceived : ∀ line ∈ lines, ∀ frame w,
      parseRelayFrame s.toPlatform (s.now w) (codeUnits line) = .ok frame → received frame w) :
    Leaves s received role (onLines s lines) c := by
  induction lines generalizing c with
  | nil => exact h
  | cons line lines ih =>
    obtain ⟨hline, hlines⟩ := List.forall_mem_cons.mp hreceived
    refine leaves_read ?_
    split_ifs with hdestroyed
    · exact h
    · refine leaves_modify ?_
      have hticked : Inv s received role { c with world := s.tick c.world } :=
        h.quiet (Alike.settles ⟨rfl, rfl, rfl, rfl, rfl⟩) rfl
      unfold Leaves
      rw [Prog.wp_bind]
      exact Prog.wp_mono_ok (leaves_onLine hticked (Bool.not_eq_true _ ▸ hdestroyed) fun frame => hline frame _)
        fun _ c' hc' => ih hc' hlines

variable (s) in
/-- One of the lines that the chunk ends is read as the frame, in the world that it is taken in. -/
def Brings (c : RelayConnection ν ω) (chunk : List UInt8) (frame : RelayWireFrame ν) (w : ω) : Prop :=
  ∃ lines rest, push c.buffer chunk = some (lines, rest) ∧
    ∃ line ∈ lines, parseRelayFrame s.toPlatform (s.now w) (codeUnits line) = .ok frame

theorem leaves_onData (h : Inv s received role c) {chunk : List UInt8}
    (hreceived : ∀ frame w, c.Brings s chunk frame w → received frame w) :
    Leaves s received role (onData s chunk) c := by
  refine leaves_read ?_
  split_ifs
  · exact h
  · cases hpush : push c.buffer chunk with
    | none => exact leaves_fail h _ _
    | some pushed =>
      refine leaves_modify (leaves_onLines ?_ fun line hline frame w hparse =>
        hreceived frame w ⟨pushed.1, pushed.2, hpush, line, hline, hparse⟩)
      exact h.quiet (Alike.settles ⟨rfl, rfl, rfl, rfl, rfl⟩) rfl

end RelayConnection

/-- What happens to a connection; the world is what it has become meanwhile. -/
inductive LinkEvent (ν ω : Type) where
  | data (chunk : List UInt8) (w : ω)
  /-- The application or a timer. -/
  | operate (operation : Operation ν) (w : ω)
  /-- A timer, an error of the transport or its end, or a rejected promise of the application. -/
  | fail (reason : RelayDisconnectReason) (message : JsString)
  /-- `flushQueue`, with the answers of the transport. -/
  | drained (oks : List Bool)

namespace RelayConnection
variable {s : Surroundings ν ω} {received : RelayWireFrame ν → ω → Prop} {role : Role} {c c' : RelayConnection ν ω}

def linkStep (s : Surroundings ν ω) (c : RelayConnection ν ω) : LinkEvent ν ω → RelayConnection ν ω
  | .data chunk w => (onData s chunk { c with world := w }).2
  | .operate operation w => (perform s operation { c with world := w }).2
  | .fail reason message => c.closing reason message
  | .drained oks => { c with outbox := c.outbox.flushQueue oks }

/-- A connection from its constructor and `start` on. -/
def linked (s : Surroundings ν ω) (input : RelayConnectionInput) (c : RelayConnection ν ω)
    (events : List (LinkEvent ν ω)) : RelayConnection ν ω :=
  Trace.run (linkStep s) (start s input c).2 events

theorem destroyed_flush (o : Outbox) (lines : List JsString) (oks : List Bool) :
    (o.flush lines oks).destroyed = o.destroyed := by
  induction lines generalizing o oks with
  | nil => rfl
  | cons line lines ih =>
    have hwrite : (o.write line).destroyed = o.destroyed := by
      unfold Outbox.write
      split_ifs <;> rfl
    rw [Outbox.flush]
    split_ifs
    · rw [ih]
      exact hwrite
    · exact hwrite

def Receives (s : Surroundings ν ω) (received : RelayWireFrame ν → ω → Prop) (c : RelayConnection ν ω) :
    LinkEvent ν ω → Prop
  | .data chunk _ => ∀ frame w, c.Brings s chunk frame w → received frame w
  | _ => True

theorem inv_linkStep (h : Inv s received role c) {event : LinkEvent ν ω} (hreceives : Receives s received c event) :
    Inv s received role (linkStep s c event) := by
  have hworld (w : ω) : Inv s received role { c with world := w } := h.quiet (Alike.settles ⟨rfl, rfl, rfl, rfl, rfl⟩) rfl
  cases event with
  | data chunk w =>
    rcases Prog.cases_of_wp (leaves_onData (hworld w) hreceives) with ⟨_, _, hend⟩ | ⟨_, _, hend⟩
    · exact hend
    · exact hend
  | operate operation w => exact (hworld w).run (perform_settles s operation) (fixes_perform s operation)
  | fail reason message => exact h.run (fail_settles reason message) (fixes_fail reason message)
  | drained oks => exact h.quiet (Alike.settles ⟨rfl, rfl, rfl, rfl, destroyed_flush _ _ _⟩) rfl

variable {input : RelayConnectionInput}

theorem constructed {w : ω} (h : construct s input w = .ok c) :
    c.Before input.role := by
  unfold construct at h
  split at h
  · cases h
  obtain ⟨localStateDir, _, h⟩ := ok_of_bind h
  obtain ⟨own, _, h⟩ := ok_of_bind h
  cases h
  exact ⟨rfl, nofun, nofun, rfl, rfl, rfl, nofun⟩

theorem init_of_signed {own peer : JsString} {keys : MachineSigningKeys}
    {trust : PeerTrustRecord ν} {w : ω} {der : List UInt8} {init : RelayHandshakeInit ν}
    (h : signedInit s input own peer keys trust w = .ok (der, init)) : init.responderAuthorityId = peer := by
  unfold signedInit at h
  obtain ⟨ttl, -, h⟩ := ok_of_bind h
  obtain ⟨der', -, h⟩ := ok_of_bind h
  cases h
  rfl

theorem Before.offered (h : c.Before role) (der : List UInt8) {init : RelayHandshakeInit ν} {peer : JsString}
    (hpeer : init.responderAuthorityId = peer) :
    Before role { c with
      notices := c.notices ++ [.signed (.init der init)]
      connectionId := some init.connectionId
      peerAuthorityId := some peer
      pendingInit := some (pendingOf init) } := by
  refine ⟨h.role_eq, h.shut, h.stage, ?_, ?_, h.seq, fun _ p hp => ?_⟩
  · rw [List.filterMap_append, h.agreements]
    rfl
  · rw [List.filterMap_append, h.handlings]
    rfl
  · cases hp
    exact ⟨rfl, congrArg some hpeer.symm, der, init, List.mem_append_right _ (List.mem_singleton_self _), rfl⟩

theorem leaves_offer (h : c.Before role) (init : RelayHandshakeInit ν) : Leaves s received role (do
    let line ← Prog.ofExcept (encodeRelayFrame s.toPlatform (.init init))
    writeFrame s line
    Prog.modify emitStatus) c := by
  refine leaves_ofExcept (.inl h) fun line _ => ?_
  have hled := Prog.leads_bind (writeFrame_settles s line) fun _ => emitStatus_settles
  have hfixed := frame_bind (fixes_writeFrame s line) fun _ => fixes_emitStatus
  exact Inv.wp (.inl h) hled hfixed

theorem leaves_start (h : c.Before role) : Leaves s received role (start s input) c := by
  have htimed : Before role { c with handshakeTimer := true } :=
    ⟨h.role_eq, h.shut, h.stage, h.agreements, h.handlings, h.seq, h.pending⟩
  refine leaves_modify ?_
  generalize ({ c with handshakeTimer := true } : RelayConnection ν ω) = timed at htimed
  refine leaves_read ?_
  cases timed.role with
  | responder => exact .inl htimed
  | initiator =>
    refine leaves_ofExcept (.inl htimed) fun trust _ => ?_
    cases trust with
    | none => exact leaves_fail (.inl htimed) _ _
    | some trust =>
      refine leaves_ofExcept (.inl htimed) fun keys _ => leaves_ofExcept (.inl htimed) fun signed hsigned => ?_
      have hpeer := init_of_signed hsigned
      refine leaves_modify (leaves_offer (htimed.offered signed.1 hpeer) signed.2)

/-- In the run, a chunk has brought the frame. -/
def Received (s : Surroundings ν ω) (input : RelayConnectionInput) (c : RelayConnection ν ω)
    (events : List (LinkEvent ν ω)) (frame : RelayWireFrame ν) (w : ω) : Prop :=
  ∃ before chunk w' after, events = before ++ .data chunk w' :: after ∧ (linked s input c before).Brings s chunk frame w

theorem inv_linked {w : ω} (h : construct s input w = .ok c)
    (events : List (LinkEvent ν ω)) : Inv s (Received s input c events) input.role (linked s input c events) := by
  have hmeets : Trace.Meets (linkStep s) (Receives s (Received s input c events)) (start s input c).2 events := by
    refine Trace.meets_of_splits fun before event after hsplit => ?_
    cases event with
    | data chunk w' => exact fun frame w hbrings => ⟨before, chunk, w', after, hsplit, hbrings⟩
    | _ => trivial
  unfold linked
  refine Trace.invariant_run (I := Inv s (Received s input c events) input.role)
    (fun _ _ hinv hreceives => inv_linkStep hinv hreceives) ?_ hmeets
  rcases Prog.cases_of_wp (leaves_start (constructed h)) with ⟨_, _, hend⟩ | ⟨_, _, hend⟩
  · exact hend
  · exact hend

variable (s received) in
/-- At most one handshake is agreed on, an authentic one, and only then are frames handled: the
authenticated peer's, numbered from one on without a gap or a repeat. -/
def AgreesFirst (localStateDir : JsString) (role : Role) (notices : List (Notice ν ω)) : Prop :=
  (notices.filterMap Notice.agreement = [] ∧ notices.filterMap Notice.handling = []) ∨
    ∃ accept n, Agreed s received localStateDir role accept n notices

/-- Whatever bytes a connection is sent, and whatever its application and its timers do. -/
theorem linked_agreesFirst {input : RelayConnectionInput} {w : ω} (h : construct s input w = .ok c)
    (events : List (LinkEvent ν ω)) : AgreesFirst s (Received s input c events) (linked s input c events).localStateDir
      input.role (linked s input c events).notices := by
  rcases inv_linked h events with hbefore | ⟨accept, hafter⟩
  · exact .inl ⟨hbefore.agreements, hbefore.handlings⟩
  · exact .inr ⟨accept, _, hafter.notices⟩

/-- A responder that takes an init and then an echo request. -/
theorem linked_agreesFirst_responder :
    ∃ (input : RelayConnectionInput) (c : RelayConnection Int Unit) (events : List (LinkEvent Int Unit)),
      construct sampleSurroundings input () = .ok c ∧
      ((linked sampleSurroundings input c events).notices.filterMap Notice.handling).length = 1 ∧
      AgreesFirst sampleSurroundings (Received sampleSurroundings input c events)
        (linked sampleSurroundings input c events).localStateDir input.role
        (linked sampleSurroundings input c events).notices := by
  refine ⟨RelayServer.responderInput (text "/b"), _,
    [.data (sampleBytes (sampleInit.toObject twoTimes)) (), .data (sampleBytes (sampleEcho 1)) ()], rfl, ?_,
    linked_agreesFirst rfl _⟩
  decide +kernel

end RelayConnection
end Wardroom.Federation
