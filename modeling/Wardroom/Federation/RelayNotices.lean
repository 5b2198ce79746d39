import Wardroom.Federation.RelayConnection

/-! # What a relay connection tells its owner

The notices of a connection follow its state: whatever is sent or fails keeps a
live connection live or closes it, and one line of the peer connects it, is
handled, or does neither.
-/

namespace Wardroom.Federation
open Wardroom.Library

inductive LinkStage where
  | handshaking
  | live
  | closed
  deriving DecidableEq

def RelayConnectionState.stage : RelayConnectionState → LinkStage
  | .handshaking => .handshaking
  | .connected => .live
  | .draining => .live
  | .closed => .closed

/-- What an owner can know of a connection. -/
structure View where
  stage : LinkStage
  peer : Option JsString

variable {ν ω α : Type}

inductive Says : View → Notice ν ω → View → Prop where
  | status (state : RelayConnectionState) (peer : Option JsString) :
      Says ⟨state.stage, peer⟩ (.status state peer) ⟨state.stage, peer⟩
  | closed (stage : LinkStage) (peer : Option JsString) : Says ⟨stage, peer⟩ (.status .closed peer) ⟨.closed, peer⟩

/-- Notices while nothing of the peer is handled. -/
inductive Calm : View → List (Notice ν ω) → View → Prop where
  | nil (v : View) : Calm v [] v
  | cons {v v' v'' : View} {n : Notice ν ω} {ns : List (Notice ν ω)} (h : Says v n v') (hs : Calm v' ns v'') :
      Calm v (n :: ns) v''

theorem Calm.trans {v v' v'' : View} {ns ns' : List (Notice ν ω)} (h : Calm v ns v') (h' : Calm v' ns' v'') :
    Calm v (ns ++ ns') v'' := by
  induction h with
  | nil v => exact h'
  | cons htold _ ih => exact .cons htold (ih h')

theorem Calm.single {v v' : View} {n : Notice ν ω} (h : Says v n v') : Calm v [n] v' := .cons h (.nil v')

theorem Calm.peer {v v' : View} {ns : List (Notice ν ω)} (h : Calm v ns v') : v'.peer = v.peer := by
  induction h with
  | nil v => rfl
  | cons htold _ ih =>
    cases htold with
    | status state peer => exact ih
    | closed stage peer => exact ih

theorem Calm.past {v v' : View} {ns : List (Notice ν ω)} (h : Calm v ns v') (hv : v.stage ≠ .handshaking) :
    v'.stage ≠ .handshaking := by
  induction h with
  | nil v => exact hv
  | cons htold _ ih =>
    cases htold with
    | status state peer => exact ih hv
    | closed stage peer => exact ih fun hclosed => (by cases hclosed)

/-- What a responder has checked of an init, in the world in which it answers. -/
structure Checked (s : Surroundings ν ω) (init : RelayHandshakeInit ν) (dir authority : JsString)
    (trust : PeerTrustRecord ν) (w : ω) : Prop where
  addressed : init.responderAuthorityId = authority
  signed : ∃ der, RelayConnection.canonicalPublicKeyDerFromSpkiBase64 s init.initiatorPublicKeySpkiB64 = .ok der ∧
    RelayConnection.keyMatches (s.fingerprintForDer der) init.initiatorFingerprint init.initiatorAuthorityId ∧
    s.verifyEnrollmentTranscript der (canonicalRelayInitTranscript s.toPlatform init) init.signature = true
  trusted : s.readActivePeerTrust init.initiatorAuthorityId dir w = .ok (some trust)
  unexpired : s.now w < RelayConnection.dateOf s init.expiresAt
  notEarly : RelayConnection.dateOf s init.issuedAt - s.now w ≤ RELAY_CLOCK_SKEW_TOLERANCE_MS

/-- The accept is the answer to an init that has been checked. -/
def Answers (s : Surroundings ν ω) (der : List UInt8) (accept : RelayHandshakeAccept ν)
    (init : RelayHandshakeInit ν) (dir : JsString) (w : ω) : Prop :=
  ∃ keys nonce trust signature, Checked s init dir keys.authorityId trust w ∧
    accept = { RelayConnection.acceptOf init keys (s.fingerprintForDer der) nonce trust with signature }

inductive Talks (s : Surroundings ν ω) (received : RelayHandshakeInit ν → Prop) :
    View → List (Notice ν ω) → View → Prop where
  | calm {v v' : View} {ns : List (Notice ν ω)} (h : Calm v ns v') : Talks s received v ns v'
  | named {v : View} {ns : List (Notice ν ω)} (peer : Option JsString) {der : List UInt8}
      {accept : RelayHandshakeAccept ν} {init : RelayHandshakeInit ν} {dir : JsString} {w : ω}
      (hinit : received init) (hanswers : Answers s der accept init dir w)
      (h : Calm ⟨.handshaking, some init.initiatorAuthorityId⟩ ns v) :
      Talks s received ⟨.handshaking, peer⟩ (.signed (.accept der accept init dir w) :: ns) v
  | connects {stage : LinkStage} {ns : List (Notice ν ω)} (peer : Option JsString) {der : List UInt8}
      {accept : RelayHandshakeAccept ν} {init : RelayHandshakeInit ν} {dir : JsString} {w : ω}
      (hinit : received init) (hanswers : Answers s der accept init dir w)
      (h : Calm ⟨.handshaking, some init.initiatorAuthorityId⟩ ns ⟨stage, some init.initiatorAuthorityId⟩) :
      Talks s received ⟨.handshaking, peer⟩
        (.signed (.accept der accept init dir w) ::
          (ns ++ [.agreed accept, .status .connected (some init.initiatorAuthorityId)]))
        ⟨.live, some init.initiatorAuthorityId⟩

namespace RelayConnection

def view (c : RelayConnection ν ω) : View := ⟨c.state.stage, c.peerAuthorityId⟩

/-- A closed connection takes no more lines. -/
def Shut (c : RelayConnection ν ω) : Prop := c.state = .closed → c.outbox.destroyed = true

/-- What sending, failing and the application do to a connection. -/
structure Settles (c c' : RelayConnection ν ω) : Prop where
  role : c'.role = c.role
  shut : c.Shut → c'.Shut
  notices : ∃ ns, c'.notices = c.notices ++ ns ∧ Calm c.view ns c'.view

/-- Nothing that is told changes. -/
structure Alike (c c' : RelayConnection ν ω) : Prop where
  role : c'.role = c.role
  state : c'.state = c.state
  peer : c'.peerAuthorityId = c.peerAuthorityId
  notices : c'.notices = c.notices
  destroyed : c'.outbox.destroyed = c.outbox.destroyed

theorem Alike.trans {c₁ c₂ c₃ : RelayConnection ν ω} (h : Alike c₁ c₂) (h' : Alike c₂ c₃) : Alike c₁ c₃ :=
  ⟨h'.role.trans h.role, h'.state.trans h.state, h'.peer.trans h.peer, h'.notices.trans h.notices,
    h'.destroyed.trans h.destroyed⟩

theorem Alike.view {c c' : RelayConnection ν ω} (h : c.Alike c') : c'.view = c.view := by
  unfold RelayConnection.view
  rw [h.state, h.peer]

theorem Alike.settles {c c' : RelayConnection ν ω} (h : c.Alike c') : c.Settles c' where
  role := h.role
  shut hshut hclosed := h.destroyed.trans (hshut (h.state ▸ hclosed))
  notices := ⟨[], by rw [h.notices, List.append_nil], h.view ▸ .nil _⟩

instance : IsPreorder (RelayConnection ν ω) Settles where
  refl _ := Alike.settles ⟨rfl, rfl, rfl, rfl, rfl⟩
  trans c₁ c₂ c₃ h h' := by
    obtain ⟨ns, hns, hcalm⟩ := h.notices
    obtain ⟨ns', hns', hcalm'⟩ := h'.notices
    refine ⟨h'.role.trans h.role, fun hshut => h'.shut (h.shut hshut), ns ++ ns', ?_, hcalm.trans hcalm'⟩
    rw [hns', hns, List.append_assoc]

theorem settles_modify {f : RelayConnection ν ω → RelayConnection ν ω} (h : ∀ c, Alike c (f c)) :
    Prog.Leads Settles (Prog.modify f : Relay ν ω Unit) := fun c => (h c).settles

@[simp] theorem closing_state (c : RelayConnection ν ω) (reason : RelayDisconnectReason) (message : JsString) :
    (c.closing reason message).state = .closed := by
  unfold closing
  split_ifs with h
  · exact h
  · rfl

theorem closing_settles (c : RelayConnection ν ω) (reason : RelayDisconnectReason) (message : JsString) :
    c.Settles (c.closing reason message) := by
  unfold closing
  split_ifs with h
  · exact refl_of Settles c
  · exact ⟨rfl, fun _ _ => rfl, _, rfl, .single (.closed _ _)⟩

theorem fail_settles (reason : RelayDisconnectReason) (message : JsString) :
    Prog.Leads Settles (fail reason message : Relay ν ω Unit) := fun c => c.closing_settles reason message

theorem emitStatus_settles : Prog.Leads Settles (Prog.modify emitStatus : Relay ν ω Unit) :=
  fun _ => ⟨rfl, id, _, rfl, .single (.status _ _)⟩

variable (s : Surroundings ν ω)

theorem enqueue_settles (line : JsString) : Prog.Leads Settles (enqueue line : Relay ν ω Unit) := by
  intro c
  unfold enqueue
  rw [Prog.read_bind]
  by_cases hfits : c.outbox.fits line = true
  · rw [if_pos hfits]
    refine Alike.settles ⟨rfl, rfl, rfl, rfl, ?_⟩
    change (c.outbox.enqueue line).destroyed = _
    rw [Outbox.enqueue, if_pos hfits]
  · rw [if_neg hfits]
    exact fail_settles _ _ c

theorem writeLine_settles (line : JsString) : Prog.Leads Settles (writeLine s line) := by
  intro c
  refine Alike.settles ⟨rfl, rfl, rfl, rfl, ?_⟩
  change (c.outbox.write line).destroyed = _
  unfold Outbox.write
  split_ifs <;> rfl

theorem writeFrame_settles (line : JsString) : Prog.Leads Settles (writeFrame s line) := by
  refine Prog.leads_bind Prog.leads_read fun c => ?_
  refine Prog.leads_ite (Prog.leads_pure ()) (Prog.leads_ite (enqueue_settles line) ?_)
  refine Prog.leads_bind (writeLine_settles s line) fun ok => ?_
  exact Prog.leads_ite (Prog.leads_pure ()) (enqueue_settles line)

theorem sendSequencedFrame_settles (factory : RelayHeader → JsValue ν) :
    Prog.Leads Settles (sendSequencedFrame s factory) := by
  refine Prog.leads_bind Prog.leads_read fun c => ?_
  refine Prog.leads_bind (Prog.leads_ofExcept _) fun line => ?_
  refine Prog.leads_bind (settles_modify fun c => ⟨rfl, rfl, rfl, rfl, rfl⟩) fun _ => ?_
  exact writeFrame_settles s line

theorem sendApplication_settles (frame : RelayApplicationFrame ν) :
    Prog.Leads Settles (sendApplication s frame) := sendSequencedFrame_settles s _

theorem close_settles (reason : RelayDisconnectReason) (message : JsString) :
    Prog.Leads Settles (close s reason message) := by
  refine Prog.leads_bind Prog.leads_read fun c => ?_
  refine Prog.leads_ite (Prog.leads_pure ()) (Prog.leads_bind ?_ fun _ => fail_settles reason message)
  refine Prog.leads_bind Prog.leads_read fun c => Prog.leads_ite ?_ (Prog.leads_pure ())
  exact Prog.leads_tryCatch (sendApplication_settles s _) fun _ => Prog.leads_pure ()

theorem revalidatePeerTrustOrClose_settles : Prog.Leads Settles (revalidatePeerTrustOrClose s) := by
  refine Prog.leads_bind Prog.leads_read fun c => ?_
  cases c.peerAuthorityId with
  | none => exact Prog.leads_pure ()
  | some peer =>
    refine Prog.leads_bind (Prog.leads_ofExcept _) fun trust => ?_
    exact Prog.leads_ite (close_settles s _ _) (Prog.leads_pure ())

theorem sendHeartbeat_settles : Prog.Leads Settles (sendHeartbeat s) := by
  refine Prog.leads_bind Prog.leads_read fun c => Prog.leads_ite (Prog.leads_pure ()) ?_
  refine Prog.leads_bind (sendApplication_settles s _) fun _ => ?_
  refine Prog.leads_bind (settles_modify fun c => ⟨rfl, rfl, rfl, rfl, rfl⟩) fun _ => ?_
  exact Prog.leads_bind (revalidatePeerTrustOrClose_settles s) fun _ => emitStatus_settles

theorem drain_settles : Prog.Leads Settles (drain s) := by
  intro c
  unfold drain
  rw [Prog.read_bind]
  by_cases hstate : c.state = .connected
  · rw [if_neg (not_not_intro hstate)]
    have hdraining : c.Settles { c with state := .draining } := by
      refine ⟨rfl, fun _ hclosed => (by cases hclosed), [], (List.append_nil _).symm, ?_⟩
      unfold view
      rw [hstate]
      exact .nil _
    have hrest : Prog.Leads Settles (do
        sendApplication s .drain
        Prog.modify emitStatus) :=
      Prog.leads_bind (sendApplication_settles s _) fun _ => emitStatus_settles
    exact trans_of Settles hdraining (hrest _)
  · rw [if_pos hstate]
    exact refl_of Settles c

theorem assertCanSendApplicationRequest_settles :
    Prog.Leads Settles (assertCanSendApplicationRequest : Relay ν ω Unit) := by
  refine Prog.leads_bind Prog.leads_read fun c => Prog.leads_ite (Prog.leads_fail _) ?_
  exact Prog.leads_ite (Prog.leads_fail _) (Prog.leads_pure ())

theorem sendOpaque_settles (frame : List (JsString × JsValue ν)) : Prog.Leads Settles (sendOpaque s frame) :=
  Prog.leads_bind Prog.leads_read fun _ =>
    Prog.leads_ite (Prog.leads_fail _) (sendSequencedFrame_settles s _)

theorem perform_settles (operation : Operation ν) : Prog.Leads Settles (perform s operation) := by
  cases operation with
  | sendTerminal frame => exact sendOpaque_settles s frame
  | sendChannel frame => exact sendOpaque_settles s frame
  | sendInventory frame => exact sendOpaque_settles s frame
  | sendEcho payload =>
    exact Prog.leads_bind assertCanSendApplicationRequest_settles fun _ => sendApplication_settles s _
  | requestStatus =>
    exact Prog.leads_bind assertCanSendApplicationRequest_settles fun _ => sendApplication_settles s _
  | sendHeartbeat => exact sendHeartbeat_settles s
  | drain => exact drain_settles s
  | close reason message => exact close_settles s reason message

theorem handle_settles (handling : Handling ν) : Prog.Leads Settles (handle s handling) := by
  induction handling with
  | done => exact Prog.leads_pure ()
  | throws message => exact Prog.leads_fail message
  | call operation next ih =>
    intro c
    exact trans_of Settles (perform_settles s operation c) (ih _ _)

theorem handleWith_settles (handler : Option (JsValue ν → ω → Handling ν)) (unavailable : Option String)
    (frame : JsValue ν) : Prog.Leads Settles (handleWith s handler unavailable frame) := by
  refine Prog.leads_bind Prog.leads_read fun c => ?_
  cases handler with
  | some handler => exact Prog.leads_tryCatch (handle_settles s _) fun _ => fail_settles _ _
  | none =>
    cases unavailable with
    | some message => exact fail_settles _ _
    | none => exact Prog.leads_pure ()

theorem dispatch_settles (frame : RelayApplicationFrame ν) : Prog.Leads Settles (dispatch s frame) := by
  refine Prog.leads_bind Prog.leads_read fun c => ?_
  cases frame with
  | echoRequest payload => exact Prog.leads_ite (fail_settles _ _) (sendApplication_settles s _)
  | echoResponse payload => exact Prog.leads_pure ()
  | statusRequest => exact Prog.leads_ite (fail_settles _ _) (sendApplication_settles s _)
  | statusResponse status => exact Prog.leads_pure ()
  | heartbeat =>
    refine Prog.leads_bind (settles_modify fun c => ⟨rfl, rfl, rfl, rfl, rfl⟩) fun _ => ?_
    exact Prog.leads_bind (revalidatePeerTrustOrClose_settles s) fun _ => emitStatus_settles
  | drain => exact close_settles s _ _
  | close reason => exact fail_settles _ _
  | protocolError code message => exact fail_settles _ _
  | terminal kind frame => exact handleWith_settles s _ _ _
  | channelCommand frame => exact handleWith_settles s _ _ _
  | channelResult frame => exact handleWith_settles s _ _ _
  | inventoryCommand frame => exact handleWith_settles s _ _ _
  | inventoryResult frame => exact handleWith_settles s _ _ _

/-- What a line of the handshake does to the connection of a responder. -/
structure Hears (received : RelayHandshakeInit ν → Prop) (c c' : RelayConnection ν ω) : Prop where
  role : c'.role = c.role
  shut : c.Shut → c'.Shut
  notices : ∃ ns, c'.notices = c.notices ++ ns ∧ Talks s received c.view ns c'.view

variable {received : RelayHandshakeInit ν → Prop}

theorem Settles.hears {c c' : RelayConnection ν ω} (h : c.Settles c') : Hears s received c c' where
  role := h.role
  shut := h.shut
  notices := by
    obtain ⟨ns, hns, hcalm⟩ := h.notices
    exact ⟨ns, hns, .calm hcalm⟩

theorem Alike.trans_settles {c₁ c₂ c₃ : RelayConnection ν ω} (h : Alike c₁ c₂) (h' : c₂.Settles c₃) :
    c₁.Settles c₃ := trans_of Settles h.settles h'

/-- Where a line of the handshake ends: the connection is past it, unless the line has thrown. -/
def Answered (received : RelayHandshakeInit ν → Prop) (c : RelayConnection ν ω) (x : Relay ν ω Unit)
    (c' : RelayConnection ν ω) : Prop :=
  Prog.wp x (fun _ c'' => Hears s received c c'' ∧ c''.state ≠ .handshaking)
    (fun _ c'' => Hears s received c c'') c'

section Handshake
variable {c c' : RelayConnection ν ω}

theorem answered_of_settles (h : Alike c c') {x : Relay ν ω Unit} (hx : Prog.Leads Settles x)
    (hclosed : Prog.wp x (fun _ c'' => c''.state = .closed) (fun _ _ => True) c') : Answered s received c x c' := by
  refine Prog.wp_mono (Prog.wp_and (hx.wp c') hclosed) (fun _ c'' hend => ?_) fun _ c'' hend => ?_
  · refine ⟨(h.trans_settles hend.1).hears s, ?_⟩
    rw [hend.2]
    decide
  · exact (h.trans_settles hend.1).hears s

theorem answered_reject (h : Alike c c') (connectionId : JsString) (code : String) (message : JsString) :
    Answered s received c (rejectHandshake s connectionId code message) c' := by
  refine answered_of_settles s h ?_ ?_
  · refine Prog.leads_bind (Prog.leads_ofExcept _) fun line => ?_
    exact Prog.leads_bind (writeFrame_settles s line) fun _ => fail_settles _ _
  · unfold rejectHandshake
    simp only [Prog.wp_bind, Prog.wp_ofExcept]
    refine ⟨fun line _ => ?_, fun _ _ => trivial⟩
    refine Prog.wp_of_cases (fun _ c'' _ => ?_) fun _ _ _ => trivial
    exact closing_state c'' _ _

theorem answered_read {x : RelayConnection ν ω → Relay ν ω Unit} (h : Answered s received c (x c') c') :
    Answered s received c (Prog.read >>= x) c' := by
  unfold Answered
  rwa [Prog.wp_bind, Prog.wp_read]

theorem answered_modify {f : RelayConnection ν ω → RelayConnection ν ω} {x : Unit → Relay ν ω Unit}
    (h : Alike c c') (hf : ∀ c, Alike c (f c)) (hx : ∀ c'', Alike c c'' → Answered s received c (x ()) c'') :
    Answered s received c (Prog.modify f >>= x) c' := by
  unfold Answered
  rw [Prog.wp_bind, Prog.wp_modify]
  exact hx _ (h.trans (hf c'))

theorem answered_ofExcept {β : Type} {outcome : Except JsString β} {x : β → Relay ν ω Unit} (h : Alike c c')
    (hx : ∀ b, outcome = .ok b → Answered s received c (x b) c') :
    Answered s received c (Prog.ofExcept outcome >>= x) c' := by
  unfold Answered
  simp only [Prog.wp_bind, Prog.wp_ofExcept]
  exact ⟨hx, fun _ _ => h.settles.hears s⟩

variable {init : RelayHandshakeInit ν} {keys : MachineSigningKeys}

theorem answers_of_signed {dir : JsString}
    {trust : PeerTrustRecord ν} {w : ω} {der : List UInt8} {accept : RelayHandshakeAccept ν}
    (hchecked : Checked s init dir keys.authorityId trust w)
    (h : signedAccept s init keys trust w = .ok (der, accept)) : Answers s der accept init dir w := by
  unfold signedAccept at h
  obtain ⟨der', _, h⟩ := ok_of_bind h
  cases h
  exact ⟨keys, _, trust, _, hchecked, rfl⟩

theorem answered_accept (h : Alike c c') (hstate : c.state = .handshaking)
    (hinit : received init) {dir : JsString} {trust : PeerTrustRecord ν}
    (hchecked : Checked s init dir keys.authorityId trust c'.world) :
    Answered s received c (acceptHandshake s init dir keys trust) c' := by
  refine answered_read s (answered_ofExcept s h fun signed hsigned => ?_)
  obtain ⟨der, accept⟩ := signed
  have hanswers := answers_of_signed s hchecked hsigned
  have hview : ∀ peer, View.mk LinkStage.handshaking peer = ⟨c.state.stage, peer⟩ := fun peer => by
    rw [hstate]
    rfl
  have hview₁ : (c'.answering init dir der accept).view = ⟨.handshaking, some init.initiatorAuthorityId⟩ := by
    rw [hview, ← h.state]
    rfl
  have hnotices₁ : (c'.answering init dir der accept).notices =
      c.notices ++ [.signed (.accept der accept init dir c'.world)] := by
    rw [← h.notices]
    rfl
  have hshut₁ : (c'.answering init dir der accept).Shut := by
    intro hclosed
    have hopen : c'.state = .closed := hclosed
    rw [h.state, hstate] at hopen
    cases hopen
  have hsettled : ∀ c₂, (c'.answering init dir der accept).Settles c₂ → Hears s received c c₂ := by
    intro c₂ hled
    obtain ⟨ns, hns, hcalm⟩ := hled.notices
    rw [hview₁] at hcalm
    refine ⟨hled.role.trans h.role, fun _ => hled.shut hshut₁,
      .signed (.accept der accept init dir c'.world) :: ns, ?_, ?_⟩
    · rw [hns, hnotices₁, List.append_assoc]
      rfl
    · have htalks := Talks.named c.peerAuthorityId hinit hanswers hcalm
      rwa [hview] at htalks
  unfold Answered
  rw [Prog.wp_bind, Prog.wp_modify]
  simp only [Prog.wp_bind, Prog.wp_ofExcept]
  refine ⟨fun line _ => ?_, fun _ _ => hsettled _ (refl_of Settles _)⟩
  refine Prog.wp_mono ((writeFrame_settles s line).wp _) (fun _ c₂ hled => ?_) fun _ c₂ => hsettled c₂
  obtain ⟨ns, hns, hcalm⟩ := hled.notices
  rw [hview₁] at hcalm
  have hpeer : c₂.peerAuthorityId = some init.initiatorAuthorityId := hcalm.peer
  refine ⟨⟨hled.role.trans h.role, fun _ hclosed => (by cases hclosed), .signed (.accept der accept init dir c'.world) ::
    (ns ++ [.agreed accept, .status .connected (some init.initiatorAuthorityId)]), ?_, ?_⟩,
    fun hhand => (by cases hhand)⟩
  · change (c₂.notices ++ [Notice.agreed accept]) ++ [Notice.status .connected c₂.peerAuthorityId] = _
    rw [hns, hnotices₁, hpeer, List.append_assoc, List.append_assoc, List.append_assoc]
    rfl
  · have hend : c₂.view = ⟨c₂.state.stage, some init.initiatorAuthorityId⟩ := congrArg (View.mk _) hpeer
    rw [hend] at hcalm
    have htalks := Talks.connects c.peerAuthorityId hinit hanswers hcalm
    rw [hview] at htalks
    change Talks s received c.view _ ⟨.live, c₂.peerAuthorityId⟩
    rw [hpeer]
    exact htalks

theorem answered_trustedInit (h : Alike c c') (hstate : c.state = .handshaking)
    (hinit : received init) {dir : JsString} {der : List UInt8}
    {trust : Option (PeerTrustRecord ν)} (haddressed : init.responderAuthorityId = keys.authorityId)
    (hder : canonicalPublicKeyDerFromSpkiBase64 s init.initiatorPublicKeySpkiB64 = .ok der)
    (hmatches : keyMatches (s.fingerprintForDer der) init.initiatorFingerprint init.initiatorAuthorityId)
    (htrust : s.readActivePeerTrust init.initiatorAuthorityId dir c'.world = .ok trust) :
    Answered s received c (onTrustedInit s init dir keys der trust) c' := by
  cases trust with
  | none => exact answered_reject s h _ _ _
  | some trust =>
    refine answered_read s ?_
    split_ifs with hpinned hexpired hearly hsigned
    · exact answered_reject s h _ _ _
    · exact answered_reject s h _ _ _
    · exact answered_reject s h _ _ _
    · refine answered_accept s h hstate hinit ⟨haddressed, ⟨der, hder, hmatches, Bool.of_not_eq_false hsigned⟩,
        htrust, Int.not_le.mp hexpired, Int.not_lt.mp hearly⟩
    · exact answered_reject s h _ _ _

theorem authority_ne_nil {fingerprint presented authority : JsString}
    (h : keyMatches fingerprint presented authority) : authority ≠ [] := by
  rw [← h.2]
  exact List.append_ne_nil_of_left_ne_nil (by decide +kernel) _

theorem answered_addressedInit (h : Alike c c') (hstate : c.state = .handshaking)
    (hinit : received init) (dir : JsString) (keys : MachineSigningKeys) :
    Answered s received c (onAddressedInit s init dir keys) c' := by
  unfold onAddressedInit
  split_ifs with haddressed hreflected
  · exact answered_reject s h _ _ _
  · exact answered_reject s h _ _ _
  · cases hder : canonicalPublicKeyDerFromSpkiBase64 s init.initiatorPublicKeySpkiB64 with
    | error message => exact answered_reject s h _ _ _
    | ok der =>
      dsimp only
      split_ifs with hmatches
      · refine answered_read s (answered_ofExcept s h fun trust htrust => ?_)
        exact answered_trustedInit s h hstate hinit (not_not.mp haddressed) hder hmatches htrust
      · exact answered_reject s h _ _ _

theorem answered_init (h : Alike c c') (hstate : c.state = .handshaking)
    (hinit : received init) : Answered s received c (onHandshakeInit s init) c' := by
  refine answered_modify s h (fun c => ⟨rfl, rfl, rfl, rfl, rfl⟩) fun c₁ h₁ => answered_read s ?_
  cases s.resolveRoomsStateDir (init.stateDir.or (some c₁.localStateDir)) c₁.world with
  | error message => exact answered_reject s h₁ _ _ _
  | ok dir =>
    refine answered_modify s h₁ (fun c => ⟨rfl, rfl, rfl, rfl, rfl⟩) fun c₂ h₂ => ?_
    cases s.loadMachineSigningKeys dir c₁.world with
    | error message => exact answered_reject s h₂ _ _ _
    | ok keys =>
      refine answered_modify s h₂ (fun c => ⟨rfl, rfl, rfl, rfl, rfl⟩) fun c₃ h₃ => ?_
      exact answered_addressedInit s h₃ hstate hinit dir keys

def IsInit (c : RelayConnection ν ω) (line : JsString) (init : RelayHandshakeInit ν) : Prop :=
  parseRelayFrame s.toPlatform (s.now c.world) line = .ok (.init init)

theorem answered_line (hstate : c.state = .handshaking) (hrole : c.role = .responder) (line : JsString) :
    Answered s (c.IsInit s line) c (onLine s line) c := by
  have hself : Alike c c := ⟨rfl, rfl, rfl, rfl, rfl⟩
  refine answered_read s ?_
  cases hparse : parseRelayFrame s.toPlatform (s.now c.world) line with
  | error message =>
    refine answered_read s ?_
    rw [if_pos ⟨hrole, hstate⟩]
    exact answered_reject s hself _ _ _
  | ok frame =>
    refine answered_modify s hself (fun c => ⟨rfl, rfl, rfl, rfl, rfl⟩) fun c' h => ?_
    rw [if_pos hstate]
    unfold onHandshakeFrame
    refine answered_read s ?_
    rw [h.role, hrole]
    cases frame with
    | init init => exact answered_init s h hstate hparse
    | accept accept => exact answered_reject s h _ _ _
    | reject reject => exact answered_reject s h _ _ _
    | application header frame => exact answered_reject s h _ _ _

end Handshake

variable {c c' : RelayConnection ν ω}

/-- The header of the next frame of the peer. -/
def Accepts (c : RelayConnection ν ω) (received : RelayHeader) : Prop :=
  some received.connectionId = c.connectionId ∧ received.direction = peerDirection c.role ∧
    received.seq = c.incomingSeq + 1

def IsNext (c : RelayConnection ν ω) (line : JsString) : Prop :=
  ∃ received frame, parseRelayFrame s.toPlatform (s.now c.world) line = .ok (.application received frame) ∧
    c.Accepts received

/-- The connection is closed without telling anything else. -/
def Ends (c c' : RelayConnection ν ω) : Prop := c.Settles c' ∧ c'.state = .closed

structure Handles (c c' : RelayConnection ν ω) : Prop where
  role : c'.role = c.role
  shut : c.Shut → c'.Shut
  notices : ∃ received frame ns, c'.notices = c.notices ++ .handled c.peerAuthorityId received frame :: ns ∧
    Calm c.view ns c'.view

theorem Handles.past (h : c.Handles c') (hstate : c.state ≠ .handshaking) : c'.state ≠ .handshaking := by
  obtain ⟨_, _, _, -, hcalm⟩ := h.notices
  have hstage : c.view.stage ≠ .handshaking := fun hhand => by
    unfold view at hhand
    cases hc : c.state with
    | handshaking => exact hstate hc
    | connected => rw [hc] at hhand; cases hhand
    | draining => rw [hc] at hhand; cases hhand
    | closed => rw [hc] at hhand; cases hhand
  intro hhand
  have hpast := hcalm.past hstage
  unfold view at hpast
  rw [hhand] at hpast
  exact hpast rfl

theorem stage_live (hshut : c.Shut) (hopen : c.outbox.destroyed = false) (hstate : c.state ≠ .handshaking) :
    c.state.stage = .live := by
  cases hc : c.state with
  | handshaking => exact absurd hc hstate
  | connected => rfl
  | draining => rfl
  | closed =>
    have hdestroyed := hshut hc
    rw [hopen] at hdestroyed
    cases hdestroyed

theorem ends_closing (h : Alike c c') (reason : RelayDisconnectReason) (message : JsString) :
    c.Ends (c'.closing reason message) :=
  ⟨h.trans_settles (c'.closing_settles reason message), closing_state c' reason message⟩

theorem heard_application (h : Alike c c') (received : RelayHeader) (frame : RelayApplicationFrame ν) :
    c'.Accepts received ∧ c.Handles (onApplicationFrame s received frame c').2 ∨
      c.Ends (onApplicationFrame s received frame c').2 := by
  unfold onApplicationFrame
  rw [Prog.read_bind]
  split_ifs with hconnection hdirection hseq
  · exact .inr (ends_closing h _ _)
  · exact .inr (ends_closing h _ _)
  · exact .inr (ends_closing h _ _)
  · refine .inl ⟨⟨not_not.mp hconnection, not_not.mp hdirection, not_not.mp hseq⟩, ?_⟩
    have hled : (c'.taking received frame).Settles (dispatch s frame (c'.taking received frame)).2 :=
      dispatch_settles s frame _
    obtain ⟨ns, hns, hcalm⟩ := hled.notices
    have hview : (c'.taking received frame).view = c.view := h.view
    have hnotices : (c'.taking received frame).notices =
        c.notices ++ [.handled c.peerAuthorityId received frame] := by
      rw [← h.notices, ← h.peer]
      rfl
    refine ⟨hled.role.trans h.role, fun hs => hled.shut (h.settles.shut hs), received, frame, ns, ?_,
      hview ▸ hcalm⟩
    change (dispatch s frame (c'.taking received frame)).2.notices = _
    rw [hns, hnotices, List.append_assoc]
    rfl

theorem heard_line (hstate : c.state ≠ .handshaking) (line : JsString) :
    c.IsNext s line ∧ c.Handles (onLine s line c).2 ∨ c.Ends (onLine s line c).2 := by
  have hself : Alike c c := ⟨rfl, rfl, rfl, rfl, rfl⟩
  unfold onLine IsNext
  rw [Prog.read_bind]
  cases hparse : parseRelayFrame s.toPlatform (s.now c.world) line with
  | error message =>
    right
    dsimp only
    unfold handleMalformed
    rw [Prog.read_bind, if_neg fun h => hstate h.2]
    exact ends_closing hself _ _
  | ok frame =>
    dsimp only
    rw [if_neg hstate]
    have hlater : Alike c { c with lastAnyReceivedAtMs := s.now c.world } := ⟨rfl, rfl, rfl, rfl, rfl⟩
    cases frame with
    | init init => exact .inr (ends_closing hlater _ _)
    | accept accept => exact .inr (ends_closing hlater _ _)
    | reject reject => exact .inr (ends_closing hlater _ _)
    | application received frame =>
      refine (heard_application s hlater received frame).imp_left fun hhandled => ?_
      exact ⟨⟨received, frame, rfl, hhandled.1⟩, hhandled.2⟩

end RelayConnection
end Wardroom.Federation
