import Wardroom.Federation.RelayDesk

/-! # The local ingress of relay sessions

Every session of the server has a slot of the admission: one for its handshake,
then one of its peer.
-/

namespace Wardroom.Federation
open Wardroom.Library

variable {ν ω : Type}

/-- The sessions of the server, in the order in which their sockets came. -/
structure RelayServer (ν ω : Type) where
  localStateDir : JsString
  desk : Desk
  connections : List (RelayConnection ν ω)

inductive ServerEvent (ν ω : Type) where
  | accept (w : ω)
  | data (i : Nat) (chunk : List UInt8) (w : ω)
  /-- A timer of the connection, or something that the application has left to do. -/
  | operate (i : Nat) (operation : Operation ν) (w : ω)
  /-- A timer of the connection, an error of the socket, or a rejected promise of the application. -/
  | fail (i : Nat) (reason : RelayDisconnectReason) (message : JsString)
  | closed (i : Nat)

namespace RelayServer
variable (s : Surroundings ν ω)

def responderInput (localStateDir : JsString) : RelayConnectionInput :=
  ⟨.responder, some localStateDir, none, none, none, none, none, none, none⟩

/-- A session of a new socket; an exception of the constructor would end the process. -/
def serve (r : RelayServer ν ω) (admission : RelayAdmission) (w : ω) : RelayServer ν ω :=
  match RelayConnection.construct s (responderInput r.localStateDir) w with
  | .error _ => r
  | .ok c =>
    { r with
      desk := { r.desk with admission, slots := r.desk.slots ++ [⟨true, none, false⟩] }
      connections := r.connections ++ [(RelayConnection.start s (responderInput r.localStateDir) c).2] }

/-- A session's connection runs, and the slots follow what it tells meanwhile. -/
def activate (r : RelayServer ν ω) (i : Nat) (c : RelayConnection ν ω) (x : Relay ν ω Unit) : RelayServer ν ω :=
  let c' := (x { c with notices := [] }).2
  { r with desk := c'.notices.foldl (Desk.hear i) r.desk, connections := r.connections.set i c' }

/-- The last listener of a socket that has closed. -/
def onClosed (r : RelayServer ν ω) (i : Nat) : RelayServer ν ω :=
  { r with desk := (r.desk.releaseAll i).markDestroyed i }

def step (r : RelayServer ν ω) : ServerEvent ν ω → RelayServer ν ω
  | .accept w => r.desk.admission.admitHandshake.elim r fun admission => r.serve s admission w
  | .data i chunk w =>
    r.connections[i]?.elim r fun c =>
      if c.released ∨ (r.desk.slots[i]?.any (·.destroyed)) then r
      else r.activate i { c with world := w } (RelayConnection.onData s chunk)
  | .operate i operation w =>
    r.connections[i]?.elim r fun c => r.activate i { c with world := w } (RelayConnection.perform s operation)
  | .fail i reason message => r.connections[i]?.elim r fun c => r.activate i c (RelayConnection.fail reason message)
  | .closed i =>
    r.connections[i]?.elim r fun c =>
      (r.activate i c (RelayConnection.fail .peerClosed (text "local relay proxy closed"))).onClosed i

def views (r : RelayServer ν ω) (i : Nat) : View := r.connections[i]?.elim ⟨.closed, none⟩ RelayConnection.view

def initial (localStateDir : JsString) (maxPerPeer maxHandshaking : Nat) : RelayServer ν ω :=
  ⟨localStateDir, ⟨⟨maxPerPeer, maxHandshaking, fun _ => 0, 0⟩, [], []⟩, []⟩

end RelayServer

/-- Frames are handled within the bound, never of a refused session, and every slot is given back once. -/
structure AdmissionBounded (r : RelayServer ν ω) : Prop where
  handled : ∀ i peer holders, .handled i peer holders ∈ r.desk.log →
    i ∈ holders ∧ holders.length ≤ r.desk.admission.maxPerPeer
  refused : ∀ i peer, .refused i peer ∈ r.desk.log → ∀ peer' holders, .handled i peer' holders ∉ r.desk.log
  once : ∀ (i : Nat) (slot : Slot), r.desk.slots[i]? = some slot →
    r.desk.log.countP (AdmissionEntry.grants i) = r.desk.log.countP (AdmissionEntry.releases i) + (if slot.admittedPeer.isSome then 1 else 0)
  counted : ∀ peer, r.desk.admission.authenticated peer = (r.desk.holders peer).length
  handshakes : r.desk.admission.handshaking = r.desk.slots.countP (·.handshakeHeld)
  ended : ∀ (i : Nat) (c : RelayConnection ν ω) (slot : Slot), r.connections[i]? = some c → c.state = .closed →
    r.desk.slots[i]? = some slot → slot.admittedPeer = none ∧ slot.handshakeHeld = false

/-- Where the first line of a chunk is an init that is accepted while its peer holds all its slots, the next
line of the chunk is not a frame of the session. -/
def Roomy (s : Surroundings ν ω) (r : RelayServer ν ω) : ServerEvent ν ω → Prop
  | .data i chunk w => ∀ c, r.connections[i]? = some c → c.state = .handshaking →
      ∀ first second rest buffer, push c.buffer chunk = some (first :: second :: rest, buffer) →
        let c₁ := (RelayConnection.onLines s [first] { c with world := w, notices := [], buffer := buffer }).2
        c₁.state.stage = .live → c₁.outbox.destroyed = false →
          r.desk.admission.maxPerPeer ≤ r.desk.admission.authenticated (c₁.peerAuthorityId.getD []) →
            ¬({ c₁ with world := s.tick c₁.world } : RelayConnection ν ω).IsNext s (RelayConnection.codeUnits second)
  | _ => True

variable {d : Desk} {views : Nat → View} {i : Nat} {slot slot' : Slot}

section Session
variable {c c' : RelayConnection ν ω}

/-- The desk after what the connection has told since its notices were cleared. -/
def deskOf (d : Desk) (i : Nat) (c : RelayConnection ν ω) : Desk := d.hearAll i c.notices

theorem deskOf_append {ns : List (Notice ν ω)} (hns : c'.notices = c.notices ++ ns) :
    deskOf d i c' = (deskOf d i c).hearAll i ns := by
  unfold deskOf Desk.hearAll
  rw [hns, List.foldl_append]

/-- The slots fit the connection of the i-th session as it runs. -/
structure Tracks (d : Desk) (views : Nat → View) (i : Nat) (c : RelayConnection ν ω) : Prop where
  role : c.role = .responder
  shut : c.Shut
  index : i < (deskOf d i c).slots.length
  ok : DeskOk (deskOf d i c) (Function.update views i c.view)

/-- The server has not destroyed its socket. -/
def SocketOpen (d : Desk) (i : Nat) (c : RelayConnection ν ω) : Prop :=
  ∀ slot, (deskOf d i c).slots[i]? = some slot → slot.destroyed = false

theorem Tracks.calm (h : Tracks d views i c) {ns : List (Notice ν ω)} (hrole : c'.role = c.role) (hshut : c'.Shut)
    (hns : c'.notices = c.notices ++ ns) (hcalm : Calm c.view ns c'.view) : Tracks d views i c' := by
  obtain ⟨hok, hlength⟩ := ok_calm hcalm h.ok h.index (Function.update_self ..)
  rw [Function.update_idem, ← deskOf_append hns] at hok
  rw [← deskOf_append hns] at hlength
  exact ⟨hrole.trans h.role, hshut, hlength ▸ h.index, hok⟩

theorem Tracks.settles (h : Tracks d views i c) (hled : c.Settles c') : Tracks d views i c' := by
  obtain ⟨ns, hns, hcalm⟩ := hled.notices
  exact h.calm hled.role (hled.shut h.shut) hns hcalm

theorem Tracks.exists_slot (h : Tracks d views i c) : ∃ slot, (deskOf d i c).slots[i]? = some slot :=
  ⟨_, List.getElem?_eq_getElem h.index⟩

theorem Tracks.handles (h : Tracks d views i c) (hopen : SocketOpen d i c) (hlive : c.state.stage = .live)
    (hhandles : c.Handles c') : Tracks d views i c' ∧ SocketOpen d i c' := by
  obtain ⟨received, frame, ns, hns, hcalm⟩ := hhandles.notices
  obtain ⟨slot, hslot⟩ := h.exists_slot
  have hok : DeskOk ((deskOf d i c).hear i (.handled c.view.peer received frame : Notice ν ω))
      (Function.update views i c.view) :=
    ok_handled h.ok hslot (Function.update_self ..) hlive (hopen slot hslot) received frame
  have hsome : slot.admittedPeer.isSome = true := by
    have hslotOk := h.ok.slots i slot hslot
    rw [Function.update_self] at hslotOk
    exact (hslotOk.live hlive).resolve_right (by rw [hopen slot hslot]; exact Bool.false_ne_true)
  have hdesk : deskOf d i c' =
      ((deskOf d i c).hear i (.handled c.view.peer received frame)).hearAll i ns := deskOf_append hns
  have hafter := ok_calm hcalm hok h.index (Function.update_self ..)
  have hretains := retains_calm hcalm hok hslot (Function.update_self ..) fun _ => hsome
  rw [← hdesk] at hafter hretains
  rw [Function.update_idem] at hafter
  refine ⟨⟨hhandles.role.trans h.role, hhandles.shut h.shut, hafter.2 ▸ h.index, hafter.1⟩, fun slot₁ hslot₁ => ?_⟩
  obtain ⟨slot', hslot', hdestroyed, -, -⟩ := hretains.slot
  obtain rfl : slot' = slot₁ := Option.some.inj (hslot'.symm.trans hslot₁)
  exact hdestroyed.trans (hopen slot hslot)

/-- A session in the handshake may get another peer. -/
theorem DeskOk.named (h : DeskOk d views) (hslot : d.slots[i]? = some slot) (hwaiting : (views i).stage = .handshaking)
    (hnone : slot.admittedPeer = none) (peer : Option JsString) :
    DeskOk d (Function.update views i ⟨.handshaking, peer⟩) where
  slots := by
    intro j slot' hj
    by_cases hne : j = i
    · subst hne
      rw [Function.update_self]
      obtain rfl : slot = slot' := Option.some.inj (hslot.symm.trans hj)
      refine ⟨fun peer' hmem => ?_, fun _ => rfl, fun hlive => (by cases hlive)⟩
      rw [hnone] at hmem
      cases hmem
    · rw [Function.update_of_ne hne]
      exact h.slots j slot' hj
  known := h.known
  counted := h.counted
  bound := h.bound
  handshakes := h.handshakes
  handled := h.handled
  refused := h.refused
  served := by
    intro j hserves slot' hj
    by_cases hne : j = i
    · subst hne
      refine (h.served j hserves slot' hj).imp_right fun hclosed => ?_
      rw [hwaiting] at hclosed
      cases hclosed
    · rw [Function.update_of_ne hne]
      exact h.served j hserves slot' hj
  once := h.once

theorem admits_or_full (h : DeskOk d views) (hslot : d.slots[i]? = some slot) (hopen : slot.destroyed = false)
    (hnone : slot.admittedPeer = none) {peer : JsString} (hpeer : peer ≠ []) (hserved : ¬d.Served i) :
    DeskOk (d.hear i (.status .connected (some peer) : Notice ν ω)) (Function.update views i ⟨.live, some peer⟩) ∧
      ((∀ slot', (d.hear i (.status .connected (some peer) : Notice ν ω)).slots[i]? = some slot' →
          slot'.destroyed = false) ∨ d.admission.maxPerPeer ≤ d.admission.authenticated peer) := by
  change DeskOk (d.onStatusChange i .connected (some peer)) _ ∧
    ((∀ slot', (d.onStatusChange i .connected (some peer)).slots[i]? = _ → _) ∨ _)
  rw [onStatusChange_eq hslot, if_pos ⟨rfl, hpeer, hnone⟩]
  refine ⟨ok_settle h hslot hnone hserved peer, ?_⟩
  by_cases hfull : d.admission.maxPerPeer ≤ d.admission.authenticated peer
  · exact .inr hfull
  · left
    intro slot' hslot'
    have hx := exchange_grant h hslot hnone hfull
    change (d.settle i slot peer).slots[i]? = _ at hslot'
    rw [hx.slots] at hslot'
    rcases getElem?_set_cases hslot' with ⟨_, rfl⟩ | ⟨hne, _⟩
    · exact hopen
    · exact absurd rfl hne

theorem Tracks.hears (s : Surroundings ν ω) {received : RelayHandshakeInit ν → Prop} (h : Tracks d views i c)
    (hopen : SocketOpen d i c) (hstate : c.state = .handshaking)
    (hhears : RelayConnection.Hears s received c c') : Tracks d views i c' ∧ (SocketOpen d i c' ∨ c'.state.stage = .live ∧
      (deskOf d i c).admission.maxPerPeer ≤ (deskOf d i c).admission.authenticated (c'.peerAuthorityId.getD [])) := by
  obtain ⟨ns, hns, htalks⟩ := hhears.notices
  obtain ⟨slot, hslot⟩ := h.exists_slot
  have hslotOk := h.ok.slots i slot hslot
  rw [Function.update_self] at hslotOk
  have hwaiting : c.view.stage = .handshaking := by
    rw [RelayConnection.view, hstate]
    rfl
  have hnone : slot.admittedPeer = none := by
    refine Option.eq_none_iff_forall_ne_some.mpr fun peer hpeer => ?_
    have hlive := (hslotOk.admitted peer hpeer).1
    rw [hwaiting] at hlive
    cases hlive
  have hserved : ¬(deskOf d i c).Served i := by
    intro hserves
    rcases h.ok.served i hserves slot hslot with hsome | hclosed
    · rw [hnone] at hsome
      cases hsome
    · rw [Function.update_self, hwaiting] at hclosed
      cases hclosed
  have hcalms : ∀ (peer : Option JsString) (ns' : List (Notice ν ω)) (v : View), Calm ⟨.handshaking, peer⟩ ns' v →
      (DeskOk ((deskOf d i c).hearAll i ns') (Function.update views i v) ∧
        ((deskOf d i c).hearAll i ns').slots.length = (deskOf d i c).slots.length) ∧
      Retains (deskOf d i c) ((deskOf d i c).hearAll i ns') i slot v := by
    intro peer ns' v hcalm
    have hok := h.ok.named hslot (by rw [Function.update_self, hwaiting]) hnone peer
    rw [Function.update_idem] at hok
    have hafter := ok_calm hcalm hok h.index (Function.update_self ..)
    rw [Function.update_idem] at hafter
    exact ⟨hafter, retains_calm hcalm hok hslot (Function.update_self ..) fun hlive => by cases hlive⟩
  have hwaits : ∀ (peer : Option JsString) (ns' : List (Notice ν ω)), Calm ⟨.handshaking, peer⟩ ns' c'.view →
      (deskOf d i c).hearAll i ns = (deskOf d i c).hearAll i ns' → Tracks d views i c' ∧ SocketOpen d i c' := by
    intro peer ns' hcalm hsame
    obtain ⟨⟨hok, hlength⟩, hretains⟩ := hcalms peer ns' c'.view hcalm
    rw [← hsame, ← deskOf_append hns] at hok hlength hretains
    refine ⟨⟨hhears.role.trans h.role, hhears.shut h.shut, hlength ▸ h.index, hok⟩, fun slot₁ hslot₁ => ?_⟩
    obtain ⟨slot', hslot', hdestroyed, -, -⟩ := hretains.slot
    obtain rfl : slot' = slot₁ := Option.some.inj (hslot'.symm.trans hslot₁)
    exact hdestroyed.trans (hopen slot hslot)
  generalize hview : c.view = before, hview' : c'.view = after at htalks
  cases htalks with
  | calm hcalm =>
    obtain ⟨stage, peer⟩ := before
    obtain rfl : stage = .handshaking := by rw [hview] at hwaiting; exact hwaiting
    exact (hwaits peer ns (hview' ▸ hcalm) rfl).imp_right .inl
  | @named v ns' peer der accept init dir w hinit hanswers hcalm =>
    exact (hwaits _ ns' (hview' ▸ hcalm) rfl).imp_right .inl
  | @connects stage ns' peer der accept init dir w hinit hanswers hcalm =>
    obtain ⟨keys, nonce, trust, signature, hchecked, -⟩ := hanswers
    obtain ⟨der', -, hmatches, -⟩ := hchecked.signed
    have hpeer := RelayConnection.authority_ne_nil hmatches
    obtain ⟨⟨hok, hlength⟩, hretains⟩ := hcalms _ ns' _ hcalm
    obtain ⟨slot', hslot', hdestroyed, -, hsame⟩ := hretains.slot
    obtain ⟨hnone', hauthenticated⟩ := hsame hnone
    obtain ⟨hok', hfull⟩ := @admits_or_full ν ω _ _ _ _ hok hslot' (hdestroyed.trans (hopen slot hslot)) hnone'
      _ hpeer fun hserves => hserved (hretains.served i hserves)
    have hdesk : deskOf d i c' = ((deskOf d i c).hearAll i ns').hear i
        (.status .connected (some init.initiatorAuthorityId) : Notice ν ω) := by
      rw [deskOf_append hns]
      exact List.foldl_append
    rw [← hdesk] at hok' hfull
    rw [Function.update_idem] at hok'
    have hpeer' : c'.peerAuthorityId = some init.initiatorAuthorityId := congrArg View.peer hview'
    refine ⟨⟨hhears.role.trans h.role, hhears.shut h.shut, ?_, hview' ▸ hok'⟩, ?_⟩
    · rw [hdesk, length_hear, hlength]
      exact h.index
    · refine hfull.imp_right fun hfull => ⟨congrArg View.stage hview', ?_⟩
      rw [hauthenticated, hretains.maxPerPeer] at hfull
      rw [hpeer']
      exact hfull

variable (s : Surroundings ν ω)

theorem onLines_destroyed (h : c.outbox.destroyed = true) (lines : List Line) :
    RelayConnection.onLines s lines c = (.ok (), c) := by
  cases lines with
  | nil => rfl
  | cons line lines =>
    rw [RelayConnection.onLines, Prog.read_bind, if_pos h]
    rfl

/-- The connection as the next line finds it. -/
def ticked (c : RelayConnection ν ω) : RelayConnection ν ω := { c with world := s.tick c.world }

theorem onLines_cons (h : c.outbox.destroyed = false) (line : Line) (lines : List Line) :
    RelayConnection.onLines s (line :: lines) c =
      match RelayConnection.onLine s (RelayConnection.codeUnits line) (ticked s c) with
      | (.ok _, c') => RelayConnection.onLines s lines c'
      | (.error message, c') => (.error message, c') := by
  rw [RelayConnection.onLines, Prog.read_bind, if_neg (by rw [h]; exact Bool.false_ne_true)]
  change (RelayConnection.onLine s (RelayConnection.codeUnits line) >>= fun _ => RelayConnection.onLines s lines)
    (ticked s c) = _
  rw [Prog.bind_eq]
  rcases RelayConnection.onLine s (RelayConnection.codeUnits line) (ticked s c) with ⟨outcome, c'⟩
  cases outcome <;> rfl

theorem onLines_single (h : c.outbox.destroyed = false) (line : Line) :
    (RelayConnection.onLines s [line] c).2 =
      (RelayConnection.onLine s (RelayConnection.codeUnits line) (ticked s c)).2 := by
  rw [onLines_cons s h]
  rcases RelayConnection.onLine s (RelayConnection.codeUnits line) (ticked s c) with ⟨outcome, c'⟩
  cases outcome <;> rfl

theorem alike_ticked (c : RelayConnection ν ω) : RelayConnection.Alike c (ticked s c) := ⟨rfl, rfl, rfl, rfl, rfl⟩

theorem destroyed_of_ends (h : Tracks d views i c) (hends : c.Ends c') : c'.outbox.destroyed = true :=
  hends.1.shut h.shut hends.2

/-- Whether a line of the session is handled after one that has been refused. -/
def Leaves (d : Desk) (i : Nat) (c : RelayConnection ν ω) (lines : List Line) : Prop :=
  ∀ first second rest, lines = first :: second :: rest →
    let c₁ := (RelayConnection.onLines s [first] c).2
    c₁.state.stage = .live → c₁.outbox.destroyed = false →
      (deskOf d i c).admission.maxPerPeer ≤ (deskOf d i c).admission.authenticated (c₁.peerAuthorityId.getD []) →
        ¬(ticked s c₁).IsNext s (RelayConnection.codeUnits second)

theorem Tracks.refused (h : Tracks d views i c) (hlive : c.state.stage = .live) {lines : List Line}
    (hleaves : ∀ second rest, lines = second :: rest → c.outbox.destroyed = false →
      ¬(ticked s c).IsNext s (RelayConnection.codeUnits second)) :
    Tracks d views i (RelayConnection.onLines s lines c).2 := by
  cases lines with
  | nil => exact h
  | cons second rest =>
    cases hopen : c.outbox.destroyed with
    | true => rwa [onLines_destroyed s hopen]
    | false =>
      have hnot : (ticked s c).state ≠ .handshaking := fun hhand => by
        have hwaiting : c.state = .handshaking := hhand
        rw [hwaiting] at hlive
        cases hlive
      have hticked := h.settles (alike_ticked s c).settles
      have hends := (RelayConnection.heard_line s hnot (RelayConnection.codeUnits second)).resolve_left
        fun hhandled => hleaves second rest rfl hopen hhandled.1
      have hdestroyed := destroyed_of_ends hticked hends
      have hend := hticked.settles hends.1
      rw [onLines_cons s hopen]
      rcases hline : RelayConnection.onLine s (RelayConnection.codeUnits second) (ticked s c) with ⟨outcome, c'⟩
      rw [hline] at hdestroyed hend
      cases outcome with
      | error message => exact hend
      | ok _ =>
        dsimp only
        rwa [onLines_destroyed s hdestroyed]

theorem Tracks.lines (lines : List Line) (h : Tracks d views i c) (hopen : SocketOpen d i c)
    (hleaves : c.state = .handshaking → Leaves s d i c lines) :
    Tracks d views i (RelayConnection.onLines s lines c).2 := by
  induction lines generalizing c with
  | nil => exact h
  | cons line lines ih =>
    cases hdestroyed : c.outbox.destroyed with
    | true => rwa [onLines_destroyed s hdestroyed]
    | false =>
      have hticked := h.settles (alike_ticked s c).settles
      have hopen' : SocketOpen d i (ticked s c) := hopen
      have hsingle := onLines_single s hdestroyed line
      rw [onLines_cons s hdestroyed]
      by_cases hhand : c.state = .handshaking
      · have hanswered := RelayConnection.answered_line s (c := ticked s c) hhand hticked.role
          (RelayConnection.codeUnits line)
        unfold RelayConnection.Answered at hanswered
        have hrefused := hleaves hhand
        rcases hline : RelayConnection.onLine s (RelayConnection.codeUnits line) (ticked s c) with ⟨outcome, c'⟩
        rw [hline] at hsingle
        cases outcome with
        | error message =>
          have hhears := Prog.wp_of_error hanswered hline
          exact (hticked.hears s hopen' hhand hhears).1
        | ok _ =>
          obtain ⟨hhears, hpast⟩ := Prog.wp_of_ok hanswered hline
          obtain ⟨hafter, hstill | ⟨hlive, hfull⟩⟩ := hticked.hears s hopen' hhand hhears
          · exact ih hafter hstill fun hwaiting => absurd hwaiting hpast
          · refine hafter.refused s hlive fun second rest hlines hopen'' => ?_
            have hnot := hrefused line second rest (hlines ▸ rfl)
            rw [hsingle] at hnot
            exact hnot hlive hopen'' hfull
      · have hnot : (ticked s c).state ≠ .handshaking := hhand
        have hlive := RelayConnection.stage_live hticked.shut hdestroyed hnot
        have hheard := RelayConnection.heard_line s hnot (RelayConnection.codeUnits line)
        rcases hline : RelayConnection.onLine s (RelayConnection.codeUnits line) (ticked s c) with ⟨outcome, c'⟩
        rw [hline] at hheard
        rcases hheard with ⟨-, hhandles⟩ | hends
        · obtain ⟨hafter, hopen''⟩ := hticked.handles hopen' hlive hhandles
          cases outcome with
          | error message => exact hafter
          | ok _ => exact ih hafter hopen'' fun hwaiting => absurd hwaiting (hhandles.past hnot)
        · have hclosed := destroyed_of_ends hticked hends
          have hend := hticked.settles hends.1
          cases outcome with
          | error message => exact hend
          | ok _ =>
            dsimp only
            rwa [onLines_destroyed s hclosed]

end Session

theorem DeskOk.markDestroyed (h : DeskOk d views) : DeskOk (d.markDestroyed i) views := by
  unfold Desk.markDestroyed
  cases hslot : d.slots[i]? with
  | none => exact h
  | some slot =>
    have hx : Exchange d { d with slots := d.slots.set i { slot with destroyed := true } } i slot
        { slot with destroyed := true } [] :=
      ⟨rfl, rfl, (List.append_nil _).symm, fun _ hmem => (by cases hmem), fun _ _ _ hmem => (by cases hmem),
        fun _ hmem => (by cases hmem), fun _ => rfl, rfl, rfl⟩
    have hok := h.slots i slot hslot
    have hlater := h.exchange (v := views i) hslot hx ⟨hok.admitted, hok.held, fun _ => .inr rfl⟩ h.bound
      (fun _ => rfl) (fun _ hmem => by cases hmem) fun hserves => h.served i hserves slot hslot
    rwa [Function.update_eq_self] at hlater

theorem length_markDestroyed (d : Desk) (i : Nat) : (d.markDestroyed i).slots.length = d.slots.length := by
  unfold Desk.markDestroyed
  cases d.slots[i]? with
  | none => rfl
  | some slot => exact List.length_set

theorem DeskOk.releaseAll (h : DeskOk d views) (hclosed : (views i).stage = .closed) :
    DeskOk (d.releaseAll i) views ∧ (d.releaseAll i).slots.length = d.slots.length := by
  unfold Desk.releaseAll
  cases hslot : d.slots[i]? with
  | none => exact ⟨h, rfl⟩
  | some slot =>
    have hlater := ok_release h hslot (views i).peer
    have hview : (⟨.closed, (views i).peer⟩ : View) = views i := by rw [← hclosed]
    rw [hview, Function.update_eq_self] at hlater
    exact ⟨hlater, List.length_set⟩

/-- A session of a new socket holds a slot of the handshakes. -/
theorem DeskOk.accepted (h : DeskOk d views) {admission : RelayAdmission} {views' : Nat → View}
    (hroom : d.admission.admitHandshake = some admission) (hviews : ∀ j < d.slots.length, views' j = views j)
    (hnew : (views' d.slots.length).stage = .handshaking) :
    DeskOk { d with admission, slots := d.slots ++ [⟨true, none, false⟩] } views' := by
  unfold RelayAdmission.admitHandshake at hroom
  split_ifs at hroom
  cases hroom
  have hslots : ∀ {j : Nat} {slot : Slot}, (d.slots ++ [⟨true, none, false⟩])[j]? = some slot →
      d.slots[j]? = some slot ∧ views' j = views j ∨ j = d.slots.length ∧ slot = ⟨true, none, false⟩ := by
    intro j slot hj
    by_cases hlt : j < d.slots.length
    · rw [List.getElem?_append_left hlt] at hj
      exact .inl ⟨hj, hviews j hlt⟩
    · obtain rfl : j = d.slots.length := by
        have hlast := (List.getElem?_eq_some_iff.mp hj).1
        rw [List.length_append, List.length_singleton] at hlast
        omega
      rw [List.getElem?_concat_length] at hj
      exact .inr ⟨rfl, (Option.some.inj hj).symm⟩
  have hunknown : ∀ entry ∈ d.log, entry.session ≠ d.slots.length := fun entry hmem heq =>
    Nat.lt_irrefl _ (heq ▸ h.known entry hmem)
  have hunserved : ¬d.Served d.slots.length := by
    rintro ⟨peer, holders, hmem⟩
    exact hunknown _ hmem rfl
  refine ⟨fun j slot hj => ?_, fun entry hmem => ?_, fun peer => ?_, h.bound, ?_, h.handled,
    fun j peer hmem => ?_, fun j hserves slot hj => ?_, fun j slot hj => ?_⟩
  · rcases hslots hj with ⟨hold, hview⟩ | ⟨rfl, rfl⟩
    · rw [hview]
      exact h.slots j slot hold
    · refine ⟨fun _ hmem => (by cases hmem), fun _ => hnew, fun hlive => ?_⟩
      rw [hnew] at hlive
      cases hlive
  · rw [List.length_append]
    exact Nat.lt_add_right _ (h.known entry hmem)
  · rw [List.countP_append, ← h.counted peer]
    rfl
  · rw [List.countP_append, ← h.handshakes]
    rfl
  · obtain ⟨hnot, hall⟩ := h.refused j peer hmem
    refine ⟨hnot, fun slot hj => ?_⟩
    rcases hslots hj with ⟨hold, -⟩ | ⟨rfl, -⟩
    · exact hall slot hold
    · exact absurd rfl (hunknown _ hmem)
  · rcases hslots hj with ⟨hold, hview⟩ | ⟨rfl, -⟩
    · rw [hview]
      exact h.served j hserves slot hold
    · exact absurd hserves hunserved
  · rcases hslots hj with ⟨hold, -⟩ | ⟨rfl, rfl⟩
    · exact h.once j slot hold
    · have hzero : ∀ p : AdmissionEntry → Bool, (∀ entry, p entry = true → entry.session = d.slots.length) →
          d.log.countP p = 0 := fun p hp =>
        List.countP_eq_zero.mpr fun entry hmem hentry => hunknown entry hmem (hp entry hentry)
      rw [hzero _ fun _ => session_of_grants, hzero _ fun _ => session_of_releases]
      rfl

namespace RelayServer
variable (s : Surroundings ν ω) {r : RelayServer ν ω} {c : RelayConnection ν ω}

structure Ok (r : RelayServer ν ω) : Prop where
  length : r.connections.length = r.desk.slots.length
  connections : ∀ c ∈ r.connections, c.role = .responder ∧ c.Shut
  desk : DeskOk r.desk r.views

theorem Ok.index (h : r.Ok) (hc : r.connections[i]? = some c) : i < r.desk.slots.length :=
  h.length ▸ (List.getElem?_eq_some_iff.mp hc).1

theorem Ok.tracks (h : r.Ok) (hc : r.connections[i]? = some c) {c' : RelayConnection ν ω} (hrole : c'.role = c.role)
    (hshut : c.Shut → c'.Shut) (hview : c'.view = c.view) (hnotices : c'.notices = []) :
    Tracks r.desk r.views i c' := by
  have hdesk : deskOf r.desk i c' = r.desk := by
    rw [deskOf, hnotices]
    rfl
  obtain ⟨hresponder, hc_shut⟩ := h.connections c (List.mem_of_getElem? hc)
  refine ⟨hrole.trans hresponder, hshut hc_shut, (by rw [hdesk]; exact h.index hc), ?_⟩
  have hsame : Function.update r.views i c'.view = r.views := by
    have hi : r.views i = c'.view := by
      rw [hview, views, hc]
      rfl
    rw [← hi, Function.update_eq_self]
  rw [hdesk, hsame]
  exact h.desk

theorem views_set (r : RelayServer ν ω) {desk : Desk} (hc : r.connections[i]? = some c) (c' : RelayConnection ν ω) :
    ({ r with desk := desk, connections := r.connections.set i c' } : RelayServer ν ω).views =
      Function.update r.views i c'.view := by
  funext j
  by_cases hne : j = i
  · subst hne
    rw [Function.update_self, RelayServer.views, List.getElem?_set_self (List.getElem?_eq_some_iff.mp hc).1]
    rfl
  · rw [Function.update_of_ne hne, RelayServer.views, RelayServer.views]
    dsimp only
    rw [List.getElem?_set_ne fun heq => hne heq.symm]

theorem Ok.activated (h : r.Ok) (hc : r.connections[i]? = some c) {c' : RelayConnection ν ω}
    (htracks : Tracks r.desk r.views i c') :
    Ok { r with desk := deskOf r.desk i c', connections := r.connections.set i c' } where
  length := by
    rw [List.length_set, h.length]
    exact (length_hearAll r.desk i c'.notices).symm
  connections := by
    intro c₁ hmem
    rcases List.mem_or_eq_of_mem_set hmem with hold | rfl
    · exact h.connections c₁ hold
    · exact ⟨htracks.role, htracks.shut⟩
  desk := by
    rw [views_set r hc]
    exact htracks.ok

theorem ok_settles (h : r.Ok) (hc : r.connections[i]? = some c) {c₀ : RelayConnection ν ω}
    (hrole : c₀.role = c.role) (hshut : c.Shut → c₀.Shut) (hview : c₀.view = c.view) {x : Relay ν ω Unit}
    (hx : Prog.Leads RelayConnection.Settles x) : (r.activate i c₀ x).Ok := by
  have htracks : Tracks r.desk r.views i { c₀ with notices := [] } := h.tracks hc hrole hshut hview rfl
  exact h.activated hc (htracks.settles (hx _))

theorem ok_data (h : r.Ok) (hc : r.connections[i]? = some c) (hopen : ¬(r.desk.slots[i]?.any (·.destroyed)) = true)
    (chunk : List UInt8) (w : ω) (hroomy : Roomy s r (.data i chunk w)) :
    (r.activate i { c with world := w } (RelayConnection.onData s chunk)).Ok := by
  refine h.activated hc ?_
  have htracks : Tracks r.desk r.views i { c with world := w, notices := [] } := h.tracks hc rfl id rfl rfl
  unfold RelayConnection.onData
  rw [Prog.read_bind]
  split_ifs with hdestroyed
  · exact htracks
  · cases hpush : push c.buffer chunk with
    | none => exact htracks.settles (RelayConnection.fail_settles _ _ _)
    | some result =>
      obtain ⟨lines, buffer⟩ := result
      have hbuffer : Tracks r.desk r.views i { c with world := w, notices := [], buffer := buffer } :=
        h.tracks hc rfl id rfl rfl
      refine hbuffer.lines s lines (fun slot hslot => ?_) fun hhand => ?_
      · by_contra hnot
        refine hopen ?_
        change r.desk.slots[i]? = some slot at hslot
        rw [hslot]
        exact Bool.of_not_eq_false hnot
      · rintro first second rest rfl
        exact hroomy c hc hhand first second rest buffer hpush

theorem ok_onClosed (h : r.Ok) (i : Nat) (hclosed : (r.views i).stage = .closed) : (r.onClosed i).Ok where
  length := h.length.trans ((length_markDestroyed _ i).trans (h.desk.releaseAll hclosed).2).symm
  connections := h.connections
  desk := (h.desk.releaseAll hclosed).1.markDestroyed

theorem construct_ok {input : RelayConnectionInput} {w : ω}
    (h : RelayConnection.construct s input w = .ok c) : c.role = input.role ∧ c.state = .handshaking := by
  unfold RelayConnection.construct at h
  split at h
  · cases h
  obtain ⟨localStateDir, _, h⟩ := ok_of_bind h
  obtain ⟨ownAuthorityId, _, h⟩ := ok_of_bind h
  cases h
  exact ⟨rfl, rfl⟩

theorem start_responder {input : RelayConnectionInput} (h : c.role = .responder) :
    RelayConnection.start s input c = (.ok (), { c with handshakeTimer := true }) := by
  obtain ⟨⟩ := c
  cases h
  rfl

theorem ok_serve (h : r.Ok) {admission : RelayAdmission} (hroom : r.desk.admission.admitHandshake = some admission)
    (w : ω) : (r.serve s admission w).Ok := by
  unfold serve
  cases hc : RelayConnection.construct s (responderInput r.localStateDir) w with
  | error message => exact h
  | ok c =>
    obtain ⟨hrole, hstate⟩ := construct_ok s hc
    dsimp only
    rw [start_responder s hrole]
    refine ⟨?_, fun c₁ hmem => ?_, h.desk.accepted hroom (fun j hlt => ?_) ?_⟩
    · rw [List.length_append, List.length_append, h.length]
      rfl
    · rcases List.mem_append.mp hmem with hold | hnew
      · exact h.connections c₁ hold
      · rw [List.mem_singleton.mp hnew]
        refine ⟨hrole, fun hclosed => ?_⟩
        have hopen : c.state = .closed := hclosed
        rw [hstate] at hopen
        cases hopen
    · rw [RelayServer.views, RelayServer.views, List.getElem?_append_left (h.length ▸ hlt)]
    · rw [RelayServer.views, ← h.length, List.getElem?_concat_length]
      change c.state.stage = _
      rw [hstate]
      rfl

theorem ok_elim (h : r.Ok) {next : RelayConnection ν ω → RelayServer ν ω}
    (hnext : ∀ c, r.connections[i]? = some c → (next c).Ok) : (r.connections[i]?.elim r next).Ok := by
  cases hc : r.connections[i]? with
  | none => exact h
  | some c => exact hnext c hc

theorem ok_step (h : r.Ok) (event : ServerEvent ν ω) (hroomy : Roomy s r event) : (r.step s event).Ok := by
  cases event with
  | accept w =>
    unfold step
    cases hroom : r.desk.admission.admitHandshake with
    | none => exact h
    | some admission => exact ok_serve s h hroom w
  | data i chunk w =>
    refine ok_elim h fun c hc => ?_
    split_ifs with hgone
    · exact h
    · exact ok_data s h hc (fun hdestroyed => hgone (.inr hdestroyed)) chunk w hroomy
  | operate i operation w =>
    refine ok_elim h fun c hc => ?_
    have hrole : ({ c with world := w } : RelayConnection ν ω).role = c.role := rfl
    exact ok_settles h hc hrole id rfl (RelayConnection.perform_settles s operation)
  | fail i reason message =>
    exact ok_elim h fun c hc => ok_settles h hc rfl id rfl (RelayConnection.fail_settles reason message)
  | closed i =>
    refine ok_elim h fun c hc => ?_
    refine ok_onClosed (ok_settles h hc rfl id rfl (RelayConnection.fail_settles _ _)) i ?_
    rw [RelayServer.views, activate, List.getElem?_set_self (List.getElem?_eq_some_iff.mp hc).1]
    exact congrArg RelayConnectionState.stage (RelayConnection.closing_state _ _ _)

theorem ok_initial (localStateDir : JsString) (maxPerPeer maxHandshaking : Nat) :
    (initial localStateDir maxPerPeer maxHandshaking : RelayServer ν ω).Ok where
  length := rfl
  connections := fun _ hmem => by cases hmem
  desk := ⟨fun _ _ hj => (by cases hj), fun _ hmem => (by cases hmem), fun _ => rfl, fun _ => Nat.zero_le _, rfl,
    fun _ _ _ hmem => (by cases hmem), fun _ _ hmem => (by cases hmem), fun _ _ _ hj => (by cases hj),
    fun _ _ hj => (by cases hj)⟩

theorem Ok.bounded (h : r.Ok) : AdmissionBounded r where
  handled := h.desk.handled
  refused := fun i peer hmem peer' holders hhandled => (h.desk.refused i peer hmem).1 ⟨peer', holders, hhandled⟩
  once := h.desk.once
  counted := fun peer => (h.desk.counted peer).trans (length_holders r.desk peer).symm
  handshakes := h.desk.handshakes
  ended := by
    intro i c slot hc hclosed hslot
    have hok := h.desk.slots i slot hslot
    have hstage : (r.views i).stage = .closed := by
      rw [RelayServer.views, hc]
      exact congrArg RelayConnectionState.stage hclosed
    refine ⟨Option.eq_none_iff_forall_ne_some.mpr fun peer hpeer => ?_, Bool.eq_false_iff.mpr fun hheld => ?_⟩
    · have hlive := (hok.admitted peer hpeer).1
      rw [hstage] at hlive
      cases hlive
    · have hwaiting := hok.held hheld
      rw [hstage] at hwaiting
      cases hwaiting

/-- In a run in which no chunk brings a frame of a session right after the init with which it is refused, frames
are handled within the bound only, never of a refused session, and each slot is released once. -/
theorem admission_bounded (localStateDir : JsString) (maxPerPeer maxHandshaking : Nat)
    (events : List (ServerEvent ν ω))
    (h : Trace.Meets (step s) (Roomy s) (initial localStateDir maxPerPeer maxHandshaking) events) :
    AdmissionBounded (Trace.run (step s) (initial localStateDir maxPerPeer maxHandshaking) events) := by
  have hok : Ok (Trace.run (step s) (initial localStateDir maxPerPeer maxHandshaking) events) :=
    Trace.invariant_run (I := Ok) (fun _ event hok hroomy => ok_step s hok event hroomy)
      (ok_initial localStateDir maxPerPeer maxHandshaking) h
  exact hok.bounded

/-- The chunk of a session in the handshake completes at most one line. -/
def isBrief (r : RelayServer ν ω) : ServerEvent ν ω → Bool
  | .data i chunk _ => r.connections[i]?.all fun c =>
      c.state ≠ .handshaking || (push c.buffer chunk).all fun result => result.1.length ≤ 1
  | _ => true

theorem roomy_of_isBrief {event : ServerEvent ν ω} (h : r.isBrief event = true) : Roomy s r event := by
  cases event with
  | accept w => trivial
  | operate i operation w => trivial
  | fail i reason message => trivial
  | closed i => trivial
  | data i chunk w =>
    intro c hc hhand first second rest buffer hpush
    rw [isBrief, hc, Option.all_some, hhand, hpush] at h
    have hshort := of_decide_eq_true (show decide ((first :: second :: rest).length ≤ 1) = true from h)
    exact absurd hshort (by simp)

def sampleServer : RelayServer Int Unit := initial (text "/b") 1 8

/-- Two sockets of the peer come, and the second may say something with its init. -/
def twoSessions (more : List UInt8) : List (ServerEvent Int Unit) :=
  let hello := sampleBytes (sampleInit.toObject twoTimes)
  [.accept (), .data 0 hello (), .accept (), .data 1 (hello ++ more) ()]

theorem admission_bounded_apart :
    AdmissionBounded (Trace.run (step sampleSurroundings) (initial (text "/b") 1 8) (twoSessions [])) :=
  admission_bounded sampleSurroundings (text "/b") 1 8 (twoSessions [])
    (Trace.Meets.mono (fun _ _ => roomy_of_isBrief _) (by decide +kernel :
      Trace.Meets (step sampleSurroundings) (fun r event => r.isBrief event = true) sampleServer (twoSessions [])))

/-- The echo that comes with the init of the refused session is handled. -/
theorem refused_handled :
    ¬AdmissionBounded (Trace.run (step sampleSurroundings) (initial (text "/b") 1 8) (twoSessions (sampleBytes (sampleEcho 1)))) := by
  intro hbounded
  have hlog : .handled 1 (sampleAuthority "a") [0] ∈
      (Trace.run (step sampleSurroundings) sampleServer (twoSessions (sampleBytes (sampleEcho 1)))).desk.log := by decide +kernel
  have hheld := (hbounded.handled 1 _ [0] hlog).1
  exact absurd hheld (by decide)

end RelayServer

end Wardroom.Federation
