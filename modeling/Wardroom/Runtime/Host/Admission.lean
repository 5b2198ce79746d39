import Wardroom.Runtime.Host.Server

/-! # Admission to a runtime host

A host remembers the ids of the HELLOs and of the deliveries that it has served,
and it serves no more of them than its tables take.
-/

namespace Wardroom.Runtime.Host
open Wardroom.Library

/-- The handler of a connection takes so many steps, and nothing else happens. -/
def advances (s : RuntimeHost) (i : Nat) (now : Int) (n : Nat) : RuntimeHost :=
  Trace.run RuntimeHost.step s (List.replicate n (.advance i now none))

def serve (s : RuntimeHost) (i : Nat) (now : Int) (frame : ClientFrame) (n : Nat) : RuntimeHost :=
  advances (s.step (.request i now false frame)) i now n

/-- A HELLO of this connection has been accepted, and its acknowledgement is about to be written. -/
def Acknowledged (s : RuntimeHost) (i : Nat) : Prop :=
  ∃ c, s.conns[i]? = some c ∧ c.client.isSome = true ∧ ∃ version generation replayFrom head gap messages,
    c.handler = .answering (.helloAck version generation replayFrom head gap :: messages) false

def Executing (s : RuntimeHost) (i : Nat) (tx : Delivery) : Prop :=
  ∃ c k, s.conns[i]? = some c ∧ c.handler = .executing k tx 0 0 ∧ s.executions[k]? = some tx

/-- A new client of this kind may be registered. -/
def RuntimeHost.slotFree (s : RuntimeHost) (h : HelloEnvelope) : Bool :=
  if h.wantControl then s.controller.isNone else s.observerCount < observerCap

/-- A connection whose handler waits for a frame. -/
structure Waiting (s : RuntimeHost) (i : Nat) (c : Conn) : Prop where
  conn : s.conns[i]? = some c
  serving : c.serving = true
  handler : c.handler = .idle

/-- A HELLO that the host has no reason to refuse but its history. -/
structure Fresh (s : RuntimeHost) (now : Int) (h : HelloEnvelope) : Prop where
  valid : s.invalidHello now h = false
  named : h.id ≠ ""
  unseen : h.id ∉ s.seenHello

/-- A delivery that the host has no reason to refuse but its history. -/
structure Deliverable (s : RuntimeHost) (now : Int) (client : HostClient) (tx : Delivery) : Prop where
  unexpired : now < client.expiresAt
  authorised : "deliverMessage" ∈ client.actions
  running : s.exited = none
  valid : tx.valid = true
  short : tx.id.utf8ByteSize ≤ 256
  unseen : s.delivered.find? tx.id = none

/-- Nothing that is known is forgotten. -/
structure Remembers (s s' : RuntimeHost) : Prop where
  seenHello : ∀ id ∈ s.seenHello, id ∈ s'.seenHello
  delivered : ∀ id, (s.delivered.find? id).isSome = true → (s'.delivered.find? id).isSome = true

/-- What is fresh is served when there is room for HELLOs, or for deliveries; what is known never is again. -/
structure Admits (hellos deliveries : Prop) (s : RuntimeHost) : Prop where
  hello : ∀ i c now h, Waiting s i c → c.client = none → Fresh s now h → s.slotFree h = true → h.cursor ≤ s.ring.total →
    (Acknowledged (serve s i now (.hello h) 5) i ∧ h.id ∈ (serve s i now (.hello h) 5).seenHello ↔ hellos)
  renewal : ∀ i c client now h, Waiting s i c → c.client = some client → client.controller = h.wantControl →
    Fresh s now h →
    (Acknowledged (serve s i now (.hello h) 4) i ∧ h.id ∈ (serve s i now (.hello h) 4).seenHello ↔ hellos)
  delivery : ∀ i c client now tx, Waiting s i c → c.client = some client → Deliverable s now client tx →
    (Executing (serve s i now (.deliverMessage (some tx)) 3) i tx ∧
      ((serve s i now (.deliverMessage (some tx)) 3).delivered.find? tx.id).isSome = true ↔ deliveries)
  replayed : ∀ i c now h, Waiting s i c → s.invalidHello now h = false → h.id ∈ s.seenHello →
    serve s i now (.hello h) 2 = s.setConn i { c with
      handler := .answering [.error EAuthFailed "replayed credential"] true }
  duplicate : ∀ i c client now tx prior, Waiting s i c → c.client = some client → now < client.expiresAt →
    "deliverMessage" ∈ client.actions → s.exited = none → tx.valid = true → s.delivered.find? tx.id = some prior →
    serve s i now (.deliverMessage (some tx)) 2 = s.setConn i { c with
      handler := .answering [.deliverAck tx.id prior.generation .duplicate prior.bytesWritten] false }
  kept : ∀ events, Remembers s (Trace.run RuntimeHost.step s events)

namespace RuntimeHost
variable {s : RuntimeHost} {i : Nat} {c c' : Conn}

@[simp] theorem setConn_setConn (s : RuntimeHost) (i : Nat) (c c' : Conn) :
    (s.setConn i c).setConn i c' = s.setConn i c' := by
  unfold setConn
  rw [List.set_set]

theorem getElem?_setConn (h : s.conns[i]? = some c) : (s.setConn i c').conns[i]? = some c' :=
  List.getElem?_set_self (List.getElem?_eq_some_iff.mp h).1

theorem onConn_of_some {f : Conn → RuntimeHost} (h : s.conns[i]? = some c) : s.onConn i f = f c := by
  unfold onConn
  rw [h]
  rfl

theorem step_advance_setConn (h : s.conns[i]? = some c) (now : Int) :
    (s.setConn i c').step (.advance i now none) = (s.setConn i c').advance i c' now none :=
  onConn_of_some (getElem?_setConn h)

variable {now : Int} {h : HelloEnvelope} {renewing : Option Bool} {busy : Bool}

theorem verifyHello_valid (hvalid : s.invalidHello now h = false) :
    s.verifyHello i c now h = s.setConn i { c with handler := .verified h (c.client.map HostClient.controller) } := by
  unfold verifyHello
  rw [hvalid]
  rfl

theorem lookUpHello_refused (hrefused : h.id ∈ s.seenHello ∨ maxSeenCredentials ≤ s.seenHello.length) :
    s.lookUpHello i c h renewing = s.reject i c EAuthFailed "replayed credential" :=
  if_pos (or_assoc.mp (.inl hrefused))

theorem lookUpHello_fresh (hunseen : h.id ∉ s.seenHello) (hroom : s.seenHello.length < maxSeenCredentials)
    (hnamed : h.id ≠ "") :
    s.lookUpHello i c h renewing = s.setConn i { c with handler := .unseen h renewing s.controller.isSome } :=
  if_neg (not_or.mpr ⟨hunseen, not_or.mpr ⟨Nat.not_le.mpr hroom, hnamed⟩⟩)

theorem recordHello_fresh (hunseen : h.id ∉ s.seenHello) (hroom : s.seenHello.length < maxSeenCredentials) :
    s.recordHello i c h renewing busy =
      { s with seenHello := s.seenHello ++ [h.id] }.setConn i { c with handler := .recorded h renewing busy } :=
  if_neg (not_or.mpr ⟨hunseen, Nat.not_le.mpr hroom⟩)

theorem wantControl_allowed (h : HelloEnvelope) : (h.wantControl && "controller" ∉ h.actions) = false := by
  unfold HelloEnvelope.wantControl
  by_cases hmem : "controller" ∈ h.actions <;> simp [hmem]

theorem proceedHello_renewal : s.proceedHello i c h (some h.wantControl) busy = s.renew i c h := by
  unfold proceedHello
  rw [wantControl_allowed, if_neg Bool.false_ne_true]
  exact if_neg (not_not.mpr rfl)

theorem observerCount_setConn (hc : s.conns[i]? = some c) (hsame : c'.client = c.client) :
    (s.setConn i c').observerCount = s.observerCount := by
  have hcount (conns : List Conn) : (conns.countP fun c => c.client.any fun client => !client.controller) =
      (conns.map Conn.client).countP fun client => client.any fun client => !client.controller := by
    rw [List.countP_map]
    rfl
  have hclients : (s.conns.set i c').map Conn.client = s.conns.map Conn.client := by
    obtain ⟨hlt, hget⟩ := List.getElem?_eq_some_iff.mp hc
    rw [List.map_set, hsame, ← hget]
    have hself := @List.set_getElem_self _ (s.conns.map Conn.client) i (by rwa [List.length_map])
    rwa [List.getElem_map] at hself
  unfold observerCount setConn
  rw [hcount, hcount, hclients]

theorem slotFree_setConn (hc : s.conns[i]? = some c) (hsame : c'.client = c.client) :
    (s.setConn i c').slotFree h = s.slotFree h := by
  unfold slotFree
  rw [observerCount_setConn hc hsame]
  rfl

theorem proceedHello_free (hfree : s.slotFree h = true) (hbusy : busy = s.controller.isSome) :
    s.proceedHello i c h none busy = s.setConn i { c with handler := .claiming h } := by
  subst hbusy
  unfold proceedHello
  unfold slotFree at hfree
  rw [wantControl_allowed, if_neg Bool.false_ne_true]
  cases hcontrol : h.wantControl with
  | true =>
    rw [hcontrol, if_pos rfl, Option.isNone_iff_eq_none] at hfree
    rw [hfree]
    rfl
  | false =>
    rw [hcontrol, if_neg Bool.false_ne_true, decide_eq_true_eq] at hfree
    have hroom : ¬ observerCap ≤ s.observerCount := Nat.not_le.mpr hfree
    simp [hroom]

theorem claim_free (hfree : s.slotFree h = true) (hcursor : h.cursor ≤ s.ring.total) :
    ∃ (rp : Replay) (controller : Option Nat), s.claim i c h = ({ s with controller := controller } : RuntimeHost).setConn i { c with
      client := some ⟨h.wantControl, [], 0, h.actions, h.expiry⟩
      handler := .answering (s.helloAck rp.start s.ring.total rp.gap :: outputFrames rp.start rp.bytes ++
        s.exited.toList.map HostMessage.exit) false } := by
  obtain ⟨rp, hrp⟩ : ∃ rp, s.ring.replayFrom h.cursor = some rp := by
    unfold Ring.replayFrom
    rw [if_neg (Nat.not_lt.mpr hcursor)]
    split_ifs
    · exact ⟨_, rfl⟩
    · exact ⟨_, rfl⟩
  unfold claim greeting
  unfold slotFree at hfree
  rw [hrp]
  cases hcontrol : h.wantControl with
  | true =>
    rw [hcontrol, if_pos rfl, Option.isNone_iff_eq_none] at hfree
    rw [hfree]
    exact ⟨rp, some i, rfl⟩
  | false =>
    rw [hcontrol, if_neg Bool.false_ne_true, decide_eq_true_eq] at hfree
    have hroom : ¬ observerCap ≤ s.observerCount := Nat.not_le.mpr hfree
    refine ⟨rp, s.controller, ?_⟩
    simp [hroom]

end RuntimeHost

namespace Admission
variable {s : RuntimeHost} {i : Nat} {c : Conn} {now : Int} {h : HelloEnvelope}

theorem advances_succ (s : RuntimeHost) (i : Nat) (now : Int) (n : Nat) :
    advances s i now (n + 1) = advances (s.step (.advance i now none)) i now n := rfl

@[simp] theorem advances_zero (s : RuntimeHost) (i : Nat) (now : Int) : advances s i now 0 = s := rfl

theorem request_hello (hw : Waiting s i c) :
    s.step (.request i now false (.hello h)) = s.setConn i { c with handler := .greeted h } := by
  have hidle : (c.serving && c.handler = .idle) = true := by
    rw [hw.serving, hw.handler]
    rfl
  change s.onConn i _ = _
  rw [RuntimeHost.onConn_of_some hw.conn, if_pos hidle]
  rfl

theorem serve_hello (hw : Waiting s i c) (hvalid : s.invalidHello now h = false) (n : Nat) :
    serve s i now (.hello h) (n + 1) =
      advances (s.setConn i { c with handler := .verified h (c.client.map HostClient.controller) }) i now n := by
  unfold serve
  rw [request_hello hw, advances_succ, RuntimeHost.step_advance_setConn hw.conn]
  change advances (RuntimeHost.verifyHello _ i _ now h) i now n = _
  rw [RuntimeHost.verifyHello_valid (s := s.setConn i _) hvalid, RuntimeHost.setConn_setConn]

theorem serve_refused (hw : Waiting s i c) (hvalid : s.invalidHello now h = false)
    (hrefused : h.id ∈ s.seenHello ∨ maxSeenCredentials ≤ s.seenHello.length) (n : Nat) :
    serve s i now (.hello h) (n + 2) = advances (s.setConn i { c with
      handler := .answering [.error EAuthFailed "replayed credential"] true }) i now n := by
  rw [serve_hello hw hvalid, advances_succ, RuntimeHost.step_advance_setConn hw.conn]
  change advances (RuntimeHost.lookUpHello _ i _ h _) i now n = _
  rw [RuntimeHost.lookUpHello_refused (s := s.setConn i _) hrefused]
  unfold RuntimeHost.reject
  rw [RuntimeHost.setConn_setConn]

theorem serve_recorded (hw : Waiting s i c) (hfresh : Fresh s now h)
    (hroom : s.seenHello.length < maxSeenCredentials) (n : Nat) :
    serve s i now (.hello h) (n + 3) = advances ({ s with seenHello := s.seenHello ++ [h.id] }.setConn i { c with
      handler := .recorded h (c.client.map HostClient.controller) s.controller.isSome }) i now n := by
  rw [serve_hello hw hfresh.valid, advances_succ, RuntimeHost.step_advance_setConn hw.conn]
  change advances (RuntimeHost.lookUpHello _ i _ h _) i now (n + 1) = _
  rw [RuntimeHost.lookUpHello_fresh (s := s.setConn i _) hfresh.unseen hroom hfresh.named,
    RuntimeHost.setConn_setConn, advances_succ, RuntimeHost.step_advance_setConn hw.conn]
  change advances (RuntimeHost.recordHello _ i _ h _ _) i now n = _
  rw [RuntimeHost.recordHello_fresh (s := s.setConn i _) hfresh.unseen hroom]
  congr 1
  exact RuntimeHost.setConn_setConn { s with seenHello := s.seenHello ++ [h.id] } ..

theorem renewal_acknowledged {client : HostClient} (hw : Waiting s i c) (hclient : c.client = some client)
    (hmode : client.controller = h.wantControl) (hfresh : Fresh s now h)
    (hroom : s.seenHello.length < maxSeenCredentials) :
    Acknowledged (serve s i now (.hello h) 4) i ∧ h.id ∈ (serve s i now (.hello h) 4).seenHello := by
  rw [serve_recorded hw hfresh hroom 1, advances_succ, RuntimeHost.step_advance_setConn (by exact hw.conn), hclient,
    Option.map_some, hmode]
  change Acknowledged (RuntimeHost.proceedHello _ i _ h (some h.wantControl) s.controller.isSome) i ∧
    h.id ∈ (RuntimeHost.proceedHello _ i _ h (some h.wantControl) s.controller.isSome).seenHello
  rw [RuntimeHost.proceedHello_renewal]
  refine ⟨⟨_, RuntimeHost.getElem?_setConn (RuntimeHost.getElem?_setConn hw.conn), ?_, _, _, _, _, _, [], rfl⟩, ?_⟩
  · rw [Option.isSome_map]
    rfl
  · exact List.mem_append_right _ (List.mem_singleton_self _)

theorem advances_renewal {client : HostClient} {busy : Bool} (hc : s.conns[i]? = some c) (hopened : c.opened = true) :
    advances (s.setConn i { c with client := some client, handler := .recorded h (some h.wantControl) busy }) i now 3 =
      s.setConn i { c with
        client := some { client with expiresAt := h.expiry, actions := h.actions }
        handler := .idle
        received := c.received ++ [s.helloAck s.ring.total s.ring.total false] } := by
  have hwrite (s' : RuntimeHost) (c' : Conn) (hopened : c'.opened = true) :
      s'.answer i c' [s.helloAck s.ring.total s.ring.total false] false none = s'.setConn i { c' with
        received := c'.received ++ [s.helloAck s.ring.total s.ring.total false], handler := .answering [] false } := by
    simp only [RuntimeHost.answer]
    rw [hopened]
    rfl
  rw [advances_succ, RuntimeHost.step_advance_setConn hc]
  change advances (RuntimeHost.proceedHello _ i _ h (some h.wantControl) busy) i now 2 = _
  rw [RuntimeHost.proceedHello_renewal]
  unfold RuntimeHost.renew
  rw [RuntimeHost.setConn_setConn, advances_succ, RuntimeHost.step_advance_setConn hc]
  change advances (RuntimeHost.answer _ i _ [s.helloAck s.ring.total s.ring.total false] false none) i now 1 = _
  rw [hwrite (s.setConn i _) _ (by exact hopened), RuntimeHost.setConn_setConn, advances_succ, RuntimeHost.step_advance_setConn hc]
  exact RuntimeHost.setConn_setConn ..

theorem advances_claim {busy : Bool} (hc : s.conns[i]? = some c) (hfree : s.slotFree h = true)
    (hcursor : h.cursor ≤ s.ring.total) (hbusy : busy = s.controller.isSome) :
    Acknowledged (advances (s.setConn i { c with handler := .recorded h none busy }) i now 2) i ∧
      (advances (s.setConn i { c with handler := .recorded h none busy }) i now 2).seenHello = s.seenHello := by
  have hfree' (handler : Phase) : (s.setConn i { c with handler := handler }).slotFree h = true :=
    (RuntimeHost.slotFree_setConn hc (by rfl)).trans hfree
  rw [advances_succ, RuntimeHost.step_advance_setConn hc]
  change Acknowledged (advances (RuntimeHost.proceedHello _ i _ h none busy) i now 1) i ∧
    (advances (RuntimeHost.proceedHello _ i _ h none busy) i now 1).seenHello = _
  rw [RuntimeHost.proceedHello_free (s := s.setConn i _) (hfree' _) hbusy, RuntimeHost.setConn_setConn, advances_succ,
    RuntimeHost.step_advance_setConn hc]
  change Acknowledged (RuntimeHost.claim _ i _ h) i ∧ (RuntimeHost.claim _ i _ h).seenHello = _
  obtain ⟨rp, controller, hclaim⟩ := RuntimeHost.claim_free (s := s.setConn i _) (i := i)
    (c := { c with handler := .claiming h }) (hfree' _) hcursor
  rw [hclaim]
  exact ⟨⟨_, RuntimeHost.getElem?_setConn (RuntimeHost.getElem?_setConn hc), rfl, _, _, _, _, _, _, rfl⟩, rfl⟩

theorem hello_acknowledged (hw : Waiting s i c) (hclient : c.client = none) (hfresh : Fresh s now h)
    (hfree : s.slotFree h = true) (hcursor : h.cursor ≤ s.ring.total) (hroom : s.seenHello.length < maxSeenCredentials) :
    Acknowledged (serve s i now (.hello h) 5) i ∧ h.id ∈ (serve s i now (.hello h) 5).seenHello := by
  rw [serve_recorded hw hfresh hroom 2, hclient, Option.map_none]
  have hclaimed (recorded : RuntimeHost) (hrecorded : recorded = { s with seenHello := s.seenHello ++ [h.id] }) :
      Acknowledged (advances (recorded.setConn i { c with handler := .recorded h none s.controller.isSome }) i now 2) i ∧
        (advances (recorded.setConn i { c with handler := .recorded h none s.controller.isSome }) i now 2).seenHello =
          recorded.seenHello := by
    subst hrecorded
    exact advances_claim hw.conn hfree hcursor rfl
  replace hclaimed := hclaimed _ rfl
  refine ⟨?_, ?_⟩
  · rw [hclient] at hclaimed
    exact hclaimed.1
  · rw [hclient] at hclaimed
    rw [hclaimed.2]
    exact List.mem_append_right _ (List.mem_singleton_self _)

/-- The handler of a connection is done with refusing. -/
def Refusing (s : RuntimeHost) (i : Nat) : Prop :=
  ∃ c, s.conns[i]? = some c ∧ ((∃ code message, c.handler = .answering [.error code message] true) ∨
    c.handler = .answering [] true ∨ c.handler = .idle)

theorem Refusing.advances (h : Refusing s i) (n : Nat) : Refusing (advances s i now n) i := by
  induction n generalizing s with
  | zero => exact h
  | succ n ih =>
    rw [advances_succ]
    refine ih ?_
    obtain ⟨c, hc, hhandler⟩ := h
    change Refusing (s.onConn i fun c => s.advance i c now none) i
    rw [RuntimeHost.onConn_of_some hc]
    unfold RuntimeHost.advance
    rcases hhandler with ⟨code, message, hhandler⟩ | hhandler | hhandler
    · rw [hhandler]
      simp only [RuntimeHost.answer]
      split_ifs
      · exact ⟨_, RuntimeHost.getElem?_setConn hc, .inr (.inl rfl)⟩
      · exact ⟨_, RuntimeHost.getElem?_setConn hc, .inr (.inl rfl)⟩
      · exact ⟨_, RuntimeHost.getElem?_setConn hc, .inr (.inl rfl)⟩
    · rw [hhandler]
      exact ⟨_, RuntimeHost.getElem?_setConn hc, .inr (.inr rfl)⟩
    · rw [hhandler]
      exact ⟨c, hc, .inr (.inr hhandler)⟩

theorem Refusing.not_acknowledged (h : Refusing s i) : ¬ Acknowledged s i := by
  rintro ⟨c, hc, -, version, generation, replayFrom, head, gap, messages, hack⟩
  obtain ⟨c', hc', hhandler⟩ := h
  rw [hc] at hc'
  cases hc'
  rw [hack] at hhandler
  rcases hhandler with ⟨code, message, hhandler⟩ | hhandler | hhandler
  · cases hhandler
  · cases hhandler
  · cases hhandler

theorem not_acknowledged (hw : Waiting s i c) (hvalid : s.invalidHello now h = false)
    (hfull : maxSeenCredentials ≤ s.seenHello.length) (n : Nat) :
    ¬ Acknowledged (serve s i now (.hello h) (n + 2)) i := by
  rw [serve_refused hw hvalid (.inr hfull)]
  exact (Refusing.advances ⟨_, RuntimeHost.getElem?_setConn hw.conn, .inl ⟨_, _, rfl⟩⟩ n).not_acknowledged

variable {client : HostClient} {tx : Delivery}

theorem request_delivery (hw : Waiting s i c) (hclient : c.client = some client) (hexpiry : now < client.expiresAt)
    (hauthorised : "deliverMessage" ∈ client.actions) :
    s.step (.request i now false (.deliverMessage (some tx))) =
      s.setConn i { c with handler := .requested (some tx) } := by
  have hidle : (c.serving && c.handler = .idle) = true := by
    rw [hw.serving, hw.handler]
    rfl
  change s.onConn i _ = _
  rw [RuntimeHost.onConn_of_some hw.conn, if_pos hidle]
  unfold RuntimeHost.handle
  simp only [hclient]
  rw [if_neg (not_le.mpr hexpiry), RuntimeHost.handleFrame, if_neg (not_not.mpr hauthorised), hclient]

theorem serve_delivery (hw : Waiting s i c) (hclient : c.client = some client) (hexpiry : now < client.expiresAt)
    (hauthorised : "deliverMessage" ∈ client.actions) (hrunning : s.exited = none) (hvalid : tx.valid = true) (n : Nat) :
    serve s i now (.deliverMessage (some tx)) (n + 1) =
      advances (s.setConn i { c with handler := .validated tx }) i now n := by
  have hcheck (s' : RuntimeHost) (c' : Conn) (hrunning : s'.exited = none) :
      s'.checkDelivery i c' (some tx) = s'.setConn i { c' with handler := .validated tx } := by
    unfold RuntimeHost.checkDelivery
    rw [hrunning, Option.filter_some, hvalid]
    rfl
  unfold serve
  rw [request_delivery hw hclient hexpiry hauthorised, advances_succ, RuntimeHost.step_advance_setConn hw.conn]
  change advances (RuntimeHost.checkDelivery _ i _ (some tx)) i now n = _
  rw [hcheck (s.setConn i _) _ hrunning, RuntimeHost.setConn_setConn]

theorem serve_known (hw : Waiting s i c) (hclient : c.client = some client) (hexpiry : now < client.expiresAt)
    (hauthorised : "deliverMessage" ∈ client.actions) (hrunning : s.exited = none) (hvalid : tx.valid = true)
    {prior : DeliveryState} (hprior : s.delivered.find? tx.id = some prior) :
    serve s i now (.deliverMessage (some tx)) 2 = s.setConn i { c with
      handler := .answering [.deliverAck tx.id prior.generation .duplicate prior.bytesWritten] false } := by
  have hknown (s' : RuntimeHost) (c' : Conn) (hprior : s'.delivered.find? tx.id = some prior) :
      s'.countDelivery i c' tx = s'.setConn i { c' with
        handler := .answering [.deliverAck tx.id prior.generation .duplicate prior.bytesWritten] false } := by
    unfold RuntimeHost.countDelivery
    simp only [hprior]
    rw [← (Table.find?_some hprior).2]
    rfl
  rw [serve_delivery hw hclient hexpiry hauthorised hrunning hvalid, advances_succ,
    RuntimeHost.step_advance_setConn hw.conn]
  change RuntimeHost.countDelivery _ i _ tx = _
  rw [hknown (s.setConn i _) _ hprior, RuntimeHost.setConn_setConn]

theorem delivery_executed (hw : Waiting s i c) (hclient : c.client = some client)
    (hd : Deliverable s now client tx) :
    Executing (serve s i now (.deliverMessage (some tx)) 3) i tx ∧
      ((serve s i now (.deliverMessage (some tx)) 3).delivered.find? tx.id).isSome = true ↔
        s.delivered.rows.length < maxDeliveries := by
  have hshort : ¬ 256 < tx.id.utf8ByteSize := Nat.not_lt.mpr hd.short
  rw [serve_delivery hw hclient hd.unexpired hd.authorised hd.running hd.valid, advances_succ,
    RuntimeHost.step_advance_setConn hw.conn]
  change Executing (advances (RuntimeHost.countDelivery _ i _ tx) i now 1) i tx ∧
    ((advances (RuntimeHost.countDelivery _ i _ tx) i now 1).delivered.find? tx.id).isSome = true ↔ _
  by_cases hroom : s.delivered.rows.length < maxDeliveries
  · have hcount (s' : RuntimeHost) (c' : Conn) (hunseen : s'.delivered.find? tx.id = none)
        (hroom : s'.delivered.rows.length < maxDeliveries) :
        s'.countDelivery i c' tx = s'.setConn i { c' with handler := .counted tx } := by
      unfold RuntimeHost.countDelivery
      simp only [hunseen]
      exact if_neg (not_or.mpr ⟨hshort, Nat.not_le.mpr hroom⟩)
    have hreserve (s' : RuntimeHost) (c' : Conn) (hunseen : s'.delivered.find? tx.id = none) :
        s'.reserve i c' tx = { s' with
          delivered := s'.delivered.put ⟨tx.id, true, false, false, 0, s'.enrollment.generation⟩
          executions := s'.executions ++ [tx] }.setConn i
            { c' with handler := .executing s'.executions.length tx 0 0 } := by
      unfold RuntimeHost.reserve
      simp only [hunseen]
    rw [hcount (s.setConn i _) _ hd.unseen hroom, RuntimeHost.setConn_setConn, advances_succ,
      RuntimeHost.step_advance_setConn hw.conn]
    change Executing (RuntimeHost.reserve _ i _ tx) i tx ∧
      ((RuntimeHost.reserve _ i _ tx).delivered.find? tx.id).isSome = true ↔ _
    rw [hreserve (s.setConn i _) _ hd.unseen]
    refine ⟨fun _ => hroom, fun _ => ⟨⟨_, _, RuntimeHost.getElem?_setConn (RuntimeHost.getElem?_setConn hw.conn), rfl,
      List.getElem?_concat_length⟩, ?_⟩⟩
    change ((s.delivered.put _).find? tx.id).isSome = true
    rw [Table.find?_put, hd.unseen, if_pos rfl]
    rfl
  · have hfull (s' : RuntimeHost) (c' : Conn) (hunseen : s'.delivered.find? tx.id = none)
        (hfull : maxDeliveries ≤ s'.delivered.rows.length) :
        s'.countDelivery i c' tx = s'.reject i c' EBadFrame "delivery capacity" := by
      unfold RuntimeHost.countDelivery
      simp only [hunseen]
      exact if_pos (.inr hfull)
    rw [hfull (s.setConn i _) _ hd.unseen (Nat.not_lt.mp hroom)]
    unfold RuntimeHost.reject
    rw [RuntimeHost.setConn_setConn]
    refine ⟨fun hexecuted => ?_, fun h => absurd h hroom⟩
    obtain ⟨⟨c', k, hc', hexecuting, _⟩, _⟩ := hexecuted
    obtain ⟨d, hd', hrefusing⟩ : Refusing (advances (s.setConn i
        { c with handler := .answering [.error EBadFrame "delivery capacity"] true }) i now 1) i :=
      Refusing.advances ⟨_, RuntimeHost.getElem?_setConn hw.conn, .inl ⟨_, _, rfl⟩⟩ 1
    have hsame := hc'.symm.trans hd'
    cases hsame
    rw [hexecuting] at hrefusing
    rcases hrefusing with ⟨code, message, hhandler⟩ | hhandler | hhandler
    · cases hhandler
    · cases hhandler
    · cases hhandler

theorem remembers_same {s' : RuntimeHost} (hseen : s'.seenHello = s.seenHello) (hdelivered : s'.delivered = s.delivered) :
    Remembers s s' :=
  ⟨fun _ h => hseen ▸ h, fun _ h => hdelivered ▸ h⟩

theorem remembers_setConn {s' : RuntimeHost} (h : Remembers s s') {j : Nat} {c' : Conn} :
    Remembers s (s'.setConn j c') := ⟨h.seenHello, h.delivered⟩

theorem remembers_setDelivery (st : DeliveryState) : Remembers s (s.setDelivery st) := by
  refine ⟨fun _ h => h, fun id hid => ?_⟩
  have hrewrite := Table.find?_rewrite (t := s.delivered) (u := (s.setDelivery st).delivered)
    (p := fun r => r.id = st.id) (f := fun r => { st with id := r.id }) rfl (fun _ => rfl) id
  rw [hrewrite, Option.isSome_map]
  exact hid

theorem remembers_advance (failure : Option Nat) : Remembers s (s.advance i c now failure) := by
  unfold RuntimeHost.advance
  split
  case h_1 => exact remembers_same rfl rfl
  case h_2 =>
    unfold RuntimeHost.verifyHello
    split_ifs <;> exact remembers_same rfl rfl
  case h_3 =>
    unfold RuntimeHost.lookUpHello
    split_ifs <;> exact remembers_same rfl rfl
  case h_4 hello renewing busy hhandler =>
    unfold RuntimeHost.recordHello
    split_ifs
    · exact remembers_same rfl rfl
    · exact ⟨fun _ h => List.mem_append_left _ h, fun _ h => h⟩
  case h_5 hello renewing busy hhandler =>
    cases renewing with
    | some controller =>
      simp only [RuntimeHost.proceedHello]
      split_ifs <;> exact remembers_same rfl rfl
    | none =>
      simp only [RuntimeHost.proceedHello]
      split_ifs <;> exact remembers_same rfl rfl
  case h_6 =>
    unfold RuntimeHost.claim
    split_ifs <;> exact remembers_same rfl rfl
  case h_7 =>
    unfold RuntimeHost.checkDelivery
    split_ifs
    · exact remembers_same rfl rfl
    split <;> exact remembers_same rfl rfl
  case h_8 =>
    unfold RuntimeHost.countDelivery
    split
    · exact remembers_same rfl rfl
    split_ifs <;> exact remembers_same rfl rfl
  case h_9 tx hhandler =>
    unfold RuntimeHost.reserve
    split
    · exact remembers_same rfl rfl
    · refine ⟨fun _ h => h, fun id hid => ?_⟩
      change ((s.delivered.put _).find? id).isSome = true
      rw [Table.find?_put, Option.isSome_or, hid]
      rfl
  case h_10 =>
    unfold RuntimeHost.execute
    split
    · exact remembers_setConn (remembers_setDelivery _)
    · split_ifs
      · exact remembers_same rfl rfl
      split <;> exact remembers_same rfl rfl
  case h_11 => exact remembers_setConn (remembers_setDelivery _)
  case h_12 messages close hhandler =>
    cases messages with
    | nil =>
      simp only [RuntimeHost.answer]
      split_ifs <;> exact remembers_same rfl rfl
    | cons m rest =>
      have hrecorded : Remembers s (s.recordAck m) := by
        cases m <;> exact remembers_same rfl rfl
      simp only [RuntimeHost.answer]
      split_ifs <;> exact remembers_setConn hrecorded

theorem remembers_handle (fails : Bool) (frame : ClientFrame) : Remembers s (s.handle i c now fails frame) := by
  unfold RuntimeHost.handle
  split
  · exact remembers_same rfl rfl
  split
  · exact remembers_same rfl rfl
  split_ifs
  · exact remembers_same rfl rfl
  cases frame with
  | hello _ => exact remembers_same rfl rfl
  | input _ => rw [RuntimeHost.handleFrame]; split_ifs <;> exact remembers_same rfl rfl
  | resize _ _ => rw [RuntimeHost.handleFrame]; split_ifs <;> exact remembers_same rfl rfl
  | signal _ => rw [RuntimeHost.handleFrame]; split_ifs <;> exact remembers_same rfl rfl
  | terminate => rw [RuntimeHost.handleFrame]; split_ifs <;> exact remembers_same rfl rfl
  | deliverMessage _ => rw [RuntimeHost.handleFrame]; split_ifs <;> exact remembers_same rfl rfl
  | ping => exact remembers_same rfl rfl
  | wipe => exact remembers_same rfl rfl
  | other => exact remembers_same rfl rfl

theorem remembers_enqueueAll (messages : List HostMessage) : Remembers s (messages.foldl RuntimeHost.enqueueAll s) := by
  have hsame (messages : List HostMessage) (s : RuntimeHost) :
      (messages.foldl RuntimeHost.enqueueAll s).seenHello = s.seenHello ∧
        (messages.foldl RuntimeHost.enqueueAll s).delivered = s.delivered := by
    induction messages generalizing s with
    | nil => exact ⟨rfl, rfl⟩
    | cons m messages ih => exact ih (s.enqueueAll m)
  exact remembers_same (hsame messages s).1 (hsame messages s).2

theorem remembers_step (e : RuntimeHost.HostEvent) : Remembers s (s.step e) := by
  have onConn {i : Nat} {f : Conn → RuntimeHost} (hf : ∀ c, Remembers s (f c)) : Remembers s (s.onConn i f) := by
    unfold RuntimeHost.onConn
    cases s.conns[i]? with
    | none => exact remembers_same rfl rfl
    | some c => exact hf c
  cases e with
  | accept => exact remembers_same rfl rfl
  | request i now fails frame =>
    refine onConn fun c => ?_
    split_ifs
    · exact remembers_handle fails frame
    · exact remembers_same rfl rfl
  | advance i now failure => exact onConn fun c => remembers_advance failure
  | hangUp i =>
    refine onConn fun c => ?_
    split_ifs <;> exact remembers_same rfl rfl
  | malformed i code =>
    refine onConn fun c => ?_
    split_ifs <;> exact remembers_same rfl rfl
  | produce data =>
    rw [RuntimeHost.step]
    have hkept (messages : List HostMessage) : Remembers { s with ring := s.ring.append data, produced := s.produced ++ data }
        (messages.foldl RuntimeHost.enqueueAll { s with ring := s.ring.append data, produced := s.produced ++ data }) :=
      remembers_enqueueAll messages
    split_ifs
    · exact remembers_same rfl rfl
    · exact ⟨(hkept _).seenHello, (hkept _).delivered⟩
  | exit code =>
    rw [RuntimeHost.step]
    split_ifs <;> exact remembers_same rfl rfl
  | take i =>
    refine onConn fun c => ?_
    unfold RuntimeHost.take
    split
    · split_ifs <;> exact remembers_same rfl rfl
    · exact remembers_same rfl rfl
  | write i failure =>
    refine onConn fun c => ?_
    unfold RuntimeHost.writeChunk
    split
    · cases failure with
      | none => split_ifs <;> exact remembers_same rfl rfl
      | some k => exact remembers_same rfl rfl
    · exact remembers_same rfl rfl
  | settle i =>
    refine onConn fun c => ?_
    unfold RuntimeHost.settleChunk
    split
    · exact remembers_same rfl rfl
    · split_ifs <;> exact remembers_same rfl rfl
    · exact remembers_same rfl rfl

theorem remembers_run (s : RuntimeHost) (events : List RuntimeHost.HostEvent) :
    Remembers s (Trace.run RuntimeHost.step s events) :=
  Trace.invariant_of_step (I := Remembers s)
    (fun t e h => ⟨fun id hid => (remembers_step e).seenHello id (h.seenHello id hid),
      fun id hid => (remembers_step e).delivered id (h.delivered id hid)⟩)
    (remembers_same rfl rfl) events

end Admission

/-- Every state admits what is fresh exactly while its tables have room. -/
theorem admits_while_room (enrollment : HostEnrollment) (ringBytes : Nat) (secret : List UInt8)
    (events : List RuntimeHost.HostEvent) :
    let s := Trace.run RuntimeHost.step (.initial enrollment ringBytes secret) events
    Admits (s.seenHello.length < maxSeenCredentials) (s.delivered.rows.length < maxDeliveries) s where
  hello i c now h hw hclient hfresh hfree hcursor :=
    ⟨fun ⟨hack, _⟩ => Nat.not_le.mp fun hfull => Admission.not_acknowledged hw hfresh.valid hfull 3 hack,
      Admission.hello_acknowledged hw hclient hfresh hfree hcursor⟩
  renewal i c client now h hw hclient hmode hfresh :=
    ⟨fun ⟨hack, _⟩ => Nat.not_le.mp fun hfull => Admission.not_acknowledged hw hfresh.valid hfull 2 hack,
      Admission.renewal_acknowledged hw hclient hmode hfresh⟩
  delivery i c client now tx hw hclient hd := Admission.delivery_executed hw hclient hd
  replayed i c now h hw hvalid hseen := Admission.serve_refused hw hvalid (.inl hseen) 0
  duplicate i c client now tx prior hw hclient hexpiry hauthorised hrunning hvalid hprior :=
    Admission.serve_known hw hclient hexpiry hauthorised hrunning hvalid hprior
  kept := Admission.remembers_run _

namespace Sample

def watcher (id : String) : HelloEnvelope :=
  ⟨"roomsd", "runtime", "session", "runtime", "authority", 1, ["observe"], 1000, id, 0, [7]⟩

def name (n : Nat) : String := String.ofList (List.replicate (n + 1) 'a')

def watch : List RuntimeHost.HostEvent :=
  [.accept, .request 0 0 false (.hello (watcher "b"))] ++ List.replicate 7 (.advance 0 0 none)

def renewals : Nat → List RuntimeHost.HostEvent
  | 0 => watch
  | n + 1 => renewals n ++ .request 0 0 false (.hello (watcher (name n))) :: List.replicate 6 (.advance 0 0 none)

def start : RuntimeHost := .initial ⟨"session", "runtime", "authority", 1⟩ 4 [7]

theorem name_injective {n k : Nat} (h : name n = name k) : n = k := by
  have hlist := congrArg String.length h
  simpa [name] using hlist

theorem name_ne_empty (n : Nat) : name n ≠ "" := by
  intro h
  have hlist := congrArg String.length h
  simp [name] at hlist

theorem name_ne (n : Nat) : name n ≠ "b" := by
  intro h
  have hlist := congrArg String.toList h
  simp [name, List.replicate_succ] at hlist

/-- An observer is attached and at rest, and so many renewals have been served. -/
structure Renewed (n : Nat) (s : RuntimeHost) : Prop where
  conn : ∃ c client, Waiting s 0 c ∧ c.opened = true ∧ c.client = some client ∧ client.controller = false
  valid : ∀ id, s.invalidHello 0 (watcher id) = false
  seen : s.seenHello = "b" :: (List.range n).map name

theorem Renewed.fresh {n : Nat} {s : RuntimeHost} (h : Renewed n s) : Fresh s 0 (watcher (name n)) := by
  refine ⟨h.valid _, name_ne_empty n, ?_⟩
  rw [h.seen]
  intro hmem
  rcases List.mem_cons.mp hmem with hb | hold
  · exact name_ne n hb
  · obtain ⟨k, hk, hname⟩ := List.mem_map.mp hold
    rw [name_injective hname] at hk
    exact Nat.lt_irrefl n (List.mem_range.mp hk)

theorem renewed_succ {n : Nat} {s : RuntimeHost} (h : Renewed n s) (hn : n < 4095) :
    Renewed (n + 1) (Trace.run RuntimeHost.step s
      (.request 0 0 false (.hello (watcher (name n))) :: List.replicate 6 (.advance 0 0 none))) := by
  obtain ⟨c, client, hw, hopened, hclient, hmode⟩ := h.conn
  have hroom : s.seenHello.length < maxSeenCredentials := by
    rw [h.seen, List.length_cons, List.length_map, List.length_range]
    unfold maxSeenCredentials
    omega
  have hserved := Admission.serve_recorded hw h.fresh hroom 3
  have hcontrol : some client.controller = some (watcher (name n)).wantControl := by
    rw [hmode]
    change some false = some (watcher "b").wantControl
    decide
  rw [hclient, Option.map_some, hcontrol] at hserved
  change Renewed (n + 1) (serve s 0 0 (.hello (watcher (name n))) (3 + 3))
  rw [hserved, Admission.advances_renewal (by exact hw.conn) hopened]
  refine ⟨⟨_, _, ⟨RuntimeHost.getElem?_setConn hw.conn, hw.serving, rfl⟩, hopened, rfl, hmode⟩, h.valid, ?_⟩
  rw [List.range_succ, List.map_append, ← List.cons_append, ← h.seen]
  rfl

theorem renewed_run {n : Nat} (hn : n ≤ 4095) : Renewed n (Trace.run RuntimeHost.step start (renewals n)) := by
  induction n with
  | zero =>
    refine ⟨⟨⟨true, true, some ⟨false, [], 0, ["observe"], 1000⟩, .idle, .idle, [.helloAck 1 1 0 0 false]⟩, _,
      ⟨by decide +kernel, rfl, rfl⟩, rfl, rfl, rfl⟩, fun id => ?_, by decide +kernel⟩
    have hvalid : start.invalidHello 0 (watcher id) = false := by
      have hsame : start.invalidHello 0 (watcher id) = start.invalidHello 0 (watcher "b") := rfl
      rw [hsame]
      decide +kernel
    have hkept : (Trace.run RuntimeHost.step start (renewals 0)).wiped = start.wiped ∧
        (Trace.run RuntimeHost.step start (renewals 0)).enrollment = start.enrollment ∧
        (Trace.run RuntimeHost.step start (renewals 0)).secret = start.secret := by
      decide +kernel
    unfold RuntimeHost.invalidHello at hvalid ⊢
    rw [hkept.1, hkept.2.1, hkept.2.2]
    exact hvalid
  | succ n ih =>
    unfold renewals
    rw [Trace.run_append]
    exact renewed_succ (ih (Nat.le_of_succ_le hn)) hn

end Sample

theorem table_of_hellos_full : ¬ ∀ enrollment ringBytes secret events,
    Admits True True (Trace.run RuntimeHost.step (.initial enrollment ringBytes secret) events) := by
  intro h
  have hadmits := h ⟨"session", "runtime", "authority", 1⟩ 4 [7] (Sample.renewals 4095)
  have hrenewed := Sample.renewed_run (n := 4095) le_rfl
  obtain ⟨c, client, hw, hopened, hclient, hmode⟩ := hrenewed.conn
  have hfull : maxSeenCredentials ≤ (Trace.run RuntimeHost.step Sample.start (Sample.renewals 4095)).seenHello.length := by
    rw [hrenewed.seen, List.length_cons, List.length_map, List.length_range]
    exact le_rfl
  obtain ⟨hack, -⟩ := (hadmits.renewal 0 c client 0 (Sample.watcher (Sample.name 4095)) hw hclient hmode
    hrenewed.fresh).mpr trivial
  exact Admission.not_acknowledged hw hrenewed.fresh.valid hfull 2 hack

end Wardroom.Runtime.Host
