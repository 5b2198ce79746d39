import Mathlib
import Wardroom.Library.Lists
import Wardroom.Runtime.Host.Registry

/-! # The slots of the runtime host

There is one slot for a controller and there are some for observers, and a HELLO
is a ticket that is taken once.
-/

namespace Wardroom.Runtime.Host
open Wardroom.Library

def ClientLink.mode (l : ClientLink) : Option Bool := l.client.map RegisteredClient.controller

/-- What holds of the clients at any moment. -/
structure Exclusive (s : Registry) : Prop where
  controllers : (s.links.filter fun l => l.mode = some true).length ≤ 1
  observers : (s.links.filter fun l => l.mode = some false).length ≤ observerCap
  admitted : ∀ a ∈ s.admitted, a.controller = some a.link ∧
    ∃ client, a.client = some client ∧ client.controller = true ∧ a.checkedAt < client.expiresAt
  once : s.accepted.Nodup

def ClientWriter.bytes : ClientWriter → Nat
  | .writing chunk => totalSize chunk
  | .settling bytes _ => bytes
  | _ => 0

/-- The bytes that are queued for a client, and those that its writer has in hand. -/
def RegisteredClient.held (c : RegisteredClient) : Nat := totalSize c.queue + c.writer.bytes

def Capped (s : Registry) : Prop := ∀ l ∈ s.links, ∀ c ∈ l.client.toList ++ l.former, c.held ≤ queueCap

/-- What the writer of a former client has written is settled while nobody else is registered. -/
def OwnAccount (s : Registry) : Registry.RegistryEvent → Prop
  | .turn i (some k) _ => ∀ l ∈ s.links[i]?, ∀ c ∈ l.former[k]?, ∀ bytes, c.writer = .settling bytes true → l.client = none
  | _ => True

structure Slots (controller : Option Nat) (modes : List (Option Bool)) : Prop where
  holder : ∀ i, controller = some i ↔ modes[i]? = some (some true)
  observers : modes.count (some false) ≤ observerCap

namespace Slots
variable {controller : Option Nat} {modes modes' : List (Option Bool)} {i : Nat}

theorem accept (h : Slots controller modes) : Slots controller (modes ++ [none]) := by
  refine ⟨fun i => ?_, by simpa using h.observers⟩
  rw [h.holder i, List.getElem?_append]
  split_ifs with hlt
  · rfl
  · rw [List.getElem?_eq_none (by omega)]
    simp [List.getElem?_singleton]

theorem vacate (h : Slots controller modes) (leaves : Nat → Bool)
    (hget : ∀ i, modes'[i]? = (modes[i]?).map fun m => if leaves i then none else m) :
    Slots (controller.filter fun i => !leaves i) modes' := by
  constructor
  · intro i
    rw [hget i, Option.filter_eq_some_iff, h.holder i]
    cases hi : modes[i]? with
    | none => simp
    | some m => cases hleaves : leaves i <;> simp
  · refine (count_le_of_getElem? fun i hi => ?_).trans h.observers
    rw [hget i] at hi
    cases hm : modes[i]? with
    | none => simp [hm] at hi
    | some m => cases hleaves : leaves i <;> simp_all

theorem vacate_one (h : Slots controller modes) (i : Nat) :
    Slots (if controller = some i then none else controller) (modes.set i none) := by
  have hleft := @vacate _ _ (modes.set i none) h (fun j => j = i) fun j => by
    rw [List.getElem?_set]
    by_cases hij : i = j
    · subst hij
      by_cases hlt : i < modes.length
      · simp [hlt]
      · simp [hlt]
    · simp [hij, Ne.symm hij]
  have hcontroller : (controller.filter fun j => !decide (j = i)) = if controller = some i then none else controller := by
    cases controller with
    | none => simp
    | some j => by_cases hji : j = i <;> simp [hji, Option.filter]
  rwa [hcontroller] at hleft

theorem control (h : Slots none modes) (hi : modes[i]? = some none) : Slots (some i) (modes.set i (some true)) := by
  obtain ⟨hlt, hnone⟩ := List.getElem?_eq_some_iff.mp hi
  constructor
  · intro j
    rw [List.getElem?_set]
    by_cases hij : i = j
    · simp [← hij, hlt]
    · have hold := h.holder j
      simp only [reduceCtorEq, false_iff] at hold
      simp [hij, hold]
  · rw [List.count_set hlt, hnone]
    simpa using h.observers

theorem observe (h : Slots controller modes) (hi : modes[i]? = some none) (hroom : modes.count (some false) < observerCap) :
    Slots controller (modes.set i (some false)) := by
  obtain ⟨hlt, hnone⟩ := List.getElem?_eq_some_iff.mp hi
  constructor
  · intro j
    rw [h.holder j, List.getElem?_set]
    by_cases hij : i = j
    · simp [← hij, hlt, hnone]
    · simp [hij]
  · rw [List.count_set hlt, hnone]
    simpa using hroom

theorem one_controller (h : Slots controller modes) : (modes.filter fun m => m = some true).length ≤ 1 := by
  apply length_filter_le_one
  intro i j a b hi hj ha hb
  rw [decide_eq_true_eq] at ha hb
  subst ha hb
  have hsame := ((h.holder i).mpr hi).symm.trans ((h.holder j).mpr hj)
  exact Option.some.inj hsame

end Slots

/-- The handlers' `pending` tickets have been seen, and none has been accepted. -/
structure Tickets (seen accepted : List String) (pending : List (Option String)) : Prop where
  once : accepted.Nodup
  known : ∀ id ∈ accepted, id ∈ seen
  taken : ∀ (i : Nat) (id : String), pending[i]? = some (some id) → id ∈ seen ∧ id ∉ accepted
  apart : ∀ (i j : Nat) (id : String), pending[i]? = some (some id) → pending[j]? = some (some id) → i = j

namespace Tickets
variable {seen accepted : List String} {pending pending' : List (Option String)} {i : Nat} {id : String}

theorem mono (h : Tickets seen accepted pending)
    (hsub : ∀ (i : Nat) (id : String), pending'[i]? = some (some id) → pending[i]? = some (some id)) : Tickets seen accepted pending' :=
  ⟨h.once, h.known, fun i id hi => h.taken i id (hsub i id hi),
    fun i j id hi hj => h.apart i j id (hsub i id hi) (hsub j id hj)⟩

theorem set_none (h : Tickets seen accepted pending) (i : Nat) : Tickets seen accepted (pending.set i none) := by
  apply h.mono
  intro j id hj
  rw [List.getElem?_set] at hj
  split_ifs at hj
  · simp at hj
  · exact hj

theorem take (h : Tickets seen accepted pending) (hnew : id ∉ seen) :
    Tickets (seen ++ [id]) accepted (pending.set i (some id)) := by
  have hcases {j : Nat} {other : String} (hj : (pending.set i (some id))[j]? = some (some other)) :
      j = i ∧ other = id ∨ pending[j]? = some (some other) := by
    rw [List.getElem?_set] at hj
    split_ifs at hj with hij hlt
    · simp only [Option.some.injEq] at hj
      exact .inl ⟨hij.symm, hj.symm⟩
    · exact .inr hj
  refine ⟨h.once, fun other hother => List.mem_append_left _ (h.known other hother), fun j other hj => ?_,
    fun j l other hj hl => ?_⟩
  · rcases hcases hj with ⟨-, rfl⟩ | hold
    · exact ⟨by simp, fun hmem => hnew (h.known other hmem)⟩
    · exact ⟨List.mem_append_left _ (h.taken j other hold).1, (h.taken j other hold).2⟩
  · rcases hcases hj with ⟨hji, rfl⟩ | hold <;> rcases hcases hl with ⟨hli, heq⟩ | hold'
    · omega
    · exact absurd (h.taken l other hold').1 hnew
    · exact absurd (h.taken j other hold).1 (heq ▸ hnew)
    · exact h.apart j l other hold hold'

theorem accept (h : Tickets seen accepted pending) (hi : pending[i]? = some (some id)) :
    Tickets seen (accepted ++ [id]) (pending.set i none) := by
  obtain ⟨hseen, hfresh⟩ := h.taken i id hi
  refine ⟨?_, fun other hother => ?_, fun j other hj => ?_, ?_⟩
  · refine List.Nodup.append h.once (List.nodup_singleton id) ?_
    simpa using hfresh
  · rcases List.mem_append.mp hother with hold | hnew
    · exact h.known other hold
    · rwa [List.mem_singleton.mp hnew]
  · rw [List.getElem?_set] at hj
    split_ifs at hj with hij
    · simp at hj
    · refine ⟨(h.taken j other hj).1, fun hmem => ?_⟩
      rcases List.mem_append.mp hmem with hold | hnew
      · exact (h.taken j other hj).2 hold
      · rw [List.mem_singleton.mp hnew] at hj
        exact hij (h.apart i j id hi hj)
  · exact (h.set_none i).apart

end Tickets

/-- The handler goes on to register a client, where none was registered. -/
def HandlerPhase.claims : HandlerPhase → Bool
  | .verified _ renewing => renewing.isNone
  | .unseen _ renewing _ => renewing.isNone
  | .recorded _ renewing _ => renewing.isNone
  | .claiming _ => true
  | _ => false

def HandlerPhase.checkedAt : HandlerPhase → Option Int
  | .checked now _ _ => some now
  | _ => none

def HandlerPhase.ticket : HandlerPhase → Option String
  | .recorded h _ _ => some h.id
  | .claiming h => some h.id
  | _ => none

def RegisteredClient.grant (c : RegisteredClient) : Bool × Int := (c.controller, c.expiresAt)

structure ClientLink.Sound (l : ClientLink) : Prop where
  vacant : l.handler.claims = true → l.client = none
  checked : ∀ now ∈ l.handler.checkedAt, ∀ c ∈ l.client, now < c.expiresAt

namespace ClientLink
variable {l l' : ClientLink}

theorem mode_of_grant (h : l'.client.map RegisteredClient.grant = l.client.map RegisteredClient.grant) :
    l'.mode = l.mode := by
  have hmode (m : ClientLink) : m.mode = (m.client.map RegisteredClient.grant).map Prod.fst := by
    rw [Option.map_map]
    rfl
  rw [hmode, hmode, h]

theorem sound_of_none (hclient : l.client = none) : l.Sound := by
  constructor
  · exact fun _ => hclient
  · intro now _ c hc
    rw [hclient] at hc
    cases hc

theorem Sound.same (h : l.Sound) (hhandler : l'.handler = l.handler)
    (hgrant : l'.client.map RegisteredClient.grant = l.client.map RegisteredClient.grant) : l'.Sound := by
  constructor
  · intro hclaims
    rw [hhandler] at hclaims
    rw [h.vacant hclaims] at hgrant
    simpa using hgrant
  · intro now hnow c hc
    rw [hhandler] at hnow
    rw [hc, Option.map_some] at hgrant
    obtain ⟨d, hd, hsame⟩ := Option.map_eq_some_iff.mp hgrant.symm
    have hexpiry : d.expiresAt = c.expiresAt := congrArg Prod.snd hsame
    rw [← hexpiry]
    exact h.checked now hnow d hd

theorem sound_of_plain (hclaims : l.handler.claims = false) (hchecked : l.handler.checkedAt = none) : l.Sound := by
  constructor
  · intro h
    rw [hclaims] at h
    cases h
  · intro now hnow
    rw [hchecked] at hnow
    cases hnow

end ClientLink

structure Registry.Kept (s : Registry) : Prop where
  slots : Slots s.controller (s.links.map ClientLink.mode)
  tickets : Tickets s.seenHello s.accepted (s.links.map fun l => l.handler.ticket)
  links : ∀ l ∈ s.links, l.Sound
  admitted : ∀ a ∈ s.admitted, a.controller = some a.link ∧
    ∃ client, a.client = some client ∧ client.controller = true ∧ a.checkedAt < client.expiresAt

theorem Registry.Kept.exclusive {s : Registry} (h : s.Kept) : Exclusive s := by
  refine ⟨?_, ?_, h.admitted, h.tickets.once⟩
  · have hone := h.slots.one_controller
    rwa [List.filter_map, List.length_map] at hone
  · have hobservers := h.slots.observers
    rw [List.count_eq_countP, List.countP_map, List.countP_eq_length_filter] at hobservers
    convert hobservers using 3
    ext l
    exact (beq_eq_decide _ _).symm

namespace Registry.Kept
variable {s s' : Registry} {i : Nat} {l l' : ClientLink}

theorem tickets_set (h : s.Kept) (hl : s.links[i]? = some l)
    (hticket : l'.handler.ticket = none ∨ l'.handler.ticket = l.handler.ticket) :
    Tickets s.seenHello s.accepted ((s.links.set i l').map fun l => l.handler.ticket) := by
  rcases hticket with hnone | hsame
  · rw [List.map_set, hnone]
    exact h.tickets.set_none i
  · rw [map_set_of_eq hl hsame]
    exact h.tickets

theorem links_set (h : s.Kept) (i : Nat) (hsound : l'.Sound) : ∀ m ∈ s.links.set i l', m.Sound := by
  intro m hm
  rcases List.mem_or_eq_of_mem_set hm with hold | rfl
  · exact h.links m hold
  · exact hsound

theorem setLink (h : s.Kept) (hl : s.links[i]? = some l) (hmode : l'.mode = l.mode)
    (hticket : l'.handler.ticket = none ∨ l'.handler.ticket = l.handler.ticket) (hsound : l'.Sound) :
    (s.setLink i l').Kept := by
  refine ⟨?_, h.tickets_set hl hticket, h.links_set i hsound, h.admitted⟩
  have hmodes : (s.links.set i l').map ClientLink.mode = s.links.map ClientLink.mode := map_set_of_eq hl hmode
  change Slots s.controller ((s.links.set i l').map ClientLink.mode)
  rw [hmodes]
  exact h.slots

/-- The handler goes on to a phase of its own. -/
theorem plain (h : s.Kept) (hl : s.links[i]? = some l) {p : HandlerPhase} (hclaims : p.claims = false)
    (hchecked : p.checkedAt = none) (hticket : p.ticket = none) : (s.setLink i { l with handler := p }).Kept :=
  h.setLink hl rfl (.inl hticket) (ClientLink.sound_of_plain hclaims hchecked)

theorem reject (h : s.Kept) (hl : s.links[i]? = some l) (code : Nat) (message : String) :
    (s.reject i l code message).Kept := h.plain hl rfl rfl rfl

/-- A client is deleted, and lets go of the control. -/
theorem release (h : s.Kept) (hl : s.links[i]? = some l) (hclient : l'.client = none)
    (hticket : l'.handler.ticket = none ∨ l'.handler.ticket = l.handler.ticket) :
    ((s.releaseControl i).setLink i l').Kept := by
  refine ⟨?_, h.tickets_set hl hticket, h.links_set i (ClientLink.sound_of_none hclient), h.admitted⟩
  have hmode : l'.mode = none := by
    rw [ClientLink.mode, hclient]
    rfl
  change Slots (if s.controller = some i then none else s.controller) ((s.links.set i l').map ClientLink.mode)
  rw [List.map_set, hmode]
  exact h.slots.vacate_one i

theorem finish (h : s.Kept) (hl : s.links[i]? = some l) : (s.finish i l).Kept := h.release hl rfl (.inl rfl)

theorem answer (h : s.Kept) (hl : s.links[i]? = some l) (messages : List HostMessage) (close ok : Bool) :
    (s.answer i l messages close ok).Kept := by
  cases messages with
  | nil =>
    simp only [Registry.answer]
    split_ifs
    · exact h.finish hl
    · exact h.plain hl rfl rfl rfl
  | cons m rest =>
    simp only [Registry.answer]
    split_ifs <;> exact h.plain hl rfl rfl rfl

theorem verifyHello (h : s.Kept) (hl : s.links[i]? = some l) (now : Int) (hello : HelloEnvelope) :
    (s.verifyHello i l now hello).Kept := by
  unfold Registry.verifyHello
  split_ifs
  · exact h.reject hl _ _
  · refine h.setLink hl rfl (.inl rfl) ⟨fun hclaims => ?_, fun now hnow => ?_⟩
    · simpa [HandlerPhase.claims] using hclaims
    · cases hnow

variable {hello : HelloEnvelope} {renewing : Option Bool}

theorem lookUpHello (h : s.Kept) (hl : s.links[i]? = some l)
    (hhandler : l.handler = .verified hello renewing) : (s.lookUpHello i l hello renewing).Kept := by
  have hvacant := (h.links l (List.mem_of_getElem? hl)).vacant
  rw [hhandler] at hvacant
  unfold Registry.lookUpHello
  split_ifs
  · exact h.reject hl _ _
  · exact h.setLink hl rfl (.inl rfl) ⟨hvacant, fun now hnow => nomatch hnow⟩

theorem recordHello (h : s.Kept) (hl : s.links[i]? = some l)
    {busy : Bool} (hhandler : l.handler = .unseen hello renewing busy) : (s.recordHello i l hello renewing busy).Kept := by
  have hvacant := (h.links l (List.mem_of_getElem? hl)).vacant
  rw [hhandler] at hvacant
  unfold Registry.recordHello
  split_ifs with hseen
  · exact h.reject hl _ _
  · have hsound : ClientLink.Sound { l with handler := .recorded hello renewing busy } :=
      ⟨hvacant, fun now hnow => nomatch hnow⟩
    refine ⟨?_, ?_, h.links_set i hsound, h.admitted⟩
    · have hmodes : (s.links.set i { l with handler := .recorded hello renewing busy }).map ClientLink.mode =
          s.links.map ClientLink.mode := map_set_of_eq hl rfl
      change Slots s.controller ((s.links.set i { l with handler := .recorded hello renewing busy }).map ClientLink.mode)
      rw [hmodes]
      exact h.slots
    · change Tickets (s.seenHello ++ [hello.id]) s.accepted ((s.links.set i _).map fun l => l.handler.ticket)
      rw [List.map_set]
      exact h.tickets.take fun hmem => hseen (.inl hmem)

theorem tickets_accept (h : s.Kept) (hl : s.links[i]? = some l) {id : String} (hticket : l.handler.ticket = some id)
    (hdone : l'.handler.ticket = none) :
    Tickets s.seenHello (s.accepted ++ [id]) ((s.links.set i l').map fun l => l.handler.ticket) := by
  rw [List.map_set, hdone]
  apply h.tickets.accept
  rw [List.getElem?_map, hl, Option.map_some, hticket]

theorem renew (h : s.Kept) (hl : s.links[i]? = some l) {busy : Bool}
    (hhandler : l.handler = .recorded hello renewing busy) : (s.renew i l hello).Kept := by
  have hticket : l.handler.ticket = some hello.id := by rw [hhandler]; rfl
  refine ⟨?_, h.tickets_accept hl hticket rfl, h.links_set i (ClientLink.sound_of_plain rfl rfl), h.admitted⟩
  have hmode : ClientLink.mode { l with
      client := l.client.map fun client => { client with expiresAt := hello.expiry, actions := hello.actions }
      handler := .answering [s.helloAck s.ring.total s.ring.total false] false } = l.mode := by
    simp only [ClientLink.mode, Option.map_map]
    rfl
  change Slots s.controller ((s.links.set i _).map ClientLink.mode)
  rw [map_set_of_eq hl hmode]
  exact h.slots

theorem proceedHello (h : s.Kept) (hl : s.links[i]? = some l)
    {busy : Bool} (hhandler : l.handler = .recorded hello renewing busy) :
    (s.proceedHello i l hello renewing busy).Kept := by
  have hvacant := (h.links l (List.mem_of_getElem? hl)).vacant
  rw [hhandler] at hvacant
  cases renewing with
  | some controller =>
    simp only [Registry.proceedHello]
    split_ifs
    · exact h.reject hl _ _
    · exact h.reject hl _ _
    · exact h.renew hl hhandler
  | none =>
    simp only [Registry.proceedHello]
    split_ifs
    · exact h.reject hl _ _
    · exact h.reject hl _ _
    · exact h.reject hl _ _
    · refine h.setLink hl rfl (.inr ?_) ⟨fun _ => hvacant rfl, fun now hnow => nomatch hnow⟩
      rw [hhandler]
      rfl

theorem observerCount_eq (s : Registry) : s.observerCount = (s.links.map ClientLink.mode).count (some false) := by
  rw [Registry.observerCount, List.count_eq_countP, List.countP_map]
  apply List.countP_congr
  intro l _
  cases hclient : l.client with
  | none => simp [ClientLink.mode, hclient]
  | some client => cases hmode : client.controller <;> simp [ClientLink.mode, hclient, hmode]

theorem claim (h : s.Kept) (hl : s.links[i]? = some l)
    (hhandler : l.handler = .claiming hello) : (s.claim i l hello).Kept := by
  have hnone : l.client = none := by
    apply (h.links l (List.mem_of_getElem? hl)).vacant
    rw [hhandler]
    rfl
  have hmode : (s.links.map ClientLink.mode)[i]? = some none := by
    rw [List.getElem?_map, hl, Option.map_some, ClientLink.mode, hnone]
    rfl
  have hgreeting : (s.greeting hello.cursor).claims = false ∧ (s.greeting hello.cursor).checkedAt = none ∧
      (s.greeting hello.cursor).ticket = none := by
    unfold Registry.greeting
    split <;> exact ⟨rfl, rfl, rfl⟩
  have hticket : l.handler.ticket = some hello.id := by rw [hhandler]; rfl
  unfold Registry.claim
  split_ifs with hbusy hfull hcontrol
  · exact h.reject hl _ _
  · exact h.reject hl _ _
  · refine ⟨?_, h.tickets_accept hl hticket hgreeting.2.2,
      h.links_set i (ClientLink.sound_of_plain hgreeting.1 hgreeting.2.1), h.admitted⟩
    change Slots (some i) ((s.links.set i _).map ClientLink.mode)
    have hfree : s.controller = none := by simpa [hcontrol] using hbusy
    have hslots := h.slots
    rw [hfree] at hslots
    rw [List.map_set]
    simpa [ClientLink.mode, hcontrol] using hslots.control hmode
  · refine ⟨?_, h.tickets_accept hl hticket hgreeting.2.2,
      h.links_set i (ClientLink.sound_of_plain hgreeting.1 hgreeting.2.1), h.admitted⟩
    change Slots s.controller ((s.links.set i _).map ClientLink.mode)
    have hroom : (s.links.map ClientLink.mode).count (some false) < observerCap := by
      rw [← observerCount_eq]
      simpa [hcontrol] using hfull
    rw [List.map_set]
    simpa [ClientLink.mode, hcontrol] using h.slots.observe hmode hroom

theorem admitFrame (h : s.Kept) (hl : s.links[i]? = some l) {now : Int} {actions : List String} {frame : ClientFrame}
    (hhandler : l.handler = .checked now actions frame) (hcontrol : s.controller = some i) (frame' : ClientFrame) :
    (s.admitFrame i l now frame').Kept := by
  have hidle := h.plain hl (p := .idle) rfl rfl rfl
  refine ⟨hidle.slots, hidle.tickets, hidle.links, fun a ha => ?_⟩
  rcases List.mem_append.mp ha with hold | hnew
  · exact h.admitted a hold
  · rw [List.mem_singleton.mp hnew]
    have hmode := (h.slots.holder i).mp hcontrol
    rw [List.getElem?_map, hl, Option.map_some, ClientLink.mode, Option.some.injEq, Option.map_eq_some_iff] at hmode
    obtain ⟨client, hclient, hmode⟩ := hmode
    have hchecked := (h.links l (List.mem_of_getElem? hl)).checked
    rw [hhandler] at hchecked
    exact ⟨hcontrol, client, hclient, hmode, hchecked now rfl client hclient⟩

theorem handleFrame (h : s.Kept) (hl : s.links[i]? = some l) {now : Int} {actions : List String} {frame : ClientFrame}
    (hhandler : l.handler = .checked now actions frame) (ok : Bool) : (s.handleFrame i l now actions ok frame).Kept := by
  cases frame with
  | input bytes =>
    by_cases hcontrol : s.controller = some i
    · simp only [Registry.handleFrame]
      split_ifs <;> first | exact h.reject hl _ _ | exact h.admitFrame hl hhandler hcontrol _
    · simp only [Registry.handleFrame, ne_eq, hcontrol, not_false_eq_true, if_true]
      split_ifs <;> exact h.reject hl _ _
  | resize columns rows =>
    by_cases hcontrol : s.controller = some i
    · simp only [Registry.handleFrame]
      split_ifs <;> first | exact h.reject hl _ _ | exact h.admitFrame hl hhandler hcontrol _
    · simp only [Registry.handleFrame, ne_eq, hcontrol, not_false_eq_true, if_true]
      split_ifs <;> exact h.reject hl _ _
  | wipe =>
    have hwiped : Registry.Kept { s with secret := [], wiped := true } := ⟨h.slots, h.tickets, h.links, h.admitted⟩
    exact hwiped.plain hl rfl rfl rfl
  | _ => exact h.plain hl rfl rfl rfl

theorem handle (h : s.Kept) (hl : s.links[i]? = some l) (now : Int) (frame : ClientFrame) :
    (s.handle i l now frame).Kept := by
  unfold Registry.handle
  split
  · exact h.plain hl rfl rfl rfl
  · cases hclient : l.client with
    | none => exact h.reject hl _ _
    | some client =>
      dsimp only
      split_ifs with hexpired
      · exact h.reject hl _ _
      · refine h.setLink hl (by simp [ClientLink.mode, hclient]) (.inl rfl) ⟨?_, ?_⟩
        · intro hclaims
          cases hclaims
        · intro checkedAt hchecked c hc
          cases hchecked
          cases hc
          omega

theorem advance (h : s.Kept) (hl : s.links[i]? = some l) (now : Int) (ok : Bool) : (s.advance i l now ok).Kept := by
  unfold Registry.advance
  cases hhandler : l.handler with
  | idle => exact h
  | greeted hello => exact h.verifyHello hl now hello
  | verified hello renewing => exact h.lookUpHello hl hhandler
  | unseen hello renewing busy => exact h.recordHello hl hhandler
  | recorded hello renewing busy => exact h.proceedHello hl hhandler
  | claiming hello => exact h.claim hl hhandler
  | checked checkedAt actions frame => exact h.handleFrame hl hhandler ok
  | answering messages close => exact h.answer hl messages close ok

theorem enqueueAll (h : s.Kept) (message : HostMessage) : (s.enqueueAll message).Kept := by
  have hsame (l : ClientLink) : (Registry.enqueue message l).handler = l.handler ∧
      (Registry.enqueue message l).client.map RegisteredClient.grant =
        if l.client.any (Registry.lags message) then none else l.client.map RegisteredClient.grant := by
    unfold Registry.enqueue
    cases hclient : l.client with
    | none => simp [hclient]
    | some client => cases hlags : Registry.lags message client <;> simp [hlags, ClientLink.drop, RegisteredClient.grant]
  refine ⟨?_, ?_, fun m hm => ?_, h.admitted⟩
  · apply h.slots.vacate fun i => s.links[i]?.any fun l => l.client.any (Registry.lags message)
    intro i
    change ((s.links.map (Registry.enqueue message)).map ClientLink.mode)[i]? = _
    simp only [List.getElem?_map]
    cases hl : s.links[i]? with
    | none => rfl
    | some l =>
      have hmode (m : ClientLink) : m.mode = (m.client.map RegisteredClient.grant).map Prod.fst := by
        rw [Option.map_map]
        rfl
      simp only [Option.map_some, Option.any_some, hmode, (hsame l).2]
      split_ifs <;> rfl
  · change Tickets s.seenHello s.accepted ((s.links.map (Registry.enqueue message)).map fun l => l.handler.ticket)
    rw [List.map_map]
    have hticket : (fun l : ClientLink => l.handler.ticket) ∘ Registry.enqueue message = fun l => l.handler.ticket := by
      funext l
      exact congrArg HandlerPhase.ticket (hsame l).1
    rw [hticket]
    exact h.tickets
  · obtain ⟨l, hl, rfl⟩ := List.mem_map.mp hm
    obtain ⟨hhandler, hgrant⟩ := hsame l
    split_ifs at hgrant with hlags
    · exact ClientLink.sound_of_none (Option.map_eq_none_iff.mp hgrant)
    · exact (h.links l hl).same hhandler hgrant

theorem enqueue_all (h : s.Kept) (messages : List HostMessage) : (messages.foldl Registry.enqueueAll s).Kept := by
  induction messages generalizing s with
  | nil => exact h
  | cons m messages ih => exact ih (h.enqueueAll m)

theorem put_same {who : Option Nat} {c c' : RegisteredClient} (hfind : Registry.find l who = some c)
    (hgrant : c'.grant = c.grant) : (Registry.put l c' who).handler = l.handler ∧
      (Registry.put l c' who).client.map RegisteredClient.grant = l.client.map RegisteredClient.grant := by
  cases who with
  | none =>
    have hclient : l.client = some c := hfind
    simp [Registry.put, hclient, hgrant]
  | some k => exact ⟨rfl, rfl⟩

theorem same (h : s.Kept) (hl : s.links[i]? = some l) (hhandler : l'.handler = l.handler)
    (hgrant : l'.client.map RegisteredClient.grant = l.client.map RegisteredClient.grant) : (s.setLink i l').Kept :=
  h.setLink hl (ClientLink.mode_of_grant hgrant) (.inr (congrArg HandlerPhase.ticket hhandler))
    ((h.links l (List.mem_of_getElem? hl)).same hhandler hgrant)

theorem turn (h : s.Kept) (hl : s.links[i]? = some l) {who : Option Nat} {c : RegisteredClient}
    (hfind : Registry.find l who = some c) (ok : Bool) : (s.turn i l who c ok).Kept := by
  have hsame {c' : RegisteredClient} (hgrant : c'.grant = c.grant) : (s.setLink i (Registry.put l c' who)).Kept :=
    h.same hl (put_same hfind hgrant).1 (put_same hfind hgrant).2
  unfold Registry.turn
  cases hwriter : c.writer with
  | waiting =>
    dsimp only
    split_ifs
    · exact hsame (by rfl)
    · exact h
  | looking =>
    dsimp only
    split_ifs
    · exact hsame (by rfl)
    · exact hsame (by rfl)
  | writing chunk => exact hsame (by rfl)
  | settling bytes written =>
    cases written with
    | true =>
      obtain ⟨hhandler, hgrant⟩ := @put_same l who c { c with writer := .looking } hfind rfl
      refine h.same hl hhandler (Eq.trans ?_ hgrant)
      simp only [Option.map_map]
      rfl
    | false =>
      obtain ⟨hhandler, hgrant⟩ := @put_same l who c { c with writer := .stopped } hfind rfl
      dsimp only
      split_ifs with hsome
      · exact h.release hl rfl (.inr (congrArg HandlerPhase.ticket hhandler))
      · have hnone : (Registry.put l { c with writer := .stopped } who).client = none := by simpa using hsome
        refine h.same hl hhandler (Eq.trans ?_ hgrant)
        rw [hnone]
        rfl
  | stopped => exact h

theorem shutDown (h : s.Kept) : (s.step .shutDown).Kept := by
  refine ⟨?_, ?_, fun m hm => ?_, h.admitted⟩
  · have hall := @Slots.vacate _ _ ((s.step .shutDown).links.map ClientLink.mode) h.slots (fun _ => true) fun i => by
      simp only [Registry.step, List.getElem?_map]
      cases s.links[i]? <;> rfl
    have hnone : (s.controller.filter fun _ => !true) = none := by cases s.controller <;> rfl
    rwa [hnone] at hall
  · change Tickets s.seenHello s.accepted ((s.links.map _).map _)
    rw [List.map_map]
    exact h.tickets
  · obtain ⟨l, -, rfl⟩ := List.mem_map.mp hm
    exact ClientLink.sound_of_none rfl

theorem step (h : s.Kept) (e : Registry.RegistryEvent) : (s.step e).Kept := by
  have onLink {i : Nat} {f : ClientLink → Registry} (hf : ∀ l, s.links[i]? = some l → (f l).Kept) :
      (s.onLink i f).Kept := by
    unfold Registry.onLink
    cases hl : s.links[i]? with
    | none => exact h
    | some l => exact hf l hl
  cases e with
  | accept =>
    refine ⟨?_, ?_, fun m hm => ?_, h.admitted⟩
    · change Slots s.controller ((s.links ++ [_]).map ClientLink.mode)
      rw [List.map_append]
      exact h.slots.accept
    · change Tickets s.seenHello s.accepted ((s.links ++ [_]).map fun l : ClientLink => l.handler.ticket)
      rw [List.map_append]
      apply h.tickets.mono
      intro j id hj
      rw [List.getElem?_append] at hj
      split_ifs at hj
      · exact hj
      · simp [List.getElem?_singleton, HandlerPhase.ticket] at hj
    · rcases List.mem_append.mp hm with hold | hnew
      · exact h.links m hold
      · rw [List.mem_singleton.mp hnew]
        exact ClientLink.sound_of_none rfl
  | request i now frame =>
    refine onLink fun l hl => ?_
    split_ifs
    · exact h.handle hl now frame
    · exact h
  | advance i now ok => exact onLink fun l hl => h.advance hl now ok
  | hangUp i =>
    refine onLink fun l hl => ?_
    split_ifs
    · exact h.finish hl
    · exact h
  | malformed i code =>
    refine onLink fun l hl => ?_
    split_ifs
    · exact h.reject hl _ _
    · exact h
  | produce data =>
    have hproduced : Registry.Kept { s with ring := s.ring.append data } := ⟨h.slots, h.tickets, h.links, h.admitted⟩
    rw [Registry.step]
    split_ifs
    · exact h
    · exact hproduced.enqueue_all _
  | exit code =>
    have hexited : Registry.Kept { s with exited := some code } := ⟨h.slots, h.tickets, h.links, h.admitted⟩
    rw [Registry.step]
    split_ifs
    · exact h
    · exact hexited.enqueueAll _
  | turn i who ok =>
    refine onLink fun l hl => ?_
    cases hfind : Registry.find l who with
    | none => exact h
    | some c => exact h.turn hl hfind ok
  | shutDown => exact h.shutDown

theorem initial (enrollment : HostEnrollment) (ringBytes : Nat) (secret : List UInt8) :
    (Registry.initial enrollment ringBytes secret).Kept where
  slots := ⟨by simp [Registry.initial], by simp [Registry.initial]⟩
  tickets := ⟨List.nodup_nil, by simp [Registry.initial], by simp [Registry.initial], by simp [Registry.initial]⟩
  links := by simp [Registry.initial]
  admitted := by simp [Registry.initial]

end Registry.Kept

end Wardroom.Runtime.Host
