import Wardroom.Federation.RelayNotices
import Wardroom.Library.Trace

/-! # The desk of the local ingress

A slot of the admission is held for the handshake of a session and then for its
peer. The slots follow what the connections tell.
-/

namespace Wardroom.Federation
open Wardroom.Library

/-- `authenticated` is the map of the peers that hold sessions; a peer without one counts zero. -/
structure RelayAdmission where
  maxPerPeer : Nat
  maxHandshaking : Nat
  authenticated : JsString → Nat
  handshaking : Nat

namespace RelayAdmission

def admitHandshake (a : RelayAdmission) : Option RelayAdmission :=
  if a.maxHandshaking ≤ a.handshaking then none else some { a with handshaking := a.handshaking + 1 }

def admitPeer (a : RelayAdmission) (peer : JsString) : Option RelayAdmission :=
  if a.maxPerPeer ≤ a.authenticated peer then none
  else some { a with authenticated := Function.update a.authenticated peer (a.authenticated peer + 1) }

def releaseHandshake (a : RelayAdmission) : RelayAdmission := { a with handshaking := a.handshaking - 1 }

def releasePeer (a : RelayAdmission) (peer : JsString) : RelayAdmission :=
  { a with authenticated := Function.update a.authenticated peer (a.authenticated peer - 1) }

end RelayAdmission

/-- What a session holds. -/
structure Slot where
  handshakeHeld : Bool
  admittedPeer : Option JsString
  /-- The server has destroyed the socket, or the socket has closed: no data comes any more. -/
  destroyed : Bool
  deriving DecidableEq

/-- What has happened to the session of a number. -/
inductive AdmissionEntry where
  | granted (i : Nat) (peer : JsString)
  | refused (i : Nat) (peer : JsString)
  | released (i : Nat) (peer : JsString)
  /-- An application frame was handled while these sessions held slots of the peer. -/
  | handled (i : Nat) (peer : JsString) (holders : List Nat)
  deriving DecidableEq

/-- The admission with the slots of all sessions, and what has happened. -/
structure Desk where
  admission : RelayAdmission
  slots : List Slot
  log : List AdmissionEntry

variable {ν ω : Type}

def holds (peer : JsString) (slot : Slot) : Bool := slot.admittedPeer = some peer

/-- `if (handshakeHeld) admission.releaseHandshake()`. -/
def Slot.leaveHandshake (slot : Slot) (a : RelayAdmission) : RelayAdmission :=
  if slot.handshakeHeld then a.releaseHandshake else a

namespace Desk

def holders (d : Desk) (peer : JsString) : List Nat :=
  (d.slots.zipIdx.filter fun entry => holds peer entry.1).map Prod.snd

def releaseSlot (d : Desk) (i : Nat) (slot : Slot) : Desk where
  admission :=
    slot.admittedPeer.elim (slot.leaveHandshake d.admission) (slot.leaveHandshake d.admission).releasePeer
  slots := d.slots.set i { slot with handshakeHeld := false, admittedPeer := none }
  log := d.log ++ slot.admittedPeer.toList.map (.released i)

def releaseAll (d : Desk) (i : Nat) : Desk := d.slots[i]?.elim d (d.releaseSlot i)

def markDestroyed (d : Desk) (i : Nat) : Desk :=
  d.slots[i]?.elim d fun slot => { d with slots := d.slots.set i { slot with destroyed := true } }

/-- A session that has authenticated is admitted, or its socket is destroyed. -/
def settle (d : Desk) (i : Nat) (slot : Slot) (peer : JsString) : Desk :=
  match d.admission.admitPeer peer with
  | none =>
    ({ d with log := d.log ++ [.refused i peer] } : Desk).releaseSlot i { slot with destroyed := true }
  | some admission =>
    { admission := slot.leaveHandshake admission
      slots := d.slots.set i { slot with handshakeHeld := false, admittedPeer := some peer }
      log := d.log ++ [.granted i peer] }

def onStatusChange (d : Desk) (i : Nat) (state : RelayConnectionState) (peerAuthorityId : Option JsString) : Desk :=
  d.slots[i]?.elim d fun slot =>
    if state = .connected ∧ peerAuthorityId.getD [] ≠ [] ∧ slot.admittedPeer = none then
      d.settle i slot (peerAuthorityId.getD [])
    else if state = .closed then d.releaseSlot i slot
    else d

def hear (i : Nat) (d : Desk) : Notice ν ω → Desk
  | .status state peerAuthorityId => d.onStatusChange i state peerAuthorityId
  | .signed _ => d
  | .agreed _ => d
  | .handled peerAuthorityId _ _ =>
    { d with log := d.log ++ [.handled i (peerAuthorityId.getD []) (d.holders (peerAuthorityId.getD []))] }

end Desk

/-- The session that it is about. -/
def AdmissionEntry.session : AdmissionEntry → Nat
  | .granted i _ => i
  | .refused i _ => i
  | .released i _ => i
  | .handled i _ _ => i

def AdmissionEntry.grants (i : Nat) : AdmissionEntry → Bool
  | .granted j _ => i = j
  | _ => false

def AdmissionEntry.releases (i : Nat) : AdmissionEntry → Bool
  | .released j _ => i = j
  | _ => false

theorem countP_set_add {α : Type} {p : α → Bool} {l : List α} {i : Nat} {a : α} (b : α) (h : l[i]? = some a) :
    (l.set i b).countP p + (if p a then 1 else 0) = l.countP p + (if p b then 1 else 0) := by
  obtain ⟨hi, rfl⟩ := List.getElem?_eq_some_iff.mp h
  have hle : (if p l[i] then 1 else 0) ≤ l.countP p := by
    split_ifs with hp
    · exact List.countP_pos_iff.mpr ⟨_, List.getElem_mem hi, hp⟩
    · exact Nat.zero_le _
  rw [List.countP_set hi]
  omega

theorem getElem?_set_cases {α : Type} {l : List α} {i j : Nat} {a x : α} (h : (l.set i a)[j]? = some x) :
    j = i ∧ x = a ∨ j ≠ i ∧ l[j]? = some x := by
  rw [List.getElem?_set] at h
  split_ifs at h with hij hlt
  · exact .inl ⟨hij.symm, (Option.some.inj h).symm⟩
  · exact .inr ⟨fun heq => hij heq.symm, h⟩

theorem length_holders (d : Desk) (peer : JsString) : (d.holders peer).length = d.slots.countP (holds peer) := by
  unfold Desk.holders
  rw [List.length_map, ← List.countP_eq_length_filter]
  conv_rhs => rw [← List.zipIdx_map_fst 0 d.slots, List.countP_map]
  rfl

variable {peer : JsString}

theorem mem_holders {d : Desk} {i : Nat} {slot : Slot} (h : d.slots[i]? = some slot)
    (hheld : slot.admittedPeer = some peer) : i ∈ d.holders peer :=
  List.mem_map.mpr ⟨(slot, i), List.mem_filter.mpr ⟨List.mk_mem_zipIdx_iff_getElem?.mpr h, decide_eq_true hheld⟩, rfl⟩

/-- What a session holds fits what its connection has told. -/
structure SlotOk (v : View) (slot : Slot) : Prop where
  admitted : ∀ peer ∈ slot.admittedPeer, v.stage = .live ∧ v.peer = some peer
  held : slot.handshakeHeld = true → v.stage = .handshaking
  live : v.stage = .live → slot.admittedPeer.isSome = true ∨ slot.destroyed = true

/-- A frame of the session has been handled. -/
def Desk.Served (d : Desk) (i : Nat) : Prop := ∃ peer holders, .handled i peer holders ∈ d.log

structure DeskOk (d : Desk) (views : Nat → View) : Prop where
  slots : ∀ i slot, d.slots[i]? = some slot → SlotOk (views i) slot
  known : ∀ entry ∈ d.log, entry.session < d.slots.length
  counted : ∀ peer, d.admission.authenticated peer = d.slots.countP (holds peer)
  bound : ∀ peer, d.admission.authenticated peer ≤ d.admission.maxPerPeer
  handshakes : d.admission.handshaking = d.slots.countP (·.handshakeHeld)
  handled : ∀ i peer holders, .handled i peer holders ∈ d.log →
    i ∈ holders ∧ holders.length ≤ d.admission.maxPerPeer
  refused : ∀ i peer, .refused i peer ∈ d.log →
    ¬d.Served i ∧ ∀ slot, d.slots[i]? = some slot → slot.destroyed = true
  served : ∀ i, d.Served i → ∀ slot, d.slots[i]? = some slot →
    slot.admittedPeer.isSome = true ∨ (views i).stage = .closed
  once : ∀ (i : Nat) (slot : Slot), d.slots[i]? = some slot → d.log.countP (AdmissionEntry.grants i) =
    d.log.countP (AdmissionEntry.releases i) + (if slot.admittedPeer.isSome then 1 else 0)

variable {d : Desk} {views : Nat → View} {i : Nat} {slot slot' : Slot}

/-- A change of one slot, with what is written down about it. -/
structure Exchange (d d' : Desk) (i : Nat) (slot slot' : Slot) (entries : List AdmissionEntry) : Prop where
  maxPerPeer : d'.admission.maxPerPeer = d.admission.maxPerPeer
  slots : d'.slots = d.slots.set i slot'
  log : d'.log = d.log ++ entries
  own : ∀ entry ∈ entries, entry.session = i
  unhandled : ∀ j peer holders, .handled j peer holders ∉ entries
  refusing : ∀ peer, .refused i peer ∈ entries → slot'.destroyed = true
  counted : ∀ peer, d'.admission.authenticated peer + (if holds peer slot then 1 else 0) =
    d.admission.authenticated peer + (if holds peer slot' then 1 else 0)
  handshakes : d'.admission.handshaking + (if slot.handshakeHeld then 1 else 0) =
    d.admission.handshaking + (if slot'.handshakeHeld then 1 else 0)
  once : entries.countP (AdmissionEntry.grants i) + (if slot.admittedPeer.isSome then 1 else 0) =
    entries.countP (AdmissionEntry.releases i) + (if slot'.admittedPeer.isSome then 1 else 0)

variable {entries : List AdmissionEntry}

theorem Exchange.served {d' : Desk} (hx : Exchange d d' i slot slot' entries)
    {j : Nat} (h : d'.Served j) : d.Served j := by
  obtain ⟨peer, holders, hmem⟩ := h
  rw [hx.log] at hmem
  exact ⟨peer, holders, (List.mem_append.mp hmem).resolve_right (hx.unhandled j peer holders)⟩

theorem session_of_grants {entry : AdmissionEntry} (h : entry.grants i = true) : entry.session = i := by
  cases entry with
  | granted k peer => exact (of_decide_eq_true h).symm
  | refused k peer => cases h
  | released k peer => cases h
  | handled k peer holders => cases h

theorem session_of_releases {entry : AdmissionEntry} (h : entry.releases i = true) : entry.session = i := by
  cases entry with
  | granted k peer => cases h
  | refused k peer => cases h
  | released k peer => exact (of_decide_eq_true h).symm
  | handled k peer holders => cases h

theorem countP_own {j : Nat} (hown : ∀ entry ∈ entries, entry.session = i)
    (hne : j ≠ i) : entries.countP (AdmissionEntry.grants j) = 0 ∧ entries.countP (AdmissionEntry.releases j) = 0 := by
  refine ⟨List.countP_eq_zero.mpr fun entry hmem hgrants => ?_,
    List.countP_eq_zero.mpr fun entry hmem hreleases => ?_⟩
  · exact hne ((session_of_grants hgrants).symm.trans (hown entry hmem))
  · exact hne ((session_of_releases hreleases).symm.trans (hown entry hmem))

theorem DeskOk.exchange {d' : Desk} {v : View} (h : DeskOk d views)
    (hslot : d.slots[i]? = some slot) (hx : Exchange d d' i slot slot' entries) (hok : SlotOk v slot')
    (hbound : ∀ peer, d'.admission.authenticated peer ≤ d.admission.maxPerPeer)
    (hdestroyed : slot.destroyed = true → slot'.destroyed = true)
    (hrefusing : ∀ peer, .refused i peer ∈ entries → ¬d.Served i)
    (hserved : d.Served i → slot'.admittedPeer.isSome = true ∨ v.stage = .closed) :
    DeskOk d' (Function.update views i v) where
  slots := by
    intro j slot₁ hj
    rw [hx.slots] at hj
    rcases getElem?_set_cases hj with ⟨rfl, rfl⟩ | ⟨hne, hold⟩
    · rwa [Function.update_self]
    · rw [Function.update_of_ne hne]
      exact h.slots j slot₁ hold
  known := by
    intro entry hmem
    rw [hx.slots, List.length_set]
    rcases List.mem_append.mp (hx.log ▸ hmem) with hold | hnew
    · exact h.known entry hold
    · rw [hx.own entry hnew]
      exact (List.getElem?_eq_some_iff.mp hslot).1
  counted := by
    intro peer
    have hset := countP_set_add (p := holds peer) slot' hslot
    have hcount := hx.counted peer
    rw [h.counted peer] at hcount
    rw [hx.slots]
    omega
  bound := fun peer => hx.maxPerPeer ▸ hbound peer
  handshakes := by
    have hset := countP_set_add (p := (·.handshakeHeld)) slot' hslot
    have hcount := hx.handshakes
    rw [h.handshakes] at hcount
    rw [hx.slots]
    omega
  handled := by
    intro j peer holders hmem
    rw [hx.maxPerPeer]
    rw [hx.log] at hmem
    exact h.handled j peer holders ((List.mem_append.mp hmem).resolve_right (hx.unhandled j peer holders))
  refused := by
    intro j peer hmem
    rw [hx.log] at hmem
    rcases List.mem_append.mp hmem with hold | hnew
    · obtain ⟨hnot, hall⟩ := h.refused j peer hold
      refine ⟨fun hserves => hnot (hx.served hserves), fun slot₁ hj => ?_⟩
      rw [hx.slots] at hj
      rcases getElem?_set_cases hj with ⟨rfl, rfl⟩ | ⟨_, hj'⟩
      · exact hdestroyed (hall slot hslot)
      · exact hall slot₁ hj'
    · obtain rfl : j = i := hx.own _ hnew
      refine ⟨fun hserves => hrefusing peer hnew (hx.served hserves), fun slot₁ hj => ?_⟩
      rw [hx.slots] at hj
      rcases getElem?_set_cases hj with ⟨_, rfl⟩ | ⟨hne, _⟩
      · exact hx.refusing peer hnew
      · exact absurd rfl hne
  served := by
    intro j hserves slot₁ hj
    rw [hx.slots] at hj
    rcases getElem?_set_cases hj with ⟨rfl, rfl⟩ | ⟨hne, hold⟩
    · rw [Function.update_self]
      exact hserved (hx.served hserves)
    · rw [Function.update_of_ne hne]
      exact h.served j (hx.served hserves) slot₁ hold
  once := by
    intro j slot₁ hj
    rw [hx.slots] at hj
    rw [hx.log, List.countP_append, List.countP_append]
    rcases getElem?_set_cases hj with ⟨rfl, rfl⟩ | ⟨hne, hold⟩
    · have hbefore := h.once j slot hslot
      have hafter := hx.once
      omega
    · obtain ⟨hgrants, hreleases⟩ := countP_own hx.own hne
      rw [hgrants, hreleases]
      exact h.once j slot₁ hold

theorem DeskOk.authenticated_pos (h : DeskOk d views) (hslot : d.slots[i]? = some slot)
    (hheld : slot.admittedPeer = some peer) : 0 < d.admission.authenticated peer := by
  rw [h.counted peer]
  exact List.countP_pos_iff.mpr ⟨slot, List.mem_of_getElem? hslot, decide_eq_true hheld⟩

theorem DeskOk.handshaking_pos (h : DeskOk d views) (hslot : d.slots[i]? = some slot)
    (hheld : slot.handshakeHeld = true) : 0 < d.admission.handshaking := by
  rw [h.handshakes]
  exact List.countP_pos_iff.mpr ⟨slot, List.mem_of_getElem? hslot, hheld⟩

section LeaveHandshake
variable (slot : Slot) (a : RelayAdmission)

@[simp] theorem leaveHandshake_maxPerPeer : (slot.leaveHandshake a).maxPerPeer = a.maxPerPeer := by
  unfold Slot.leaveHandshake
  split_ifs <;> rfl

@[simp] theorem leaveHandshake_authenticated : (slot.leaveHandshake a).authenticated = a.authenticated := by
  unfold Slot.leaveHandshake
  split_ifs <;> rfl

theorem leaveHandshake_handshaking (h : slot.handshakeHeld = true → 0 < a.handshaking) :
    (slot.leaveHandshake a).handshaking + (if slot.handshakeHeld then 1 else 0) = a.handshaking := by
  unfold Slot.leaveHandshake
  split_ifs with hheld
  · exact Nat.sub_add_cancel (h hheld)
  · rfl

end LeaveHandshake

theorem holds_none (h : slot.admittedPeer = none) : (if holds peer slot then 1 else 0) = 0 := by
  rw [holds, h]
  rfl

theorem holds_some {peer peer' : JsString} (h : slot.admittedPeer = some peer') :
    (if holds peer slot then 1 else 0) = if peer = peer' then 1 else 0 := by
  simp only [holds, h, Option.some.injEq, decide_eq_true_eq, @eq_comm _ peer' peer]

def Slot.given (slot : Slot) : Slot := { slot with handshakeHeld := false, admittedPeer := none }

theorem exchange_release (h : DeskOk d views) (hslot : d.slots[i]? = some slot) :
    Exchange d (d.releaseSlot i slot) i slot slot.given (slot.admittedPeer.toList.map (.released i)) := by
  have hhandshakes := leaveHandshake_handshaking slot d.admission (h.handshaking_pos hslot)
  unfold Desk.releaseSlot
  cases hadmitted : slot.admittedPeer with
  | none =>
    refine ⟨leaveHandshake_maxPerPeer _ _, rfl, rfl, fun _ hmem => (by cases hmem),
      fun _ _ _ hmem => (by cases hmem), fun _ hmem => (by cases hmem), fun peer => ?_, hhandshakes, ?_⟩
    · rw [holds_none hadmitted, holds_none rfl]
      exact congrArg (· + 0) (congrFun (leaveHandshake_authenticated _ _) peer)
    · rw [hadmitted]
      rfl
  | some peer =>
    have hpos := h.authenticated_pos hslot hadmitted
    refine ⟨leaveHandshake_maxPerPeer _ _, rfl, rfl, fun entry hmem => ?_, fun j peer' holders hmem => ?_,
      fun peer' hmem => ?_, fun peer' => ?_, hhandshakes, ?_⟩
    · rw [List.mem_singleton.mp hmem]
      rfl
    · cases List.mem_singleton.mp hmem
    · cases List.mem_singleton.mp hmem
    · rw [holds_some hadmitted, holds_none rfl]
      change Function.update (slot.leaveHandshake d.admission).authenticated peer
        ((slot.leaveHandshake d.admission).authenticated peer - 1) peer' + _ = _
      rw [leaveHandshake_authenticated]
      by_cases heq : peer' = peer
      · rw [heq, Function.update_self, if_pos rfl]
        exact Nat.sub_add_cancel hpos
      · rw [Function.update_of_ne heq, if_neg heq]
    · rw [hadmitted]
      simp [AdmissionEntry.grants, AdmissionEntry.releases, Slot.given]

theorem exchange_refuse (h : DeskOk d views) (hslot : d.slots[i]? = some slot) (hnone : slot.admittedPeer = none)
    (hfull : d.admission.maxPerPeer ≤ d.admission.authenticated peer) :
    Exchange d (d.settle i slot peer) i slot ⟨false, none, true⟩ [.refused i peer] := by
  have hhandshakes := leaveHandshake_handshaking slot d.admission (h.handshaking_pos hslot)
  have hsettle : d.settle i slot peer =
      ⟨slot.leaveHandshake d.admission, d.slots.set i ⟨false, none, true⟩, d.log ++ [.refused i peer]⟩ := by
    simp [Desk.settle, RelayAdmission.admitPeer, hfull, Desk.releaseSlot, hnone, Slot.leaveHandshake]
  rw [hsettle]
  refine ⟨leaveHandshake_maxPerPeer _ _, rfl, rfl, fun entry hmem => ?_, fun j peer' holders hmem => ?_,
    fun _ _ => rfl, fun peer' => ?_, hhandshakes, ?_⟩
  · rw [List.mem_singleton.mp hmem]
    rfl
  · cases List.mem_singleton.mp hmem
  · rw [holds_none hnone, holds_none rfl]
    exact congrArg (· + 0) (congrFun (leaveHandshake_authenticated _ _) peer')
  · rw [hnone]
    rfl

theorem exchange_grant (h : DeskOk d views) (hslot : d.slots[i]? = some slot) (hnone : slot.admittedPeer = none)
    (hroom : ¬d.admission.maxPerPeer ≤ d.admission.authenticated peer) :
    Exchange d (d.settle i slot peer) i slot ⟨false, some peer, slot.destroyed⟩ [.granted i peer] := by
  have hsettle : d.settle i slot peer =
      ⟨slot.leaveHandshake { d.admission with
          authenticated := Function.update d.admission.authenticated peer (d.admission.authenticated peer + 1) },
        d.slots.set i ⟨false, some peer, slot.destroyed⟩, d.log ++ [.granted i peer]⟩ := by
    simp [Desk.settle, RelayAdmission.admitPeer, hroom]
  rw [hsettle]
  refine ⟨leaveHandshake_maxPerPeer _ _, rfl, rfl, fun entry hmem => ?_, fun j peer' holders hmem => ?_,
    fun peer' hmem => ?_, fun peer' => ?_, leaveHandshake_handshaking slot _ (h.handshaking_pos hslot), ?_⟩
  · rw [List.mem_singleton.mp hmem]
    rfl
  · cases List.mem_singleton.mp hmem
  · cases List.mem_singleton.mp hmem
  · rw [leaveHandshake_authenticated, holds_none hnone, holds_some rfl]
    dsimp only
    by_cases heq : peer' = peer
    · rw [heq, Function.update_self, if_pos rfl]
    · rw [Function.update_of_ne heq, if_neg heq]
  · rw [hnone]
    simp [AdmissionEntry.grants, AdmissionEntry.releases]

theorem slotOk_given (slot : Slot) (peer : Option JsString) : SlotOk ⟨.closed, peer⟩ slot.given where
  admitted := fun _ hmem => by cases hmem
  held := fun hheld => by cases hheld
  live := fun hlive => by cases hlive

theorem ok_release (h : DeskOk d views) (hslot : d.slots[i]? = some slot) (peer : Option JsString) :
    DeskOk (d.releaseSlot i slot) (Function.update views i ⟨.closed, peer⟩) := by
  have hx := exchange_release h hslot
  refine h.exchange hslot hx (slotOk_given slot peer) (fun peer' => ?_) id (fun peer' hmem => ?_) fun _ => .inr rfl
  · have hcount := hx.counted peer'
    have hbound := h.bound peer'
    have hnone : (if holds peer' slot.given then 1 else 0) = 0 := rfl
    omega
  · obtain ⟨_, _, heq⟩ := List.mem_map.mp hmem
    cases heq

theorem ok_settle (h : DeskOk d views) (hslot : d.slots[i]? = some slot) (hnone : slot.admittedPeer = none)
    (hserved : ¬d.Served i) (peer : JsString) :
    DeskOk (d.settle i slot peer) (Function.update views i ⟨.live, some peer⟩) := by
  by_cases hfull : d.admission.maxPerPeer ≤ d.admission.authenticated peer
  · have hx := exchange_refuse h hslot hnone hfull
    refine h.exchange hslot hx ⟨fun _ hmem => (by cases hmem), fun hheld => (by cases hheld), fun _ => .inr rfl⟩
      (fun peer₁ => ?_) (fun _ => rfl) (fun _ _ => hserved) fun hserves => absurd hserves hserved
    have hcount := hx.counted peer₁
    rw [holds_none hnone, holds_none rfl] at hcount
    exact (Nat.add_right_cancel hcount).trans_le (h.bound peer₁)
  · have hx := exchange_grant h hslot hnone hfull
    refine h.exchange hslot hx ⟨fun _ hmem => ⟨rfl, hmem⟩, fun hheld => (by cases hheld), fun _ => .inl rfl⟩
      (fun peer₁ => ?_) id (fun _ _ => hserved) fun _ => .inl rfl
    have hcount := hx.counted peer₁
    rw [holds_none hnone, holds_some rfl] at hcount
    have hbound := h.bound peer₁
    split_ifs at hcount with heq
    · subst heq
      omega
    · omega

theorem onStatusChange_eq (hslot : d.slots[i]? = some slot) (state : RelayConnectionState)
    (peer : Option JsString) :
    d.onStatusChange i state peer =
      if state = .connected ∧ peer.getD [] ≠ [] ∧ slot.admittedPeer = none then d.settle i slot (peer.getD [])
      else if state = .closed then d.releaseSlot i slot
      else d := by
  unfold Desk.onStatusChange
  rw [hslot]
  rfl

theorem ok_told {v v' : View} {n : Notice ν ω} (h : DeskOk d views) (hslot : d.slots[i]? = some slot)
    (hv : views i = v) (htold : Says v n v') : DeskOk (d.hear i n) (Function.update views i v') := by
  cases htold with
  | closed stage peer =>
    change DeskOk (d.onStatusChange i .closed peer) _
    rw [onStatusChange_eq hslot, if_neg (by simp), if_pos rfl]
    exact ok_release h hslot peer
  | status state peer =>
    change DeskOk (d.onStatusChange i state peer) _
    rw [onStatusChange_eq hslot]
    split_ifs with hadmits hclosed
    · obtain ⟨rfl, hpeer, hnone⟩ := hadmits
      obtain ⟨peer, rfl⟩ : ∃ peer', peer = some peer' := Option.ne_none_iff_exists'.mp fun hnil => hpeer (by rw [hnil]; rfl)
      refine ok_settle h hslot hnone (fun hserves => ?_) peer
      rcases h.served i hserves slot hslot with hsome | hclosed
      · rw [hnone] at hsome
        cases hsome
      · rw [hv] at hclosed
        cases hclosed
    · subst hclosed
      exact ok_release h hslot peer
    · rwa [← hv, Function.update_eq_self]

theorem length_admit (d : Desk) (i : Nat) (slot : Slot) (peer : JsString) :
    (d.settle i slot peer).slots.length = d.slots.length := by
  unfold Desk.settle
  split <;> exact List.length_set

theorem length_hear (d : Desk) (i : Nat) (n : Notice ν ω) : (d.hear i n).slots.length = d.slots.length := by
  cases n with
  | handled peer received frame => rfl
  | signed statement => rfl
  | agreed accept => rfl
  | status state peer =>
    change (d.onStatusChange i state peer).slots.length = _
    unfold Desk.onStatusChange
    cases d.slots[i]? with
    | none => rfl
    | some slot =>
      dsimp only [Option.elim]
      split_ifs
      · exact length_admit d i slot _
      · exact List.length_set
      · rfl

/-- What the notices about a session leave as it is, if its peer is admitted while it is live. -/
structure Retains (d d' : Desk) (i : Nat) (slot : Slot) (v : View) : Prop where
  served : ∀ j, d'.Served j → d.Served j
  maxPerPeer : d'.admission.maxPerPeer = d.admission.maxPerPeer
  slot : ∃ slot', d'.slots[i]? = some slot' ∧ slot'.destroyed = slot.destroyed ∧
    (v.stage = .live → slot'.admittedPeer.isSome = true) ∧
    (slot.admittedPeer = none → slot'.admittedPeer = none ∧ d'.admission.authenticated = d.admission.authenticated)

theorem Retains.same (hslot : d.slots[i]? = some slot) {v : View}
    (hlive : v.stage = .live → slot.admittedPeer.isSome = true) : Retains d d i slot v where
  served := fun _ h => h
  maxPerPeer := rfl
  slot := ⟨slot, hslot, rfl, hlive, fun hnone => ⟨hnone, rfl⟩⟩

theorem retains_release (h : DeskOk d views) (hslot : d.slots[i]? = some slot) (peer : Option JsString) :
    Retains d (d.releaseSlot i slot) i slot ⟨.closed, peer⟩ := by
  have hx := exchange_release h hslot
  refine ⟨fun j => hx.served, hx.maxPerPeer, slot.given, ?_, rfl, fun hlive => (by cases hlive), fun hnone => ⟨rfl, ?_⟩⟩
  · rw [hx.slots, List.getElem?_set_self (List.getElem?_eq_some_iff.mp hslot).1]
  · funext peer'
    have hcount := hx.counted peer'
    rwa [holds_none hnone, holds_none rfl] at hcount

theorem retains_told {v v' : View} {n : Notice ν ω} (h : DeskOk d views) (hslot : d.slots[i]? = some slot)
    (hlive : v.stage = .live → slot.admittedPeer.isSome = true) (htold : Says v n v') :
    Retains d (d.hear i n) i slot v' := by
  cases htold with
  | closed stage peer =>
    change Retains d (d.onStatusChange i .closed peer) i slot _
    rw [onStatusChange_eq hslot, if_neg (by simp), if_pos rfl]
    exact retains_release h hslot peer
  | status state peer =>
    change Retains d (d.onStatusChange i state peer) i slot _
    rw [onStatusChange_eq hslot]
    split_ifs with hadmits hclosed
    · obtain ⟨rfl, -, hnone⟩ := hadmits
      have hsome := hlive rfl
      rw [hnone] at hsome
      cases hsome
    · subst hclosed
      exact retains_release h hslot peer
    · exact .same hslot hlive

def Desk.hearAll (d : Desk) (i : Nat) (ns : List (Notice ν ω)) : Desk := ns.foldl (Desk.hear i) d

theorem length_hearAll (d : Desk) (i : Nat) (ns : List (Notice ν ω)) :
    (d.hearAll i ns).slots.length = d.slots.length := by
  induction ns generalizing d with
  | nil => rfl
  | cons n ns ih => exact (ih (d.hear i n)).trans (length_hear d i n)

theorem ok_calm {v v' : View} {ns : List (Notice ν ω)} (hcalm : Calm v ns v') (h : DeskOk d views)
    (hi : i < d.slots.length) (hv : views i = v) :
    DeskOk (d.hearAll i ns) (Function.update views i v') ∧ (d.hearAll i ns).slots.length = d.slots.length := by
  induction hcalm generalizing d views with
  | nil v =>
    refine ⟨?_, rfl⟩
    rwa [← hv, Function.update_eq_self]
  | @cons v v' v'' n ns htold hcalm ih =>
    have hok := ok_told h (List.getElem?_eq_getElem hi) hv htold
    have hlength : (d.hear i n).slots.length = d.slots.length := length_hear d i n
    obtain ⟨hrest, hlength'⟩ := ih hok (hlength ▸ hi) (Function.update_self ..)
    rw [Function.update_idem] at hrest
    exact ⟨hrest, hlength'.trans hlength⟩

theorem retains_calm {v v' : View} {ns : List (Notice ν ω)} (hcalm : Calm v ns v') (h : DeskOk d views)
    (hslot : d.slots[i]? = some slot) (hv : views i = v)
    (hlive : v.stage = .live → slot.admittedPeer.isSome = true) : Retains d (d.hearAll i ns) i slot v' := by
  induction hcalm generalizing d views slot with
  | nil v => exact .same hslot hlive
  | @cons v v' v'' n ns htold hcalm ih =>
    have hfirst := retains_told h hslot hlive htold
    obtain ⟨slot', hslot', hdestroyed, hlive', hnone⟩ := hfirst.slot
    have hrest := ih (ok_told h hslot hv htold) hslot' (Function.update_self ..) hlive'
    obtain ⟨slot'', hslot'', hdestroyed', hlive'', hnone'⟩ := hrest.slot
    refine ⟨fun j hserves => hfirst.served j (hrest.served j hserves), hrest.maxPerPeer.trans hfirst.maxPerPeer,
      slot'', hslot'', hdestroyed'.trans hdestroyed, hlive'', fun hslotnone => ?_⟩
    obtain ⟨hslotnone', hsame⟩ := hnone hslotnone
    obtain ⟨hslotnone'', hsame'⟩ := hnone' hslotnone'
    exact ⟨hslotnone'', hsame'.trans hsame⟩

theorem ok_handled {v : View} (h : DeskOk d views) (hslot : d.slots[i]? = some slot) (hv : views i = v)
    (hlive : v.stage = .live) (hopen : slot.destroyed = false) (received : RelayHeader)
    (frame : RelayApplicationFrame ν) : DeskOk (d.hear i (.handled v.peer received frame : Notice ν ω)) views := by
  have hsome : slot.admittedPeer.isSome = true :=
    ((h.slots i slot hslot).live (hv ▸ hlive)).resolve_right (by rw [hopen]; exact Bool.false_ne_true)
  obtain ⟨peer, hpeer⟩ := Option.isSome_iff_exists.mp hsome
  have hview : v.peer = some peer := hv ▸ ((h.slots i slot hslot).admitted peer hpeer).2
  have hserved : ∀ j, (d.hear i (.handled v.peer received frame : Notice ν ω)).Served j → d.Served j ∨ j = i := by
    rintro j ⟨peer', holders, hmem⟩
    rcases List.mem_append.mp hmem with hold | hnew
    · exact .inl ⟨peer', holders, hold⟩
    · cases List.mem_singleton.mp hnew
      exact .inr rfl
  have hlog : (d.hear i (.handled v.peer received frame : Notice ν ω)).log = d.log ++ [.handled i peer (d.holders peer)] := by
    rw [hview]
    rfl
  refine ⟨h.slots, fun entry hmem => ?_, h.counted, h.bound, h.handshakes, fun j peer' holders hmem => ?_,
    fun j peer' hmem => ?_, fun j hserves slot' hj => ?_, fun j slot' hj => ?_⟩
  · rcases List.mem_append.mp (hlog ▸ hmem) with hold | hnew
    · exact h.known entry hold
    · rw [List.mem_singleton.mp hnew]
      exact (List.getElem?_eq_some_iff.mp hslot).1
  · rcases List.mem_append.mp (hlog ▸ hmem) with hold | hnew
    · exact h.handled j peer' holders hold
    · cases List.mem_singleton.mp hnew
      refine ⟨mem_holders hslot hpeer, ?_⟩
      rw [length_holders, ← h.counted peer]
      exact h.bound peer
  · have hold : .refused j peer' ∈ d.log := by
      rcases List.mem_append.mp (hlog ▸ hmem) with hold | hnew
      · exact hold
      · cases List.mem_singleton.mp hnew
    obtain ⟨hnot, hall⟩ := h.refused j peer' hold
    refine ⟨fun hserves => ?_, hall⟩
    rcases hserved j hserves with hbefore | rfl
    · exact hnot hbefore
    · have hdestroyed := hall slot hslot
      rw [hopen] at hdestroyed
      cases hdestroyed
  · rcases hserved j hserves with hbefore | rfl
    · exact h.served j hbefore slot' hj
    · obtain rfl : slot = slot' := Option.some.inj (hslot.symm.trans hj)
      exact .inl hsome
  · rw [hlog, List.countP_append, List.countP_append]
    exact h.once j slot' hj

end Wardroom.Federation
