import Wardroom.Federation.RelayFields
import Wardroom.Library.Trace

/-! # Trust records of peers

A transition reads the record of a peer, decides, and renames a new file over
it; several processes run transitions at once. A record that is read is the
record that was written, and every failure of the file system ends the
transition before its rename.
-/

namespace Wardroom.Federation
open Wardroom.Library

inductive PeerTrustState where
  | pending
  | confirming
  | active
  | revoked
  deriving DecidableEq

def PeerTrustState.rank : PeerTrustState → Nat
  | pending => 0
  | confirming => 1
  | active => 2
  | revoked => 3

structure PeerTrustRecord (ν : Type) where
  authorityId : JsString
  publicKeyPem : JsString
  fingerprint : JsString
  transportPolicy : JsValue ν
  state : PeerTrustState
  createdAt : JsString
  updatedAt : JsString
  revokedAt : Option JsString
  revokedReason : Option JsString

/-- `createPublicKey` of a PEM text, with the kind of the key and its SPKI DER, and SHA-256. -/
structure PublicKeys where
  createPublicKey : JsString → Option (JsString × List UInt8)
  fingerprintForDer : List UInt8 → JsString

namespace PeerTrust

variable {ν α : Type} (p : Platform ν) (keys : PublicKeys)

def peerTrustError (message : JsString) : Except JsString α := .error (text "Rooms peer trust: " ++ message)

def requireTrust (c : Prop) [Decidable c] (message : JsString) : Except JsString Unit :=
  if c then .ok () else peerTrustError message

def boundAuthorityId (value : JsString) : Except JsString JsString := do
  requireTrust (nonBlank value = true) (text "authority id must be non-blank")
  requireTrust (AUTHORITY_ID_PATTERN value = true)
    (text "authority id " ++ value ++ text " is not a well-formed Rooms authority id")
  return value

/-- The fingerprint of a key that its authority id names. -/
def boundPeerKey (authorityId publicKeyPem : JsString) : Except JsString JsString := do
  requireTrust (nonBlank publicKeyPem = true) (text "peer public key must be non-blank")
  match keys.createPublicKey publicKeyPem with
  | none => peerTrustError (text "peer public key is not a valid PEM-encoded key")
  | some (kind, der) => do
    requireTrust (kind = text "ed25519") (text "peer public key must be Ed25519")
    let fingerprint := keys.fingerprintForDer der
    let authorityId ← boundAuthorityId authorityId
    requireTrust (authorityId = text "authority-" ++ fingerprint) (text "authority id " ++ authorityId ++
      text " does not match the fingerprint of the supplied public key; authority mismatch")
    return fingerprint

/-- The policies that name the peer are those of loopback SSH and of Tailscale. -/
def boundTransportPolicy (now : Int) (value : JsValue ν) (authorityId : JsString) : Except JsString Unit :=
  match validateTransportPolicy p now (some value) with
  | .error message => peerTrustError message
  | .ok () =>
    let field (key : String) := value.get (text key)
    requireTrust (isText (field "kind") "loopbackSsh" ∨ isText (field "kind") "tailscalePeer" →
        ∃ s ∈ (match field "peerAuthorityId" with | some (.string s) => some s | _ => none), s = authorityId)
      (text "transport policy peerAuthorityId does not match the pinned peer authority id; authority mismatch")

def sameTransportPolicy (left right : JsValue ν) : Prop := left.stringify p = right.stringify p

instance (left right : JsValue ν) : Decidable (sameTransportPolicy p left right) :=
  inferInstanceAs (Decidable (_ = _))

/-- The checks of a record that is read from its place. -/
def parseRecord (now : Int) (record : PeerTrustRecord ν) (expectedAuthorityId : JsString) :
    Except JsString (PeerTrustRecord ν) := do
  requireTrust (record.authorityId = expectedAuthorityId)
    (text "peer trust record authority id does not match its storage location")
  requireTrust ((p.parseDate record.createdAt).isSome = true) (text "peer trust record createdAt is invalid")
  requireTrust ((p.parseDate record.updatedAt).isSome = true) (text "peer trust record updatedAt is invalid")
  requireTrust (record.state = .revoked →
      ((record.revokedAt.bind p.parseDate).isSome && record.revokedReason.any nonBlank) = true)
    (text "revoked peer trust record must carry a revocation timestamp and reason")
  requireTrust (record.state ≠ .revoked → record.revokedAt = none ∧ record.revokedReason = none)
    (text "non-revoked peer trust record must not carry revocation fields")
  let fingerprint ← boundPeerKey keys record.authorityId record.publicKeyPem
  requireTrust (fingerprint = record.fingerprint)
    (text "peer trust record fingerprint does not match its stored public key")
  boundTransportPolicy p now record.transportPolicy record.authorityId
  return record

def tryReadRecord (now : Int) (file : Option (PeerTrustRecord ν)) (authorityId : JsString) :
    Except JsString (Option (PeerTrustRecord ν)) :=
  match file with
  | none => .ok none
  | some record => (parseRecord p keys now record authorityId).map some

/-- What a transition does after its read: it returns a record as it is, or writes one. -/
inductive Decision (ν : Type) where
  | keeps (record : PeerTrustRecord ν)
  | writes (record : PeerTrustRecord ν)

def newRecord (now : Int) (authorityId publicKeyPem fingerprint : JsString) (transportPolicy : JsValue ν)
    (state : PeerTrustState) : PeerTrustRecord ν :=
  ⟨authorityId, publicKeyPem, fingerprint, transportPolicy, state, p.toISOString now, p.toISOString now, none, none⟩

def pins (record : PeerTrustRecord ν) (publicKeyPem fingerprint : JsString) (transportPolicy : JsValue ν) : Prop :=
  record.fingerprint = fingerprint ∧ record.publicKeyPem = publicKeyPem ∧
    sameTransportPolicy p record.transportPolicy transportPolicy

instance (record : PeerTrustRecord ν) (publicKeyPem fingerprint : JsString) (transportPolicy : JsValue ν) :
    Decidable (pins p record publicKeyPem fingerprint transportPolicy) := inferInstanceAs (Decidable (_ ∧ _))

def alreadyPinned (authorityId : JsString) : JsString :=
  text "authority " ++ authorityId ++
    text " is already pinned to different key material or transport policy; revoke it before re-enrolling"

def preparePeerTrust (now : Int) (authorityId publicKeyPem : JsString) (transportPolicy : JsValue ν)
    (file : Option (PeerTrustRecord ν)) : Except JsString (Decision ν) := do
  let fingerprint ← boundPeerKey keys authorityId publicKeyPem
  boundTransportPolicy p now transportPolicy authorityId
  let existing ← tryReadRecord p keys now file authorityId
  match existing with
  | some existing => do
    requireTrust (existing.state ≠ .revoked)
      (text "authority " ++ authorityId ++ text " is durably revoked; re-enrollment is not permitted")
    requireTrust (pins p existing publicKeyPem fingerprint transportPolicy) (alreadyPinned authorityId)
    return .keeps existing
  | none => return .writes (newRecord p now authorityId publicKeyPem fingerprint transportPolicy .pending)

/-- The states that a proof of enrollment leads to. -/
inductive ProvenState where
  | confirming
  | active
  deriving DecidableEq

def ProvenState.toState : ProvenState → PeerTrustState
  | confirming => .confirming
  | active => .active

def advancePeerTrustFromEnrollmentProof (now : Int) (authorityId publicKeyPem : JsString)
    (transportPolicy : JsValue ν) (toState : ProvenState) (file : Option (PeerTrustRecord ν)) :
    Except JsString (Decision ν) := do
  let fingerprint ← boundPeerKey keys authorityId publicKeyPem
  boundTransportPolicy p now transportPolicy authorityId
  let existing ← tryReadRecord p keys now file authorityId
  match existing with
  | some existing => do
    requireTrust (existing.state ≠ .revoked)
      (text "authority " ++ authorityId ++ text " is durably revoked; enrollment is not permitted")
    requireTrust (pins p existing publicKeyPem fingerprint transportPolicy) (alreadyPinned authorityId)
    if existing.state = .active ∨ existing.state = toState.toState then return .keeps existing
    else return .writes { existing with state := toState.toState, updatedAt := p.toISOString now }
  | none => return .writes (newRecord p now authorityId publicKeyPem fingerprint transportPolicy toState.toState)

def revokePeerTrust (now : Int) (authorityId reason : JsString) (file : Option (PeerTrustRecord ν)) :
    Except JsString (Decision ν) := do
  let authorityId ← boundAuthorityId authorityId
  requireTrust (nonBlank reason = true) (text "revocation reason must be non-blank")
  let existing ← tryReadRecord p keys now file authorityId
  match existing with
  | none => peerTrustError (text "no local trust record for authority " ++ authorityId ++ text "; nothing to revoke")
  | some existing =>
    if existing.state = .revoked then return .keeps existing
    else return .writes { existing with
      state := .revoked
      updatedAt := p.toISOString now
      revokedAt := some (p.toISOString now)
      revokedReason := some reason }

def readActivePeerTrust (now : Int) (authorityId : JsString) (file : Option (PeerTrustRecord ν)) :
    Except JsString (Option (PeerTrustRecord ν)) := do
  let authorityId ← boundAuthorityId authorityId
  let record ← tryReadRecord p keys now file authorityId
  return record.filter fun record => record.state = .active

inductive TrustOperation (ν : Type) where
  | prepare (authorityId publicKeyPem : JsString) (transportPolicy : JsValue ν)
  | advance (authorityId publicKeyPem : JsString) (transportPolicy : JsValue ν) (toState : ProvenState)
  | revoke (authorityId reason : JsString)

namespace TrustOperation

def authorityId : TrustOperation ν → JsString
  | prepare authorityId _ _ => authorityId
  | advance authorityId _ _ _ => authorityId
  | revoke authorityId _ => authorityId

def decide (now : Int) (file : Option (PeerTrustRecord ν)) : TrustOperation ν → Except JsString (Decision ν)
  | prepare authorityId publicKeyPem transportPolicy =>
    preparePeerTrust p keys now authorityId publicKeyPem transportPolicy file
  | advance authorityId publicKeyPem transportPolicy toState =>
    advancePeerTrustFromEnrollmentProof p keys now authorityId publicKeyPem transportPolicy toState file
  | revoke authorityId reason => revokePeerTrust p keys now authorityId reason file

end TrustOperation

/-- Where a transition is: it reads next, renames next, or has ended. -/
inductive TrustPhase (ν : Type) where
  | reading
  | writing (found : Option (PeerTrustRecord ν)) (record : PeerTrustRecord ν)
  | ended

structure Transition (ν : Type) where
  operation : TrustOperation ν
  phase : TrustPhase ν

structure TrustStore (ν : Type) where
  /-- The record in the file of each authority. -/
  files : JsString → Option (PeerTrustRecord ν)
  transitions : List (Transition ν)

inductive TrustEvent (ν : Type) where
  | start (operation : TrustOperation ν)
  | read (i : Nat) (now : Int)
  | write (i : Nat)
  /-- The i-th transition fails, or its process dies. -/
  | abort (i : Nat)

namespace TrustStore

def enter (s : TrustStore ν) (i : Nat) (t : Transition ν) (phase : TrustPhase ν) : TrustStore ν :=
  { s with transitions := s.transitions.set i { t with phase := phase } }

/-- A transition that has decided to write keeps what it has found. -/
def decided (found : Option (PeerTrustRecord ν)) : Except JsString (Decision ν) → TrustPhase ν
  | .ok (.writes record) => .writing found record
  | _ => .ended

def readBy (s : TrustStore ν) (i : Nat) (now : Int) (t : Transition ν) : TrustStore ν :=
  match t.phase with
  | .reading =>
    let found := s.files t.operation.authorityId
    s.enter i t (decided found (t.operation.decide p keys now found))
  | _ => s

def writeBy (s : TrustStore ν) (i : Nat) (t : Transition ν) : TrustStore ν :=
  match t.phase with
  | .writing _ record =>
    { s.enter i t .ended with files := Function.update s.files t.operation.authorityId (some record) }
  | _ => s

def step (s : TrustStore ν) : TrustEvent ν → TrustStore ν
  | .start operation => { s with transitions := s.transitions ++ [⟨operation, .reading⟩] }
  | .read i now => s.transitions[i]?.elim s (readBy p keys s i now)
  | .write i => s.transitions[i]?.elim s (writeBy s i)
  | .abort i => s.transitions[i]?.elim s fun t => s.enter i t .ended

/-- The file that a transition writes over is still what it has read. -/
def WritesOverWhatItRead (s : TrustStore ν) : TrustEvent ν → Prop
  | .write i => ∀ t ∈ s.transitions[i]?, ∀ found record, t.phase = .writing found record →
      s.files t.operation.authorityId = found
  | _ => True

/-- The pinned fields stay, and the state does not go back. -/
structure Onward (r r' : PeerTrustRecord ν) : Prop where
  authorityId : r'.authorityId = r.authorityId
  publicKeyPem : r'.publicKeyPem = r.publicKeyPem
  fingerprint : r'.fingerprint = r.fingerprint
  transportPolicy : r'.transportPolicy = r.transportPolicy
  state : r.state.rank ≤ r'.state.rank

def Forward (before after : Option (PeerTrustRecord ν)) : Prop := ∀ r ∈ before, ∃ r' ∈ after, Onward r r'

theorem Onward.refl (r : PeerTrustRecord ν) : Onward r r := ⟨rfl, rfl, rfl, rfl, Nat.le_refl _⟩

theorem Forward.refl (file : Option (PeerTrustRecord ν)) : Forward file file := fun r hr => ⟨r, hr, .refl r⟩

theorem Forward.trans {a b c : Option (PeerTrustRecord ν)} (h : Forward a b) (h' : Forward b c) : Forward a c := by
  intro r hr
  obtain ⟨r', hr', hon⟩ := h r hr
  obtain ⟨r'', hr'', hon'⟩ := h' r' hr'
  exact ⟨r'', hr'', hon'.authorityId.trans hon.authorityId, hon'.publicKeyPem.trans hon.publicKeyPem,
    hon'.fingerprint.trans hon.fingerprint, hon'.transportPolicy.trans hon.transportPolicy,
    hon.state.trans hon'.state⟩

section Decides
variable {p : Platform ν} {keys : PublicKeys} {now : Int} {file : Option (PeerTrustRecord ν)}
  {authorityId : JsString}

theorem requireTrust_ok {c : Prop} [Decidable c] {message : JsString} (h : requireTrust c message = .ok ()) : c := by
  by_contra hc
  rw [requireTrust, if_neg hc] at h
  cases h

theorem parseRecord_ok {record read : PeerTrustRecord ν}
    (h : parseRecord p keys now record authorityId = .ok read) : read = record := by
  unfold parseRecord at h
  obtain ⟨_, _, h⟩ := bind_eq_ok h
  obtain ⟨_, _, h⟩ := bind_eq_ok h
  obtain ⟨_, _, h⟩ := bind_eq_ok h
  obtain ⟨_, _, h⟩ := bind_eq_ok h
  obtain ⟨_, _, h⟩ := bind_eq_ok h
  obtain ⟨_, _, h⟩ := bind_eq_ok h
  obtain ⟨_, _, h⟩ := bind_eq_ok h
  obtain ⟨_, _, h⟩ := bind_eq_ok h
  exact (Except.ok.inj h).symm

theorem tryReadRecord_ok {read : Option (PeerTrustRecord ν)}
    (h : tryReadRecord p keys now file authorityId = .ok read) : read = file := by
  cases file with
  | none => exact (Except.ok.inj h).symm
  | some record =>
    change (parseRecord p keys now record authorityId).map some = .ok read at h
    cases hparse : parseRecord p keys now record authorityId with
    | error message =>
      rw [hparse] at h
      cases h
    | ok r =>
      rw [hparse, parseRecord_ok hparse] at h
      exact (Except.ok.inj h).symm

theorem rank_le_proven {state : PeerTrustState} {toState : ProvenState} (hrevoked : state ≠ .revoked)
    (hactive : state ≠ .active) : state.rank ≤ toState.toState.rank := by
  cases state with
  | pending => exact Nat.zero_le _
  | confirming => cases toState <;> decide
  | active => exact absurd rfl hactive
  | revoked => exact absurd rfl hrevoked

theorem rank_le_revoked (state : PeerTrustState) : state.rank ≤ PeerTrustState.revoked.rank := by
  cases state <;> decide

theorem forward_some {r r' : PeerTrustRecord ν} (h : Onward r r') : Forward (some r) (some r') := by
  intro q hq
  obtain rfl := Option.some.inj hq
  exact ⟨r', rfl, h⟩

theorem decide_forward {operation : TrustOperation ν} {record : PeerTrustRecord ν}
    (h : operation.decide p keys now file = .ok (.writes record)) : Forward file (some record) := by
  have hnone : Forward (none : Option (PeerTrustRecord ν)) (some record) := fun r hr => by cases hr
  cases operation with
  | prepare authorityId publicKeyPem transportPolicy =>
    change preparePeerTrust p keys now authorityId publicKeyPem transportPolicy file = _ at h
    unfold preparePeerTrust at h
    obtain ⟨fingerprint, hkey, hpolicy⟩ := bind_eq_ok h
    obtain ⟨u, hu, hread⟩ := bind_eq_ok hpolicy
    obtain ⟨existing, hexisting, hrest⟩ := bind_eq_ok hread
    have hfile := tryReadRecord_ok hexisting
    subst hfile
    cases existing with
    | none => exact hnone
    | some existing =>
      obtain ⟨v, hv, hpins⟩ := bind_eq_ok hrest
      obtain ⟨w, hw, hkeeps⟩ := bind_eq_ok hpins
      cases hkeeps
  | advance authorityId publicKeyPem transportPolicy toState =>
    change advancePeerTrustFromEnrollmentProof p keys now authorityId publicKeyPem transportPolicy toState file = _ at h
    unfold advancePeerTrustFromEnrollmentProof at h
    obtain ⟨fingerprint, hkey, hpolicy⟩ := bind_eq_ok h
    obtain ⟨u, hu, hread⟩ := bind_eq_ok hpolicy
    obtain ⟨existing, hexisting, hrest⟩ := bind_eq_ok hread
    have hfile := tryReadRecord_ok hexisting
    subst hfile
    cases existing with
    | none => exact hnone
    | some existing =>
      obtain ⟨v, hrevoked, hpins⟩ := bind_eq_ok hrest
      obtain ⟨w, hw, hwrites⟩ := bind_eq_ok hpins
      have hlive := requireTrust_ok hrevoked
      by_cases hsame : existing.state = .active ∨ existing.state = toState.toState
      · rw [if_pos hsame] at hwrites
        cases hwrites
      · rw [if_neg hsame] at hwrites
        cases hwrites
        exact forward_some ⟨rfl, rfl, rfl, rfl, rank_le_proven hlive fun hactive => hsame (.inl hactive)⟩
  | revoke authorityId reason =>
    change revokePeerTrust p keys now authorityId reason file = _ at h
    unfold revokePeerTrust at h
    obtain ⟨bound, hbound, hreason⟩ := bind_eq_ok h
    obtain ⟨u, hu, hread⟩ := bind_eq_ok hreason
    obtain ⟨existing, hexisting, hrest⟩ := bind_eq_ok hread
    have hfile := tryReadRecord_ok hexisting
    subst hfile
    cases existing with
    | none => exact hnone
    | some existing =>
      by_cases hsame : existing.state = .revoked
      · dsimp only at hrest
        rw [if_pos hsame] at hrest
        cases hrest
      · dsimp only at hrest
        rw [if_neg hsame] at hrest
        cases hrest
        exact forward_some ⟨rfl, rfl, rfl, rfl, rank_le_revoked _⟩

end Decides

section Steps
variable {p : Platform ν} {keys : PublicKeys} {s : TrustStore ν} {event : TrustEvent ν} {id : JsString}

/-- Whoever is to rename has decided on it from what it has read. -/
def Planned (s : TrustStore ν) : Prop :=
  ∀ t ∈ s.transitions, ∀ found record, t.phase = .writing found record → Forward found (some record)

theorem Planned.enter (h : s.Planned) {i : Nat} {t : Transition ν} {phase : TrustPhase ν}
    (hphase : ∀ found record, phase = .writing found record → Forward found (some record)) :
    (s.enter i t phase).Planned := by
  intro u hu found record hwriting
  rcases List.mem_or_eq_of_mem_set hu with hold | rfl
  · exact h u hold found record hwriting
  · exact hphase found record hwriting

theorem decided_forward {found : Option (PeerTrustRecord ν)} {operation : TrustOperation ν} {now : Int}
    {found' : Option (PeerTrustRecord ν)} {record : PeerTrustRecord ν}
    (h : decided found (operation.decide p keys now found) = .writing found' record) :
    Forward found' (some record) := by
  cases hdecide : operation.decide p keys now found with
  | error message =>
    rw [hdecide] at h
    cases h
  | ok decision =>
    rw [hdecide] at h
    cases decision with
    | keeps kept => cases h
    | writes written =>
      cases h
      exact decide_forward hdecide

/-- Every file of the second store goes onward from that of the first. -/
def Advances (s s' : TrustStore ν) : Prop := s'.Planned ∧ ∀ id, Forward (s.files id) (s'.files id)

theorem Planned.advances (h : s.Planned) : s.Advances s := ⟨h, fun _ => Forward.refl _⟩

theorem Planned.advances_enter (h : s.Planned) {i : Nat} {t : Transition ν} {phase : TrustPhase ν}
    (hphase : ∀ found record, phase = .writing found record → Forward found (some record)) :
    s.Advances (s.enter i t phase) := ⟨h.enter hphase, fun _ => Forward.refl _⟩

theorem advances_elim (h : s.Planned) {i : Nat} {next : Transition ν → TrustStore ν}
    (hnext : ∀ t, s.transitions[i]? = some t → s.Advances (next t)) :
    s.Advances (s.transitions[i]?.elim s next) := by
  cases ht : s.transitions[i]? with
  | none => exact h.advances
  | some t => exact hnext t ht

theorem advances_readBy (h : s.Planned) (i : Nat) (now : Int) (t : Transition ν) :
    s.Advances (readBy p keys s i now t) := by
  unfold readBy
  cases t.phase with
  | reading => exact h.advances_enter fun found record => decided_forward
  | writing found record => exact h.advances
  | ended => exact h.advances

theorem advances_writeBy (h : s.Planned) {i : Nat} {t : Transition ν} (ht : s.transitions[i]? = some t)
    (hover : ∀ found record, t.phase = .writing found record → s.files t.operation.authorityId = found) :
    s.Advances (writeBy s i t) := by
  unfold writeBy
  cases hphase : t.phase with
  | reading => exact h.advances
  | ended => exact h.advances
  | writing found record =>
    have hplan := h t (List.mem_of_getElem? ht) found record hphase
    have hfile := hover found record hphase
    have hended : (s.enter i t .ended).Planned := h.enter fun found record hwriting => by cases hwriting
    refine ⟨hended, fun id => ?_⟩
    by_cases hid : id = t.operation.authorityId
    · subst hid
      simpa [Function.update_self, hfile] using hplan
    · simpa [Function.update_of_ne hid] using Forward.refl (s.files id)

theorem advances_step (h : s.Planned) (hover : s.WritesOverWhatItRead event) :
    s.Advances (step p keys s event) := by
  cases event with
  | start operation =>
    refine ⟨?_, fun id => Forward.refl _⟩
    intro u hu found record hwriting
    rcases List.mem_append.mp hu with hold | hnew
    · exact h u hold found record hwriting
    · obtain rfl := List.mem_singleton.mp hnew
      cases hwriting
  | read i now => exact advances_elim h fun t _ => advances_readBy h i now t
  | write i => exact advances_elim h fun t ht => advances_writeBy h ht (hover t ht)
  | abort i =>
    exact advances_elim h fun t _ => h.advances_enter fun found record hwriting => by cases hwriting

theorem advances_run (events : List (TrustEvent ν)) (h : s.Planned)
    (hover : Trace.Meets (step p keys) WritesOverWhatItRead s events) :
    s.Advances (Trace.run (step p keys) s events) := by
  induction events generalizing s with
  | nil => exact h.advances
  | cons event events ih =>
    obtain ⟨hplanned, hforward⟩ := advances_step h hover.1
    obtain ⟨hrun, hrest⟩ := ih hplanned hover.2
    exact ⟨hrun, fun id => (hforward id).trans (hrest id)⟩

end Steps

/-- Later on, a record goes onward from what it was, and once revoked it is never active. -/
def KeptAfter (p : Platform ν) (keys : PublicKeys) (s : TrustStore ν) (earlier later : List (TrustEvent ν))
    (id : JsString) : Prop :=
  let before := (Trace.run (step p keys) s earlier).files id
  let after := (Trace.run (step p keys) s (earlier ++ later)).files id
  Forward before after ∧
    ∀ r ∈ before, r.state = .revoked → ∀ now r', readActivePeerTrust p keys now id after ≠ .ok (some r')

theorem Onward.revoked {r r' : PeerTrustRecord ν} (h : Onward r r') (hr : r.state = .revoked) :
    r'.state = .revoked := by
  have hrank := h.state
  rw [hr] at hrank
  cases hstate : r'.state with
  | revoked => rfl
  | pending => exact absurd (hstate ▸ hrank) (by decide)
  | confirming => exact absurd (hstate ▸ hrank) (by decide)
  | active => exact absurd (hstate ▸ hrank) (by decide)

theorem readActivePeerTrust_active {p : Platform ν} {keys : PublicKeys} {now : Int} {id : JsString}
    {file : Option (PeerTrustRecord ν)} {r : PeerTrustRecord ν}
    (h : readActivePeerTrust p keys now id file = .ok (some r)) : file = some r ∧ r.state = .active := by
  unfold readActivePeerTrust at h
  obtain ⟨bound, hbound, hread⟩ := bind_eq_ok h
  obtain ⟨record, hrecord, hactive⟩ := bind_eq_ok hread
  rw [← tryReadRecord_ok hrecord]
  have hfilter := Except.ok.inj hactive
  obtain ⟨hsome, hstate⟩ := Option.filter_eq_some_iff.mp hfilter
  exact ⟨hsome, of_decide_eq_true hstate⟩

/-- In a run in which every transition writes over what it has read, a record keeps its pinned fields
and only moves forward, and one that was revoked is never returned as active. -/
theorem trust_goes_forward (p : Platform ν) (keys : PublicKeys) (files : JsString → Option (PeerTrustRecord ν))
    (earlier later : List (TrustEvent ν))
    (h : Trace.Meets (step p keys) WritesOverWhatItRead ⟨files, []⟩ (earlier ++ later)) (id : JsString) :
    KeptAfter p keys ⟨files, []⟩ earlier later id := by
  have hplanned : (⟨files, []⟩ : TrustStore ν).Planned := fun t ht => by cases ht
  obtain ⟨hearlier, hlater⟩ := (Trace.meets_append ..).mp h
  have hforward := (advances_run later (advances_run earlier hplanned hearlier).1 hlater).2 id
  rw [← Trace.run_append] at hforward
  refine ⟨hforward, ?_⟩
  intro r hr hrevoked now r' hread
  obtain ⟨hafter, hactive⟩ := readActivePeerTrust_active hread
  obtain ⟨q, hq, honward⟩ := hforward r hr
  obtain rfl : q = r' := Option.some.inj (hq.symm.trans hafter)
  exact absurd (honward.revoked hrevoked) (by rw [hactive]; decide)

/-- The n-th transition from its start to its end. -/
def alone (n : Nat) (operation : TrustOperation ν) (now : Int) : List (TrustEvent ν) :=
  [.start operation, .read n now, .write n]

theorem decided_writing {found : Option (PeerTrustRecord ν)} {decision : Except JsString (Decision ν)}
    {found' : Option (PeerTrustRecord ν)} {record : PeerTrustRecord ν}
    (h : decided found decision = .writing found' record) : found = found' := by
  cases decision with
  | error message => cases h
  | ok decision =>
    cases decision with
    | keeps kept => cases h
    | writes written =>
      cases h
      rfl

theorem meets_alone (p : Platform ν) (keys : PublicKeys) {s : TrustStore ν} {n : Nat}
    (hn : s.transitions.length = n) (operation : TrustOperation ν) (now : Int) :
    Trace.Meets (step p keys) WritesOverWhatItRead s (alone n operation now) := by
  subst hn
  refine ⟨trivial, trivial, ?_, trivial⟩
  have hstarted : (s.transitions ++ [⟨operation, .reading⟩])[s.transitions.length]? =
      some ⟨operation, .reading⟩ := by simp
  intro t ht found record hwriting
  simp only [step, hstarted, Option.elim_some, readBy, enter] at ht ⊢
  rw [List.getElem?_set_self (by simp)] at ht
  obtain rfl := Option.some.inj ht
  exact decided_writing hwriting

theorem length_enter (s : TrustStore ν) (i : Nat) (t : Transition ν) (phase : TrustPhase ν) :
    (s.enter i t phase).transitions.length = s.transitions.length := List.length_set

theorem length_elim {s : TrustStore ν} {found : Option (Transition ν)} {next : Transition ν → TrustStore ν}
    (h : ∀ t, (next t).transitions.length = s.transitions.length) :
    (found.elim s next).transitions.length = s.transitions.length := by
  cases found with
  | none => rfl
  | some t => exact h t

theorem length_run_alone (p : Platform ν) (keys : PublicKeys) {s : TrustStore ν} {n : Nat}
    (hn : s.transitions.length = n) (operation : TrustOperation ν) (now : Int) :
    (Trace.run (step p keys) s (alone n operation now)).transitions.length = n + 1 := by
  have hread (s : TrustStore ν) : (step p keys s (.read n now)).transitions.length = s.transitions.length := by
    refine length_elim fun t => ?_
    unfold readBy
    cases t.phase with
    | reading => exact length_enter ..
    | writing found record => rfl
    | ended => rfl
  have hwrite (s : TrustStore ν) : (step p keys s (.write n)).transitions.length = s.transitions.length := by
    refine length_elim fun t => ?_
    unfold writeBy
    cases t.phase with
    | reading => rfl
    | writing found record => exact length_enter ..
    | ended => rfl
  rw [alone, Trace.run_cons, Trace.run_cons, Trace.run_cons, Trace.run_nil, hwrite, hread, ← hn]
  exact List.length_append

def sampleFingerprint : JsString := List.replicate 64 0x61

def samplePeer : JsString := text "authority-" ++ sampleFingerprint

def sampleKeys : PublicKeys := ⟨fun _ => some (text "ed25519", []), fun _ => sampleFingerprint⟩

def samplePolicy : JsValue Int :=
  .object [(text "kind", .string (text "localUnix")), (text "path", .string (text "/run/rooms"))] .objectPrototype

def proof (toState : ProvenState) : TrustOperation Int := .advance samplePeer (text "key") samplePolicy toState

def revocation : TrustOperation Int := .revoke samplePeer (text "lost")

/-- One after the other, the peer is proven and revoked, and a proof that comes later changes nothing. -/
theorem trust_goes_forward_serial :
    KeptAfter digitPlatform sampleKeys ⟨fun _ => none, []⟩ (alone 0 (proof .confirming) 0 ++ alone 1 revocation 0)
      (alone 2 (proof .active) 0) samplePeer := by
  have hproven := length_run_alone digitPlatform sampleKeys (s := ⟨fun _ => none, []⟩) rfl (proof .confirming) 0
  have hrevoked := length_run_alone digitPlatform sampleKeys hproven revocation 0
  refine trust_goes_forward digitPlatform sampleKeys _ _ _ ?_ samplePeer
  rw [Trace.meets_append, Trace.meets_append, Trace.run_append]
  exact ⟨⟨meets_alone _ _ rfl _ _, meets_alone _ _ hproven _ _⟩, meets_alone _ _ hrevoked _ _⟩

def stateAfter (events : List (TrustEvent Int)) : Option PeerTrustState :=
  ((Trace.run (step digitPlatform sampleKeys) ⟨fun _ => none, []⟩ events).files samplePeer).map (·.state)

/-- The second proof has read the record before it is revoked, and writes after. -/
theorem trust_revived :
    ¬KeptAfter digitPlatform sampleKeys ⟨fun _ => none, []⟩
      (alone 0 (proof .confirming) 0 ++ [.start (proof .active), .read 1 0] ++ alone 2 revocation 0)
      [.write 1] samplePeer := by
  rintro ⟨hforward, -⟩
  have hbefore : stateAfter (alone 0 (proof .confirming) 0 ++ [.start (proof .active), .read 1 0] ++
      alone 2 revocation 0) = some .revoked := by decide +kernel
  have hafter : stateAfter (alone 0 (proof .confirming) 0 ++ [.start (proof .active), .read 1 0] ++
      alone 2 revocation 0 ++ [.write 1]) = some .active := by decide +kernel
  obtain ⟨r, hr, hrevoked⟩ := Option.map_eq_some_iff.mp hbefore
  obtain ⟨r', hr', honward⟩ := hforward r hr
  rw [stateAfter, hr', Option.map_some, honward.revoked hrevoked] at hafter
  cases hafter

end TrustStore
end PeerTrust
end Wardroom.Federation
