import Wardroom.Runtime.Host.Server

/-! # Deliveries to the terminal

A delivery is begun at most once, and what its execution writes to the terminal
is followed byte by byte. An acknowledgement other than uncertain says that all
of it has been written.
-/

namespace Wardroom.Runtime.Host
open Wardroom.Library

/-- What an execution has written to the terminal. -/
def written (pty : List PtyWrite) (execution : Nat) : List UInt8 :=
  (pty.filter fun w => w.execution = some execution).flatMap PtyWrite.bytes

/-- The ledger says that the delivery has been written. -/
def Settled (s : RuntimeHost) (id : String) : Prop := ∃ st, s.delivered.find? id = some st ∧ st.written = true

/-- A delivery is executed once at most, and acknowledged as written or as a duplicate when it has been written. -/
structure Honest (s : RuntimeHost) : Prop where
  once : (s.executions.map Delivery.id).Nodup
  partly : ∀ k tx, s.executions[k]? = some tx → written s.pty k <+: tx.frames.flatten
  acked : ∀ id outcome, (id, outcome) ∈ s.acks → outcome ≠ .uncertain →
    Settled s id ∧ ∃ k tx, s.executions[k]? = some tx ∧ tx.id = id ∧ written s.pty k = tx.frames.flatten

def Phase.lookedUp : Phase → Option Delivery
  | .validated tx => some tx
  | .counted tx => some tx
  | _ => none

/-- A delivery is asked for again only when it has been written. -/
def AskedAfter (s : RuntimeHost) : RuntimeHost.HostEvent → Prop
  | .advance i _ _ => ∀ c ∈ s.conns[i]?, ∀ tx ∈ c.handler.lookedUp, ∀ st ∈ s.delivered.find? tx.id, st.written = true
  | _ => True

instance (s : RuntimeHost) : ∀ e, Decidable (AskedAfter s e)
  | .advance i _ _ => inferInstanceAs (Decidable (∀ c ∈ s.conns[i]?, ∀ tx ∈ _, ∀ st ∈ _, _))
  | .accept | .request .. | .hangUp _ | .malformed .. | .produce _ | .exit _ | .take _ | .write .. |
    .settle _ => isTrue trivial

section Written
variable {pty : List PtyWrite} {k : Nat} {bytes : List UInt8}

theorem written_append_same : written (pty ++ [⟨some k, bytes⟩]) k = written pty k ++ bytes := by
  simp [written]

theorem written_append_other {execution : Option Nat} (h : execution ≠ some k) :
    written (pty ++ [⟨execution, bytes⟩]) k = written pty k := by
  simp [written, h]

theorem written_eq_nil (h : ∀ w ∈ pty, w.execution ≠ some k) : written pty k = [] := by
  have hnone : pty.filter (fun w => w.execution = some k) = [] := by
    rw [List.filter_eq_nil_iff]
    exact fun w hw => by simpa using h w hw
  rw [written, hnone]
  rfl

end Written

def Phase.execution : Phase → Option Nat
  | .executing k _ _ _ => some k
  | .failing k _ _ => some k
  | _ => none

def HostMessage.Truthful (s : RuntimeHost) : HostMessage → Prop
  | .deliverAck id _ outcome _ => outcome ≠ .uncertain → Settled s id
  | _ => True

/-- A handler that executes a delivery has written its first frames, and what it acknowledges is settled. -/
def Phase.Sound (s : RuntimeHost) : Phase → Prop
  | .executing k tx frame _ => s.executions[k]? = some tx ∧ written s.pty k = (tx.frames.take frame).flatten ∧
      ¬ Settled s tx.id
  | .failing k tx _ => s.executions[k]? = some tx ∧ ¬ Settled s tx.id
  | .answering messages _ => ∀ m ∈ messages, m.Truthful s
  | _ => True

/-- Every execution has its row, and a row that is written has its bytes in the terminal. -/
structure LedgerKept (s : RuntimeHost) : Prop where
  once : (s.executions.map Delivery.id).Nodup
  reserved : ∀ tx ∈ s.executions, (s.delivered.find? tx.id).isSome = true
  partly : ∀ k tx, s.executions[k]? = some tx → written s.pty k <+: tx.frames.flatten
  begun : ∀ w ∈ s.pty, ∀ k ∈ w.execution, k < s.executions.length
  settled : ∀ id, Settled s id →
    ∃ k tx, s.executions[k]? = some tx ∧ tx.id = id ∧ written s.pty k = tx.frames.flatten
  acked : ∀ id outcome, (id, outcome) ∈ s.acks → outcome ≠ .uncertain → Settled s id
  handlers : ∀ (i : Nat) (c : Conn), s.conns[i]? = some c → c.handler.Sound s
  exclusive : ∀ (i j : Nat) (c d : Conn) (k : Nat), s.conns[i]? = some c → s.conns[j]? = some d → c.handler.execution = some k →
    d.handler.execution = some k → i = j

theorem LedgerKept.honest {s : RuntimeHost} (h : LedgerKept s) : Honest s :=
  ⟨h.once, h.partly, fun id outcome hack houtcome =>
    ⟨h.acked id outcome hack houtcome, h.settled id (h.acked id outcome hack houtcome)⟩⟩

/-- Nothing but the handlers counts. -/
structure SameLedger (s s' : RuntimeHost) : Prop where
  executions : s'.executions = s.executions
  pty : s'.pty = s.pty
  delivered : s'.delivered = s.delivered
  acks : s'.acks = s.acks

theorem SameLedger.settled {s s' : RuntimeHost} (h : SameLedger s s') (id : String) : Settled s' id ↔ Settled s id := by
  unfold Settled
  rw [h.delivered]

theorem SameLedger.sound {s s' : RuntimeHost} (h : SameLedger s s') (p : Phase) : p.Sound s' ↔ p.Sound s := by
  cases p with
  | executing k tx frame bytesWritten => simp only [Phase.Sound, h.executions, h.pty, h.settled]
  | failing k tx bytesWritten => simp only [Phase.Sound, h.executions, h.settled]
  | answering messages close =>
    simp only [Phase.Sound]
    refine forall₂_congr fun m _ => ?_
    cases m with
    | deliverAck _ _ _ _ => simp only [HostMessage.Truthful, h.settled]
    | _ => rfl
  | _ => rfl

theorem getElem?_conns_set {conns : List Conn} {i j : Nat} {c d : Conn} (h : (conns.set i c)[j]? = some d) :
    j = i ∧ d = c ∨ j ≠ i ∧ conns[j]? = some d := by
  by_cases hij : i = j
  · subst hij
    have hlt : i < (conns.set i c).length := (List.getElem?_eq_some_iff.mp h).1
    rw [List.length_set] at hlt
    rw [List.getElem?_set_self hlt] at h
    exact .inl ⟨rfl, (Option.some.inj h).symm⟩
  · rw [List.getElem?_set_ne hij] at h
    exact .inr ⟨fun hji => hij hji.symm, h⟩

namespace LedgerKept
variable {s s' : RuntimeHost} {i : Nat} {c c' : Conn}

/-- A step that keeps the ledger may change the handlers, as long as they are sound and exclusive. -/
theorem same (h : LedgerKept s) (hsame : SameLedger s s')
    (hhandlers : ∀ (i : Nat) (c : Conn), s'.conns[i]? = some c → c.handler.Sound s ∧
      (c.handler.execution = none ∨ ∃ d, s.conns[i]? = some d ∧ c.handler.execution = d.handler.execution)) :
    LedgerKept s' where
  once := by rw [hsame.executions]; exact h.once
  reserved := by rw [hsame.executions, hsame.delivered]; exact h.reserved
  partly := by rw [hsame.executions, hsame.pty]; exact h.partly
  begun := by rw [hsame.executions, hsame.pty]; exact h.begun
  settled id hid := by rw [hsame.executions, hsame.pty]; exact h.settled id ((hsame.settled id).mp hid)
  acked id outcome hack houtcome := by
    rw [hsame.acks] at hack
    exact (hsame.settled id).mpr (h.acked id outcome hack houtcome)
  handlers i c hc := (hsame.sound _).mpr (hhandlers i c hc).1
  exclusive i j c d k hc hd hck hdk := by
    rcases (hhandlers i c hc).2 with hnone | ⟨c₀, hc₀, hcsame⟩
    · rw [hnone] at hck
      cases hck
    rcases (hhandlers j d hd).2 with hnone | ⟨d₀, hd₀, hdsame⟩
    · rw [hnone] at hdk
      cases hdk
    exact h.exclusive i j c₀ d₀ k hc₀ hd₀ (hcsame ▸ hck) (hdsame ▸ hdk)

theorem of_handlers (h : LedgerKept s) (hsame : SameLedger s s')
    (hconns : s'.conns.map Conn.handler = s.conns.map Conn.handler) : LedgerKept s' := by
  refine h.same hsame fun i c hc => ?_
  have hi : (s.conns.map Conn.handler)[i]? = some c.handler := by
    rw [← hconns, List.getElem?_map, hc]
    rfl
  rw [List.getElem?_map, Option.map_eq_some_iff] at hi
  obtain ⟨d, hd, hdc⟩ := hi
  exact ⟨hdc ▸ h.handlers i d hd, .inr ⟨d, hd, by rw [hdc]⟩⟩

theorem setConn (h : LedgerKept s) (hsound : c'.handler.Sound s) (hexecution : c'.handler.execution = none) :
    LedgerKept (s.setConn i c') := by
  refine h.same ⟨rfl, rfl, rfl, rfl⟩ fun j d hd => ?_
  rcases getElem?_conns_set hd with ⟨-, rfl⟩ | ⟨-, hold⟩
  · exact ⟨hsound, .inl hexecution⟩
  · exact ⟨h.handlers j d hold, .inr ⟨d, hold, rfl⟩⟩

theorem setConn_same (h : LedgerKept s) (hc : s.conns[i]? = some c) (hsame : c'.handler = c.handler) :
    LedgerKept (s.setConn i c') := by
  refine h.same ⟨rfl, rfl, rfl, rfl⟩ fun j d hd => ?_
  rcases getElem?_conns_set hd with ⟨rfl, rfl⟩ | ⟨-, hold⟩
  · rw [hsame]
    exact ⟨h.handlers j c hc, .inr ⟨c, hc, rfl⟩⟩
  · exact ⟨h.handlers j d hold, .inr ⟨d, hold, rfl⟩⟩

theorem finish (h : LedgerKept s) : LedgerKept (s.finish i c) :=
  setConn (s := s.releaseControl i) (h.of_handlers ⟨rfl, rfl, rfl, rfl⟩ rfl) trivial rfl

theorem reject (h : LedgerKept s) (code : Nat) (message : String) : LedgerKept (s.reject i c code message) :=
  h.setConn (fun m hm => by rw [List.mem_singleton.mp hm]; trivial) rfl

theorem reply (h : LedgerKept s) {m : HostMessage} (hm : m.Truthful s) : LedgerKept (s.reply i c m) :=
  h.setConn (fun m' hm' => by rw [List.mem_singleton.mp hm']; exact hm) rfl

theorem execution_unique (h : LedgerKept s) {k k' : Nat} {tx tx' : Delivery} (hk : s.executions[k]? = some tx)
    (hk' : s.executions[k']? = some tx') (hid : tx.id = tx'.id) : k = k' := by
  have hmap : (s.executions.map Delivery.id)[k]? = (s.executions.map Delivery.id)[k']? := by
    rw [List.getElem?_map, List.getElem?_map, hk, hk', Option.map_some, Option.map_some, hid]
  have hlt : k < (s.executions.map Delivery.id).length := by
    rw [List.length_map]
    exact (List.getElem?_eq_some_iff.mp hk).1
  exact (List.getElem?_inj hlt h.once).mp hmap

end LedgerKept

theorem Phase.Sound.mono {s s' : RuntimeHost} {p : Phase} (h : p.Sound s)
    (hsettled : ∀ id, Settled s id → Settled s' id)
    (hexecutions : ∀ (k : Nat) (tx : Delivery), s.executions[k]? = some tx → s'.executions[k]? = some tx)
    (hown : ∀ k ∈ p.execution, written s'.pty k = written s.pty k ∧
      ∀ tx : Delivery, s.executions[k]? = some tx → Settled s' tx.id → Settled s tx.id) : p.Sound s' := by
  cases p with
  | executing k tx frame bytesWritten =>
    obtain ⟨htx, hwritten, hopen⟩ := h
    obtain ⟨hpty, hids⟩ := hown k rfl
    exact ⟨hexecutions k tx htx, hpty.trans hwritten, fun hs => hopen (hids tx htx hs)⟩
  | failing k tx bytesWritten =>
    obtain ⟨htx, hopen⟩ := h
    obtain ⟨-, hids⟩ := hown k rfl
    exact ⟨hexecutions k tx htx, fun hs => hopen (hids tx htx hs)⟩
  | answering messages close =>
    intro m hm
    have htruthful := h m hm
    cases m with
    | deliverAck id generation outcome bytesWritten => exact fun houtcome => hsettled id (htruthful houtcome)
    | _ => trivial
  | _ => trivial

namespace LedgerKept
variable {s s' : RuntimeHost} {i : Nat} {c c' : Conn}

theorem handlers_set (hconns : s'.conns = s.conns.set i c') (hsound : c'.handler.Sound s')
    (hothers : ∀ (j : Nat) (d : Conn), j ≠ i → s.conns[j]? = some d → d.handler.Sound s') :
    ∀ (j : Nat) (d : Conn), s'.conns[j]? = some d → d.handler.Sound s' := by
  intro j d hd
  rw [hconns] at hd
  rcases getElem?_conns_set hd with ⟨-, rfl⟩ | ⟨hji, hold⟩
  · exact hsound
  · exact hothers j d hji hold

theorem exclusive_set (h : LedgerKept s) (hconns : s'.conns = s.conns.set i c')
    (hown : ∀ k, c'.handler.execution = some k → ∀ (j : Nat) (d : Conn), s.conns[j]? = some d →
      d.handler.execution = some k → i = j) :
    ∀ (j l : Nat) (d e : Conn) (k : Nat), s'.conns[j]? = some d → s'.conns[l]? = some e →
      d.handler.execution = some k → e.handler.execution = some k → j = l := by
  intro j l d e k hd he hdk hek
  rw [hconns] at hd he
  rcases getElem?_conns_set hd with ⟨hji, rfl⟩ | ⟨-, hdold⟩
  · rcases getElem?_conns_set he with ⟨hli, -⟩ | ⟨-, heold⟩
    · exact hji.trans hli.symm
    · exact hji.trans (hown k hdk l e heold hek)
  · rcases getElem?_conns_set he with ⟨hli, rfl⟩ | ⟨-, heold⟩
    · exact (hli.trans (hown k hek j d hdold hdk)).symm
    · exact h.exclusive j l d e k hdold heold hdk hek

theorem execution_lt (h : LedgerKept s) {j : Nat} {d : Conn} {k : Nat} (hd : s.conns[j]? = some d)
    (hk : d.handler.execution = some k) : ∃ tx, s.executions[k]? = some tx := by
  have hsound := h.handlers j d hd
  cases hp : d.handler with
  | executing k' tx frame bytesWritten =>
    rw [hp] at hsound hk
    cases hk
    exact ⟨tx, hsound.1⟩
  | failing k' tx bytesWritten =>
    rw [hp] at hsound hk
    cases hk
    exact ⟨tx, hsound.1⟩
  | _ =>
    rw [hp] at hk
    cases hk

variable {tx : Delivery}

/-- An execution begins with a row of its own. -/
theorem reserve (h : LedgerKept s) (hnew : s.delivered.find? tx.id = none) :
    LedgerKept ({ s with
      delivered := s.delivered.put ⟨tx.id, true, false, false, 0, s.enrollment.generation⟩
      executions := s.executions ++ [tx] }.setConn i { c with handler := .executing s.executions.length tx 0 0 }) := by
  have hfind (id : String) : (s.delivered.put ⟨tx.id, true, false, false, 0, s.enrollment.generation⟩).find? id =
      (s.delivered.find? id).or
        (if tx.id = id then some ⟨tx.id, true, false, false, 0, s.enrollment.generation⟩ else none) :=
    Table.find?_put _ _ _
  have hsettled (id : String) : Settled ({ s with
      delivered := s.delivered.put ⟨tx.id, true, false, false, 0, s.enrollment.generation⟩
      executions := s.executions ++ [tx] }.setConn i
        { c with handler := .executing s.executions.length tx 0 0 }) id ↔ Settled s id := by
    unfold Settled
    change (∃ st, (s.delivered.put _).find? id = some st ∧ _) ↔ _
    rw [hfind]
    cases hold : s.delivered.find? id with
    | some st => rfl
    | none =>
      rw [Option.none_or]
      refine ⟨?_, fun ⟨st, hst, _⟩ => nomatch hst⟩
      rintro ⟨st, hst, hwritten⟩
      split_ifs at hst
      cases hst
      cases hwritten
  have hexecutions (k : Nat) (tx' : Delivery) (hk : s.executions[k]? = some tx') :
      (s.executions ++ [tx])[k]? = some tx' := by
    rw [List.getElem?_append_left (List.getElem?_eq_some_iff.mp hk).1, hk]
  have hempty : written s.pty s.executions.length = [] :=
    written_eq_nil fun w hw hk => Nat.lt_irrefl _ (h.begun w hw s.executions.length hk)
  refine ⟨?_, ?_, ?_, ?_, ?_, ?_, ?_, ?_⟩
  · change ((s.executions ++ [tx]).map Delivery.id).Nodup
    rw [List.map_append, List.map_singleton]
    refine List.Nodup.append h.once (List.nodup_singleton _) ?_
    rw [List.disjoint_singleton]
    intro hmem
    obtain ⟨tx', htx', hid⟩ := List.mem_map.mp hmem
    have hsome := h.reserved tx' htx'
    rw [hid, hnew] at hsome
    cases hsome
  · intro tx' htx'
    change ((s.delivered.put _).find? tx'.id).isSome = true
    rw [hfind]
    rcases List.mem_append.mp htx' with hold | hsame
    · rw [Option.isSome_or, h.reserved tx' hold]
      rfl
    · rw [List.mem_singleton.mp hsame, if_pos rfl, Option.isSome_or, Option.isSome_some, Bool.or_true]
  · intro k tx' hk
    change (s.executions ++ [tx])[k]? = some tx' at hk
    change written s.pty k <+: _
    rw [List.getElem?_append] at hk
    split_ifs at hk with hlt
    · exact h.partly k tx' hk
    · have hkeq : k = s.executions.length := by
        have hlast := (List.getElem?_eq_some_iff.mp hk).1
        rw [List.length_singleton] at hlast
        omega
      rw [hkeq, hempty]
      exact List.nil_prefix
  · intro w hw k hk
    change k < (s.executions ++ [tx]).length
    rw [List.length_append]
    exact Nat.lt_add_right _ (h.begun w hw k hk)
  · intro id hid
    obtain ⟨k, tx', hk, htx', hwritten⟩ := h.settled id ((hsettled id).mp hid)
    exact ⟨k, tx', hexecutions k tx' hk, htx', hwritten⟩
  · intro id outcome hack houtcome
    exact (hsettled id).mpr (h.acked id outcome hack houtcome)
  · refine handlers_set rfl ⟨?_, hempty, ?_⟩ fun j d hji hd => ?_
    · exact List.getElem?_concat_length
    · rw [hsettled]
      rintro ⟨st, hst, -⟩
      rw [hnew] at hst
      cases hst
    · exact (h.handlers j d hd).mono (fun id => (hsettled id).mpr) hexecutions
        fun k hk => ⟨rfl, fun tx' _ => (hsettled tx'.id).mp⟩
  · refine h.exclusive_set rfl fun k hk j d hd hdk => ?_
    cases hk
    obtain ⟨tx', htx'⟩ := h.execution_lt hd hdk
    exact absurd (List.getElem?_eq_some_iff.mp htx').1 (Nat.lt_irrefl _)

/-- The execution of a connection writes a piece of its frames. -/
theorem write (h : LedgerKept s) (c' : Conn) (hc : s.conns[i]? = some c) {k : Nat} (hk : c.handler.execution = some k)
    {bytes : List UInt8} (htx : s.executions[k]? = some tx)
    (hpartly : written s.pty k ++ bytes <+: tx.frames.flatten) (hopen : ¬ Settled s tx.id)
    (hsame : c'.handler.execution = some k)
    (hsound : c'.handler.Sound ({ s with pty := s.pty ++ [⟨some k, bytes⟩] } : RuntimeHost)) :
    LedgerKept (({ s with pty := s.pty ++ [⟨some k, bytes⟩] } : RuntimeHost).setConn i c') := by
  have hother {k' : Nat} (hne : k' ≠ k) : written (s.pty ++ [⟨some k, bytes⟩]) k' = written s.pty k' :=
    written_append_other fun hkk => hne (Option.some.inj hkk).symm
  refine ⟨h.once, h.reserved, ?_, ?_, ?_, h.acked, ?_, ?_⟩
  · intro k' tx' hk'
    change s.executions[k']? = some tx' at hk'
    change written (s.pty ++ _) k' <+: _
    by_cases hkk : k' = k
    · subst hkk
      rw [htx] at hk'
      cases hk'
      rw [written_append_same]
      exact hpartly
    · rw [hother hkk]
      exact h.partly k' tx' hk'
  · intro w hw k' hk'
    rcases List.mem_append.mp hw with hold | hnew
    · exact h.begun w hold k' hk'
    · rw [List.mem_singleton.mp hnew] at hk'
      cases hk'
      exact (List.getElem?_eq_some_iff.mp htx).1
  · intro id hid
    obtain ⟨k', tx', hk', htx', hwritten⟩ := h.settled id hid
    refine ⟨k', tx', hk', htx', ?_⟩
    change written (s.pty ++ _) k' = _
    rw [hother, hwritten]
    rintro rfl
    rw [htx] at hk'
    cases hk'
    rw [htx'] at hopen
    exact hopen hid
  · refine handlers_set rfl hsound fun j d hji hd => (h.handlers j d hd).mono (fun _ => id) (fun _ _ => id) ?_
    refine fun k' hk' => ⟨hother ?_, fun _ _ => id⟩
    rintro rfl
    exact hji (h.exclusive j i d c k' hd hc hk' hk)
  · refine h.exclusive_set rfl fun k' hk' j d hd hdk => ?_
    rw [hsame] at hk'
    cases hk'
    exact h.exclusive i j c d k hc hd hk hdk

theorem find?_setDelivery (s : RuntimeHost) (st : DeliveryState) (id : String) :
    (s.setDelivery st).delivered.find? id =
      (s.delivered.find? id).map fun r => if r.id = st.id then { st with id := r.id } else r := by
  have hrewrite := Table.find?_rewrite (t := s.delivered) (u := (s.setDelivery st).delivered)
    (p := fun r => r.id = st.id) (f := fun r => { st with id := r.id }) rfl (fun _ => rfl) id
  simpa only [decide_eq_true_eq] using hrewrite

theorem settled_setDelivery (s : RuntimeHost) (st : DeliveryState) (id : String) :
    Settled (s.setDelivery st) id ↔
      if id = st.id then (s.delivered.find? id).isSome = true ∧ st.written = true else Settled s id := by
  unfold Settled
  rw [find?_setDelivery]
  cases hold : s.delivered.find? id with
  | none =>
    rw [Option.map_none]
    by_cases hid : id = st.id
    · rw [if_pos hid]
      constructor
      · rintro ⟨_, hst', _⟩
        cases hst'
      · rintro ⟨hsome, _⟩
        cases hsome
    · rw [if_neg hid]
  | some r =>
    have hrid : r.id = id := (Table.find?_some hold).2
    rw [Option.map_some, hrid]
    split_ifs with hid
    · exact ⟨fun ⟨st', hst', hw⟩ => ⟨rfl, by cases hst'; exact hw⟩, fun hsome => ⟨_, rfl, hsome.2⟩⟩
    · rfl

/-- An execution ends, and its row says what has become of it. -/
theorem close (h : LedgerKept s) (hc : s.conns[i]? = some c) {k : Nat} (hk : c.handler.execution = some k)
    (htx : s.executions[k]? = some tx) (hopen : ¬ Settled s tx.id) {st : DeliveryState}
    (hid : st.id = tx.id) (hall : st.written = true → written s.pty k = tx.frames.flatten)
    (hnone : c'.handler.execution = none) (hsound : c'.handler.Sound (s.setDelivery st)) :
    LedgerKept ((s.setDelivery st).setConn i c') := by
  have hfind : (s.delivered.find? tx.id).isSome = true := h.reserved tx (List.mem_of_getElem? htx)
  have hmore (id : String) (hs : Settled s id) : Settled (s.setDelivery st) id := by
    rw [settled_setDelivery, if_neg]
    · exact hs
    · rintro rfl
      exact hopen (hid ▸ hs)
  have hother {tx' : Delivery} {k' : Nat} (hk' : s.executions[k']? = some tx') (hne : k' ≠ k)
      (hs : Settled (s.setDelivery st) tx'.id) : Settled s tx'.id := by
    rw [settled_setDelivery, if_neg] at hs
    · exact hs
    · intro hsame
      exact hne (h.execution_unique hk' htx (hsame.trans hid))
  refine ⟨h.once, ?_, h.partly, h.begun, ?_, ?_, ?_, ?_⟩
  · intro tx' htx'
    change ((s.setDelivery st).delivered.find? tx'.id).isSome = true
    rw [find?_setDelivery, Option.isSome_map]
    exact h.reserved tx' htx'
  · intro id hs
    change Settled (s.setDelivery st) id at hs
    rw [settled_setDelivery] at hs
    split_ifs at hs with hsame
    · exact ⟨k, tx, htx, (hsame.trans hid).symm, hall hs.2⟩
    · exact h.settled id hs
  · exact fun id outcome hack houtcome => hmore id (h.acked id outcome hack houtcome)
  · refine handlers_set rfl hsound fun j d hji hd => ?_
    refine (h.handlers j d hd).mono hmore (fun _ _ => id) fun k' hk' => ⟨rfl, fun tx' htx' => hother htx' ?_⟩
    rintro rfl
    exact hji (h.exclusive j i d c k' hd hc hk' hk)
  · refine h.exclusive_set rfl fun k' hk' => ?_
    rw [hnone] at hk'
    cases hk'

theorem greeting_sound (s : RuntimeHost) (cursor : Nat) : (s.greeting cursor).Sound s := by
  unfold RuntimeHost.greeting
  split
  · intro m hm
    rw [List.mem_singleton.mp hm]
    trivial
  · intro m hm
    rw [List.cons_append] at hm
    rcases List.mem_cons.mp hm with rfl | hm
    · trivial
    rcases List.mem_append.mp hm with houtput | hexit
    · have hisOutput := isOutput_of_mem houtput
      cases m with
      | output _ _ => trivial
      | _ => cases hisOutput
    · obtain ⟨code, -, rfl⟩ := List.mem_map.mp hexit
      trivial

theorem claim (h : LedgerKept s) (hello : HelloEnvelope) : LedgerKept (s.claim i c hello) := by
  have hregistered : LedgerKept (s.setConn i { c with
      client := some ⟨hello.wantControl, [], 0, hello.actions, hello.expiry⟩
      handler := s.greeting hello.cursor }) := h.setConn (greeting_sound s hello.cursor) (by
    change (s.greeting hello.cursor).execution = none
    unfold RuntimeHost.greeting
    split <;> rfl)
  unfold RuntimeHost.claim
  split_ifs
  · exact h.reject _ _
  · exact h.reject _ _
  · exact hregistered.of_handlers ⟨rfl, rfl, rfl, rfl⟩ rfl
  · exact hregistered

theorem input (h : LedgerKept s) (bytes : List UInt8) :
    LedgerKept ({ s with pty := s.pty ++ [⟨none, bytes⟩] } : RuntimeHost) := by
  have hwritten (k : Nat) : written (s.pty ++ [⟨none, bytes⟩]) k = written s.pty k :=
    written_append_other (fun hk => nomatch hk)
  refine ⟨h.once, h.reserved, ?_, ?_, ?_, h.acked, ?_, h.exclusive⟩
  · intro k tx hk
    rw [hwritten]
    exact h.partly k tx hk
  · intro w hw k hk
    rcases List.mem_append.mp hw with hold | hnew
    · exact h.begun w hold k hk
    · rw [List.mem_singleton.mp hnew] at hk
      cases hk
  · intro id hid
    obtain ⟨k, tx, hk, htx, hall⟩ := h.settled id hid
    exact ⟨k, tx, hk, htx, (hwritten k).trans hall⟩
  · intro j d hd
    exact (h.handlers j d hd).mono (fun _ => id) (fun _ _ => id) fun k _ => ⟨hwritten k, fun _ _ => id⟩

/-- The next frame of an execution is written, and only so much of it when the write fails. -/
theorem execute (h : LedgerKept s) (hc : s.conns[i]? = some c) {k : Nat} {frame bytesWritten : Nat}
    (hhandler : c.handler = .executing k tx frame bytesWritten) (failure : Option Nat) :
    LedgerKept (s.execute i c k tx frame bytesWritten failure) := by
  have hsound := h.handlers i c hc
  rw [hhandler] at hsound
  obtain ⟨htx, hwritten, hopen⟩ := hsound
  have hk : c.handler.execution = some k := by rw [hhandler]; rfl
  have hfirst (n : Nat) : (tx.frames.take n).flatten <+: tx.frames.flatten := by
    refine ⟨(tx.frames.drop n).flatten, ?_⟩
    rw [← List.flatten_append, List.take_append_drop]
  unfold RuntimeHost.execute
  split
  case h_1 hframe =>
    have hall : tx.frames.take frame = tx.frames := List.take_of_length_le (List.getElem?_eq_none_iff.mp hframe)
    rw [hall] at hwritten
    refine h.close hc hk htx hopen rfl (fun _ => hwritten) rfl fun m hm => ?_
    rw [List.mem_singleton.mp hm]
    intro _
    rw [settled_setDelivery, if_pos rfl]
    exact ⟨h.reserved tx (List.mem_of_getElem? htx), rfl⟩
  case h_2 bytes hframe =>
    have hnext : (tx.frames.take (frame + 1)).flatten = (tx.frames.take frame).flatten ++ bytes := by
      rw [List.take_add_one, hframe, List.flatten_append]
      simp
    split_ifs
    · exact h.reject _ _
    cases failure with
    | none =>
      have hpartly : written s.pty k ++ bytes <+: tx.frames.flatten := by
        rw [hwritten, ← hnext]
        exact hfirst _
      have hsound' : (Phase.executing k tx (frame + 1) (bytesWritten + bytes.length)).Sound
          ({ s with pty := s.pty ++ [⟨some k, bytes⟩] } : RuntimeHost) := by
        refine ⟨htx, ?_, hopen⟩
        rw [hnext, written_append_same, hwritten]
      exact h.write { c with handler := .executing k tx (frame + 1) (bytesWritten + bytes.length) }
        hc hk htx hpartly hopen rfl hsound'
    | some n =>
      have hpartly : written s.pty k ++ bytes.take n <+: tx.frames.flatten := by
        have hfront : written s.pty k ++ bytes.take n <+: (tx.frames.take (frame + 1)).flatten := by
          rw [hwritten, hnext, List.prefix_append_right_inj]
          exact List.take_prefix n bytes
        exact hfront.trans (hfirst _)
      exact h.write { c with handler := .failing k tx (bytesWritten + (bytes.take n).length) }
        hc hk htx hpartly hopen rfl ⟨htx, hopen⟩

theorem answer (h : LedgerKept s) {messages : List HostMessage} {close : Bool}
    (hsound : ∀ m ∈ messages, m.Truthful s) (failure : Option Nat) :
    LedgerKept (s.answer i c messages close failure) := by
  cases messages with
  | nil =>
    unfold RuntimeHost.answer
    simp only
    split_ifs
    · exact h.finish
    · exact h.setConn trivial rfl
  | cons m rest =>
    have hrecorded : LedgerKept (s.recordAck m) := by
      cases m with
      | deliverAck id generation outcome bytesWritten =>
        refine ⟨h.once, h.reserved, h.partly, h.begun, h.settled, fun id' outcome' hack houtcome => ?_, h.handlers,
          h.exclusive⟩
        rcases List.mem_append.mp hack with hold | hnew
        · exact h.acked id' outcome' hold houtcome
        · cases List.mem_singleton.mp hnew
          exact hsound _ (List.mem_cons_self ..) houtcome
      | _ => exact h
    have hsame : SameLedger (s.recordAck m) { s with acks := (s.recordAck m).acks } := by
      cases m <;> exact ⟨rfl, rfl, rfl, rfl⟩
    have hrest (close : Bool) : (Phase.answering rest close).Sound (s.recordAck m) := by
      have h : (Phase.answering rest close).Sound { s with acks := (s.recordAck m).acks } :=
        fun m hm => hsound m (List.mem_cons_of_mem _ hm)
      exact (hsame.sound _).mp h
    unfold RuntimeHost.answer
    simp only
    split_ifs
    · exact hrecorded.setConn (hrest close) rfl
    · exact hrecorded.setConn (fun _ hm => (List.not_mem_nil hm).elim) rfl
    · exact hrecorded.setConn (hrest close) rfl

theorem advance (h : LedgerKept s) (hc : s.conns[i]? = some c) (now : Int) (failure : Option Nat)
    (hasked : ∀ tx ∈ c.handler.lookedUp, ∀ st ∈ s.delivered.find? tx.id, st.written = true) :
    LedgerKept (s.advance i c now failure) := by
  have hsound := h.handlers i c hc
  have hduplicate {tx : Delivery} {st : DeliveryState} (htx : c.handler.lookedUp = some tx)
      (hst : s.delivered.find? tx.id = some st) : (RuntimeHost.deliveryAck st true).Truthful s := by
    intro _
    rw [(Table.find?_some hst).2]
    exact ⟨st, hst, hasked tx htx st hst⟩
  unfold RuntimeHost.advance
  split
  case h_1 => exact h
  case h_2 hello hhandler =>
    unfold RuntimeHost.verifyHello
    split_ifs
    · exact h.reject _ _
    · exact h.setConn trivial rfl
  case h_3 hello renewing hhandler =>
    unfold RuntimeHost.lookUpHello
    split_ifs
    · exact h.reject _ _
    · exact h.setConn trivial rfl
  case h_4 hello renewing busy hhandler =>
    have hrecorded : LedgerKept { s with seenHello := s.seenHello ++ [hello.id] } :=
      h.of_handlers ⟨rfl, rfl, rfl, rfl⟩ rfl
    unfold RuntimeHost.recordHello
    split_ifs
    · exact h.reject _ _
    · exact hrecorded.setConn trivial rfl
  case h_5 hello renewing busy hhandler =>
    have hack (m : HostMessage) (hm : m ∈ [s.helloAck s.ring.total s.ring.total false]) : m.Truthful s := by
      rw [List.mem_singleton.mp hm]
      trivial
    cases renewing with
    | some controller =>
      simp only [RuntimeHost.proceedHello]
      split_ifs
      · exact h.reject _ _
      · exact h.reject _ _
      · exact h.setConn hack rfl
    | none =>
      simp only [RuntimeHost.proceedHello]
      split_ifs
      · exact h.reject _ _
      · exact h.reject _ _
      · exact h.reject _ _
      · exact h.setConn trivial rfl
  case h_6 hello hhandler => exact h.claim hello
  case h_7 tx hhandler =>
    unfold RuntimeHost.checkDelivery
    split_ifs
    · exact h.reject _ _
    split
    · exact h.reject _ _
    · exact h.setConn trivial rfl
  case h_8 tx hhandler =>
    unfold RuntimeHost.countDelivery
    split
    case h_1 prior hprior => exact h.reply (hduplicate (by rw [hhandler]; rfl) hprior)
    split_ifs
    · exact h.reject _ _
    · exact h.setConn trivial rfl
  case h_9 tx hhandler =>
    unfold RuntimeHost.reserve
    split
    case h_1 prior hprior => exact h.reply (hduplicate (by rw [hhandler]; rfl) hprior)
    case h_2 hnew => exact h.reserve hnew
  case h_10 k tx frame bytesWritten hhandler => exact h.execute hc hhandler failure
  case h_11 k tx bytesWritten hhandler =>
    rw [hhandler] at hsound
    obtain ⟨htx, hopen⟩ := hsound
    exact h.close hc (by rw [hhandler]; rfl) htx hopen rfl (fun hw => nomatch hw) rfl
      fun _ hm => (List.not_mem_nil hm).elim
  case h_12 messages close hhandler =>
    rw [hhandler] at hsound
    exact h.answer hsound failure

theorem handle (h : LedgerKept s) (now : Int) (fails : Bool) (frame : ClientFrame) :
    LedgerKept (s.handle i c now fails frame) := by
  have hgreeted (hello : HelloEnvelope) : LedgerKept (s.setConn i { c with handler := .greeted hello }) :=
    h.setConn trivial rfl
  unfold RuntimeHost.handle
  split
  · exact hgreeted _
  cases hclient : c.client with
  | none => exact h.reject _ _
  | some client =>
    simp only
    split_ifs
    · exact h.reject _ _
    cases frame with
    | hello hello => exact hgreeted hello
    | input bytes =>
      have hwrote := h.input bytes
      rw [RuntimeHost.handleFrame]
      split_ifs <;> first | exact h.reject _ _ | exact hwrote
    | resize columns rows =>
      rw [RuntimeHost.handleFrame]
      split_ifs <;> first | exact h.reject _ _ | exact h
    | signal payload =>
      rw [RuntimeHost.handleFrame]
      split_ifs <;> first | exact h.reject _ _ | exact h
    | terminate =>
      have hterminated : LedgerKept { s with terminated := true } := h.of_handlers ⟨rfl, rfl, rfl, rfl⟩ rfl
      rw [RuntimeHost.handleFrame]
      split_ifs <;> first | exact h.reject _ _ | exact hterminated.reply trivial
    | deliverMessage tx =>
      have hrequested : LedgerKept (s.setConn i { c with handler := .requested tx }) := h.setConn trivial rfl
      rw [RuntimeHost.handleFrame]
      split_ifs <;> first | exact h.reject _ _ | exact hrequested
    | ping => exact h.reply trivial
    | wipe =>
      have hwiped : LedgerKept { s with secret := [], wiped := true } := h.of_handlers ⟨rfl, rfl, rfl, rfl⟩ rfl
      exact hwiped.reply trivial
    | other => exact h.reject _ _

theorem enqueueAll (h : LedgerKept s) (messages : List HostMessage) :
    LedgerKept (messages.foldl RuntimeHost.enqueueAll s) := by
  induction messages generalizing s with
  | nil => exact h
  | cons m messages ih =>
    refine ih (h.of_handlers ⟨rfl, rfl, rfl, rfl⟩ ?_)
    change (s.conns.map (RuntimeHost.Conn.enqueue m)).map Conn.handler = _
    rw [List.map_map]
    refine List.map_congr_left fun c _ => ?_
    unfold Function.comp RuntimeHost.Conn.enqueue
    split
    · rfl
    · split_ifs <;> rfl

theorem step (h : LedgerKept s) (e : RuntimeHost.HostEvent) (hasked : AskedAfter s e) : LedgerKept (s.step e) := by
  have onConn {i : Nat} {f : Conn → RuntimeHost} (hf : ∀ c, s.conns[i]? = some c → LedgerKept (f c)) :
      LedgerKept (s.onConn i f) := by
    unfold RuntimeHost.onConn
    cases hc : s.conns[i]? with
    | none => exact h
    | some c => exact hf c hc
  cases e with
  | accept =>
    refine h.same ⟨rfl, rfl, rfl, rfl⟩ fun j d hd => ?_
    change (s.conns ++ [⟨true, true, none, .idle, .idle, []⟩])[j]? = some d at hd
    rw [List.getElem?_append] at hd
    split_ifs at hd
    · exact ⟨h.handlers j d hd, .inr ⟨d, hd, rfl⟩⟩
    · rw [List.mem_singleton.mp (List.mem_of_getElem? hd)]
      exact ⟨trivial, .inl rfl⟩
  | request i now fails frame =>
    refine onConn fun c hc => ?_
    split_ifs
    · exact h.handle now fails frame
    · exact h
  | advance i now failure => exact onConn fun c hc => h.advance hc now failure (hasked c hc)
  | hangUp i =>
    refine onConn fun c hc => ?_
    split_ifs
    · exact h.finish
    · exact h
  | malformed i code =>
    refine onConn fun c hc => ?_
    split_ifs
    · exact h.reject _ _
    · exact h
  | produce data =>
    have hproduced : LedgerKept { s with ring := s.ring.append data, produced := s.produced ++ data } :=
      h.of_handlers ⟨rfl, rfl, rfl, rfl⟩ rfl
    rw [RuntimeHost.step]
    split_ifs
    · exact h
    · exact hproduced.enqueueAll _
  | exit code =>
    have hexited : LedgerKept { s with exited := some code } := h.of_handlers ⟨rfl, rfl, rfl, rfl⟩ rfl
    rw [RuntimeHost.step]
    split_ifs
    · exact h
    · exact hexited.enqueueAll [.exit code]
  | take i =>
    refine onConn fun c hc => ?_
    unfold RuntimeHost.take
    split
    · split_ifs
      · exact h
      · exact h.setConn_same hc rfl
    · exact h
  | write i failure =>
    refine onConn fun c hc => ?_
    unfold RuntimeHost.writeChunk
    split
    · cases failure with
      | none =>
        simp only
        split_ifs <;> exact h.setConn_same hc rfl
      | some k => exact h.setConn_same hc rfl
    · exact h
  | settle i =>
    have hreleased : LedgerKept (s.releaseControl i) := h.of_handlers ⟨rfl, rfl, rfl, rfl⟩ rfl
    refine onConn fun c hc => ?_
    unfold RuntimeHost.settleChunk
    split
    · exact h.setConn_same hc rfl
    · split_ifs
      · exact hreleased.setConn_same hc rfl
      · exact h.setConn_same hc rfl
    · exact h

theorem initial (enrollment : HostEnrollment) (ringBytes : Nat) (secret : List UInt8) :
    LedgerKept (RuntimeHost.initial enrollment ringBytes secret) where
  once := List.nodup_nil
  reserved _ hm := (List.not_mem_nil hm).elim
  partly _ _ hk := nomatch hk
  begun _ hm := (List.not_mem_nil hm).elim
  settled _ hs := nomatch hs
  acked _ _ hm := (List.not_mem_nil hm).elim
  handlers _ _ hc := nomatch hc
  exclusive _ _ _ _ _ hc := nomatch hc

end LedgerKept

/-- While a delivery is asked for again only after it has been written, deliveries are executed at most once and
acknowledged as they are. -/
theorem deliveries_honest (enrollment : HostEnrollment) (ringBytes : Nat) (secret : List UInt8)
    {events : List RuntimeHost.HostEvent}
    (h : Trace.Meets RuntimeHost.step AskedAfter (.initial enrollment ringBytes secret) events) :
    Honest (Trace.run RuntimeHost.step (.initial enrollment ringBytes secret) events) :=
  LedgerKept.honest (Trace.invariant_run (I := LedgerKept) (fun _ e hs hasked => hs.step e hasked)
    (.initial enrollment ringBytes secret) h)

namespace Sample

def courier (id : String) : HelloEnvelope :=
  ⟨"roomsd", "runtime", "session", "runtime", "authority", 1, ["observe", "deliverMessage"], 1000, id, 0, [7]⟩

/-- A client registers, and is answered. -/
def attach (i : Nat) (id : String) : List RuntimeHost.HostEvent :=
  [.accept, .request i 0 false (.hello (courier id)), .advance i 0 none, .advance i 0 none, .advance i 0 none,
    .advance i 0 none, .advance i 0 none, .advance i 0 none, .advance i 0 none]

def note : Delivery := ⟨"d", [[104, 105]], [0]⟩

def ask (i : Nat) : List RuntimeHost.HostEvent :=
  [.request i 0 false (.deliverMessage (some note)), .advance i 0 none, .advance i 0 none, .advance i 0 none]

/-- A second client asks for a delivery that the first has begun, or that it has finished. -/
def askedWhile : List RuntimeHost.HostEvent := attach 0 "a" ++ attach 1 "b" ++ ask 0 ++ ask 1

def askedAgain : List RuntimeHost.HostEvent :=
  attach 0 "a" ++ attach 1 "b" ++ ask 0 ++ [.advance 0 0 none, .advance 0 0 none, .advance 0 0 none] ++ ask 1

end Sample

theorem deliveries_honest_again :
    Trace.Meets RuntimeHost.step AskedAfter (.initial ⟨"session", "runtime", "authority", 1⟩ 4 [7]) Sample.askedAgain ∧
      Honest (Trace.run RuntimeHost.step (.initial ⟨"session", "runtime", "authority", 1⟩ 4 [7]) Sample.askedAgain) := by
  have hasked : Trace.Meets RuntimeHost.step AskedAfter (.initial ⟨"session", "runtime", "authority", 1⟩ 4 [7])
      Sample.askedAgain := by
    decide +kernel
  exact ⟨hasked, deliveries_honest ⟨"session", "runtime", "authority", 1⟩ 4 [7] hasked⟩

theorem duplicate_while_in_progress : ¬ ∀ enrollment ringBytes secret events,
    Honest (Trace.run RuntimeHost.step (.initial enrollment ringBytes secret) events) := by
  intro h
  have hhonest := h ⟨"session", "runtime", "authority", 1⟩ 4 [7] Sample.askedWhile
  have hack : ("d", DeliveryOutcome.duplicate) ∈
      (Trace.run RuntimeHost.step (.initial ⟨"session", "runtime", "authority", 1⟩ 4 [7]) Sample.askedWhile).acks := by
    decide +kernel
  have hopen : ((Trace.run RuntimeHost.step (.initial ⟨"session", "runtime", "authority", 1⟩ 4 [7])
      Sample.askedWhile).delivered.find? "d").all (fun st => !st.written) = true := by
    decide +kernel
  obtain ⟨⟨st, hst, hwritten⟩, -⟩ := hhonest.acked "d" .duplicate hack (by decide)
  rw [hst, Option.all_some, hwritten] at hopen
  cases hopen

end Wardroom.Runtime.Host
