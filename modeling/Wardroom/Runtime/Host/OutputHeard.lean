import Wardroom.Runtime.Host.Server

/-! # What a client hears

The messages of a connection are followed one by one: from its acknowledgement
on a client expects the output byte after byte.
-/

namespace Wardroom.Runtime.Host
open Wardroom.Library

/-- The cursor that a client expects after a message, if the message is in its place. A renewal is acknowledged where
the output has got to. -/
def follow (produced : List UInt8) : Option Nat → HostMessage → Option (Option Nat)
  | none, .helloAck _ _ replayFrom _ _ => some (some replayFrom)
  | some cursor, .helloAck _ _ replayFrom _ _ => if replayFrom = cursor then some (some cursor) else none
  | some cursor, .output at' bytes =>
    if at' = cursor ∧ bytes = (produced.drop cursor).take bytes.length then some (some (cursor + bytes.length))
    else none
  | some cursor, _ => some (some cursor)
  | none, .error _ _ => some none
  | none, _ => none

def heard (produced : List UInt8) (expected : Option Nat) (messages : List HostMessage) : Option (Option Nat) :=
  messages.foldlM (follow produced) expected

def outputBytes (messages : List HostMessage) : List UInt8 :=
  messages.flatMap fun | .output _ bytes => bytes | _ => []

def HostMessage.isHelloAck : HostMessage → Bool
  | .helloAck _ _ _ _ _ => true
  | _ => false

def HostMessage.isError : HostMessage → Bool
  | .error _ _ => true
  | _ => false

def Phase.pending : Phase → List HostMessage
  | .answering messages _ => messages
  | _ => []

def WriterPhase.chunk : WriterPhase → List HostMessage
  | .writing chunk => chunk
  | _ => []

/-- Clients get the acknowledgement first, and then the output from its cursor on, renewals or not. -/
structure InOrder (s : RuntimeHost) : Prop where
  heard : ∀ c ∈ s.conns, ∃ expected, heard s.produced none c.received = some expected
  first : ∀ c ∈ s.conns, ∀ before message after, c.received = before ++ message :: after →
    (∀ m ∈ before, m.isHelloAck = false) → message.isHelloAck = true ∨ message.isError = true
  stream : ∀ c ∈ s.conns, ∀ before version generation replayFrom head gap after,
    c.received = before ++ .helloAck version generation replayFrom head gap :: after →
    outputBytes after = (s.produced.drop replayFrom).take (outputBytes after).length
  complete : ∀ c ∈ s.conns, c.opened = true → ∀ client, c.client = some client → client.queue = [] →
    c.writer = .idle → c.handler = .idle → Host.heard s.produced none c.received = some (some s.produced.length)

/-- The next step is to renew. -/
def Phase.renews : Phase → Bool
  | .recorded h (some controller) _ => controller = h.wantControl
  | _ => false

/-- A HELLO of the connection has been answered, to the last message. -/
def Conn.Greeted (c : Conn) : Prop :=
  (∀ m ∈ c.handler.pending, m.isHelloAck = false ∧ m.isOutput = false) ∧ ∃ m ∈ c.received, m.isHelloAck = true

instance (c : Conn) : Decidable c.Greeted := inferInstanceAs (Decidable (_ ∧ _))

/-- The writer of a connection writes nothing while a HELLO is being answered, and a renewal takes its cursor
when the client has been sent all its output. -/
def Paced (s : RuntimeHost) : RuntimeHost.HostEvent → Prop
  | .write i _ => ∀ c ∈ s.conns[i]?, c.opened = true → c.writer.chunk ≠ [] → c.Greeted
  | .advance i _ _ => ∀ c ∈ s.conns[i]?, c.opened = true → c.handler.renews = true →
    ∀ client ∈ c.client, ∀ m ∈ c.writer.chunk ++ client.queue, m.isOutput = false
  | _ => True

instance (s : RuntimeHost) : ∀ e, Decidable (Paced s e)
  | .write i _ => inferInstanceAs (Decidable (∀ c ∈ s.conns[i]?, _ → _ → _))
  | .advance i _ _ => inferInstanceAs (Decidable (∀ c ∈ s.conns[i]?, _ → _ → ∀ client ∈ c.client, ∀ m ∈ _, _))
  | .accept | .request .. | .hangUp _ | .malformed .. | .produce _ | .exit _ | .take _ |
    .settle _ => isTrue trivial

section Heard
variable {produced more : List UInt8} {expected expected' : Option Nat} {messages messages' : List HostMessage}
  {cursor : Nat}

@[simp] theorem heard_nil : heard produced expected [] = some expected := rfl

theorem heard_cons (m : HostMessage) :
    heard produced expected (m :: messages) = (follow produced expected m).bind fun e => heard produced e messages := by
  unfold heard
  rw [List.foldlM_cons]
  rfl

theorem heard_append :
    heard produced expected (messages ++ messages') =
      (heard produced expected messages).bind fun e => heard produced e messages' := by
  unfold heard
  rw [List.foldlM_append]
  rfl

theorem heard_append_of (h : heard produced expected messages = some expected') :
    heard produced expected (messages ++ messages') = heard produced expected' messages' := by
  rw [heard_append, h]
  rfl

variable {m : HostMessage}

theorem follow_more (h : follow produced expected m = some expected') :
    follow (produced ++ more) expected m = some expected' := by
  cases expected with
  | none => cases m <;> exact h
  | some cursor =>
    cases m with
    | output at' bytes =>
      simp only [follow] at h ⊢
      split_ifs at h with hplace
      obtain ⟨hcursor, hbytes⟩ := hplace
      have hbytes' : bytes = ((produced ++ more).drop cursor).take bytes.length := by
        have hlength := congrArg List.length hbytes
        rw [List.length_take, List.length_drop] at hlength
        rcases Nat.le_total cursor produced.length with hle | hle
        · rw [List.drop_append_of_le_length hle, List.take_append_of_le_length (by rw [List.length_drop]; omega)]
          exact hbytes
        · have hnil : bytes = [] := List.length_eq_zero_iff.mp (by omega)
          rw [hnil]
          rfl
      rw [if_pos ⟨hcursor, hbytes'⟩]
      exact h
    | helloAck _ _ _ _ _ => exact h
    | exit _ => exact h
    | error _ _ => exact h
    | pong => exact h
    | wipeAck => exact h
    | deliverAck _ _ _ _ => exact h
    | terminateAck => exact h

theorem heard_more (h : heard produced expected messages = some expected') :
    heard (produced ++ more) expected messages = some expected' := by
  induction messages generalizing expected with
  | nil => exact h
  | cons m messages ih =>
    rw [heard_cons, Option.bind_eq_some_iff] at h
    obtain ⟨e, hfollow, hrest⟩ := h
    rw [heard_cons, follow_more hfollow]
    exact ih hrest

theorem follow_isSome (h : follow produced (some cursor) m = some expected') :
    expected'.isSome = true := by
  cases m with
  | output at' bytes =>
    simp only [follow] at h
    split_ifs at h
    cases h
    rfl
  | helloAck _ _ _ _ _ =>
    simp only [follow] at h
    split_ifs at h
    cases h
    rfl
  | exit _ => cases h; rfl
  | error _ _ => cases h; rfl
  | pong => cases h; rfl
  | wipeAck => cases h; rfl
  | deliverAck _ _ _ _ => cases h; rfl
  | terminateAck => cases h; rfl

theorem heard_isSome (h : heard produced (some cursor) messages = some expected') : expected'.isSome = true := by
  induction messages generalizing cursor with
  | nil => cases h; rfl
  | cons m messages ih =>
    rw [heard_cons, Option.bind_eq_some_iff] at h
    obtain ⟨e, hfollow, hrest⟩ := h
    obtain ⟨cursor', rfl⟩ := Option.isSome_iff_exists.mp (follow_isSome hfollow)
    exact ih hrest

theorem follow_none (h : follow produced none m = some expected') :
    m.isHelloAck = true ∧ expected'.isSome = true ∨ m.isError = true ∧ expected' = none := by
  cases m with
  | helloAck _ _ _ _ _ => cases h; exact .inl ⟨rfl, rfl⟩
  | error _ _ => cases h; exact .inr ⟨rfl, rfl⟩
  | output _ _ => cases h
  | exit _ => cases h
  | pong => cases h
  | wipeAck => cases h
  | deliverAck _ _ _ _ => cases h
  | terminateAck => cases h

theorem heard_none (h : heard produced none messages = some none) : ∀ m ∈ messages, m.isError = true := by
  induction messages with
  | nil => exact fun m hm => (List.not_mem_nil hm).elim
  | cons m messages ih =>
    rw [heard_cons, Option.bind_eq_some_iff] at h
    obtain ⟨e, hfollow, hrest⟩ := h
    rcases follow_none hfollow with ⟨-, hsome⟩ | ⟨herror, rfl⟩
    · obtain ⟨cursor, rfl⟩ := Option.isSome_iff_exists.mp hsome
      cases heard_isSome hrest
    · intro m' hm'
      rcases List.mem_cons.mp hm' with rfl | hmem
      · exact herror
      · exact ih hrest m' hmem

theorem heard_first {before after : List HostMessage}
    (h : heard produced none (before ++ m :: after) = some expected) (hbefore : ∀ m ∈ before, m.isHelloAck = false) :
    m.isHelloAck = true ∨ m.isError = true := by
  induction before with
  | nil =>
    rw [List.nil_append, heard_cons, Option.bind_eq_some_iff] at h
    obtain ⟨e, hfollow, -⟩ := h
    exact (follow_none hfollow).imp And.left And.left
  | cons m' before ih =>
    rw [List.cons_append, heard_cons, Option.bind_eq_some_iff] at h
    obtain ⟨e, hfollow, hrest⟩ := h
    rcases follow_none hfollow with ⟨hack, -⟩ | ⟨-, rfl⟩
    · rw [hbefore m' (List.mem_cons_self ..)] at hack
      cases hack
    · exact ih hrest fun m hm => hbefore m (List.mem_cons_of_mem _ hm)

theorem follow_neutral (hack : m.isHelloAck = false) (houtput : m.isOutput = false) :
    follow produced (some cursor) m = some (some cursor) := by
  cases m with
  | output _ _ => cases houtput
  | helloAck _ _ _ _ _ => cases hack
  | exit _ => rfl
  | error _ _ => rfl
  | pong => rfl
  | wipeAck => rfl
  | deliverAck _ _ _ _ => rfl
  | terminateAck => rfl

theorem heard_neutral (h : ∀ m ∈ messages, m.isHelloAck = false ∧ m.isOutput = false) :
    heard produced (some cursor) messages = some (some cursor) := by
  induction messages with
  | nil => rfl
  | cons m messages ih =>
    obtain ⟨hack, houtput⟩ := h m (List.mem_cons_self ..)
    rw [heard_cons, follow_neutral hack houtput]
    exact ih fun m hm => h m (List.mem_cons_of_mem _ hm)

theorem follow_still (h : follow produced (some cursor) m = some expected')
    (houtput : m.isOutput = false) : expected' = some cursor := by
  cases hack : m.isHelloAck with
  | false => exact (Option.some.inj ((follow_neutral hack houtput).symm.trans h)).symm
  | true =>
    cases m with
    | helloAck _ _ _ _ _ =>
      simp only [follow] at h
      split_ifs at h
      exact (Option.some.inj h).symm
    | _ => cases hack

theorem heard_bytes (h : heard produced (some cursor) messages = some expected) :
    expected = some (cursor + (outputBytes messages).length) ∧
      outputBytes messages = (produced.drop cursor).take (outputBytes messages).length := by
  induction messages generalizing cursor with
  | nil => cases h; exact ⟨rfl, rfl⟩
  | cons m messages ih =>
    rw [heard_cons, Option.bind_eq_some_iff] at h
    obtain ⟨e, hfollow, htail⟩ := h
    by_cases houtput : m.isOutput = true
    · obtain ⟨at', bytes, rfl⟩ : ∃ at' bytes, m = .output at' bytes := by
        cases m <;> first | exact ⟨_, _, rfl⟩ | cases houtput
      simp only [follow] at hfollow
      split_ifs at hfollow with hplace
      cases hfollow
      obtain ⟨hexpected, hbytes⟩ := ih htail
      have hcons : outputBytes (.output at' bytes :: messages) = bytes ++ outputBytes messages := rfl
      rw [hcons, List.length_append]
      refine ⟨by rw [hexpected, Nat.add_assoc], ?_⟩
      rw [List.take_add, ← hplace.2, List.drop_drop, ← hbytes]
    · rw [Bool.not_eq_true] at houtput
      obtain rfl := follow_still hfollow houtput
      have hcons : outputBytes (m :: messages) = outputBytes messages := by
        cases m <;> first | rfl | cases houtput
      rw [hcons]
      exact ih htail

theorem heard_outputFrames (bytes : List UInt8) (hbytes : bytes <+: produced.drop cursor) :
    heard produced (some cursor) (outputFrames cursor bytes) = some (some (cursor + bytes.length)) := by
  have hall : ∀ (fuel cursor : Nat) (bytes : List UInt8), bytes.length ≤ fuel → bytes <+: produced.drop cursor →
      heard produced (some cursor) (takeOutput fuel cursor bytes) = some (some (cursor + bytes.length)) := by
    intro fuel
    induction fuel with
    | zero =>
      intro cursor bytes hfuel _
      rw [List.length_eq_zero_iff.mp (Nat.le_zero.mp hfuel)]
      rfl
    | succ fuel ih =>
      intro cursor bytes hfuel hprefix
      unfold takeOutput
      split_ifs with hnil
      · rw [hnil]
        rfl
      have hpos : 0 < bytes.length := List.length_pos_iff.mpr hnil
      have hsplit : (bytes.take (MaxFrame - 9)).length + (bytes.drop (MaxFrame - 9)).length = bytes.length := by
        rw [← List.length_append, List.take_append_drop]
      have hshort : (bytes.drop (MaxFrame - 9)).length ≤ fuel := by
        rw [List.length_drop]
        unfold MaxFrame
        omega
      have hfront : bytes.take (MaxFrame - 9) <+: produced.drop cursor := (List.take_prefix _ _).trans hprefix
      have hback : bytes.drop (MaxFrame - 9) <+: produced.drop (cursor + (bytes.take (MaxFrame - 9)).length) := by
        obtain ⟨rest, hrest⟩ := hprefix
        refine ⟨rest, ?_⟩
        rw [← List.drop_drop, ← hrest, List.drop_append_of_le_length (List.length_take_le' _ _)]
        congr 1
        rw [List.length_take, List.drop_eq_drop_iff]
        omega
      have hfollow : follow produced (some cursor) (.output cursor (bytes.take (MaxFrame - 9))) =
          some (some (cursor + (bytes.take (MaxFrame - 9)).length)) :=
        if_pos ⟨rfl, List.prefix_iff_eq_take.mp hfront⟩
      rw [heard_cons, hfollow, Option.bind_some, ih _ _ hshort hback, Nat.add_assoc, hsplit]
  exact hall bytes.length cursor bytes le_rfl hbytes

theorem follow_helloAck {version generation replayFrom head : Nat} {gap : Bool}
    (h : follow produced expected (.helloAck version generation replayFrom head gap) = some expected') :
    expected' = some replayFrom := by
  cases expected with
  | none => exact (Option.some.inj h).symm
  | some cursor =>
    simp only [follow] at h
    split_ifs at h with hsame
    rw [hsame]
    exact (Option.some.inj h).symm

theorem isHelloAck_of_isOutput (h : m.isOutput = true) : m.isHelloAck = false := by
  cases m with
  | output _ _ => rfl
  | _ => cases h

end Heard

/-- Whether a handler goes on as one of a registered client. -/
def Phase.attached : Phase → Option Bool
  | .verified _ renewing => some renewing.isSome
  | .unseen _ renewing _ => some renewing.isSome
  | .recorded _ renewing _ => some renewing.isSome
  | .claiming _ => some false
  | .requested _ => some true
  | .validated _ => some true
  | .counted _ => some true
  | .executing _ _ _ _ => some true
  | .failing _ _ _ => some true
  | _ => none

def Phase.isAnswering : Phase → Bool
  | .answering _ _ => true
  | _ => false

theorem Phase.pending_eq_nil {p : Phase} (h : p.isAnswering = false) : p.pending = [] := by
  cases p with
  | answering _ _ => cases h
  | _ => rfl

/-- What is left to be sent continues what has been received, up to the first `head` bytes of the output. -/
inductive Stage (produced : List UInt8) (head : Nat) (c : Conn) (expected : Option Nat) : Prop
  | waiting (client : c.client = none) (chunk : c.writer.chunk = []) (start : expected = none)
      (pending : heard produced none c.handler.pending = some none)
  | refused (messages : List HostMessage) (start : expected = none) (handler : c.handler = .answering messages true)
      (pending : heard produced none messages = some none)
  | attached (cursor : Nat) (client : HostClient) (registered : c.client = some client)
      (pending : heard produced expected c.handler.pending = some (some cursor))
      (queue : heard produced (some cursor) (c.writer.chunk ++ client.queue) = some (some head))
      (acks : ∀ m ∈ c.writer.chunk ++ client.queue, m.isHelloAck = false)

structure Conn.Follows (produced : List UInt8) (head : Nat) (c : Conn) : Prop where
  received : ∃ expected, heard produced none c.received = some expected ∧
    (c.opened = true → Stage produced head c expected)
  attached : c.opened = true → ∀ b ∈ c.handler.attached, c.client.isSome = b

namespace Conn.Follows
variable {produced : List UInt8} {head : Nat} {c : Conn}

theorem more (h : c.Follows produced head) (more : List UInt8) : c.Follows (produced ++ more) head := by
  obtain ⟨expected, hreceived, hstage⟩ := h.received
  refine ⟨⟨expected, heard_more hreceived, fun hopened => ?_⟩, h.attached⟩
  cases hstage hopened with
  | waiting hclient hchunk hstart hpending => exact .waiting hclient hchunk hstart (heard_more hpending)
  | refused messages hstart hhandler hpending => exact .refused messages hstart hhandler (heard_more hpending)
  | attached cursor client hclient hpending hqueue hacks =>
    exact .attached cursor client hclient (heard_more hpending) (heard_more hqueue) hacks

/-- A connection that is closed only keeps what it has received. -/
theorem closed (h : c.Follows produced head) {c' : Conn} {head' : Nat} (hreceived : c'.received = c.received)
    (hopened : c'.opened = false) : c'.Follows produced head' := by
  obtain ⟨expected, hheard, -⟩ := h.received
  refine ⟨⟨expected, hreceived ▸ hheard, fun h => ?_⟩, fun h => ?_⟩
  · rw [hopened] at h
    cases h
  · rw [hopened] at h
    cases h

/-- A message is queued where the queue ends. -/
theorem enqueue (h : c.Follows produced head) {m : HostMessage} {head' : Nat}
    (hm : follow produced (some head) m = some (some head')) (hack : m.isHelloAck = false) :
    (RuntimeHost.Conn.enqueue m c).Follows produced head' := by
  obtain ⟨expected, hreceived, hstage⟩ := h.received
  unfold RuntimeHost.Conn.enqueue
  cases hclient : c.client with
  | none =>
    refine ⟨⟨expected, hreceived, fun hopened => ?_⟩, h.attached⟩
    cases hstage hopened with
    | waiting hnone hchunk hstart hpending => exact .waiting hnone hchunk hstart hpending
    | refused messages hstart hhandler hpending => exact .refused messages hstart hhandler hpending
    | attached cursor client hsome =>
      rw [hclient] at hsome
      cases hsome
  | some client =>
    simp only
    split_ifs with hlags
    · exact h.closed rfl rfl
    refine ⟨⟨expected, hreceived, fun hopened => ?_⟩, fun hopened b hb => ?_⟩
    · cases hstage hopened with
      | waiting hnone =>
        rw [hclient] at hnone
        cases hnone
      | refused messages hstart hhandler hpending => exact .refused messages hstart hhandler hpending
      | attached cursor client' hsome hpending hqueue hacks =>
        rw [hclient] at hsome
        cases hsome
        refine .attached cursor _ rfl hpending ?_ ?_
        · rw [← List.append_assoc, heard_append_of hqueue, heard_cons, hm]
          rfl
        · intro m' hm'
          rw [← List.append_assoc, List.mem_append, List.mem_singleton] at hm'
          rcases hm' with hmem | rfl
          · exact hacks m' hmem
          · exact hack
    · rw [← h.attached hopened b hb, hclient]
      rfl

theorem quiet (h : c.Follows produced head) (hready : c.handler.isAnswering = false) {p : Phase}
    (hp : p.isAnswering = false) (hattached : c.opened = true → ∀ b ∈ p.attached, c.client.isSome = b) :
    ({ c with handler := p } : Conn).Follows produced head := by
  have hpending := Phase.pending_eq_nil hp
  obtain ⟨expected, hreceived, hstage⟩ := h.received
  refine ⟨⟨expected, hreceived, fun hopened => ?_⟩, hattached⟩
  cases hstage hopened with
  | waiting hclient hchunk hstart _ => exact .waiting hclient hchunk hstart (hpending ▸ rfl)
  | refused messages _ hhandler _ =>
    rw [hhandler] at hready
    cases hready
  | attached cursor client hclient hcursor hqueue hacks =>
    rw [Phase.pending_eq_nil hready] at hcursor
    exact .attached cursor client hclient (hpending ▸ hcursor) hqueue hacks

theorem answering (h : c.Follows produced head) (hready : c.handler.isAnswering = false)
    {messages : List HostMessage} {close : Bool} (hneutral : ∀ m ∈ messages, m.isHelloAck = false ∧ m.isOutput = false)
    (hrefused : c.opened = true → c.client = none → heard produced none messages = some none) :
    ({ c with handler := .answering messages close } : Conn).Follows produced head := by
  obtain ⟨expected, hreceived, hstage⟩ := h.received
  refine ⟨⟨expected, hreceived, fun hopened => ?_⟩, fun _ b hb => (Option.not_mem_none b hb).elim⟩
  cases hstage hopened with
  | waiting hclient hchunk hstart _ => exact .waiting hclient hchunk hstart (hrefused hopened hclient)
  | refused messages _ hhandler _ =>
    rw [hhandler] at hready
    cases hready
  | attached cursor client hclient hcursor hqueue hacks =>
    rw [Phase.pending_eq_nil hready] at hcursor
    cases hcursor
    exact .attached cursor client hclient (heard_neutral hneutral) hqueue hacks

/-- An error is an answer to any client. -/
theorem error (h : c.Follows produced head) (hready : c.handler.isAnswering = false) (code : Nat)
    (message : String) : ({ c with handler := .answering [.error code message] true } : Conn).Follows produced head :=
  h.answering hready (fun m hm => by rw [List.mem_singleton.mp hm]; exact ⟨rfl, rfl⟩) fun _ _ => rfl

theorem isSome (h : c.Follows produced head) {b : Bool} (hopened : c.opened = true)
    (hb : c.handler.attached = some b) : c.client.isSome = b :=
  h.attached hopened b hb

theorem greeted (h : c.Follows produced head) (hopened : c.opened = true) (hgreeted : c.Greeted) :
    ∃ cursor cursor' client, c.client = some client ∧ heard produced none c.received = some (some cursor) ∧
      heard produced (some cursor) c.writer.chunk = some (some cursor') ∧
      heard produced (some cursor') client.queue = some (some head) ∧
      ∀ m ∈ client.queue, m.isHelloAck = false := by
  obtain ⟨hneutral, ack, hack, hisAck⟩ := hgreeted
  obtain ⟨expected, hreceived, hstage⟩ := h.received
  have hstarted : expected ≠ none := by
    rintro rfl
    have herror := heard_none hreceived ack hack
    cases ack with
    | error _ _ => cases hisAck
    | _ => cases herror
  cases hstage hopened with
  | waiting _ _ hstart _ => exact absurd hstart hstarted
  | refused _ hstart _ _ => exact absurd hstart hstarted
  | attached cursor client hclient hpending hqueue hacks =>
    obtain ⟨k, hk⟩ := Option.ne_none_iff_exists'.mp hstarted
    subst hk
    rw [heard_neutral hneutral] at hpending
    cases hpending
    rw [heard_append, Option.bind_eq_some_iff] at hqueue
    obtain ⟨e, hchunk, hrest⟩ := hqueue
    obtain ⟨cursor', rfl⟩ := Option.isSome_iff_exists.mp (heard_isSome hchunk)
    exact ⟨cursor, cursor', client, hclient, hreceived, hchunk, hrest, fun m hm => hacks m (List.mem_append_right _ hm)⟩

end Conn.Follows

end Wardroom.Runtime.Host
