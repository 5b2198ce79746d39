import Wardroom.Runtime.Host.OutputHeard

/-! # The output that a client receives

What the host queues, replays and writes keeps every connection in its place.
-/

namespace Wardroom.Runtime.Host
open Wardroom.Library

/-- The ring keeps the end of the output, and every connection is sent it in its place. -/
structure OutputKept (s : RuntimeHost) : Prop where
  ring : s.ring.Keeps s.produced
  conns : ∀ c ∈ s.conns, c.Follows s.produced s.produced.length

namespace OutputKept
variable {s : RuntimeHost} {i : Nat} {c : Conn}

theorem setConn (h : OutputKept s) {c' : Conn} (hc' : c'.Follows s.produced s.produced.length) :
    OutputKept (s.setConn i c') := by
  refine ⟨h.ring, fun x hx => ?_⟩
  rcases List.mem_or_eq_of_mem_set hx with hmem | rfl
  · exact h.conns x hmem
  · exact hc'

theorem finish (h : OutputKept s) (hc : c.Follows s.produced s.produced.length) : OutputKept (s.finish i c) :=
  OutputKept.setConn (s := s.releaseControl i) ⟨h.ring, h.conns⟩ (hc.closed rfl rfl)

theorem reject (h : OutputKept s) (hc : c.Follows s.produced s.produced.length)
    (hready : c.handler.isAnswering = false) (code : Nat) (message : String) :
    OutputKept (s.reject i c code message) :=
  h.setConn (hc.error hready code message)

theorem setDelivery (h : OutputKept s) (st : DeliveryState) : OutputKept (s.setDelivery st) := ⟨h.ring, h.conns⟩

theorem enqueueAll {head head' : Nat} {messages : List HostMessage}
    (hconns : ∀ c ∈ s.conns, c.Follows s.produced head)
    (hmessages : heard s.produced (some head) messages = some (some head'))
    (hacks : ∀ m ∈ messages, m.isHelloAck = false) :
    ∀ c ∈ (messages.foldl RuntimeHost.enqueueAll s).conns,
      c.Follows (messages.foldl RuntimeHost.enqueueAll s).produced head' := by
  induction messages generalizing s head with
  | nil =>
    cases hmessages
    exact hconns
  | cons m messages ih =>
    rw [heard_cons, Option.bind_eq_some_iff] at hmessages
    obtain ⟨e, hm, hrest⟩ := hmessages
    obtain ⟨next, rfl⟩ := Option.isSome_iff_exists.mp (follow_isSome hm)
    have hack := hacks m (List.mem_cons_self ..)
    rw [List.foldl_cons]
    refine ih (s := s.enqueueAll m) ?_ hrest fun m hm => hacks m (List.mem_cons_of_mem _ hm)
    intro c hc
    obtain ⟨c₀, hmem, rfl⟩ := List.mem_map.mp hc
    exact (hconns c₀ hmem).enqueue hm hack

theorem foldl_enqueueAll_ring (s : RuntimeHost) (messages : List HostMessage) :
    (messages.foldl RuntimeHost.enqueueAll s).ring = s.ring := by
  induction messages generalizing s with
  | nil => rfl
  | cons m messages ih => rw [List.foldl_cons, ih]; rfl

theorem foldl_enqueueAll_produced (s : RuntimeHost) (messages : List HostMessage) :
    (messages.foldl RuntimeHost.enqueueAll s).produced = s.produced := by
  induction messages generalizing s with
  | nil => rfl
  | cons m messages ih => rw [List.foldl_cons, ih]; rfl

theorem take (h : OutputKept s) (hc : c.Follows s.produced s.produced.length) : OutputKept (s.take i c) := by
  unfold RuntimeHost.take
  split
  case h_1 client hclient hwriter =>
    split_ifs with hempty
    · exact h
    obtain ⟨expected, hreceived, hstage⟩ := hc.received
    refine h.setConn ⟨⟨expected, hreceived, fun hopened => ?_⟩, fun hopened b hb => ?_⟩
    · cases hstage hopened with
      | waiting hnone =>
        rw [hclient] at hnone
        cases hnone
      | refused messages hstart hhandler hpending => exact .refused messages hstart hhandler hpending
      | attached cursor client' hsome hpending hqueue hacks =>
        rw [hclient] at hsome
        cases hsome
        rw [hwriter] at hqueue hacks
        exact .attached cursor _ rfl hpending (by rwa [List.append_nil]) (by rwa [List.append_nil])
    · rw [← hc.attached hopened b hb, hclient]
      rfl
  · exact h

theorem writeChunk (h : OutputKept s) (hc : c.Follows s.produced s.produced.length) (failure : Option Nat)
    (hgreeted : c.opened = true → c.writer.chunk ≠ [] → c.Greeted) : OutputKept (s.writeChunk i c failure) := by
  unfold RuntimeHost.writeChunk
  split
  case h_1 chunk hwriter =>
    have hchunk : c.writer.chunk = chunk := by rw [hwriter]; rfl
    obtain ⟨expected, hreceived, hstage⟩ := hc.received
    cases failure with
    | none =>
      simp only
      split_ifs with hopened
      · by_cases hempty : chunk = []
        · subst hempty
          refine h.setConn ⟨⟨expected, by rwa [List.append_nil], fun _ => ?_⟩, hc.attached⟩
          cases hstage hopened with
          | waiting hclient _ hstart hpending => exact .waiting hclient rfl hstart hpending
          | refused messages hstart hhandler hpending => exact .refused messages hstart hhandler hpending
          | attached cursor client hclient hpending hqueue hacks =>
            rw [hwriter] at hqueue hacks
            exact .attached cursor client hclient hpending hqueue hacks
        · have hg := hgreeted hopened (by rwa [hchunk])
          obtain ⟨cursor, cursor', client, hclient, hheard, hsent, hqueue, hacks⟩ := hc.greeted hopened hg
          rw [hchunk] at hsent
          refine h.setConn ⟨⟨some cursor', ?_, fun _ => ?_⟩, hc.attached⟩
          · rw [heard_append_of hheard, hsent]
          · exact .attached cursor' client hclient (heard_neutral hg.1) hqueue hacks
      · exact h.setConn (hc.closed rfl (Bool.not_eq_true _ ▸ hopened))
    | some k =>
      simp only
      refine h.setConn ⟨?_, fun hopened => nomatch hopened⟩
      split_ifs with hopened
      · by_cases hempty : chunk = []
        · subst hempty
          exact ⟨expected, by rwa [List.take_nil, List.append_nil], fun hopened => nomatch hopened⟩
        · obtain ⟨cursor, cursor', -, -, hheard, hsent, -⟩ := hc.greeted hopened (hgreeted hopened (by rwa [hchunk]))
          rw [hchunk, ← List.take_append_drop k chunk, heard_append, Option.bind_eq_some_iff] at hsent
          obtain ⟨e, hfront, -⟩ := hsent
          exact ⟨e, by rw [heard_append_of hheard, hfront], fun hopened => nomatch hopened⟩
      · exact ⟨expected, hreceived, fun hopened => nomatch hopened⟩
  · exact h

theorem settleChunk (h : OutputKept s) (hc : c.Follows s.produced s.produced.length) :
    OutputKept (s.settleChunk i c) := by
  unfold RuntimeHost.settleChunk
  split
  case h_1 bytes hwriter =>
    obtain ⟨expected, hreceived, hstage⟩ := hc.received
    refine h.setConn ⟨⟨expected, hreceived, fun hopened => ?_⟩, fun hopened b hb => ?_⟩
    · cases hstage hopened with
      | waiting hclient _ hstart hpending => exact .waiting (by rw [hclient]; rfl) rfl hstart hpending
      | refused messages hstart hhandler hpending => exact .refused messages hstart hhandler hpending
      | attached cursor client hclient hpending hqueue hacks =>
        rw [hwriter] at hqueue hacks
        exact .attached cursor { client with inFlight := client.inFlight - bytes } (by rw [hclient]; rfl) hpending
          hqueue hacks
    · rw [Option.isSome_map]
      exact hc.attached hopened b hb
  case h_2 bytes hwriter =>
    split_ifs
    · exact OutputKept.setConn (s := s.releaseControl i) ⟨h.ring, h.conns⟩ (hc.closed rfl rfl)
    · exact h.setConn (hc.closed rfl rfl)
  · exact h

@[simp] theorem recordAck_produced (s : RuntimeHost) (m : HostMessage) : (s.recordAck m).produced = s.produced := by
  cases m <;> rfl

theorem recordAck (h : OutputKept s) (m : HostMessage) : OutputKept (s.recordAck m) := by
  cases m with
  | deliverAck _ _ _ _ => exact ⟨h.ring, h.conns⟩
  | _ => exact h

/-- The handler writes the next of its messages. -/
theorem answer (h : OutputKept s) (hc : c.Follows s.produced s.produced.length) {messages : List HostMessage}
    {close : Bool} (hhandler : c.handler = .answering messages close) (failure : Option Nat) :
    OutputKept (s.answer i c messages close failure) := by
  obtain ⟨expected, hreceived, hstage⟩ := hc.received
  cases messages with
  | nil =>
    unfold RuntimeHost.answer
    simp only
    split_ifs with hclose
    · exact h.finish hc
    refine h.setConn ⟨⟨expected, hreceived, fun hopened => ?_⟩, fun _ b hb => (Option.not_mem_none b hb).elim⟩
    cases hstage hopened with
    | waiting hclient hchunk hstart _ => exact .waiting hclient hchunk hstart rfl
    | refused messages _ hrefused _ =>
      rw [hhandler] at hrefused
      cases hrefused
      exact absurd rfl hclose
    | attached cursor client hclient hpending hqueue hacks =>
      rw [hhandler] at hpending
      exact .attached cursor client hclient hpending hqueue hacks
  | cons m rest =>
    have hs := h.recordAck m
    have hproduced := recordAck_produced s m
    unfold RuntimeHost.answer
    simp only
    split_ifs with hopen houtput
    · rw [Bool.and_eq_true] at hopen
      have hrefused : heard s.produced none (m :: rest) = some none → expected = none →
          heard s.produced none (c.received ++ [m]) = some none ∧ heard s.produced none rest = some none := by
        rintro hpending rfl
        rw [heard_cons, Option.bind_eq_some_iff] at hpending
        obtain ⟨e, hfollow, hrest⟩ := hpending
        rcases follow_none hfollow with ⟨-, hsome⟩ | ⟨-, rfl⟩
        · obtain ⟨cursor, rfl⟩ := Option.isSome_iff_exists.mp hsome
          cases heard_isSome hrest
        · exact ⟨by rw [heard_append_of hreceived, heard_cons, hfollow]; rfl, hrest⟩
      refine hs.setConn ⟨?_, fun _ b hb => (Option.not_mem_none b hb).elim⟩
      rw [hproduced]
      cases hstage hopen.1 with
      | waiting hclient hchunk hstart hpending =>
        rw [hhandler] at hpending
        obtain ⟨hsent, hrest⟩ := hrefused hpending hstart
        exact ⟨none, hsent, fun _ => .waiting hclient hchunk rfl hrest⟩
      | refused messages hstart hsame hpending =>
        rw [hhandler] at hsame
        cases hsame
        obtain ⟨hsent, hrest⟩ := hrefused hpending hstart
        exact ⟨none, hsent, fun _ => .refused rest rfl rfl hrest⟩
      | attached cursor client hclient hpending hqueue hacks =>
        rw [hhandler] at hpending
        change heard s.produced expected (m :: rest) = _ at hpending
        rw [heard_cons, Option.bind_eq_some_iff] at hpending
        obtain ⟨e, hfollow, hrest⟩ := hpending
        refine ⟨e, ?_, fun _ => .attached cursor client hclient hrest hqueue hacks⟩
        rw [heard_append_of hreceived, heard_cons, hfollow]
        rfl
    · exact hs.setConn (hproduced.symm ▸ hc.closed rfl rfl)
    · exact hs.setConn (hproduced.symm ▸ hc.closed rfl rfl)

/-- A client is registered with what the ring replays to it, or with a cursor past the head. -/
theorem claim (h : OutputKept s) (hc : c.Follows s.produced s.produced.length) {hello : HelloEnvelope}
    (hhandler : c.handler = .claiming hello) : OutputKept (s.claim i c hello) := by
  have hready : c.handler.isAnswering = false := by rw [hhandler]; rfl
  obtain ⟨expected, hreceived, hstage⟩ := hc.received
  have hregistered : ({ c with
      client := some ⟨hello.wantControl, [], 0, hello.actions, hello.expiry⟩
      handler := s.greeting hello.cursor } : Conn).Follows s.produced s.produced.length := by
    have hattached : (s.greeting hello.cursor).attached = none := by
      unfold RuntimeHost.greeting
      split <;> rfl
    refine ⟨⟨expected, hreceived, fun hopened => ?_⟩, fun _ b hb => ?_⟩
    · have hnone : c.client = none := by
        have hb := hc.isSome hopened (b := false) (by rw [hhandler]; rfl)
        rwa [Option.isSome_eq_false_iff, Option.isNone_iff_eq_none] at hb
      cases hstage hopened with
      | waiting _ hchunk hstart _ =>
        unfold RuntimeHost.greeting
        cases hrp : s.ring.replayFrom hello.cursor with
        | none => exact .refused _ hstart rfl rfl
        | some rp =>
          obtain ⟨hbytes, hle⟩ := h.ring.replayFrom hrp
          refine .attached s.produced.length _ rfl ?_ (by rw [hchunk]; rfl) (by rw [hchunk]; exact fun _ h => nomatch h)
          have hlength : rp.start + rp.bytes.length = s.produced.length := by
            rw [hbytes, List.length_drop]
            omega
          have hreplay := heard_outputFrames rp.bytes (by rw [hbytes])
          have hexit : ∀ m ∈ s.exited.toList.map HostMessage.exit, m.isHelloAck = false ∧ m.isOutput = false := by
            intro m hm
            obtain ⟨code, -, rfl⟩ := List.mem_map.mp hm
            exact ⟨rfl, rfl⟩
          change heard s.produced expected (s.helloAck rp.start s.ring.total rp.gap ::
            outputFrames rp.start rp.bytes ++ s.exited.toList.map HostMessage.exit) = _
          rw [List.cons_append, hstart, heard_cons]
          change heard s.produced (some rp.start) _ = _
          rw [heard_append_of hreplay, hlength, heard_neutral hexit]
      | refused messages _ hsame _ =>
        rw [hhandler] at hsame
        cases hsame
      | attached _ client hsome =>
        rw [hnone] at hsome
        cases hsome
    · rw [hattached] at hb
      cases hb
  unfold RuntimeHost.claim
  split_ifs
  · exact h.reject hc hready _ _
  · exact h.reject hc hready _ _
  · exact ⟨h.ring, (h.setConn hregistered).conns⟩
  · exact h.setConn hregistered

/-- A renewal continues from the head, when the client has no output to come. -/
theorem renew (h : OutputKept s) (hc : c.Follows s.produced s.produced.length) {hello : HelloEnvelope}
    {controller busy : Bool} (hhandler : c.handler = .recorded hello (some controller) busy)
    (hdrained : c.opened = true → ∀ client ∈ c.client, ∀ m ∈ c.writer.chunk ++ client.queue, m.isOutput = false) :
    OutputKept (s.renew i c hello) := by
  obtain ⟨expected, hreceived, hstage⟩ := hc.received
  refine h.setConn ⟨⟨expected, hreceived, fun hopened => ?_⟩, fun _ b hb => (Option.not_mem_none b hb).elim⟩
  have hsome := hc.isSome hopened (b := true) (by rw [hhandler]; rfl)
  cases hstage hopened with
  | waiting hclient =>
    rw [hclient] at hsome
    cases hsome
  | refused messages _ hsame _ =>
    rw [hhandler] at hsame
    cases hsame
  | attached cursor client hclient hpending hqueue hacks =>
    rw [hhandler] at hpending
    cases hpending
    have hneutral : ∀ m ∈ c.writer.chunk ++ client.queue, m.isHelloAck = false ∧ m.isOutput = false :=
      fun m hm => ⟨hacks m hm, hdrained hopened client hclient m hm⟩
    have hat : s.ring.total = cursor := by
      have hstill := (heard_neutral hneutral).symm.trans hqueue
      rw [h.ring.total, Option.some.inj (Option.some.inj hstill)]
    refine .attached cursor { client with expiresAt := hello.expiry, actions := hello.actions }
      (by rw [hclient]; rfl) ?_ hqueue hacks
    rw [hat]
    exact congrArg (Option.bind · _) (if_pos rfl)

theorem goOn (h : OutputKept s) (hc : c.Follows s.produced s.produced.length) (hready : c.handler.isAnswering = false)
    {p : Phase} (hsame : p.attached = c.handler.attached) (hp : p.isAnswering = false) :
    OutputKept (s.setConn i { c with handler := p }) := by
  refine h.setConn (hc.quiet hready hp fun hopened b hb => ?_)
  rw [hsame] at hb
  exact hc.attached hopened b hb

/-- A registered client is sent a message that is no output. -/
theorem reply (h : OutputKept s) (hc : c.Follows s.produced s.produced.length)
    (hready : c.handler.isAnswering = false) (hsome : c.opened = true → c.client.isSome = true) {m : HostMessage}
    (hneutral : m.isHelloAck = false ∧ m.isOutput = false) : OutputKept (s.reply i c m) := by
  refine h.setConn (hc.answering hready (fun m' hm' => ?_) fun hopened hnone => ?_)
  · rw [List.mem_singleton.mp hm']
    exact hneutral
  · have h := hsome hopened
    rw [hnone] at h
    cases h

theorem advance (h : OutputKept s) (hc : c.Follows s.produced s.produced.length) (now : Int) (failure : Option Nat)
    (hdrained : c.opened = true → c.handler.renews = true →
      ∀ client ∈ c.client, ∀ m ∈ c.writer.chunk ++ client.queue, m.isOutput = false) :
    OutputKept (s.advance i c now failure) := by
  have hwritten (hb : c.handler.attached = some true) : c.opened = true → c.client.isSome = true :=
    fun hopened => hc.isSome hopened hb
  unfold RuntimeHost.advance
  split
  case h_1 => exact h
  case h_2 hello hhandler =>
    have hready : c.handler.isAnswering = false := by rw [hhandler]; rfl
    unfold RuntimeHost.verifyHello
    split_ifs
    · exact h.reject hc hready _ _
    · refine h.setConn (hc.quiet hready rfl fun _ b hb => ?_)
      cases hb
      rw [Option.isSome_map]
  case h_3 hello renewing hhandler =>
    have hready : c.handler.isAnswering = false := by rw [hhandler]; rfl
    unfold RuntimeHost.lookUpHello
    split_ifs
    · exact h.reject hc hready _ _
    · exact h.goOn hc hready (by rw [hhandler]; rfl) (by rfl)
  case h_4 hello renewing busy hhandler =>
    have hready : c.handler.isAnswering = false := by rw [hhandler]; rfl
    have hrecorded : OutputKept { s with seenHello := s.seenHello ++ [hello.id] } := ⟨h.ring, h.conns⟩
    unfold RuntimeHost.recordHello
    split_ifs
    · exact h.reject hc hready _ _
    · exact hrecorded.goOn hc hready (by rw [hhandler]; rfl) (by rfl)
  case h_5 hello renewing busy hhandler =>
    have hready : c.handler.isAnswering = false := by rw [hhandler]; rfl
    cases renewing with
    | some controller =>
      simp only [RuntimeHost.proceedHello]
      split_ifs with _ hmode
      · exact h.reject hc hready _ _
      · exact h.reject hc hready _ _
      · rw [not_not] at hmode
        subst hmode
        exact h.renew hc hhandler fun hopened => hdrained hopened (by rw [hhandler]; exact decide_eq_true rfl)
    | none =>
      simp only [RuntimeHost.proceedHello]
      split_ifs
      · exact h.reject hc hready _ _
      · exact h.reject hc hready _ _
      · exact h.reject hc hready _ _
      · exact h.goOn hc hready (by rw [hhandler]; rfl) (by rfl)
  case h_6 hello hhandler => exact h.claim hc hhandler
  case h_7 tx hhandler =>
    have hready : c.handler.isAnswering = false := by rw [hhandler]; rfl
    unfold RuntimeHost.checkDelivery
    split_ifs
    · exact h.reject hc hready _ _
    split
    · exact h.reject hc hready _ _
    · exact h.goOn hc hready (by rw [hhandler]; rfl) (by rfl)
  case h_8 tx hhandler =>
    have hready : c.handler.isAnswering = false := by rw [hhandler]; rfl
    unfold RuntimeHost.countDelivery
    split
    · exact h.reply hc hready (hwritten (by rw [hhandler]; rfl)) ⟨rfl, rfl⟩
    split_ifs
    · exact h.reject hc hready _ _
    · exact h.goOn hc hready (by rw [hhandler]; rfl) (by rfl)
  case h_9 tx hhandler =>
    have hready : c.handler.isAnswering = false := by rw [hhandler]; rfl
    have hreserved (delivered : Table DeliveryState.id) :
        OutputKept { s with delivered := delivered, executions := s.executions ++ [tx] } := ⟨h.ring, h.conns⟩
    unfold RuntimeHost.reserve
    split
    · exact h.reply hc hready (hwritten (by rw [hhandler]; rfl)) ⟨rfl, rfl⟩
    · exact (hreserved _).goOn hc hready (by rw [hhandler]; rfl) (by rfl)
  case h_10 execution tx frame bytesWritten hhandler =>
    have hready : c.handler.isAnswering = false := by rw [hhandler]; rfl
    have hwrote (pty : List PtyWrite) : OutputKept { s with pty := pty } := ⟨h.ring, h.conns⟩
    unfold RuntimeHost.execute
    split
    case h_1 => exact (h.setDelivery _).reply hc hready (hwritten (by rw [hhandler]; rfl)) ⟨by rfl, by rfl⟩
    case h_2 bytes hframe =>
      split_ifs
      · exact h.reject hc hready _ _
      cases failure with
      | none =>
        have hgoOn := (hwrote (s.pty ++ [⟨some execution, bytes⟩])).goOn (i := i) hc hready
          (p := .executing execution tx (frame + 1) (bytesWritten + bytes.length)) (by rw [hhandler]; rfl) rfl
        exact hgoOn
      | some n =>
        have hgoOn := (hwrote (s.pty ++ [⟨some execution, bytes.take n⟩])).goOn (i := i) hc hready
          (p := .failing execution tx (bytesWritten + (bytes.take n).length)) (by rw [hhandler]; rfl) rfl
        exact hgoOn
  case h_11 execution tx bytesWritten hhandler =>
    have hready : c.handler.isAnswering = false := by rw [hhandler]; rfl
    exact (h.setDelivery _).setConn (hc.answering hready (fun _ hm => (List.not_mem_nil hm).elim) fun _ _ => rfl)
  case h_12 messages close hhandler => exact h.answer hc hhandler failure

theorem handle (h : OutputKept s) (hc : c.Follows s.produced s.produced.length) (hready : c.handler.isAnswering = false)
    (now : Int) (fails : Bool) (frame : ClientFrame) : OutputKept (s.handle i c now fails frame) := by
  have hgreeted (hello : HelloEnvelope) : OutputKept (s.setConn i { c with handler := .greeted hello }) :=
    h.setConn (hc.quiet hready rfl fun _ b hb => (Option.not_mem_none b hb).elim)
  unfold RuntimeHost.handle
  split
  · exact hgreeted _
  cases hclient : c.client with
  | none => exact h.reject hc hready _ _
  | some client =>
    have hsome : c.opened = true → c.client.isSome = true := fun _ => by rw [hclient]; rfl
    simp only
    split_ifs
    · exact h.reject hc hready _ _
    cases frame with
    | hello hello => exact hgreeted hello
    | input bytes =>
      have hwrote : OutputKept { s with pty := s.pty ++ [⟨none, bytes⟩] } := ⟨h.ring, h.conns⟩
      rw [RuntimeHost.handleFrame]
      split_ifs <;> first | exact h.reject hc hready _ _ | exact hwrote
    | resize columns rows =>
      rw [RuntimeHost.handleFrame]
      split_ifs <;> first | exact h.reject hc hready _ _ | exact h
    | signal payload =>
      rw [RuntimeHost.handleFrame]
      split_ifs <;> first | exact h.reject hc hready _ _ | exact h
    | terminate =>
      have hterminated : OutputKept { s with terminated := true } := ⟨h.ring, h.conns⟩
      rw [RuntimeHost.handleFrame]
      split_ifs <;> first | exact h.reject hc hready _ _ | exact hterminated.reply hc hready hsome ⟨rfl, rfl⟩
    | deliverMessage tx =>
      have hrequested : OutputKept (s.setConn i { c with handler := .requested tx }) := by
        refine h.setConn (hc.quiet hready rfl fun hopened b hb => ?_)
        cases hb
        exact hsome hopened
      rw [RuntimeHost.handleFrame]
      split_ifs <;> first | exact h.reject hc hready _ _ | exact hrequested
    | ping => exact h.reply hc hready hsome ⟨rfl, rfl⟩
    | wipe =>
      have hwiped : OutputKept { s with secret := [], wiped := true } := ⟨h.ring, h.conns⟩
      exact hwiped.reply hc hready hsome ⟨rfl, rfl⟩
    | other => exact h.reject hc hready _ _

theorem produce (h : OutputKept s) (data : List UInt8) : OutputKept (s.produce data) := by
  have hframes : outputFrames s.ring.total data = outputFrames s.produced.length data := by rw [h.ring.total]
  have hacks : ∀ m ∈ outputFrames s.produced.length data, m.isHelloAck = false :=
    fun m hm => isHelloAck_of_isOutput (isOutput_of_mem hm)
  have hdata : data <+: (s.produced ++ data).drop s.produced.length := by rw [List.drop_left]
  have hheard := heard_outputFrames data hdata
  rw [← List.length_append] at hheard
  unfold RuntimeHost.produce RuntimeHost.enqueueOutput
  rw [hframes]
  refine ⟨?_, ?_⟩
  · rw [foldl_enqueueAll_ring, foldl_enqueueAll_produced]
    exact h.ring.append data
  · intro c hc
    have hfollows := enqueueAll (s := { s with ring := s.ring.append data, produced := s.produced ++ data })
      (fun c hc => (h.conns c hc).more data) hheard hacks c hc
    rwa [foldl_enqueueAll_produced] at hfollows ⊢

theorem exitChild (h : OutputKept s) (code : Int) : OutputKept (s.exitChild code) := by
  refine ⟨h.ring, fun c hc => ?_⟩
  obtain ⟨c₀, hmem, rfl⟩ := List.mem_map.mp hc
  exact (h.conns c₀ hmem).enqueue rfl rfl

theorem step (h : OutputKept s) (e : RuntimeHost.HostEvent) (hpaced : Paced s e) : OutputKept (s.step e) := by
  have onConn {i : Nat} {f : Conn → RuntimeHost} (hf : ∀ c, s.conns[i]? = some c → OutputKept (f c)) :
      OutputKept (s.onConn i f) := by
    unfold RuntimeHost.onConn
    cases hc : s.conns[i]? with
    | none => exact h
    | some c => exact hf c hc
  have hconn {i : Nat} {c : Conn} (hc : s.conns[i]? = some c) : c.Follows s.produced s.produced.length :=
    h.conns c (List.mem_of_getElem? hc)
  have hready {c : Conn} (hserving : (c.serving && c.handler = .idle) = true) : c.handler.isAnswering = false := by
    rw [Bool.and_eq_true, decide_eq_true_eq] at hserving
    rw [hserving.2]
    rfl
  cases e with
  | accept =>
    refine ⟨h.ring, fun c hc => ?_⟩
    rcases List.mem_append.mp hc with hmem | hmem
    · exact h.conns c hmem
    · rw [List.mem_singleton.mp hmem]
      exact ⟨⟨none, rfl, fun _ => .waiting rfl rfl rfl rfl⟩, fun _ b hb => (Option.not_mem_none b hb).elim⟩
  | request i now fails frame =>
    refine onConn fun c hc => ?_
    split_ifs with hserving
    · exact h.handle (hconn hc) (hready hserving) now fails frame
    · exact h
  | advance i now failure => exact onConn fun c hc => h.advance (hconn hc) now failure (hpaced c hc)
  | hangUp i =>
    refine onConn fun c hc => ?_
    split_ifs
    · exact h.finish (hconn hc)
    · exact h
  | malformed i code =>
    refine onConn fun c hc => ?_
    split_ifs with hserving
    · exact h.reject (hconn hc) (hready hserving) _ _
    · exact h
  | produce data =>
    rw [RuntimeHost.step]
    split_ifs
    · exact h
    · exact h.produce data
  | exit code =>
    rw [RuntimeHost.step]
    split_ifs
    · exact h
    · exact h.exitChild code
  | take i => exact onConn fun c hc => h.take (hconn hc)
  | write i failure => exact onConn fun c hc => h.writeChunk (hconn hc) failure (hpaced c hc)
  | settle i => exact onConn fun c hc => h.settleChunk (hconn hc)

theorem initial (enrollment : HostEnrollment) (ringBytes : Nat) (secret : List UInt8) :
    OutputKept (RuntimeHost.initial enrollment ringBytes secret) :=
  ⟨Ring.keeps_empty ringBytes, fun _ hc => (List.not_mem_nil hc).elim⟩

theorem inOrder (h : OutputKept s) : InOrder s where
  heard c hc := by
    obtain ⟨expected, hreceived, -⟩ := (h.conns c hc).received
    exact ⟨expected, hreceived⟩
  first c hc before message after hsplit hbefore := by
    obtain ⟨expected, hreceived, -⟩ := (h.conns c hc).received
    rw [hsplit] at hreceived
    exact heard_first hreceived hbefore
  stream c hc before version generation replayFrom head gap after hsplit := by
    obtain ⟨expected, hreceived, -⟩ := (h.conns c hc).received
    rw [hsplit, heard_append, Option.bind_eq_some_iff] at hreceived
    obtain ⟨e, -, hrest⟩ := hreceived
    rw [heard_cons, Option.bind_eq_some_iff] at hrest
    obtain ⟨e', hfollow, hafter⟩ := hrest
    rw [follow_helloAck hfollow] at hafter
    exact (heard_bytes hafter).2
  complete c hc hopened client hclient hqueue hwriter hhandler := by
    obtain ⟨expected, hreceived, hstage⟩ := (h.conns c hc).received
    cases hstage hopened with
    | waiting hnone =>
      rw [hclient] at hnone
      cases hnone
    | refused messages _ hsame _ =>
      rw [hhandler] at hsame
      cases hsame
    | attached cursor client' hsome hpending hrest _ =>
      rw [hclient] at hsome
      cases hsome
      rw [hhandler] at hpending
      rw [hwriter, hqueue] at hrest
      cases hpending
      cases hrest
      exact hreceived

end OutputKept

/-- While no writer comes before an answer to a HELLO, the output is received in order. -/
theorem output_in_order (enrollment : HostEnrollment) (ringBytes : Nat) (secret : List UInt8)
    {events : List RuntimeHost.HostEvent}
    (h : Trace.Meets RuntimeHost.step Paced (.initial enrollment ringBytes secret) events) :
    InOrder (Trace.run RuntimeHost.step (.initial enrollment ringBytes secret) events) :=
  OutputKept.inOrder (Trace.invariant_run (I := OutputKept) (fun _ e hs hpaced => hs.step e hpaced)
    (.initial enrollment ringBytes secret) h)

namespace Sample

def enrollment : HostEnrollment := ⟨"session", "runtime", "authority", 1⟩

def envelope (id : String) : HelloEnvelope :=
  ⟨"roomsd", "runtime", "session", "runtime", "authority", 1, ["observe"], 1000, id, 0, [7]⟩

/-- A client is registered, and has not been answered. -/
def registered : List RuntimeHost.HostEvent :=
  [.accept, .request 0 0 false (.hello (envelope "a")), .advance 0 0 none, .advance 0 0 none, .advance 0 0 none,
    .advance 0 0 none, .advance 0 0 none]

/-- The writer of a client comes before its acknowledgement, and after it. -/
def overtaken : List RuntimeHost.HostEvent := registered ++ [.produce [1], .take 0, .write 0 none]

def paced : List RuntimeHost.HostEvent :=
  registered ++ [.produce [1], .take 0, .advance 0 0 none, .advance 0 0 none, .write 0 none]

end Sample

theorem output_in_order_paced :
    Trace.Meets RuntimeHost.step Paced (.initial Sample.enrollment 4 [7]) Sample.paced ∧
      InOrder (Trace.run RuntimeHost.step (.initial Sample.enrollment 4 [7]) Sample.paced) := by
  have hpaced : Trace.Meets RuntimeHost.step Paced (.initial Sample.enrollment 4 [7]) Sample.paced := by
    decide +kernel
  exact ⟨hpaced, output_in_order Sample.enrollment 4 [7] hpaced⟩

theorem output_overtakes_ack : ¬ ∀ enrollment ringBytes secret events,
    InOrder (Trace.run RuntimeHost.step (.initial enrollment ringBytes secret) events) := by
  intro h
  have hreceived : ((Trace.run RuntimeHost.step (.initial Sample.enrollment 4 [7]) Sample.overtaken).conns.map
      Conn.received) = [[.output 0 [1]]] := by decide +kernel
  obtain ⟨c, hc, hsame⟩ : ∃ c ∈ (Trace.run RuntimeHost.step (.initial Sample.enrollment 4 [7])
      Sample.overtaken).conns, c.received = [.output 0 [1]] := by
    rw [← List.mem_map, hreceived]
    exact List.mem_cons_self ..
  have hfirst := (h Sample.enrollment 4 [7] Sample.overtaken).first c hc [] (.output 0 [1]) [] hsame
    fun _ hm => (List.not_mem_nil hm).elim
  rcases hfirst with hack | herror
  · cases hack
  · cases herror

end Wardroom.Runtime.Host
