import Wardroom.Runtime.Host.Slots

/-! # The accounts of the runtime host

The account of a client is kept by its writer, as long as no other writer
settles with it.
-/

namespace Wardroom.Runtime.Host
open Wardroom.Library

/-- The counter of a registered client says what its writer has in hand, and nobody holds more than the cap. -/
structure ClientLink.Accounted (l : ClientLink) : Prop where
  counter : ∀ c ∈ l.client, c.inFlight = c.writer.bytes ∧ c.held ≤ queueCap
  former : ∀ c ∈ l.former, c.held ≤ queueCap

namespace ClientLink.Accounted
variable {l l' : ClientLink}

theorem of_eq (h : l.Accounted) (hclient : l'.client = l.client) (hformer : l'.former = l.former) : l'.Accounted :=
  ⟨hclient ▸ h.counter, hformer ▸ h.former⟩

theorem of_drop (h : l.Accounted) (hclient : l'.client = none) (hformer : l'.former = l.former ++ l.client.toList) :
    l'.Accounted := by
  constructor
  · intro c hc
    rw [hclient] at hc
    cases hc
  · intro c hc
    rw [hformer] at hc
    rcases List.mem_append.mp hc with hold | hlast
    · exact h.former c hold
    · exact (h.counter c (Option.mem_toList.mp hlast)).2

/-- The client of a writer that has failed is deleted. -/
theorem fail (h : l.Accounted) {who : Option Nat} {c c' : RegisteredClient} (hfind : Registry.find l who = some c)
    (hheld : c.held ≤ queueCap → c'.held ≤ queueCap) (hclient : l'.client = none)
    (hformer : l'.former = (Registry.put l c' who).former ++ (Registry.put l c' who).client.toList) : l'.Accounted := by
  constructor
  · intro d hd
    rw [hclient] at hd
    cases hd
  · intro d hd
    rw [hformer] at hd
    cases who with
    | none =>
      rcases List.mem_append.mp hd with hold | hlast
      · exact h.former d hold
      · rw [← Option.some.inj (Option.mem_toList.mp hlast)]
        exact hheld (h.counter c hfind).2
    | some k =>
      rcases List.mem_append.mp hd with hold | hlast
      · rcases List.mem_or_eq_of_mem_set hold with hold | rfl
        · exact h.former d hold
        · exact hheld (h.former c (List.mem_of_getElem? hfind))
      · exact (h.counter d (Option.mem_toList.mp hlast)).2

/-- A writer changes what its own client holds. -/
theorem put (h : l.Accounted) {who : Option Nat} {c c' : RegisteredClient} (hfind : Registry.find l who = some c)
    (hheld : c.held ≤ queueCap → c'.held ≤ queueCap)
    (hcounter : who = none → c.inFlight = c.writer.bytes → c'.inFlight = c'.writer.bytes) :
    (Registry.put l c' who).Accounted := by
  cases who with
  | none =>
    refine ⟨fun d hd => ?_, h.former⟩
    cases hd
    obtain ⟨hold, hcap⟩ := h.counter c hfind
    exact ⟨hcounter rfl hold, hheld hcap⟩
  | some k =>
    refine ⟨h.counter, fun d hd => ?_⟩
    rcases List.mem_or_eq_of_mem_set hd with hold | rfl
    · exact h.former d hold
    · exact hheld (h.former c (List.mem_of_getElem? hfind))

theorem totalSize_append (queue : List HostMessage) (message : HostMessage) :
    totalSize (queue ++ [message]) = totalSize queue + message.size := by simp [totalSize]

theorem enqueue (h : l.Accounted) (message : HostMessage) : (Registry.enqueue message l).Accounted := by
  unfold Registry.enqueue
  cases hclient : l.client with
  | none => exact h
  | some client =>
    dsimp only
    split_ifs with hlags
    · exact h.of_drop rfl (by simp [ClientLink.drop, hclient])
    · refine ⟨fun c hc => ?_, h.former⟩
      cases hc
      obtain ⟨hcounter, hcap⟩ := h.counter client hclient
      simp only [Registry.lags, decide_eq_true_eq, not_lt] at hlags
      refine ⟨hcounter, ?_⟩
      simp only [RegisteredClient.held, totalSize_append]
      rw [hcounter] at hlags
      omega

end ClientLink.Accounted

namespace Registry
variable {s : Registry} {i : Nat} {l : ClientLink}

def Accounted (s : Registry) : Prop := ∀ l ∈ s.links, l.Accounted

theorem Accounted.capped (h : s.Accounted) : Capped s := by
  intro l hl c hc
  rcases List.mem_append.mp hc with hclient | hformer
  · exact ((h l hl).counter c (Option.mem_toList.mp hclient)).2
  · exact (h l hl).former c hformer

namespace Accounted

theorem setLink (h : s.Accounted) {l' : ClientLink} (hl' : l'.Accounted) : (s.setLink i l').Accounted := by
  intro m hm
  rcases List.mem_or_eq_of_mem_set hm with hold | rfl
  · exact h m hold
  · exact hl'

/-- The handler moves, and the clients stay as they are. -/
theorem same (h : s.Accounted) (hl : s.links[i]? = some l) {l' : ClientLink} (hclient : l'.client = l.client)
    (hformer : l'.former = l.former) : (s.setLink i l').Accounted :=
  h.setLink ((h l (List.mem_of_getElem? hl)).of_eq hclient hformer)

theorem drop (h : s.Accounted) (hl : s.links[i]? = some l) {l' : ClientLink} (hclient : l'.client = none)
    (hformer : l'.former = l.former ++ l.client.toList) : (s.setLink i l').Accounted :=
  h.setLink ((h l (List.mem_of_getElem? hl)).of_drop hclient hformer)

theorem reject (h : s.Accounted) (hl : s.links[i]? = some l) (code : Nat) (message : String) :
    (s.reject i l code message).Accounted := h.same hl rfl rfl

theorem finish (h : s.Accounted) (hl : s.links[i]? = some l) : (s.finish i l).Accounted := h.drop hl rfl rfl

theorem answer (h : s.Accounted) (hl : s.links[i]? = some l) (messages : List HostMessage) (close ok : Bool) :
    (s.answer i l messages close ok).Accounted := by
  cases messages with
  | nil =>
    simp only [Registry.answer]
    split_ifs
    · exact h.finish hl
    · exact h.same hl rfl rfl
  | cons m rest =>
    simp only [Registry.answer]
    split_ifs <;> exact h.same hl rfl rfl

theorem renew (h : s.Accounted) (hl : s.links[i]? = some l) (hello : HelloEnvelope) :
    (s.renew i l hello).Accounted := by
  have hlink := h l (List.mem_of_getElem? hl)
  refine h.setLink ⟨fun c hc => ?_, hlink.former⟩
  obtain ⟨d, hd, rfl⟩ := Option.map_eq_some_iff.mp hc
  exact hlink.counter d hd

theorem claim (h : s.Accounted) (hl : s.links[i]? = some l) (hello : HelloEnvelope) :
    (s.claim i l hello).Accounted := by
  have hdropped : l.drop.Accounted := (h l (List.mem_of_getElem? hl)).of_drop rfl rfl
  unfold Registry.claim
  split_ifs
  · exact h.reject hl _ _
  · exact h.reject hl _ _
  all_goals
    refine h.setLink ⟨fun c hc => ?_, hdropped.former⟩
    cases hc
    exact ⟨rfl, by simp [RegisteredClient.held, totalSize, ClientWriter.bytes]⟩

theorem handleFrame (h : s.Accounted) (hl : s.links[i]? = some l) (now : Int) (actions : List String) (ok : Bool)
    (frame : ClientFrame) : (s.handleFrame i l now actions ok frame).Accounted := by
  cases frame with
  | input bytes =>
    simp only [Registry.handleFrame]
    split_ifs <;> exact h.same hl rfl rfl
  | resize columns rows =>
    simp only [Registry.handleFrame]
    split_ifs <;> exact h.same hl rfl rfl
  | _ => exact h.same hl rfl rfl

theorem handle (h : s.Accounted) (hl : s.links[i]? = some l) (now : Int) (frame : ClientFrame) :
    (s.handle i l now frame).Accounted := by
  unfold Registry.handle
  split
  · exact h.same hl rfl rfl
  · cases hclient : l.client with
    | none => exact h.same hl rfl rfl
    | some client =>
      dsimp only
      split_ifs
      · exact h.same hl rfl rfl
      · exact h.same hl hclient.symm rfl

theorem proceedHello (h : s.Accounted) (hl : s.links[i]? = some l) (hello : HelloEnvelope) (renewing : Option Bool)
    (busy : Bool) : (s.proceedHello i l hello renewing busy).Accounted := by
  cases renewing with
  | some controller =>
    simp only [Registry.proceedHello]
    split_ifs
    · exact h.reject hl _ _
    · exact h.reject hl _ _
    · exact h.renew hl hello
  | none =>
    simp only [Registry.proceedHello]
    split_ifs <;> exact h.same hl rfl rfl

theorem advance (h : s.Accounted) (hl : s.links[i]? = some l) (now : Int) (ok : Bool) :
    (s.advance i l now ok).Accounted := by
  unfold Registry.advance
  cases l.handler with
  | idle => exact h
  | greeted hello =>
    dsimp only [Registry.verifyHello]
    split_ifs <;> exact h.same hl rfl rfl
  | verified hello renewing =>
    dsimp only [Registry.lookUpHello]
    split_ifs <;> exact h.same hl rfl rfl
  | unseen hello renewing busy =>
    dsimp only [Registry.recordHello]
    split_ifs <;> exact h.same hl rfl rfl
  | recorded hello renewing busy => exact h.proceedHello hl hello renewing busy
  | claiming hello => exact h.claim hl hello
  | checked checkedAt actions frame => exact h.handleFrame hl checkedAt actions ok frame
  | answering messages close => exact h.answer hl messages close ok

theorem enqueueAll (h : s.Accounted) (messages : List HostMessage) :
    (messages.foldl Registry.enqueueAll s).Accounted := by
  induction messages generalizing s with
  | nil => exact h
  | cons m messages ih =>
    apply ih
    intro l hl
    obtain ⟨d, hd, rfl⟩ := List.mem_map.mp hl
    exact (h d hd).enqueue m

/-- A writer keeps the accounts, unless it settles what it has written with another client. -/
theorem turn (h : s.Accounted) (hl : s.links[i]? = some l) {who : Option Nat} {c : RegisteredClient}
    (hfind : find l who = some c)
    (hown : who ≠ none → ∀ bytes, c.writer = .settling bytes true → l.client = none) (ok : Bool) :
    (s.turn i l who c ok).Accounted := by
  have hlink := h l (List.mem_of_getElem? hl)
  unfold Registry.turn
  cases hwriter : c.writer with
  | waiting =>
    dsimp only
    split_ifs
    · refine h.setLink (hlink.put hfind ?_ ?_) <;> simp [RegisteredClient.held, ClientWriter.bytes, hwriter]
    · exact h
  | looking =>
    dsimp only
    split_ifs
    · refine h.setLink (hlink.put hfind ?_ ?_) <;> simp [RegisteredClient.held, ClientWriter.bytes, hwriter]
    · refine h.setLink (hlink.put hfind ?_ ?_) <;> simp [RegisteredClient.held, ClientWriter.bytes, hwriter, totalSize]
  | writing chunk =>
    refine h.setLink (hlink.put hfind ?_ ?_) <;> simp [RegisteredClient.held, ClientWriter.bytes, hwriter]
  | settling bytes written =>
    cases written with
    | true =>
      cases who with
      | none =>
        refine h.setLink ⟨fun d hd => ?_, hlink.former⟩
        cases hd
        obtain ⟨hcounter, hcap⟩ := hlink.counter c hfind
        rw [RegisteredClient.held, hwriter] at hcap
        rw [hwriter] at hcounter
        simp only [ClientWriter.bytes] at hcounter hcap
        simp only [RegisteredClient.held, ClientWriter.bytes]
        omega
      | some k =>
        have hnone := hown (by simp) bytes hwriter
        have hput := @ClientLink.Accounted.put l hlink (some k) c { c with writer := .looking } hfind
          (by simp only [RegisteredClient.held, ClientWriter.bytes]; omega) (by simp)
        refine h.setLink (hput.of_eq ?_ rfl)
        simp [put, hnone]
    | false =>
      have hheld : c.held ≤ queueCap → RegisteredClient.held { c with writer := .stopped } ≤ queueCap := by
        simp only [RegisteredClient.held, ClientWriter.bytes]
        omega
      dsimp only
      split_ifs <;> exact h.setLink (hlink.fail hfind hheld rfl rfl)
  | stopped => exact h

theorem step (h : s.Accounted) (e : RegistryEvent) (hown : OwnAccount s e) : (s.step e).Accounted := by
  have onLink {i : Nat} {f : ClientLink → Registry} (hf : ∀ l, s.links[i]? = some l → (f l).Accounted) :
      (s.onLink i f).Accounted := by
    unfold Registry.onLink
    cases hl : s.links[i]? with
    | none => exact h
    | some l => exact hf l hl
  cases e with
  | accept =>
    intro l hl
    rcases List.mem_append.mp hl with hold | hnew
    · exact h l hold
    · rw [List.mem_singleton.mp hnew]
      exact ⟨by simp, by simp⟩
  | request i now frame =>
    refine onLink fun l hl => ?_
    split_ifs
    · exact h.handle hl now frame
    · exact h
  | advance i now ok => exact onLink fun l hl => h.advance hl now ok
  | hangUp i =>
    refine onLink fun l hl => ?_
    split_ifs
    · exact h.finish hl
    · exact h
  | malformed i code =>
    refine onLink fun l hl => ?_
    split_ifs
    · exact h.reject hl _ _
    · exact h
  | produce data =>
    have hproduced : Registry.Accounted { s with ring := s.ring.append data } := h
    rw [Registry.step]
    split_ifs
    · exact h
    · exact hproduced.enqueueAll _
  | exit code =>
    have hexited : Registry.Accounted { s with exited := some code } := h
    rw [Registry.step]
    split_ifs
    · exact h
    · exact hexited.enqueueAll [.exit code]
  | turn i who ok =>
    refine onLink fun l hl => ?_
    cases hfind : find l who with
    | none => exact h
    | some c =>
      refine h.turn hl hfind (fun hwho bytes hwriter => ?_) ok
      obtain ⟨k, rfl⟩ := Option.ne_none_iff_exists'.mp hwho
      exact hown l hl c hfind bytes hwriter
  | shutDown =>
    intro m hm
    obtain ⟨l, hl, rfl⟩ := List.mem_map.mp hm
    exact (h l hl).of_drop rfl rfl

end Accounted
end Registry

/-- The slots, the tickets and the checks hold in every run; and the cap does in every run in which no writer settles
what it has written with the client that has come after its own. -/
theorem controller_exclusive (enrollment : HostEnrollment) (ringBytes : Nat) (secret : List UInt8)
    (events : List Registry.RegistryEvent) :
    Exclusive (Trace.run Registry.step (.initial enrollment ringBytes secret) events) ∧
      (Trace.Meets Registry.step OwnAccount (.initial enrollment ringBytes secret) events →
        Capped (Trace.run Registry.step (.initial enrollment ringBytes secret) events)) := by
  have hinitial := Registry.Kept.initial enrollment ringBytes secret
  have haccounted : (Registry.initial enrollment ringBytes secret).Accounted := fun l hl => nomatch hl
  exact ⟨(@Trace.invariant_of_step _ _ Registry.step Registry.Kept (fun _ e hs => hs.step e) _ hinitial events).exclusive,
    fun h => (@Trace.invariant_run _ _ Registry.step OwnAccount Registry.Accounted (fun _ e hs hown => hs.step e hown) _
      events haccounted h).capped⟩

namespace Sample

def observer (id : String) : HelloEnvelope :=
  ⟨"roomsd", "runtime", "session", "runtime", "authority", 1, ["observe"], 1000, id, 0, [7]⟩

/-- A client registers while its predecessor's writer has a chunk in hand, and output goes on. -/
def hellos (id : String) : List Registry.RegistryEvent :=
  .request 0 0 (.hello (observer id)) :: List.replicate 5 (.advance 0 0 true)

def turns (who : Option Nat) (n : Nat) : List Registry.RegistryEvent := List.replicate n (.turn 0 who true)

def produces (data : List UInt8) (n : Nat) : List Registry.RegistryEvent := List.replicate n (.produce data)

def overdraft (data : List UInt8) : List Registry.RegistryEvent :=
  .accept :: hellos "a" ++ [.advance 0 0 true, .advance 0 0 true] ++ produces data 3 ++ turns none 3 ++ produces data 1 ++
    hellos "b" ++ turns (some 0) 1 ++ produces data 5

/-- The host with one connection, some way on. -/
def hostWith (ring : Ring) (seen accepted : List String) (l : ClientLink) : Registry :=
  ⟨⟨"session", "runtime", "authority", 1⟩, ring, [7], false, none, seen, none, [l], accepted, []⟩

def client (queue : List HostMessage) (inFlight : Int) (wake : Bool) (writer : ClientWriter) : RegisteredClient :=
  ⟨false, ["observe"], 1000, queue, inFlight, wake, writer⟩

end Sample

section Overdraft
open Sample
variable {data : List UInt8} {ring : Ring} {seen accepted : List String} {l : ClientLink}

theorem outputFrames_small (cursor : Nat) (hsome : data ≠ []) (hsmall : data.length ≤ MaxFrame - 9) :
    outputFrames cursor data = [.output cursor data] := by
  obtain ⟨n, hn⟩ := Nat.exists_eq_succ_of_ne_zero (mt List.length_eq_zero_iff.mp hsome)
  rw [outputFrames, hn, takeOutput, if_neg hsome, List.take_of_length_le hsmall, List.drop_of_length_le hsmall]
  cases n <;> simp [takeOutput]

theorem step_produce (hdata : data.length = 65536) :
    (hostWith ring seen accepted l).step (.produce data) =
      hostWith (ring.append data) seen accepted (Registry.enqueue (.output ring.total data) l) := by
  have hframes := @outputFrames_small data ring.total (by rintro rfl; simp at hdata) (by rw [hdata]; decide)
  change (outputFrames ring.total data).foldl Registry.enqueueAll _ = _
  rw [hframes]
  rfl

theorem enqueue_fits {message : HostMessage} {c : RegisteredClient} (hclient : l.client = some c)
    (h : totalSize c.queue + c.inFlight + message.size ≤ queueCap) :
    Registry.enqueue message l = { l with client := some { c with queue := c.queue ++ [message], wake := true } } := by
  have hlags : Registry.lags message c = false := by simpa [Registry.lags] using h
  unfold Registry.enqueue
  rw [hclient]
  simp [hlags]

theorem enqueue_lags {message : HostMessage} {c : RegisteredClient} (hclient : l.client = some c)
    (h : queueCap < totalSize c.queue + c.inFlight + message.size) :
    Registry.enqueue message l = { l.drop with opened := false } := by
  have hlags : Registry.lags message c = true := by simpa [Registry.lags] using h
  unfold Registry.enqueue
  rw [hclient]
  simp [hlags]

theorem run_produces (hdata : data.length = 65536) (opened : Bool) (former : List RegisteredClient)
    (handler : HandlerPhase) (inFlight : Int) (writer : ClientWriter) (n : Nat) (queue : List HostMessage)
    (wake : Bool) (ring : Ring) (hroom : totalSize queue + inFlight + n * 65549 ≤ queueCap) :
    ∃ ring' queue' wake', totalSize queue' = totalSize queue + n * 65549 ∧ (n ≠ 0 → wake' = true) ∧
      Trace.run Registry.step
          (hostWith ring seen accepted ⟨opened, true, some (client queue inFlight wake writer), former, handler⟩)
          (produces data n) =
        hostWith ring' seen accepted ⟨opened, true, some (client queue' inFlight wake' writer), former, handler⟩ := by
  induction n generalizing queue wake ring with
  | zero => exact ⟨ring, queue, wake, by omega, by simp, rfl⟩
  | succ n ih =>
    have hsize : HostMessage.size (.output ring.total data) = 65549 := by simp [HostMessage.size, hdata]
    have hfits : totalSize queue + inFlight + HostMessage.size (.output ring.total data) ≤ queueCap := by
      rw [hsize]
      push_cast at hroom ⊢
      omega
    have htotal : totalSize (queue ++ [.output ring.total data]) = totalSize queue + 65549 := by
      rw [ClientLink.Accounted.totalSize_append, hsize]
    obtain ⟨ring', queue', wake', hqueue', hwake', hrun⟩ := ih (queue ++ [.output ring.total data]) true
      (ring.append data) (by rw [htotal]; push_cast at hroom ⊢; omega)
    refine ⟨ring', queue', wake', by omega, fun _ => ?_, ?_⟩
    · cases n with
      | zero =>
        have hclients := congrArg (fun s : Registry => s.links.map fun l => l.client.map RegisteredClient.wake) hrun
        simpa [hostWith, client, produces] using hclients.symm
      | succ n => exact hwake' (by omega)
    · rw [← hrun]
      change Trace.run Registry.step (Registry.step _ (.produce data)) (produces data n) = _
      rw [step_produce hdata, enqueue_fits rfl hfits]
      rfl

theorem run_turns (ring : Ring) {queue : List HostMessage} (hsome : queue ≠ []) :
    Trace.run Registry.step
        (hostWith ring seen accepted ⟨true, true, some (client queue 0 true .waiting), [], .idle⟩) (turns none 3) =
      hostWith ring seen accepted ⟨true, true, some (client [] (0 + totalSize queue) false
        (.settling (totalSize queue) true)), [], .idle⟩ := by
  obtain ⟨m, rest, rfl⟩ := List.exists_cons_of_ne_nil hsome
  rfl

theorem run_dropped (hdata : data.length = 65536) (ring : Ring) {bytes : Nat} (hfull : queueCap < bytes + 65549) :
    Trace.run Registry.step
        (hostWith ring seen accepted ⟨true, true, some (client [] (0 + bytes) false (.settling bytes true)), [], .idle⟩)
        (produces data 1) =
      hostWith (ring.append data) seen accepted
        ⟨false, true, none, [client [] (0 + bytes) false (.settling bytes true)], .idle⟩ := by
  have hlags : (queueCap : Int) < totalSize [] + (0 + bytes) + HostMessage.size (.output ring.total data) := by
    simp only [HostMessage.size, hdata, totalSize, List.map_nil, List.sum_nil]
    push_cast
    omega
  simp only [produces, List.replicate, Trace.run_cons, Trace.run_nil]
  rw [step_produce hdata, enqueue_lags rfl hlags]
  rfl

theorem run_hello (ring : Ring) (opened : Bool) (former : List RegisteredClient) {id : String} (hnew : id ∉ seen)
    (hnamed : id ≠ "") (hroom : seen.length < maxSeenCredentials) :
    ∃ handler, Trace.run Registry.step (hostWith ring seen accepted ⟨opened, true, none, former, .idle⟩) (hellos id) =
      hostWith ring (seen ++ [id]) (accepted ++ [id])
        ⟨opened, true, some (client [] 0 false .waiting), former, handler⟩ := by
  have hcap : ¬ maxSeenCredentials ≤ seen.length := by omega
  have hobservers : ¬ observerCap ≤ 0 := by decide
  refine ⟨(hostWith ring (seen ++ [id]) accepted ⟨opened, true, none, former, .claiming (observer id)⟩).greeting 0, ?_⟩
  simp [hellos, List.replicate, Registry.step, Registry.onLink, Registry.handle, Registry.setLink, Registry.advance,
    Registry.verifyHello, Registry.invalidHello, Registry.lookUpHello, Registry.recordHello, Registry.proceedHello,
    Registry.claim, Registry.observerCount, HelloEnvelope.wantControl, hostWith, observer, client, ClientLink.drop,
    hnew, hnamed, hcap, hobservers]

theorem run_settled (ring : Ring) (bytes : Nat) :
    ∃ handler, Trace.run Registry.step (hostWith ring ["a"] ["a"]
        ⟨false, true, none, [client [] (0 + bytes) false (.settling bytes true)], .idle⟩) (hellos "b" ++ turns (some 0) 1) =
      hostWith ring ["a", "b"] ["a", "b"] ⟨false, true, some (client [] (0 - bytes) false .waiting),
        [client [] (0 + bytes) false .looking], handler⟩ := by
  obtain ⟨handler, hhello⟩ := @run_hello ["a"] ["a"] ring false [client [] (0 + bytes) false (.settling bytes true)] "b"
    (by decide) (by decide) (by decide)
  refine ⟨handler, ?_⟩
  rw [Trace.run_append, hhello]
  rfl

theorem overdrawn (hdata : data.length = 65536) :
    ¬ Capped (Trace.run Registry.step (.initial ⟨"session", "runtime", "authority", 1⟩ 4 [7]) (overdraft data)) := by
  have hstart : Trace.run Registry.step (.initial ⟨"session", "runtime", "authority", 1⟩ 4 [7])
      (.accept :: hellos "a" ++ [.advance 0 0 true, .advance 0 0 true]) =
        hostWith ⟨4, [], 0⟩ ["a"] ["a"] ⟨true, true, some (client [] 0 false .waiting), [], .idle⟩ := by
    rfl
  obtain ⟨ring, queue, wake, hqueue, hwake, hfilled⟩ := @run_produces data ["a"] ["a"] hdata true [] .idle 0 .waiting 3 []
    false ⟨4, [], 0⟩ (by decide)
  rw [hwake (by decide)] at hfilled
  have hsome : queue ≠ [] := by
    rintro rfl
    simp [totalSize] at hqueue
  have hbytes : totalSize queue = 196647 := hqueue
  have htaken := @run_turns ["a"] ["a"] ring queue hsome
  generalize totalSize queue = bytes at hbytes htaken
  have hdropped := @run_dropped data ["a"] ["a"] hdata ring bytes (by unfold queueCap; omega)
  obtain ⟨handler, hnext⟩ := run_settled (ring.append data) bytes
  obtain ⟨ring', queue', wake', hqueue', -, hlast⟩ := @run_produces data ["a", "b"] ["a", "b"] hdata false
    [client [] (0 + bytes) false .looking] handler (0 - bytes) .waiting 5 [] false (ring.append data) (by
      simp only [totalSize, List.map_nil, List.sum_nil, queueCap]
      omega)
  have hsplit : overdraft data = (.accept :: hellos "a" ++ [.advance 0 0 true, .advance 0 0 true]) ++
      (produces data 3 ++ (turns none 3 ++ (produces data 1 ++ ((hellos "b" ++ turns (some 0) 1) ++
        produces data 5)))) := by
    simp [overdraft]
  rw [hsplit, Trace.run_append, hstart, Trace.run_append, hfilled, Trace.run_append, htaken, Trace.run_append,
    hdropped, Trace.run_append, hnext, hlast]
  intro hcapped
  have hheld := hcapped _ List.mem_cons_self (client queue' (0 - bytes) wake' .waiting) List.mem_cons_self
  change totalSize queue' + 0 ≤ 262144 at hheld
  have hempty : totalSize [] = 0 := rfl
  omega

end Overdraft

/-- The client is dropped while its writer has a chunk in hand, which is settled before the next one registers. -/
def Sample.succession : List Registry.RegistryEvent :=
  .accept :: hellos "a" ++ [.advance 0 0 true, .advance 0 0 true] ++ produces [1, 2] 1 ++ turns none 3 ++ [.shutDown] ++
    turns (some 0) 2 ++ hellos "b" ++ produces [3] 1 ++ turns none 3

instance (s : Registry) : ∀ e, Decidable (OwnAccount s e)
  | .turn i (some k) _ =>
    decidable_of_iff (∀ l ∈ s.links[i]?, ∀ c ∈ l.former[k]?,
      (match c.writer with | .settling _ true => true | _ => false) = true → l.client = none) <| by
    refine forall₂_congr fun l _ => forall₂_congr fun c _ => ?_
    constructor
    · rintro h bytes hwriter
      exact h (by rw [hwriter])
    · intro h hsettling
      split at hsettling
      · exact h _ ‹_›
      · cases hsettling
  | .turn _ none _ | .accept | .request .. | .advance .. | .hangUp _ | .malformed .. | .produce _ | .exit _ | .shutDown =>
    isTrue trivial

theorem controller_exclusive_succeeded :
    ((Trace.run Registry.step (.initial ⟨"session", "runtime", "authority", 1⟩ 4 [7]) Sample.succession).links.map
      fun l => (l.client.isSome, l.former.length)) = [(true, 1)] ∧
    Capped (Trace.run Registry.step (.initial ⟨"session", "runtime", "authority", 1⟩ 4 [7]) Sample.succession) :=
  ⟨by decide +kernel, (controller_exclusive ⟨"session", "runtime", "authority", 1⟩ 4 [7] _).2 (by decide +kernel)⟩

theorem cap_exceeded : ¬ ∀ enrollment ringBytes secret events,
    Exclusive (Trace.run Registry.step (.initial enrollment ringBytes secret) events) ∧
      Capped (Trace.run Registry.step (.initial enrollment ringBytes secret) events) := by
  intro h
  exact overdrawn (by rw [List.length_replicate]) (h ⟨"session", "runtime", "authority", 1⟩ 4 [7]
    (Sample.overdraft (List.replicate 65536 0))).2

end Wardroom.Runtime.Host
