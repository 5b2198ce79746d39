import Wardroom.Runtime.Native.AttachStream

/-! # A stream that flows

From the hello on the stream queues what the client emits, in the order in which
the link hands it over, until the link is closed.
-/

namespace Wardroom.Runtime.Native
open Wardroom.Library Wardroom.Runtime.Host

section Kept
variable {s : AttachStream} {hello : HostHelloAck} {closing : List StreamItem} {link : HostLink}

namespace AttachStream

/-- More can arrive. -/
def Live (s : AttachStream) : Prop := s.link.client.sends = true ∧ s.broken = false

/-- The client has heard the host up to `turn`, and awaits what is in flight and what is unanswered. -/
structure Waits (s : AttachStream) (turn : HostTurn) : Prop where
  follows : turn.followAll (s.link.inFlight.map Sent.frame) = some s.turn
  pending : s.link.client.pending = s.link.inFlight.filterMap Sent.cause ++ s.link.unanswered

/-- Just the HELLO waits, and nothing has been heard. -/
structure Attaching (s : AttachStream) : Prop where
  yielded : s.yielded = []
  settled : s.link.client.settled = []
  microtasks : s.link.client.microtasks = []
  renewalTimer : s.link.client.renewalTimer = false
  connects : ∀ r ∈ s.link.client.pending, r.kind = .connect
  live : s.Live → s.Waits .silent ∧ s.queue = [] ∧ s.link.client.emitted = [] ∧ s.link.client.pending.length = 1

/-- While more can arrive, what has come is either all output or ends with the exit. -/
structure Flowing (s : AttachStream) (hello : HostHelloAck) (closing : List StreamItem) : Prop
    extends Sequence s hello closing where
  renewals : ∀ r ∈ s.link.client.pending, r.kind = .renewal
  live : s.Live → ∃ turn, s.Waits turn ∧
    (turn = .producing (reach hello.replayFrom (outputsOf s.link.client.emitted)) ∧ closing = [] ∨ turn = .exited)

inductive Stage (s : AttachStream) : Prop
  | connecting (hphase : s.phase = .connecting) (renewCapabilities : Bool)
      (hlink : s.link = .initial renewCapabilities) (hturn : s.turn = .silent) (hqueue : s.queue = [])
      (hyielded : s.yielded = [])
  | attaching (hphase : s.phase = .attaching) (h : s.Attaching)
  | streaming (hphase : s.phase = .streaming) (hello : HostHelloAck) (closing : List StreamItem)
      (h : s.Flowing hello closing)
  | done (hphase : s.phase = .done) (hello : HostHelloAck) (closing : List StreamItem)
      (h : Sequence s hello closing) (hqueue : s.queue = [])
  | abandoned (hphase : s.phase = .abandoned) (hello : HostHelloAck) (closing : List StreamItem)
      (h : Sequence s hello closing)
  | threw (hphase : s.phase = .threw) (hyielded : s.yielded = [])

/-- Just the answers among the frames in flight have a cause, and the host is asked for nothing but
acknowledgements. -/
structure Sound (link : HostLink) : Prop where
  orderly : Orderly (fun _ => none) link
  caused : ∀ t ∈ link.inFlight, t.frame.isResponse = t.cause.isSome
  asked : ∀ r ∈ link.unanswered, r.kind = .connect ∨ r.kind = .renewal

theorem Stage.delivered (h : s.Stage) : Delivered s := by
  cases h with
  | connecting hphase _ _ _ _ hyielded => exact ⟨fun _ => hyielded, by simp [hphase, StreamPhase.attached], by simp [hphase]⟩
  | attaching hphase h => exact ⟨fun _ => h.yielded, by simp [hphase, StreamPhase.attached], by simp [hphase]⟩
  | streaming hphase hello closing h =>
    exact ⟨by simp [hphase, StreamPhase.attached], fun _ => ⟨hello, closing, h.toSequence⟩, by simp [hphase]⟩
  | done hphase hello closing h hqueue =>
    exact ⟨by simp [hphase, StreamPhase.attached], fun _ => ⟨hello, closing, h⟩, fun _ => hqueue⟩
  | abandoned hphase hello closing h =>
    exact ⟨by simp [hphase, StreamPhase.attached], fun _ => ⟨hello, closing, h⟩, by simp [hphase]⟩
  | threw hphase hyielded => exact ⟨fun _ => hyielded, by simp [hphase, StreamPhase.attached], by simp [hphase]⟩

theorem serve_idle (h : s.phase ≠ .streaming) : s.serve = s := by rw [serve, if_neg h]

theorem resume_idle (h : s.phase ≠ .attaching) : s.resume = s := by rw [resume, if_neg h]

theorem serve_items (s : AttachStream) : s.serve.yielded ++ s.serve.queue = s.yielded ++ s.queue ∧
    s.serve.link = s.link ∧ s.serve.turn = s.turn ∧ s.serve.broken = s.broken := by
  by_cases hphase : s.phase = .streaming
  · rw [serve, if_pos hphase]
    refine ⟨?_, rfl, rfl, rfl⟩
    dsimp only
    rw [List.append_assoc, List.take_append_drop]
  · rw [serve_idle hphase]
    exact ⟨rfl, rfl, rfl, rfl⟩

theorem serve_phase (h : s.phase = .streaming) :
    s.serve.phase = .streaming ∨ s.serve.phase = .abandoned ∨ s.serve.phase = .done ∧ s.serve.queue = [] := by
  rw [serve, if_pos h]
  by_cases hdone : (s.closed && decide (s.queue.length < s.pulls)) = true
  · refine .inr (.inr ⟨if_pos hdone, ?_⟩)
    rw [Bool.and_eq_true, decide_eq_true_eq] at hdone
    apply List.drop_eq_nil_of_le
    rw [Nat.min_eq_right (Nat.le_of_lt hdone.2)]
  · dsimp only
    rw [if_neg hdone]
    split_ifs
    · exact .inr (.inl rfl)
    · exact .inl rfl

theorem sequence_serve (h : Sequence s hello closing) : Sequence s.serve hello closing := by
  obtain ⟨hitems, hlink, -, -⟩ := serve_items s
  exact ⟨by rw [hitems, hlink]; exact h.items, by rw [hlink]; exact h.contiguous, h.closes, h.exits⟩

theorem Flowing.serve (hphase : s.phase = .streaming) (h : s.Flowing hello closing) : s.serve.Stage := by
  obtain ⟨-, hlink, hturn, hbroken⟩ := serve_items s
  have hsequence := sequence_serve h.toSequence
  rcases serve_phase hphase with hstill | hleft | ⟨hdone, hqueue⟩
  · refine .streaming hstill hello closing ⟨hsequence, by rw [hlink]; exact h.renewals, fun hlive => ?_⟩
    unfold Live at hlive
    rw [hlink, hbroken] at hlive
    obtain ⟨turn, hwaits, hwhere⟩ := h.live hlive
    refine ⟨turn, ⟨?_, ?_⟩, ?_⟩
    · rw [hlink, hturn]
      exact hwaits.follows
    · rw [hlink]
      exact hwaits.pending
    · rw [hlink]
      exact hwhere
  · exact .abandoned hleft hello closing hsequence
  · exact .done hdone hello closing hsequence hqueue

theorem outputsOf_append (emissions emissions' : List Emission) :
    outputsOf (emissions ++ emissions') = outputsOf emissions ++ outputsOf emissions' := List.filterMap_append

theorem outputsOf_outputs (values : List HostOutput) : outputsOf (values.map .output) = values := by
  unfold outputsOf
  rw [List.filterMap_map]
  exact List.filterMap_some

variable {others : List Emission}

theorem outputsOf_eq_nil (h : ∀ value, .output value ∉ others) : outputsOf others = [] := by
  refine List.filterMap_eq_nil_iff.mpr fun emission hemission => ?_
  cases emission with
  | output value => exact absurd hemission (h value)
  | exit code => rfl
  | error reason => rfl
  | close => rfl

theorem hear_emitted (emissions : List Emission)
    (hemitted : link.client.emitted = s.link.client.emitted ++ emissions) :
    (s.hear link).queue = s.queue ++ emissions.filterMap StreamItem.ofEmission := by
  unfold hear
  rw [hemitted, List.drop_left]

theorem isClosing_of_mem (h : ∀ value, .output value ∉ others) :
    ∀ item ∈ others.filterMap StreamItem.ofEmission, item.isClosing = true := by
  intro item hitem
  obtain ⟨emission, hemission, hsome⟩ := List.mem_filterMap.mp hitem
  cases emission with
  | output value => exact absurd hemission (h value)
  | exit code => cases hsome; rfl
  | error reason => cases hsome; rfl
  | close => cases hsome

theorem sequence_hear (h : Sequence s hello closing) {values : List HostOutput}
    (hemitted : link.client.emitted = s.link.client.emitted ++ (values.map .output ++ others))
    (hothers : ∀ value, .output value ∉ others)
    (hcontiguous : Contiguous (reach hello.replayFrom (outputsOf s.link.client.emitted)) values)
    (hfirst : values ≠ [] → closing = [])
    (hexits : ((closing ++ others.filterMap StreamItem.ofEmission).filter StreamItem.isExit).length ≤ 1) :
    Sequence (s.hear link) hello (closing ++ others.filterMap StreamItem.ofEmission) := by
  have houtputs : outputsOf link.client.emitted = outputsOf s.link.client.emitted ++ values := by
    rw [hemitted, outputsOf_append, outputsOf_append, outputsOf_outputs, outputsOf_eq_nil hothers, List.append_nil]
  have hitems : (values.map Emission.output).filterMap StreamItem.ofEmission = values.map StreamItem.ofOutput := by
    rw [List.filterMap_map]
    exact congrFun List.filterMap_eq_map values
  have hmoved : closing ++ values.map StreamItem.ofOutput = values.map StreamItem.ofOutput ++ closing := by
    by_cases hnone : values = []
    · rw [hnone]
      simp
    · rw [hfirst hnone]
      simp
  refine ⟨?_, ?_, ?_, hexits⟩
  · rw [hear_emitted _ hemitted, List.filterMap_append, hitems]
    change s.yielded ++ _ = .ofHello hello :: ((outputsOf link.client.emitted).map .ofOutput ++ _)
    rw [← List.append_assoc s.yielded, h.items, houtputs, List.map_append, List.cons_append, List.append_assoc,
      ← List.append_assoc closing, hmoved]
    simp
  · change Contiguous hello.replayFrom (outputsOf link.client.emitted)
    rw [houtputs]
    exact contiguous_append.mpr ⟨h.contiguous, hcontiguous⟩
  · exact List.forall_mem_append.mpr ⟨h.closes, isClosing_of_mem hothers⟩

/-- What the link of a stream can do. -/
def Permitted : LinkEvent → Prop
  | .answer f => f.WellFormed ∧ f.isResponse = true
  | .write f => f.WellFormed ∧ f.isResponse = false
  | .terminate => False
  | .ping => False
  | .deliverMessage _ => False
  | _ => True

theorem Sound.ask (h : Sound link) {kind : HostRequestKind} (hkind : kind = .connect ∨ kind = .renewal)
    {c : RuntimeHostClient} (halike : Alike link.client c) : Sound (HostLink.ask { link with client := c } kind) := by
  refine ⟨(h.orderly.alike halike).ask kind, h.caused, ?_⟩
  unfold HostLink.ask
  dsimp only
  split_ifs
  · refine List.forall_mem_append.mpr ⟨h.asked, fun r hr => ?_⟩
    rw [List.mem_singleton.mp hr]
    exact hkind
  · exact h.asked

theorem Sound.step (h : Sound link) (event : LinkEvent) (hpermitted : Permitted event) : Sound (link.step event) := by
  have hconforms : Conforms (fun _ => none) link event := by
    cases event with
    | answer f =>
      refine ⟨hpermitted.1, ?_⟩
      cases hunanswered : link.unanswered with
      | nil => rfl
      | cons r rest =>
        have hkind := h.asked r (hunanswered ▸ List.mem_cons_self ..)
        rcases hkind with hkind | hkind <;> simp [HostRequest.accepts, hkind, hpermitted.2]
    | write f => exact hpermitted.1
    | _ => trivial
  have horderly := orderly_step h.orderly event hconforms
  cases event with
  | terminate => exact hpermitted.elim
  | ping => exact hpermitted.elim
  | deliverMessage input => exact hpermitted.elim
  | connect =>
    rw [HostLink.step]
    split_ifs
    · exact h
    · exact h.ask (.inl rfl) ⟨rfl, rfl, rfl, rfl⟩
  | renew =>
    rw [HostLink.step]
    split_ifs
    · exact h.ask (.inr rfl) ⟨rfl, rfl, rfl, rfl⟩
    · exact h
  | timeOut requestId => exact ⟨horderly, h.caused, h.asked⟩
  | socketClosed => exact ⟨horderly, h.caused, h.asked⟩
  | close => exact ⟨horderly, h.caused, h.asked⟩
  | write f =>
    refine ⟨horderly, List.forall_mem_append.mpr ⟨h.caused, fun t ht => ?_⟩, h.asked⟩
    rw [List.mem_singleton.mp ht]
    exact hpermitted.2
  | answer f =>
    refine ⟨horderly, ?_, ?_⟩
    · rw [HostLink.step]
      cases link.unanswered with
      | nil => exact h.caused
      | cons r rest =>
        refine List.forall_mem_append.mpr ⟨h.caused, fun t ht => ?_⟩
        rw [List.mem_singleton.mp ht]
        exact hpermitted.2
    · rw [HostLink.step]
      cases hunanswered : link.unanswered with
      | nil => exact h.asked
      | cons r rest => exact fun r' hr' => h.asked r' (hunanswered ▸ List.mem_cons_of_mem _ hr')
  | arrive n =>
    refine ⟨horderly, ?_, ?_⟩
    · rw [HostLink.step]
      split_ifs
      · exact fun t ht => h.caused t (List.mem_of_mem_drop ht)
      · exact h.caused
    · rw [HostLink.step]
      split_ifs
      · exact h.asked
      · exact h.asked

theorem sound_initial (renewCapabilities : Bool) : Sound (.initial renewCapabilities) :=
  ⟨orderly_initial _ renewCapabilities, fun _ h => (List.not_mem_nil h).elim, fun _ h => (List.not_mem_nil h).elim⟩

/-- The client after a chunk, when the responses in it are all waited for. -/
theorem Sound.arrive (h : Sound link) (n : Nat)
    (hpending : link.client.pending = link.inFlight.filterMap Sent.cause ++ link.unanswered) :
    ∃ rest, link.completes n ++ rest = link.inFlight ∧ (link.arrive n).inFlight = rest ∧
      ∃ c, (link.arrive n).client = c.runMicrotasks ∧ c = Trace.run receive (link.receiving n) (link.completes n) ∧
        Emits ((link.completes n).flatMap fun t => emissionsOf t.frame) link.client c ∧
        c.pending = rest.filterMap Sent.cause ++ link.unanswered := by
  obtain ⟨hparts, hclient, -⟩ := h.orderly.completes n
  refine ⟨_, hparts, rfl, _, ?_, rfl, ?_⟩
  · rw [HostLink.arrive, hclient]
  have hin : ∀ t ∈ link.completes n, t ∈ link.inFlight := fun t ht => hparts ▸ List.mem_append_left _ ht
  have hwaiting : (link.receiving n).pending = (link.completes n).filterMap Sent.cause ++
      ((link.inFlight.drop (link.completes n).length).filterMap Sent.cause ++ link.unanswered) := by
    change link.client.pending = _
    rw [← List.append_assoc, ← List.filterMap_append, hparts]
    exact hpending
  obtain ⟨hemits, hleft⟩ := run_emits (fun t ht => h.orderly.wellFormed t (hin t ht))
    (fun t ht => h.caused t (hin t ht)) hwaiting
  exact ⟨⟨hemits.emitted, hemits.connected, hemits.closed, hemits.renewalTimer⟩, hleft⟩

theorem follow_streaming (hphase : s.phase = .streaming) (h : Sequence s hello closing) (values : List HostOutput)
    (hemitted : link.client.emitted = s.link.client.emitted ++ (values.map .output ++ others))
    (hothers : ∀ value, .output value ∉ others)
    (hcontiguous : Contiguous (reach hello.replayFrom (outputsOf s.link.client.emitted)) values)
    (hfirst : values ≠ [] → closing = [])
    (hexits : ((closing ++ others.filterMap StreamItem.ofEmission).filter StreamItem.isExit).length ≤ 1)
    (hrenewals : ∀ r ∈ link.client.pending, r.kind = .renewal)
    (hlive : link.client.sends = true → s.broken = false → ∃ turn,
      HostTurn.followAll turn (link.inFlight.map Sent.frame) = some s.turn ∧
        link.client.pending = link.inFlight.filterMap Sent.cause ++ link.unanswered ∧
        (turn = .producing (reach hello.replayFrom (outputsOf link.client.emitted)) ∧ closing = [] ∧
          others.filterMap StreamItem.ofEmission = [] ∨ turn = .exited)) :
    (s.follow link).Stage := by
  have hresume : (s.hear link).resume = s.hear link := by
    apply resume_idle
    change s.phase ≠ _
    rw [hphase]
    simp
  rw [follow, hresume]
  refine Flowing.serve hphase (show (s.hear link).Flowing hello (closing ++ others.filterMap StreamItem.ofEmission) from
    ⟨sequence_hear h hemitted hothers hcontiguous hfirst hexits, hrenewals, fun halive => ?_⟩)
  obtain ⟨turn, hfollows, hpending, hwhere⟩ := hlive halive.1 halive.2
  refine ⟨turn, ⟨hfollows, hpending⟩, hwhere.imp_left fun ⟨hturn, hnone, hquiet⟩ => ⟨hturn, ?_⟩⟩
  rw [hnone, hquiet]
  rfl

theorem follow_quiet (hphase : s.phase = .streaming) (h : Sequence s hello closing) (others : List Emission)
    (hemitted : link.client.emitted = s.link.client.emitted ++ others)
    (hothers : ∀ emission ∈ others, emission = .close ∨ ∃ reason, emission = .error reason)
    (hrenewals : ∀ r ∈ link.client.pending, r.kind = .renewal)
    (hlive : link.client.sends = true → s.broken = false → others = [] ∧ ∃ turn,
      HostTurn.followAll turn (link.inFlight.map Sent.frame) = some s.turn ∧
        link.client.pending = link.inFlight.filterMap Sent.cause ++ link.unanswered ∧
        (turn = .producing (reach hello.replayFrom (outputsOf s.link.client.emitted)) ∧ closing = [] ∨ turn = .exited)) :
    (s.follow link).Stage := by
  have hnone : (others.filterMap StreamItem.ofEmission).filter StreamItem.isExit = [] := by
    refine List.filter_eq_nil_iff.mpr fun item hitem => ?_
    obtain ⟨emission, hemission, hsome⟩ := List.mem_filterMap.mp hitem
    rcases hothers emission hemission with rfl | ⟨reason, rfl⟩
    · cases hsome
    · cases hsome
      simp [StreamItem.isExit]
  refine follow_streaming hphase h [] hemitted (fun value hvalue => ?_) trivial (absurd rfl) ?_ hrenewals
    fun hsends hbroken => ?_
  · rcases hothers _ hvalue with hclose | ⟨reason, herror⟩
    · cases hclose
    · cases herror
  · rw [List.filter_append, hnone, List.append_nil]
    exact h.exits
  · obtain ⟨rfl, turn, hfollows, hpending, hwhere⟩ := hlive hsends hbroken
    refine ⟨turn, hfollows, hpending, hwhere.imp_left fun ⟨hturn, hclosing⟩ => ⟨?_, hclosing, rfl⟩⟩
    rw [hemitted, List.append_nil]
    exact hturn

theorem Waits.speak {turn : HostTurn} (h : s.Waits turn) {f : HostFrame} (hfollows : (s.turn.follow f).isSome = true)
    {t : Sent} (hframe : t.frame = f) {rest : List HostRequest} (hrest : s.link.unanswered = t.cause.toList ++ rest) :
    turn.followAll ((s.link.inFlight ++ [t]).map Sent.frame) = some ((s.turn.follow f).getD s.turn) ∧
      s.link.client.pending = (s.link.inFlight ++ [t]).filterMap Sent.cause ++ rest := by
  constructor
  · obtain ⟨turn', hturn'⟩ := Option.isSome_iff_exists.mp hfollows
    rw [List.map_append, List.map_singleton, hframe, followAll_snoc h.follows, hturn']
    rfl
  · rw [h.pending, hrest, List.filterMap_append, List.append_assoc]
    cases hcause : t.cause <;> simp [hcause]

/-- The host puts a frame that it may write on the stream. -/
theorem Flowing.speak (hphase : s.phase = .streaming) (h : s.Flowing hello closing) {f : HostFrame}
    (hfollows : (s.turn.follow f).isSome = true) {t : Sent} (hframe : t.frame = f) {rest : List HostRequest}
    (hrest : s.link.unanswered = t.cause.toList ++ rest) {answers : List (HostRequest × HostFrame)} :
    (follow { s with turn := (s.turn.follow f).getD s.turn }
      (HostLink.emit { s.link with unanswered := rest, answers := answers } t)).Stage := by
  refine follow_quiet (s := { s with turn := _ }) hphase ⟨h.items, h.contiguous, h.closes, h.exits⟩ []
    (List.append_nil _).symm (fun _ hnone => absurd hnone List.not_mem_nil) h.renewals fun hsends hbroken => ⟨rfl, ?_⟩
  obtain ⟨turn, hwaits, hwhere⟩ := h.live ⟨hsends, hbroken⟩
  obtain ⟨hfollowed, hpending⟩ := hwaits.speak hfollows hframe hrest
  exact ⟨turn, hfollowed, hpending, hwhere⟩

theorem Flowing.arrive (hphase : s.phase = .streaming) (h : s.Flowing hello closing) (hsound : Sound s.link)
    (hlive : s.Live) (n : Nat) : (s.follow (s.link.arrive n)).Stage := by
  obtain ⟨turn, hwaits, hwhere⟩ := h.live hlive
  obtain ⟨rest, hparts, hrest, c, hclient, -, hemits, hpending⟩ := hsound.arrive n hwaits.pending
  obtain ⟨errors, hresumes⟩ := resumes_runMicrotasks c
  have hemitted : (s.link.arrive n).client.emitted = s.link.client.emitted ++
      (((s.link.completes n).map Sent.frame).flatMap emissionsOf ++ errors.map .error) := by
    rw [hclient, hresumes.emitted, hemits.emitted, List.append_assoc, List.flatMap_map]
  have hleft : (s.link.arrive n).client.pending = rest.filterMap Sent.cause ++ s.link.unanswered := by
    rw [hclient, (alike_runMicrotasks c).pending, hpending]
  have hrenewals : ∀ r ∈ (s.link.arrive n).client.pending, r.kind = .renewal := by
    intro r hr
    rw [hleft] at hr
    apply h.renewals
    rw [hwaits.pending, ← hparts, List.filterMap_append, List.append_assoc]
    exact List.mem_append_right _ hr
  have hstops : (s.link.arrive n).client.sends = true → errors = [] := by
    intro hsends
    by_contra hsome
    rw [hclient, hresumes.fails hsome] at hsends
    cases hsends
  have herrors : ∀ value, Emission.output value ∉ errors.map Emission.error := by simp
  have hfollows := hwaits.follows
  rw [← hparts, List.map_append] at hfollows
  obtain ⟨between, hnow, hlater⟩ := followAll_append hfollows
  have hnext : HostTurn.followAll between ((s.link.arrive n).inFlight.map Sent.frame) = some s.turn := by
    rw [hrest]
    exact hlater
  have hwaiting : (s.link.arrive n).client.pending =
      (s.link.arrive n).inFlight.filterMap Sent.cause ++ (s.link.arrive n).unanswered := by
    rw [hrest]
    exact hleft
  rcases hwhere with ⟨rfl, rfl⟩ | rfl
  · obtain ⟨values, exits, hchunk, hcontiguous, hone, hturn⟩ := followAll_producing hnow
    rw [hchunk, List.append_assoc] at hemitted
    have hothers : ∀ value, Emission.output value ∉ exits.map Emission.exit ++ errors.map Emission.error := by simp
    refine follow_streaming hphase (show Sequence s hello [] from h.toSequence) values hemitted hothers hcontiguous (fun _ => rfl) ?_ hrenewals
      fun hsends _ => ⟨between, hnext, hwaiting, hturn.imp_left fun ⟨hbetween, hexits⟩ => ⟨?_, rfl, ?_⟩⟩
    · have hquiet : ((errors.map Emission.error).filterMap StreamItem.ofEmission).filter StreamItem.isExit = [] := by
        induction errors with
        | nil => rfl
        | cons error errors ih => simp [StreamItem.ofEmission, StreamItem.isExit]
      rw [List.nil_append, List.filterMap_append, List.filter_append, hquiet, List.append_nil]
      refine (List.length_filter_le _ _).trans ((List.length_filterMap_le _ _).trans ?_)
      rw [List.length_map]
      exact hone
    · rw [hemitted, outputsOf_append, outputsOf_append, outputsOf_outputs, outputsOf_eq_nil hothers, List.append_nil,
        reach_append]
      exact hbetween
    · rw [hexits, hstops hsends]
      rfl
  · obtain ⟨rfl, hquiet⟩ := followAll_exited hnow
    rw [hquiet, List.nil_append] at hemitted
    refine follow_quiet hphase h.toSequence _ hemitted (fun emission hemission => .inr ?_) hrenewals
      fun hsends _ => ⟨?_, .exited, hnext, hwaiting, .inr rfl⟩
    · obtain ⟨reason, -, rfl⟩ := List.mem_map.mp hemission
      exact ⟨reason, rfl⟩
    · rw [hstops hsends]
      rfl

/-- The client's promises are settled by something other than a frame. -/
theorem Flowing.resumed (hphase : s.phase = .streaming) (h : s.Flowing hello closing) {c : RuntimeHostClient}
    (hemitted : c.emitted = s.link.client.emitted) (hrenewals : ∀ r ∈ c.pending, r.kind = .renewal)
    {unanswered : List HostRequest}
    (hlive : c.runMicrotasks.sends = true → s.broken = false →
      s.Live ∧ ∀ turn, s.Waits turn → c.pending = s.link.inFlight.filterMap Sent.cause ++ unanswered) :
    (s.follow { s.link with client := c.runMicrotasks, unanswered := unanswered }).Stage := by
  obtain ⟨errors, hresumes⟩ := resumes_runMicrotasks c
  refine follow_quiet hphase h.toSequence (errors.map .error) ?_ (fun emission hemission => .inr ?_) ?_
    fun hsends hbroken => ⟨?_, ?_⟩
  · change c.runMicrotasks.emitted = _
    rw [hresumes.emitted, hemitted]
  · obtain ⟨reason, -, rfl⟩ := List.mem_map.mp hemission
    exact ⟨reason, rfl⟩
  · change ∀ r ∈ c.runMicrotasks.pending, _
    rw [(alike_runMicrotasks c).pending]
    exact hrenewals
  · by_contra hsome
    have hstopped := hresumes.fails fun hnone => hsome (by rw [hnone]; rfl)
    exact absurd (hsends.symm.trans hstopped) (by decide)
  · obtain ⟨hstill, hpending⟩ := hlive hsends hbroken
    obtain ⟨turn, hwaits, hwhere⟩ := h.live hstill
    refine ⟨turn, hwaits.follows, ?_, hwhere⟩
    change c.runMicrotasks.pending = _
    rw [(alike_runMicrotasks c).pending]
    exact hpending turn hwaits

/-- The link does nothing. -/
theorem Flowing.idle (hphase : s.phase = .streaming) (h : s.Flowing hello closing) : (s.follow s.link).Stage :=
  follow_quiet hphase h.toSequence [] (List.append_nil _).symm (fun _ hnone => absurd hnone List.not_mem_nil) h.renewals
    fun hsends hbroken => ⟨rfl, (h.live ⟨hsends, hbroken⟩).imp fun _ hturn => ⟨hturn.1.follows, hturn.1.pending, hturn.2⟩⟩

/-- Nothing can arrive any more. -/
theorem Flowing.stopped (hphase : s.phase = .streaming) (h : s.Flowing hello closing) (others : List Emission)
    (hemitted : link.client.emitted = s.link.client.emitted ++ others)
    (hothers : ∀ emission ∈ others, emission = .close ∨ ∃ reason, emission = .error reason)
    (hpending : link.client.pending = s.link.client.pending)
    (hdead : link.client.sends = true → s.broken = false → False) : (s.follow link).Stage :=
  follow_quiet hphase h.toSequence others hemitted hothers (hpending ▸ h.renewals) fun hsends hbroken =>
    (hdead hsends hbroken).elim

theorem Flowing.renew (hphase : s.phase = .streaming) (h : s.Flowing hello closing) :
    (s.follow (s.link.step .renew)).Stage := by
  rw [HostLink.step]
  split_ifs with htimer
  · have hsends : ({ s.link.client with renewalTimer := false } : RuntimeHostClient).sends = s.link.client.sends := rfl
    unfold HostLink.ask
    refine h.resumed (s := s) (c := { s.link.client with renewalTimer := false }.request .renewal) hphase ?_ ?_ ?_
    · unfold RuntimeHostClient.request
      split_ifs <;> rfl
    · unfold RuntimeHostClient.request
      split_ifs
      · refine List.forall_mem_append.mpr ⟨h.renewals, fun r hr => ?_⟩
        rw [List.mem_singleton.mp hr]
        rfl
      · exact h.renewals
    · intro hafter hbroken
      obtain ⟨errors, hresumes⟩ := resumes_runMicrotasks ({ s.link.client with renewalTimer := false }.request .renewal)
      by_cases halive : s.link.client.sends = true
      · refine ⟨⟨halive, hbroken⟩, fun turn hwaits => ?_⟩
        rw [RuntimeHostClient.request, hsends, if_pos halive, if_pos halive, ← List.append_assoc, ← hwaits.pending]
      · rw [Bool.not_eq_true] at halive
        refine absurd (hafter.symm.trans (hresumes.stays ?_)) (by decide)
        unfold RuntimeHostClient.request
        rw [hsends, halive]
        exact halive
  · exact h.idle hphase

theorem Flowing.timeOut (hphase : s.phase = .streaming) (h : s.Flowing hello closing) (requestId : Nat) :
    (s.follow (s.link.step (.timeOut requestId))).Stage := by
  refine h.resumed (c := s.link.client.timeOut requestId) hphase ?_ ?_ fun hafter hbroken => ?_
  · unfold RuntimeHostClient.timeOut
    split <;> rfl
  · intro r hr
    apply h.renewals
    unfold RuntimeHostClient.timeOut at hr
    split at hr
    · exact hr
    · exact List.mem_of_mem_filter hr
  · obtain ⟨errors, hresumes⟩ := resumes_runMicrotasks (s.link.client.timeOut requestId)
    cases hfind : s.link.client.pending.find? fun r => r.requestId = requestId with
    | none =>
      have hsame : s.link.client.timeOut requestId = s.link.client := by rw [RuntimeHostClient.timeOut, hfind]
      have halive : s.link.client.sends = true := by
        by_contra hdead
        rw [Bool.not_eq_true] at hdead
        rw [hsame] at hafter hresumes
        exact absurd (hafter.symm.trans (hresumes.stays hdead)) (by decide)
      refine ⟨⟨halive, hbroken⟩, fun turn hwaits => ?_⟩
      rw [hsame]
      exact hwaits.pending
    | some r =>
      refine absurd (hafter.symm.trans (runMicrotasks_rejected (r := r)
        (.error "runtime host request timed out") (h.renewals r (List.mem_of_find?_eq_some hfind)) ?_)) (by decide)
      rw [RuntimeHostClient.timeOut, hfind]
      exact List.mem_append_right _ (List.mem_singleton_self _)

end AttachStream

end Kept

end Wardroom.Runtime.Native
